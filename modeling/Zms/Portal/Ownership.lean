import Zms.Portal.LifeCycle

/-! Whose topics and consumers a request can change: the applicant of a row or an administrator may
update it, `@Operation` reserves some requests to administrators, and the others ask for nothing.
-/

set_option autoImplicit false

namespace Zms.Portal.Resources

open Zms.Registry Zms.Transition Zms.Transition.Throwing

/-- The requests that are reserved to administrators. -/
def Request.reserved : Request → Bool
  | .approveConsumer _ => true
  | .copyConsumers _ _ => true
  | .approveTopic _ _ => true
  | .syncTopic _ _ => true
  | _ => false

def AskedBy (user : LdapUser) (request : Request) : Prop :=
  (request.reserved = true → user.isAdmin = true) ∧
    match request with
    | .updateConsumer _ ldapUser => ldapUser = user
    | .updateTopic _ _ ldapUser => ldapUser = user
    | _ => True

/-- The portal with the users who make the requests. -/
def asked (fold : Char → Char) (lower : String → String) : Guarded State (LdapUser × Action) where
  init _ := True
  guard _ a := AskedBy a.1 a.2.request
  effect s a := (portal fold lower).effect s a.2

def ByOthers (owner : String) (_ : State) (a : LdapUser × Action) : Prop :=
  a.1.isAdmin = false ∧ a.1.realName ≠ owner

section Rows
variable {Row : Type} {applicant : Row → String} {delete : Row → Row} {owner : String}
  {before mid after : Int → Option Row}

/-- The rows of the owner stay, or are deleted and stay otherwise. -/
def Spared (applicant : Row → String) (delete : Row → Row) (owner : String) (before after : Int → Option Row) : Prop :=
  ∀ id row, before id = some row → applicant row = owner → after id = some row ∨ after id = some (delete row)

theorem Spared.trans (keeps : ∀ row, applicant (delete row) = applicant row)
    (again : ∀ row, delete (delete row) = delete row) (first : Spared applicant delete owner before mid)
    (second : Spared applicant delete owner mid after) : Spared applicant delete owner before after := by
  intro id row held own
  rcases first id row held own with same | deleted
  · exact second id row same own
  · rcases second id (delete row) deleted ((keeps row).trans own) with same | twice
    · exact .inr same
    · exact .inr (twice.trans (congrArg some (again row)))

theorem spared_of_kept (kept : ∀ id row, before id = some row → after id = some row) :
    Spared applicant delete owner before after := fun id row held _ => .inl (kept id row held)

theorem spared_of_change {key : Row → Int} (keyed : ∀ id row, before id = some row → key row = id) {sought : Int}
    {change : Row → Row} (changed : ∀ id, after id = (before id).map fun row => if key row = sought then change row else row)
    (allowed : ∀ row, before sought = some row → applicant row = owner → change row = delete row) :
    Spared applicant delete owner before after := by
  intro id row held own
  have is := changed id
  rw [held, Option.map_some] at is
  by_cases hit : key row = sought
  · rw [if_pos hit] at is
    have same : id = sought := (keyed id row held).symm.trans hit
    rw [allowed row (same ▸ held) own] at is
    exact .inr is
  · rw [if_neg hit] at is
    exact .inl is

end Rows

def deleteTopicRow (row : Topic) : Topic := { row with status := SOFT_DELETED }

def deleteConsumerRow (row : Consumer) : Consumer := { row with status := SOFT_DELETED }

structure Spares (owner : String) (db db' : Database) : Prop where
  topics : Spared Topic.applicant deleteTopicRow owner db.topics.get db'.topics.get
  consumers : Spared Consumer.applicant deleteConsumerRow owner db.consumers.get db'.consumers.get

instance (owner : String) : IsPreorder Database (Spares owner) where
  refl _ := ⟨spared_of_kept fun _ _ held => held, spared_of_kept fun _ _ held => held⟩
  trans _ _ _ first second :=
    ⟨first.topics.trans (fun _ => rfl) (fun _ => rfl) second.topics,
      first.consumers.trans (fun _ => rfl) (fun _ => rfl) second.consumers⟩

abbrev SameRows : Database → Database → Prop := Leaves fun db => (db.topics, db.consumers)

/-! ### What changes references and nodes only -/

section References
variable {D : Database → Database → Prop} [IsPreorder Database D] (fold : Char → Char)

theorem onDb_registerConsumerToZk (env : EnvId) (clusterType : Option String)
    (dto : Option ConsumerMapperService.ConsumerDTO) :
    Respects (OnDb D) (registerConsumerToZk fold env clusterType dto) := by
  unfold registerConsumerToZk
  split
  · exact respects_pure ()
  · exact (respects_ofOption _).bind fun _ => onDb_writeInfo _ _ _ _

theorem onDb_selectByPrimaryKey (id : Int) : Respects (OnDb D) (selectByPrimaryKey id) :=
  (onDb_query _).bind fun _ => respects_ofOption _

theorem onDb_getConsumer (id : Option Int) : Respects (OnDb D) (getConsumer id) :=
  (onDb_query _).bind fun _ => respects_ofOption _

theorem onDb_checkBroadcast (dto : ConsumerDTO) (ref : JoinedRef) :
    Respects (OnDb D) (checkBroadcast fold dto ref) := Respects.when fun _ => respects_ensure _

theorem onDb_deleteConsumerIn (name : String) (env : EnvId) : Respects (OnDb D) (deleteConsumerIn name env) :=
  (onDb_checkPath _ _ _).bind fun _ =>
    (Respects.when fun _ => (onDb_readInfo _ _ _).bind fun _ => (respects_ofOption _).bind fun _ =>
      (respects_ofOption _).bind fun _ => Respects.when fun _ => onDb_request).bind fun _ => onDb_deleteInfo _ _ _

theorem onDb_deleteTopicIn (topicName : String) (service : ZmsService) :
    Respects (OnDb D) (deleteTopicIn topicName service) :=
  (onDb_checkPath _ _ _).bind fun _ => Respects.when fun _ => (onDb_deleteInfo _ _ _).bind fun _ => onDb_request

/-- Any references may be there. -/
def Ignores (D : Database → Database → Prop) : Prop := ∀ (db : Database) type refs, D db (db.setRefs type refs)

variable (ignores : Ignores D)
include ignores

theorem onDb_setRefs {statement : Database → Database}
    (sets : ∀ db, ∃ type refs, statement db = db.setRefs type refs) :
    Respects (OnDb D) (execute fun db => some (statement db)) := by
  apply onDb_execute
  intro db db' done
  obtain ⟨type, refs, same⟩ := sets db
  obtain rfl := Option.some.inj done
  rw [same]
  exact ignores db type refs

theorem onDb_insertRefs (type : ZmsType) (rows : List EnvironmentRef) :
    Respects (OnDb D) (execute fun db => db.insertRefs type rows) := by
  apply onDb_execute
  intro db db' done
  obtain ⟨refs, -, rfl⟩ := Option.map_eq_some_iff.mp done
  exact ignores db type refs

theorem onDb_deleteRefs (type : ZmsType) (resourceId : Int) :
    Respects (OnDb D) (execute fun db => some (db.deleteRefs type resourceId)) :=
  onDb_setRefs ignores fun _ => ⟨_, _, rfl⟩

theorem onDb_backupConsumerMetadata (dto : BackupConsumerMetadataDTO) :
    Respects (OnDb D) (backupConsumerMetadata fold dto) :=
  onDb_transactional <|
    (onDb_query _).bind fun _ => (respects_ofOption _).bind fun _ => (onDb_query _).bind fun _ =>
    Respects.when fun _ => (onDb_query _).bind fun _ => (respects_ofOption _).bind fun _ =>
      (onDb_insertRefs ignores _ _).bind fun _ => (onDb_registerConsumerToZk fold _ _ _).bind fun _ => onDb_request

theorem onDb_syncNext (topic : Topic) (clusters : List ZmsService) (info : EnvironmentInfoVo) :
    Respects (OnDb D) (syncNext topic clusters info) :=
  (respects_ofOption _).bind fun _ => onDb_request.bind fun _ => (onDb_writeInfo _ _ _ _).bind fun _ =>
    onDb_setRefs ignores fun _ => ⟨_, _, rfl⟩

theorem onDb_backupTopicMetadata (dto : BackupTopicMetadataDTO) :
    Respects (OnDb D) (backupTopicMetadata dto) :=
  (onDb_query _).bind fun _ => (respects_ofOption _).bind fun _ => (onDb_query _).bind fun _ =>
    (respects_ofOption _).bind fun _ => (onDb_query _).bind fun _ => Respects.when fun _ =>
    (onDb_selectByPrimaryKey _).bind fun _ => (onDb_query _).bind fun _ => (respects_ensure _).bind fun _ =>
    (onDb_query _).bind fun _ => (respects_ofOption _).bind fun _ =>
    (Respects.forEach fun _ _ => onDb_insertRefs ignores _ _).bind fun _ =>
      Respects.forEach fun _ _ => onDb_syncNext ignores _ _ _

theorem onDb_updateEnvironments (topic : Topic) (dto : TopicDTO) :
    Respects (OnDb D) (updateEnvironments topic dto) := by
  unfold updateEnvironments
  split
  · exact (onDb_deleteRefs ignores _ _).bind fun _ => (respects_ofOption _).bind fun _ =>
      Respects.forEach fun _ _ => onDb_insertRefs ignores _ _
  · exact respects_ensure _

end References

/-! ### The rows of an owner -/

section Calls
variable (fold : Char → Char) (lower : String → String) {owner : String} {s : State}

theorem ignores_sameRows : Ignores SameRows := fun _ _ _ => rfl

theorem ignores_spares : Ignores (Spares owner) := fun _ _ _ =>
  ⟨spared_of_kept fun _ _ held => held, spared_of_kept fun _ _ held => held⟩

theorem topic_id {db : Database} (id : Int) (row : Topic) (held : db.topics.get id = some row) : row.id = id :=
  (Table.get_eq_some_iff.mp held).2

theorem consumer_id {db : Database} (id : Int) (row : Consumer) (held : db.consumers.get id = some row) :
    row.id = id := (Table.get_eq_some_iff.mp held).2

/-- A changed topic is not the owner's, or it is deleted. -/
theorem spares_changeTopic {db db' : Database} {id : Int} {change : Topic → Topic}
    {keeps : ∀ topic, (change topic).id = topic.id} (done : db.changeTopic id change keeps = some db')
    (allowed : ∀ row, db.topics.get id = some row → row.applicant = owner → change row = deleteTopicRow row) :
    Spares owner db db' := by
  obtain ⟨topics, changed, rfl⟩ := Option.map_eq_some_iff.mp done
  exact ⟨spared_of_change (fun id row => topic_id id row) (NamedTable.get_of_change changed) allowed,
    spared_of_kept fun _ _ held => held⟩

theorem spares_changeConsumer {db db' : Database} {id : Int} {change : Consumer → Consumer}
    {keeps : ∀ consumer, (change consumer).id = consumer.id} (done : db.changeConsumer id change keeps = some db')
    (allowed : ∀ row, db.consumers.get id = some row → row.applicant = owner → change row = deleteConsumerRow row) :
    Spares owner db db' := by
  obtain ⟨consumers, changed, rfl⟩ := Option.map_eq_some_iff.mp done
  exact ⟨spared_of_kept fun _ _ held => held,
    spared_of_change (fun id row => consumer_id id row) (NamedTable.get_of_change changed) allowed⟩

theorem spares_addTopic (dto : TopicDTO) : Respects (OnDb (Spares owner)) (TopicController.addTopic lower dto) := by
  have inserts : ∀ topic, Respects (OnDb (Spares owner)) (execute fun db => db.insertTopic topic) := by
    intro topic
    apply onDb_execute
    intro db db' done
    obtain ⟨topics, inserted, rfl⟩ := Option.map_eq_some_iff.mp done
    refine ⟨spared_of_kept fun id row held => ?_, spared_of_kept fun _ _ held => held⟩
    rw [NamedTable.get_of_insert inserted, held, Option.some_or]
  exact (respects_ensure _).bind fun _ => onDb_transactional <|
    (onDb_query _).bind fun _ => (respects_ensure _).bind fun _ => (onDb_query _).bind fun _ =>
    (respects_ofOption _).bind fun _ => (inserts _).bind fun _ => (respects_ofOption _).bind fun _ =>
    Respects.forEach fun _ _ => onDb_insertRefs ignores_spares _ _

theorem spares_addConsumer (dto : ConsumerDTO) :
    Respects (OnDb (Spares owner)) (ConsumerController.addConsumer fold dto) := by
  have inserts : ∀ consumer, Respects (OnDb (Spares owner)) (execute fun db => db.insertConsumer consumer) := by
    intro consumer
    apply onDb_execute
    intro db db' done
    obtain ⟨consumers, inserted, rfl⟩ := Option.map_eq_some_iff.mp done
    refine ⟨spared_of_kept fun _ _ held => held, spared_of_kept fun id row held => ?_⟩
    rw [NamedTable.get_of_insert inserted, held, Option.some_or]
  exact (respects_ensure _).bind fun _ => onDb_transactional <|
    (onDb_query _).bind fun _ => (onDb_query _).bind fun _ => (respects_ofOption _).bind fun _ =>
    (inserts _).bind fun _ => Respects.forEach fun _ _ =>
      (onDb_checkBroadcast fold _ _).bind fun _ => onDb_insertRefs ignores_spares _ _

theorem spares_deleteTopic (id : Int) : Respects (OnDb (Spares owner)) (deleteTopic id) :=
  (onDb_selectByPrimaryKey _).bind fun _ => (onDb_query _).bind fun _ => (onDb_query _).bind fun _ =>
    (Respects.forEach fun _ _ => onDb_deleteTopicIn _ _).bind fun _ => onDb_request.bind fun _ =>
    onDb_execute fun _ _ done => spares_changeTopic done fun _ _ _ => rfl

theorem spares_deleteConsumer (id : Option Int) : Respects (OnDb (Spares owner)) (deleteConsumer id) := by
  have deletes : ∀ id : Int, Respects (OnDb (Spares owner)) (execute fun db =>
      db.changeConsumer id (fun row => { row with status := SOFT_DELETED }) fun _ => rfl) :=
    fun _ => onDb_execute fun _ _ done => spares_changeConsumer done fun _ _ _ => rfl
  exact (onDb_getConsumer _).bind fun _ => (onDb_query _).bind fun _ =>
    (Respects.forEach fun _ _ => onDb_deleteConsumerIn _ _).bind fun _ => onDb_request.bind fun _ =>
    (deletes _).bind fun _ => onDb_deleteRefs ignores_spares _ _

theorem sameRows_of_sameDb {t : State} (same : SameDb s t) : OnDb SameRows s t := by
  have unchanged : t.db = s.db := same
  exact congrArg (fun db : Database => (db.topics, db.consumers)) unchanged

theorem spares_of_sameRows {t : State} (same : OnDb SameRows s t) : OnDb (Spares owner) s t := by
  have topics : t.db.topics = s.db.topics := congrArg Prod.fst same
  have consumers : t.db.consumers = s.db.consumers := congrArg Prod.snd same
  exact ⟨spared_of_kept fun _ _ held => topics ▸ held, spared_of_kept fun _ _ held => consumers ▸ held⟩

/-- The last statement of a call that has left the rows as they are. -/
theorem endsFrom_execute {statement : Database → Option Database}
    (spares : ∀ db db', db.topics = s.db.topics → db.consumers = s.db.consumers → statement db = some db' →
      Spares owner db db') : EndsFrom (OnDb SameRows) s (execute statement) (OnDb (Spares owner) s) := by
  constructor
  intro t led
  have before : OnDb (Spares owner) s t := spares_of_sameRows led
  apply (ends_execute statement t).imp
  intro _ u done
  obtain same | changed := done
  · unfold OnDb
    rwa [same]
  · exact trans_of (Spares owner) before
      (spares t.db u.db (congrArg Prod.fst led) (congrArg Prod.snd led) changed)

theorem not_owner {ldapUser : LdapUser} {applicant : String} (plain : ldapUser.isAdmin = false)
    (other : ldapUser.realName ≠ owner) (permitted : Permitted ldapUser applicant) : applicant ≠ owner := by
  rcases permitted with admin | own
  · rw [plain] at admin
    cases admin
  · rwa [own]

theorem spares_updateTopic (id : Int) (dto : TopicDTO) (ldapUser : LdapUser) (plain : ldapUser.isAdmin = false)
    (other : ldapUser.realName ≠ owner) :
    EndsFrom SameDb s (updateTopic id dto ldapUser) (OnDb (Spares owner) s) := by
  have enough : ∀ t, SameDb s t → OnDb (Spares owner) s t := fun t same => spares_of_sameRows (sameRows_of_sameDb same)
  apply endsFrom_selectByPrimaryKey_bind enough
  intro row found
  apply endsFrom_ensure_bind enough
  intro permitted
  have own := not_owner plain other permitted
  apply EndsFrom.weaken _ fun t => sameRows_of_sameDb
  apply EndsFrom.bind (fun _ => spares_of_sameRows) (onDb_query _)
  intro topicList
  apply endsFrom_ensure_bind fun _ => spares_of_sameRows
  intro _
  apply EndsFrom.bind (fun _ => spares_of_sameRows) (onDb_updateEnvironments ignores_sameRows _ _)
  intro _
  apply endsFrom_execute
  intro db db' topics _ done
  apply spares_changeTopic done
  intro held there applicant
  rw [topics, found] at there
  cases there
  exact absurd applicant own

theorem spares_updateConsumer (dto : ConsumerDTO) (ldapUser : LdapUser) (plain : ldapUser.isAdmin = false)
    (other : ldapUser.realName ≠ owner) :
    EndsFrom SameDb s (ConsumerController.updateConsumer fold dto ldapUser) (OnDb (Spares owner) s) := by
  have enough : ∀ t, SameDb s t → OnDb (Spares owner) s t := fun t same => spares_of_sameRows (sameRows_of_sameDb same)
  apply endsFrom_ensure_bind enough
  intro _
  apply endsFrom_transactional enough
  apply endsFrom_getConsumer_bind enough
  intro row found
  apply endsFrom_ensure_bind enough
  intro permitted
  have own := not_owner plain other permitted
  apply EndsFrom.weaken _ fun t => sameRows_of_sameDb
  apply EndsFrom.bind (fun _ => spares_of_sameRows) (onDb_query _)
  intro refs
  apply EndsFrom.bind (fun _ => spares_of_sameRows) (Respects.when fun _ => onDb_deleteRefs ignores_sameRows _ _)
  intro _
  apply endsFrom_ofOption_bind fun _ => spares_of_sameRows
  intro change _
  apply EndsFrom.bind (fun _ => spares_of_sameRows) (Respects.forEach fun _ _ => onDb_checkBroadcast fold _ _)
  intro _
  apply EndsFrom.bind (fun _ => spares_of_sameRows) (Respects.when fun _ => onDb_insertRefs ignores_sameRows _ _)
  intro _
  apply endsFrom_execute
  intro db db' _ consumers done
  apply spares_changeConsumer done
  intro held there applicant
  obtain ⟨id, -, found⟩ := Option.bind_eq_some_iff.mp found
  rw [consumers, consumer_id id row found, found] at there
  cases there
  exact absurd applicant own

theorem spares_leaves {user : LdapUser} {request : Request} (askedBy : AskedBy user request)
    (plain : user.isAdmin = false) (other : user.realName ≠ owner) :
    OnDb (Spares owner) s (request.leaves fold lower s) := by
  obtain ⟨reserved, current⟩ := askedBy
  have refused : request.reserved = false := by
    by_contra isReserved
    rw [reserved (Bool.eq_true_of_not_eq_false isReserved)] at plain
    cases plain
  cases request with
  | addConsumer dto => exact (spares_addConsumer fold dto).related s
  | updateConsumer dto ldapUser =>
    obtain rfl : ldapUser = user := current
    exact ((spares_updateConsumer fold dto ldapUser plain other).ends s rfl).holds
  | approveConsumer dto => cases refused
  | deleteConsumer id => exact (spares_deleteConsumer (some id)).related s
  | copyConsumers envIds consumerIds => cases refused
  | backupConsumerMetadata dto => exact (onDb_backupConsumerMetadata fold ignores_spares dto).related s
  | addTopic dto => exact (spares_addTopic lower dto).related s
  | updateTopic id dto ldapUser =>
    obtain rfl : ldapUser = user := current
    exact ((spares_updateTopic id dto ldapUser plain other).ends s rfl).holds
  | approveTopic id dto => cases refused
  | deleteTopic id => exact (spares_deleteTopic id).related s
  | syncTopic topicId environments => cases refused
  | backupTopicMetadata dto => exact (onDb_backupTopicMetadata ignores_spares dto).related s

/-- In runs of requests that neither the owner nor an administrator makes, whatever fails in them, the
topics and consumers of the owner stay as they are, but for deletions. -/
theorem spared_of_steps {t : State} (steps : ((asked fold lower).restrict (ByOthers owner)).Steps s t) :
    Spares owner s.db t.db := by
  refine steps.invariant (fun u => Spares owner s.db u.db) ?_ (refl_of (Spares owner) s.db)
  rintro u ⟨user, action⟩ spared ⟨askedBy, plain, other⟩
  exact trans_of (Spares owner) spared
    (spares_leaves (s := { u with answers := action.answers }) fold lower askedBy plain other)

end Calls

/-- A guest, who may not save the topic of the owner, deletes a group of the owner. -/
def guestSaves : LdapUser × Action :=
  (⟨false, "guest"⟩, ⟨.updateTopic 1 ⟨some "orders", some "guest", none, none, none, none, none, none⟩ ⟨false, "guest"⟩,
    fun _ => true⟩)

def guestDeletes : LdapUser × Action := (⟨false, "guest"⟩, ⟨.deleteConsumer 1, fun _ => true⟩)

theorem spared_of_guest : ∃ t, ((asked Char.toLower String.toLower).restrict (ByOthers "owner")).Steps
      (groupOf CREATE_APPROVED) t ∧
    (t.db.topics.get 1).map Topic.applicant = some "owner" ∧
    t.db.status .CONSUMER_GRUOP 1 = some SOFT_DELETED ∧ Spares "owner" (groupOf CREATE_APPROVED).db t.db := by
  have saves : ((asked Char.toLower String.toLower).restrict (ByOthers "owner")).guard (groupOf CREATE_APPROVED)
      guestSaves := ⟨⟨by rintro ⟨⟩, rfl⟩, rfl, by decide⟩
  have deletes : ∀ s, ((asked Char.toLower String.toLower).restrict (ByOthers "owner")).guard s guestDeletes :=
    fun _ => ⟨⟨by rintro ⟨⟩, trivial⟩, rfl, by decide⟩
  have steps := (Guarded.Steps.one saves).trans (.one (deletes _))
  exact ⟨_, steps, by decide, by decide, spared_of_steps Char.toLower String.toLower steps⟩

end Zms.Portal.Resources
