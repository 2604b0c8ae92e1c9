import Mathlib
import Zms.Portal.ResourceConsumers
import Zms.Portal.ResourceFrames
import Zms.Portal.ResourceTopics
import Zms.Transition.Guarded

/-! The statuses of topics and consumers over the calls of the portal, one after the
other, each with its own body and with requests that may fail.
-/

set_option autoImplicit false

namespace Zms.Portal.Resources

open Zms.Registry Zms.Transition Zms.Transition.Throwing

/-- The calls that add, update, approve, delete and copy. -/
inductive Request where
  | addConsumer (dto : ConsumerDTO)
  | updateConsumer (dto : ConsumerDTO) (ldapUser : LdapUser)
  | approveConsumer (dto : ConsumerDTO)
  | deleteConsumer (id : Int)
  | copyConsumers (envIds : List EnvId) (consumerIds : Option (List Int))
  | backupConsumerMetadata (dto : BackupConsumerMetadataDTO)
  | addTopic (dto : TopicDTO)
  | updateTopic (id : Int) (dto : TopicDTO) (ldapUser : LdapUser)
  | approveTopic (id : Int) (dto : TopicDTO)
  | deleteTopic (id : Int)
  | syncTopic (topicId : Int) (environments : List EnvironmentInfoVo)
  | backupTopicMetadata (dto : BackupTopicMetadataDTO)
  deriving DecidableEq, Repr

/-- The state that a request leaves, whether or not it throws. -/
def Request.leaves (fold : Char → Char) (lower : String → String) (s : State) : Request → State
  | .addConsumer dto => (ConsumerController.addConsumer fold dto s).2
  | .updateConsumer dto ldapUser => (ConsumerController.updateConsumer fold dto ldapUser s).2
  | .approveConsumer dto => (ConsumerController.approveConsumer fold dto s).2
  | .deleteConsumer id => (Resources.deleteConsumer (some id) s).2
  | .copyConsumers envIds consumerIds => (ConsumerController.copyConsumers fold envIds consumerIds s).2
  | .backupConsumerMetadata dto => (Resources.backupConsumerMetadata fold dto s).2
  | .addTopic dto => (TopicController.addTopic lower dto s).2
  | .updateTopic id dto ldapUser => (Resources.updateTopic id dto ldapUser s).2
  | .approveTopic id dto => (TopicController.approveTopic id dto s).2
  | .deleteTopic id => (Resources.deleteTopic id s).2
  | .syncTopic topicId environments => (TopicController.syncTopic topicId environments s).2
  | .backupTopicMetadata dto => (Resources.backupTopicMetadata dto s).2

def Request.isApproval : Request → Bool
  | .approveConsumer _ => true
  | .approveTopic _ _ => true
  | _ => false

/-- A request, with the answers to what it asks of the database, of ZooKeeper and of
the brokers. -/
structure Action where
  request : Request
  answers : Nat → Bool

def portal (fold : Char → Char) (lower : String → String) : Guarded State Action where
  init _ := True
  guard _ _ := True
  effect s action := action.request.leaves fold lower { s with answers := action.answers }

/-- The status of a topic or consumer. -/
def Database.status (db : Database) (type : ZmsType) (id : Int) : Option Int :=
  match type with
  | .TOPIC => (db.topics.get id).map fun topic => topic.status
  | .CONSUMER_GRUOP => (db.consumers.get id).map fun consumer => consumer.status

def Approved (status : Int) : Prop := status = CREATE_APPROVED ∨ status = UPDATE_APPROVED

instance (status : Int) : Decidable (Approved status) := inferInstanceAs (Decidable (_ ∨ _))

/-- What a request may do to the status of a row. -/
structure Lawful (isApproval : Bool) (before after : Option Int) : Prop where
  deleted : before = some SOFT_DELETED → after = some SOFT_DELETED
  unapproved : isApproval = false → before = some CREATE_NEW → ∀ status, after = some status → ¬Approved status

theorem lawful_of_same {isApproval : Bool} {before after : Option Int} (same : after = before) :
    Lawful isApproval before after := by
  subst same
  refine ⟨id, fun _ unapproved status is approved => ?_⟩
  obtain rfl := Option.some.inj (unapproved.symm.trans is)
  exact absurd approved (by decide)

section Statements
variable {db db' : Database} {type : ZmsType} {other : ZmsType}

theorem status_setRefs (refs : Table EnvironmentRef.key) : (db.setRefs other refs).status type = db.status type := by
  cases type <;> rfl

theorem status_insertRefs {rows : List EnvironmentRef} (done : db.insertRefs other rows = some db') :
    db'.status type = db.status type := by
  obtain ⟨refs, -, rfl⟩ := Option.map_eq_some_iff.mp done
  exact status_setRefs refs

/-- A statement changes the status of one row, if the row is there. -/
def Sets (statement : Database → Option Database) (type : ZmsType) (id : Int) (change : Int → Int) : Prop :=
  ∀ db db', statement db = some db' → ∀ sought, db'.status type sought =
    if sought = id then (db.status type id).map change else db.status type sought

theorem sets_changeConsumer {id : Int} {change : Consumer → Consumer}
    {keeps : ∀ consumer, (change consumer).id = consumer.id} (status : Int → Int)
    (acts : ∀ row, (change row).status = status row.status) :
    Sets (fun db => db.changeConsumer id change keeps) .CONSUMER_GRUOP id status := by
  intro db db' done sought
  obtain ⟨consumers, changed, rfl⟩ := Option.map_eq_some_iff.mp done
  unfold Database.status
  dsimp only
  rw [NamedTable.get_of_change changed]
  cases found : db.consumers.get sought with
  | none => split <;> simp_all
  | some row =>
      have key : row.id = sought := (Table.get_eq_some_iff.mp found).2
      subst key
      by_cases hit : row.id = id
      · subst hit
        simp only [Option.map_some, if_true, found, acts]
      · simp only [Option.map_some, if_neg hit]

theorem sets_changeTopic {id : Int} {change : Topic → Topic} {keeps : ∀ topic, (change topic).id = topic.id}
    (status : Int → Int) (acts : ∀ row, (change row).status = status row.status) :
    Sets (fun db => db.changeTopic id change keeps) .TOPIC id status := by
  intro db db' done sought
  obtain ⟨topics, changed, rfl⟩ := Option.map_eq_some_iff.mp done
  unfold Database.status
  dsimp only
  rw [NamedTable.get_of_change changed]
  cases found : db.topics.get sought with
  | none => split <;> simp_all
  | some row =>
      have key : row.id = sought := (Table.get_eq_some_iff.mp found).2
      subst key
      by_cases hit : row.id = id
      · subst hit
        simp only [Option.map_some, if_true, found, acts]
      · simp only [Option.map_some, if_neg hit]

end Statements

abbrev Steady (type : ZmsType) : State → State → Prop := OnDb (Leaves fun db => db.status type)

section Steady
variable {type : ZmsType} (fold : Char → Char)

theorem steady_insertRefs (other : ZmsType) (rows : List EnvironmentRef) :
    Respects (Steady type) (execute fun db => db.insertRefs other rows) :=
  onDb_execute fun _ _ done => status_insertRefs done

theorem steady_setRefs {statement : Database → Database}
    (sets : ∀ db, ∃ other refs, statement db = db.setRefs other refs) :
    Respects (Steady type) (execute fun db => some (statement db)) := by
  apply onDb_execute
  intro db db' done
  obtain ⟨other, refs, same⟩ := sets db
  obtain rfl := Option.some.inj done
  rw [same]
  exact status_setRefs refs

theorem steady_deleteRefs (other : ZmsType) (resourceId : Int) :
    Respects (Steady type) (execute fun db => some (db.deleteRefs other resourceId)) :=
  steady_setRefs fun _ => ⟨_, _, rfl⟩

theorem steady_updateCluster (topicId : Int) (env : EnvId) (serviceId : Int) :
    Respects (Steady type) (execute fun db => some (db.updateCluster topicId env serviceId)) :=
  steady_setRefs fun _ => ⟨_, _, rfl⟩

theorem steady_registerConsumerToZk (env : EnvId) (clusterType : Option String)
    (dto : Option ConsumerMapperService.ConsumerDTO) :
    Respects (Steady type) (registerConsumerToZk fold env clusterType dto) := by
  unfold registerConsumerToZk
  split
  · exact respects_pure ()
  · exact (respects_ofOption _).bind fun _ => onDb_writeInfo _ _ _ _

theorem steady_getConsumer (id : Option Int) : Respects (Steady type) (getConsumer id) :=
  (onDb_query _).bind fun _ => respects_ofOption _

theorem steady_selectByPrimaryKey (id : Int) : Respects (Steady type) (selectByPrimaryKey id) :=
  (onDb_query _).bind fun _ => respects_ofOption _

theorem steady_checkBroadcast (dto : ConsumerDTO) (ref : JoinedRef) :
    Respects (Steady type) (checkBroadcast fold dto ref) := Respects.when fun _ => respects_ensure _

theorem steady_approveNext (dto : ConsumerDTO) (orig : Consumer) (ref : JoinedRef) :
    Respects (Steady type) (approveNext fold dto orig ref) :=
  (Respects.when fun _ => (steady_registerConsumerToZk fold _ _ _).bind fun _ => onDb_request).bind fun _ =>
    (respects_ofOption _).bind fun _ => (respects_ofOption _).bind fun _ =>
    (Respects.when fun _ => steady_registerConsumerToZk fold _ _ _).bind fun _ => Respects.when fun _ => onDb_request

theorem steady_copyNext (environments : List EnvId) (topicEnvironmentRefs : List JoinedRef)
    (item : EnvId × ConsumerInEnvs) : Respects (Steady type) (copyNext fold environments topicEnvironmentRefs item) := by
  unfold copyNext
  apply (respects_ensure _).bind
  intro _
  apply (respects_ensure _).bind
  intro _
  split
  · exact respects_ensure _
  · exact (Respects.attempt ((steady_registerConsumerToZk fold _ _ _).bind fun _ => onDb_request)).bind
      fun _ => respects_ensure _

theorem steady_copyConsumers (envIds : List EnvId) (consumerIds : Option (List Int)) :
    Respects (Steady type) (ConsumerController.copyConsumers fold envIds consumerIds) :=
  (respects_ensure _).bind fun _ =>
    (onDb_query _).bind fun _ => (onDb_query _).bind fun _ => (respects_ofOption _).bind fun _ =>
    (respects_ensure _).bind fun _ => (onDb_query _).bind fun _ =>
    (Respects.forEach fun _ _ => steady_copyNext fold _ _ _).bind fun _ => steady_insertRefs _ _

theorem steady_backupConsumerMetadata (dto : BackupConsumerMetadataDTO) :
    Respects (Steady type) (backupConsumerMetadata fold dto) :=
  onDb_transactional <|
    (onDb_query _).bind fun _ => (respects_ofOption _).bind fun _ => (onDb_query _).bind fun _ =>
    Respects.when fun _ => (onDb_query _).bind fun _ => (respects_ofOption _).bind fun _ =>
      (steady_insertRefs _ _).bind fun _ => (steady_registerConsumerToZk fold _ _ _).bind fun _ => onDb_request

theorem steady_deleteConsumerIn (name : String) (env : EnvId) : Respects (Steady type) (deleteConsumerIn name env) :=
  (onDb_checkPath _ _ _).bind fun _ =>
    (Respects.when fun _ => (onDb_readInfo _ _ _).bind fun _ => (respects_ofOption _).bind fun _ =>
      (respects_ofOption _).bind fun _ => Respects.when fun _ => onDb_request).bind fun _ => onDb_deleteInfo _ _ _

theorem steady_syncNext (topic : Topic) (clusters : List ZmsService) (info : EnvironmentInfoVo) :
    Respects (Steady type) (syncNext topic clusters info) :=
  (respects_ofOption _).bind fun _ => onDb_request.bind fun _ => (onDb_writeInfo _ _ _ _).bind fun _ =>
    steady_updateCluster _ _ _

theorem steady_syncTopic (topicId : Int) (environments : List EnvironmentInfoVo) :
    Respects (Steady type) (syncTopic topicId environments) :=
  (steady_selectByPrimaryKey _).bind fun _ => (onDb_query _).bind fun _ => (respects_ensure _).bind fun _ =>
    (onDb_query _).bind fun _ => (respects_ofOption _).bind fun _ =>
    (Respects.forEach fun _ _ => steady_insertRefs _ _).bind fun _ => Respects.forEach fun _ _ => steady_syncNext _ _ _

theorem steady_backupTopicMetadata (dto : BackupTopicMetadataDTO) :
    Respects (Steady type) (backupTopicMetadata dto) :=
  (onDb_query _).bind fun _ => (respects_ofOption _).bind fun _ => (onDb_query _).bind fun _ =>
    (respects_ofOption _).bind fun _ => (onDb_query _).bind fun _ => Respects.when fun _ => steady_syncTopic _ _

theorem steady_updateEnvironments (topic : Topic) (dto : TopicDTO) :
    Respects (Steady type) (updateEnvironments topic dto) := by
  unfold updateEnvironments
  split
  · exact (steady_deleteRefs _ _).bind fun _ => (respects_ofOption _).bind fun _ =>
      Respects.forEach fun _ _ => steady_insertRefs _ _
  · exact respects_ensure _

theorem steady_deleteTopicIn (topicName : String) (service : ZmsService) :
    Respects (Steady type) (deleteTopicIn topicName service) :=
  (onDb_checkPath _ _ _).bind fun _ => Respects.when fun _ => (onDb_deleteInfo _ _ _).bind fun _ => onDb_request

theorem steady_initTopicResource (env : EnvId) (partitions : Option Int) (topic : Topic) (localClusterId : Option Int)
    (service : ZmsService) : Respects (Steady type) (initTopicResource env partitions topic localClusterId service) := by
  unfold initTopicResource
  split
  · exact onDb_request.bind fun _ => (onDb_writeInfo _ _ _ _).bind fun _ => respects_pure _
  · apply (respects_ofOption _).bind
    intro current
    split
    · exact onDb_request.bind fun _ => respects_pure _
    · exact respects_pure _

theorem steady_approveEach (topic : Topic) (dto : TopicDTO) (serviceList : List ZmsService)
    (localRefs : List JoinedRef) (infos : List EnvironmentInfoVo) :
    Respects (Steady type) (approveEach topic dto serviceList localRefs infos) := by
  induction infos with
  | nil => exact respects_pure _
  | cons info rest ih =>
      apply (respects_ofOption _).bind
      intro ref
      have approves : Respects (Steady type) (approveIn topic dto.partitions ref.serviceId
          (serviceOf serviceList info.serviceId) info.environmentId) :=
        (respects_ofOption _).bind fun _ => (steady_initTopicResource _ _ _ _ _).bind fun _ =>
          Respects.when fun _ => steady_updateCluster _ _ _
      exact (Respects.attempt approves).bind fun _ => ih.bind fun _ => respects_pure _

end Steady

section Other
variable (fold : Char → Char) (lower : String → String)

theorem steady_insertConsumer (consumer : Consumer) :
    Respects (Steady .TOPIC) (execute fun db => db.insertConsumer consumer) := by
  apply onDb_execute
  intro db db' done
  obtain ⟨_, -, rfl⟩ := Option.map_eq_some_iff.mp done
  rfl

theorem steady_changeConsumer (id : Int) (change : Consumer → Consumer)
    (keeps : ∀ consumer, (change consumer).id = consumer.id) :
    Respects (Steady .TOPIC) (execute fun db => db.changeConsumer id change keeps) := by
  apply onDb_execute
  intro db db' done
  obtain ⟨_, -, rfl⟩ := Option.map_eq_some_iff.mp done
  rfl

theorem steady_insertTopic (topic : Topic) :
    Respects (Steady .CONSUMER_GRUOP) (execute fun db => db.insertTopic topic) := by
  apply onDb_execute
  intro db db' done
  obtain ⟨_, -, rfl⟩ := Option.map_eq_some_iff.mp done
  rfl

theorem steady_changeTopic (id : Int) (change : Topic → Topic) (keeps : ∀ topic, (change topic).id = topic.id) :
    Respects (Steady .CONSUMER_GRUOP) (execute fun db => db.changeTopic id change keeps) := by
  apply onDb_execute
  intro db db' done
  obtain ⟨_, -, rfl⟩ := Option.map_eq_some_iff.mp done
  rfl

theorem steady_addConsumer (dto : ConsumerDTO) : Respects (Steady .TOPIC) (ConsumerController.addConsumer fold dto) :=
  (respects_ensure _).bind fun _ => onDb_transactional <|
    (onDb_query _).bind fun _ => (onDb_query _).bind fun _ => (respects_ofOption _).bind fun _ =>
    (steady_insertConsumer _).bind fun _ =>
    Respects.forEach fun _ _ => (steady_checkBroadcast fold _ _).bind fun _ => steady_insertRefs _ _

theorem steady_updateConsumer (dto : ConsumerDTO) (ldapUser : LdapUser) :
    Respects (Steady .TOPIC) (ConsumerController.updateConsumer fold dto ldapUser) :=
  (respects_ensure _).bind fun _ => onDb_transactional <|
    (steady_getConsumer _).bind fun _ => (respects_ensure _).bind fun _ => (onDb_query _).bind fun _ =>
    (Respects.when fun _ => steady_deleteRefs _ _).bind fun _ => (respects_ofOption _).bind fun _ =>
    (Respects.forEach fun _ _ => steady_checkBroadcast fold _ _).bind fun _ =>
    (Respects.when fun _ => steady_insertRefs _ _).bind fun _ => steady_changeConsumer _ _ _

theorem steady_approveConsumer (dto : ConsumerDTO) :
    Respects (Steady .TOPIC) (ConsumerController.approveConsumer fold dto) :=
  (respects_ensure _).bind fun _ => (onDb_query _).bind fun _ => (respects_ensure _).bind fun _ =>
    (steady_getConsumer _).bind fun _ => (Respects.when fun _ => steady_deleteRefs _ _).bind fun _ =>
    (Respects.forEach fun _ _ => steady_approveNext fold _ _ _).bind fun _ =>
    (Respects.when fun _ => steady_insertRefs _ _).bind fun _ => steady_changeConsumer _ _ _

theorem steady_deleteConsumer (id : Option Int) : Respects (Steady .TOPIC) (deleteConsumer id) :=
  (steady_getConsumer _).bind fun _ => (onDb_query _).bind fun _ =>
    (Respects.forEach fun _ _ => steady_deleteConsumerIn _ _).bind fun _ => onDb_request.bind fun _ =>
    (steady_changeConsumer _ _ _).bind fun _ => steady_deleteRefs _ _

theorem steady_addTopic (dto : TopicDTO) :
    Respects (Steady .CONSUMER_GRUOP) (TopicController.addTopic lower dto) :=
  (respects_ensure _).bind fun _ => onDb_transactional <|
    (onDb_query _).bind fun _ => (respects_ensure _).bind fun _ => (onDb_query _).bind fun _ =>
    (respects_ofOption _).bind fun _ => (steady_insertTopic _).bind fun _ => (respects_ofOption _).bind fun _ =>
    Respects.forEach fun _ _ => steady_insertRefs _ _

theorem steady_updateTopic (id : Int) (dto : TopicDTO) (ldapUser : LdapUser) :
    Respects (Steady .CONSUMER_GRUOP) (updateTopic id dto ldapUser) :=
  (steady_selectByPrimaryKey _).bind fun _ => (respects_ensure _).bind fun _ => (onDb_query _).bind fun _ =>
    (respects_ensure _).bind fun _ => (steady_updateEnvironments _ _).bind fun _ => steady_changeTopic _ _ _

theorem steady_listZmsServiceEntities {type : ZmsType} (serviceIds : List (Option Int)) :
    Respects (Steady type) (listZmsServiceEntities serviceIds) :=
  (onDb_query _).bind fun _ => (respects_ofOption _).bind fun _ => (respects_ensure _).bind fun _ => respects_pure _

theorem steady_approveTopic (id : Int) (dto : TopicDTO) :
    Respects (Steady .CONSUMER_GRUOP) (TopicController.approveTopic id dto) :=
  (respects_ensure _).bind fun _ => (steady_selectByPrimaryKey _).bind fun _ => (respects_ofOption _).bind fun _ =>
    (steady_listZmsServiceEntities _).bind fun _ => (respects_ensure _).bind fun _ => (onDb_query _).bind fun _ =>
    (steady_changeTopic _ _ _).bind fun _ => (steady_approveEach _ _ _ _ _).bind fun _ => (respects_ensure _).bind fun _ =>
    (steady_changeTopic _ _ _).bind fun _ => respects_pure _

theorem steady_deleteTopic (id : Int) : Respects (Steady .CONSUMER_GRUOP) (deleteTopic id) :=
  (steady_selectByPrimaryKey _).bind fun _ => (onDb_query _).bind fun _ => (onDb_query _).bind fun _ =>
    (Respects.forEach fun _ _ => steady_deleteTopicIn _ _).bind fun _ => onDb_request.bind fun _ =>
    steady_changeTopic _ _ _

end Other

/-- What a call may do to the statuses of one kind. -/
def Follows (isApproval : Bool) (type : ZmsType) (s t : State) : Prop :=
  ∀ id, Lawful isApproval (s.db.status type id) (t.db.status type id)

theorem follows_of_steady {isApproval : Bool} {type : ZmsType} {s t : State} (steady : Steady type s t) :
    Follows isApproval type s t := fun id => lawful_of_same (congrFun steady id)

theorem steady_of_db {type : ZmsType} {s t : State} (same : t.db = s.db) : Steady type s t := by
  change t.db.status type = s.db.status type
  rw [same]

abbrev SameDb : State → State → Prop := OnDb (Leaves id)

theorem follows_of_sameDb {isApproval : Bool} {type : ZmsType} {s t : State} (same : SameDb s t) :
    Follows isApproval type s t := follows_of_steady (steady_of_db same)

section Rows
variable {isApproval : Bool} {s t : State} {id : Int}

/-- The row that is read is one of the start, as far as its status goes. -/
theorem endsFrom_getConsumer_bind {β : Type} {sought : Option Int} {next : Consumer → Call β} {post : State → Prop}
    (enough : ∀ t, SameDb s t → post t)
    (rest : ∀ consumer, sought.bind s.db.consumers.get = some consumer → EndsFrom SameDb s (next consumer) post) :
    EndsFrom SameDb s (getConsumer sought >>= next) post := by
  constructor
  intro t led
  have same : t.db = s.db := led
  apply Ends.bind (P := fun a u => u.db = s.db ∧ ∀ consumer, a = some consumer →
    sought.bind s.db.consumers.get = some consumer)
  · apply ends_query_bind
    · intro u unchanged
      refine ⟨unchanged.trans same, fun consumer impossible => ?_⟩
      cases impossible
    · intro u unchanged
      rw [same]
      exact ⟨unchanged.trans same, fun consumer found => found⟩
  · intro u unchanged
    exact enough u unchanged.1
  · intro consumer u found
    exact (rest consumer (found.2 consumer rfl)).ends u found.1

theorem endsFrom_selectByPrimaryKey_bind {β : Type} {next : Topic → Call β} {post : State → Prop}
    (enough : ∀ t, SameDb s t → post t)
    (rest : ∀ topic, s.db.topics.get id = some topic → EndsFrom SameDb s (next topic) post) :
    EndsFrom SameDb s (selectByPrimaryKey id >>= next) post := by
  constructor
  intro t led
  have same : t.db = s.db := led
  apply Ends.bind (P := fun a u => u.db = s.db ∧ ∀ topic, a = some topic → s.db.topics.get id = some topic)
  · apply ends_query_bind
    · intro u unchanged
      refine ⟨unchanged.trans same, fun topic impossible => ?_⟩
      cases impossible
    · intro u unchanged
      rw [same]
      exact ⟨unchanged.trans same, fun topic found => found⟩
  · intro u unchanged
    exact enough u unchanged.1
  · intro topic u found
    exact (rest topic (found.2 topic rfl)).ends u found.1

theorem endsFrom_transactional {α : Type} {body : Call α} {post : State → Prop} (enough : ∀ t, SameDb s t → post t)
    (endsFrom : EndsFrom SameDb s body post) : EndsFrom SameDb s (transactional body) post := by
  constructor
  intro t led
  apply ends_transactional (endsFrom.ends t led)
  intro u same
  exact enough u (same.trans led)

theorem status_of_found {sought : Option Int} {consumer : Consumer}
    (found : sought.bind s.db.consumers.get = some consumer) :
    s.db.status .CONSUMER_GRUOP consumer.id = some consumer.status := by
  obtain ⟨id, -, found⟩ := Option.bind_eq_some_iff.mp found
  obtain rfl : consumer.id = id := (Table.get_eq_some_iff.mp found).2
  unfold Database.status
  rw [found]
  rfl

/-- A row is changed as the law allows; so far the statuses are those before the call. -/
theorem endsFrom_change {type : ZmsType} {statement : Database → Option Database} {change : Int → Int}
    (sets : Sets statement type id change)
    (lawful : ∀ status, s.db.status type id = some status → Lawful isApproval (some status) (some (change status))) :
    EndsFrom (Steady type) s (execute statement) (Follows isApproval type s) := by
  constructor
  intro t steady
  apply (ends_execute _ t).imp
  intro _ u done sought
  obtain same | changed := done
  · exact follows_of_steady (trans_of (Steady type) steady (steady_of_db same)) sought
  · have before : ∀ sought, t.db.status type sought = s.db.status type sought := congrFun steady
    rw [sets _ _ changed sought, before, before]
    by_cases hit : sought = id
    · rw [if_pos hit, hit]
      cases known : s.db.status type id with
      | none => exact lawful_of_same rfl
      | some status => exact lawful status known
    · rw [if_neg hit]
      exact lawful_of_same rfl

end Rows

/-- Rows are added, and the others keep their statuses. -/
def Grows (type : ZmsType) (db db' : Database) : Prop :=
  ∀ id status, db.status type id = some status → db'.status type id = some status

instance (type : ZmsType) : IsPreorder Database (Grows type) where
  refl _ _ _ is := is
  trans _ _ _ first second id status is := second id status (first id status is)

theorem grows_of_steady {type : ZmsType} {s t : State} (steady : Steady type s t) : OnDb (Grows type) s t := by
  intro id status is
  exact (congrFun steady id).trans is

theorem follows_of_grows {isApproval : Bool} {type : ZmsType} {s t : State} (grows : OnDb (Grows type) s t) :
    Follows isApproval type s t := by
  intro id
  cases before : s.db.status type id with
  | none =>
      constructor
      · intro impossible
        cases impossible
      · intro _ impossible
        cases impossible
  | some status => exact lawful_of_same (grows id status before)

theorem grows_insertConsumer (consumer : Consumer) :
    Respects (OnDb (Grows .CONSUMER_GRUOP)) (execute fun db => db.insertConsumer consumer) := by
  apply onDb_execute
  intro db db' done id status is
  obtain ⟨consumers, inserted, rfl⟩ := Option.map_eq_some_iff.mp done
  obtain ⟨row, found, rfl⟩ := Option.map_eq_some_iff.mp is
  unfold Database.status
  dsimp only
  rw [NamedTable.get_of_insert inserted, found]
  rfl

theorem grows_insertTopic (topic : Topic) : Respects (OnDb (Grows .TOPIC)) (execute fun db => db.insertTopic topic) := by
  apply onDb_execute
  intro db db' done id status is
  obtain ⟨topics, inserted, rfl⟩ := Option.map_eq_some_iff.mp done
  obtain ⟨row, found, rfl⟩ := Option.map_eq_some_iff.mp is
  unfold Database.status
  dsimp only
  rw [NamedTable.get_of_insert inserted, found]
  rfl

section Calls
variable (fold : Char → Char) (lower : String → String) (s : State)

theorem grows_addConsumer (dto : ConsumerDTO) :
    Respects (OnDb (Grows .CONSUMER_GRUOP)) (ConsumerController.addConsumer fold dto) :=
  (respects_ensure _).bind fun _ => onDb_transactional <|
    (onDb_query _).bind fun _ => (onDb_query _).bind fun _ => (respects_ofOption _).bind fun _ =>
    (grows_insertConsumer _).bind fun _ => Respects.forEach fun _ _ =>
      ((steady_checkBroadcast fold _ _).imp fun _ _ => grows_of_steady).bind fun _ =>
        (steady_insertRefs _ _).imp fun _ _ => grows_of_steady

theorem grows_addTopic (dto : TopicDTO) : Respects (OnDb (Grows .TOPIC)) (TopicController.addTopic lower dto) :=
  (respects_ensure _).bind fun _ => onDb_transactional <|
    (onDb_query _).bind fun _ => (respects_ensure _).bind fun _ => (onDb_query _).bind fun _ =>
    (respects_ofOption _).bind fun _ => (grows_insertTopic _).bind fun _ => (respects_ofOption _).bind fun _ =>
    Respects.forEach fun _ _ => (steady_insertRefs _ _).imp fun _ _ => grows_of_steady

/-- An update of a deleted consumer that gives it another status. -/
def Revives (dto : ConsumerDTO) (row : Consumer) : Prop :=
  dto.name = some row.name ∧ dto.broadcast.isSome = true ∧ dto.consumerFrom.isSome = true ∧
    (dto.broadcast ≠ some row.broadcast ∨ dto.consumerFrom ≠ some row.consumerFrom ∨ dto.topicId ≠ some row.topicId ∨
      dto.status.getD SOFT_DELETED ≠ SOFT_DELETED)

/-- The owner or an administrator. -/
def Permitted (ldapUser : LdapUser) (applicant : String) : Prop :=
  ldapUser.isAdmin = true ∨ applicant = ldapUser.realName

/-- No update revives a row or approves it, and no approval is of a deleted row. -/
def Obeys (s : State) : Request → Prop
  | .updateConsumer dto ldapUser => ∀ row, dto.id.bind s.db.consumers.get = some row → Permitted ldapUser row.applicant →
      (row.status = SOFT_DELETED → ¬Revives dto row) ∧
        (row.status = CREATE_NEW → ∀ status, dto.status = some status → ¬Approved status)
  | .approveConsumer dto => dto.id.bind (s.db.status .CONSUMER_GRUOP) ≠ some SOFT_DELETED
  | .updateTopic id dto ldapUser => ∀ row, s.db.topics.get id = some row → Permitted ldapUser row.applicant →
      (row.status = SOFT_DELETED → dto.name = some row.name → dto.status.getD SOFT_DELETED = SOFT_DELETED) ∧
        (row.status = CREATE_NEW → ∀ status, dto.status = some status → ¬Approved status)
  | .approveTopic id _ => s.db.status .TOPIC id ≠ some SOFT_DELETED
  | _ => True

theorem lawful_of_unapproved {status : Option Int} (unapproved : ∀ value, status = some value → ¬Approved value) :
    Lawful false (some CREATE_NEW) (some (status.getD CREATE_NEW)) := by
  constructor
  · intro impossible
    exact absurd (Option.some.inj impossible) (by decide)
  · intro _ _ value is
    obtain rfl := Option.some.inj is
    cases status with
    | none => decide
    | some value => exact unapproved value rfl

theorem lawful_of_other {isApproval : Bool} {before after : Int} (live : before ≠ SOFT_DELETED)
    (handled : isApproval = true ∨ before ≠ CREATE_NEW) : Lawful isApproval (some before) (some after) := by
  constructor
  · intro impossible
    exact absurd (Option.some.inj impossible) live
  · intro unapproved fresh
    obtain approval | other := handled
    · exact absurd (unapproved.symm.trans approval) (by decide)
    · exact absurd (Option.some.inj fresh) other

theorem lawful_updateStatus {dto : ConsumerDTO} {row : Consumer} {changed : Bool} {change : Option Int × Int}
    (isChanged : changed = decide (dto.topicId ≠ some row.topicId))
    (updates : updateStatus dto row changed = some change)
    (revives : row.status = SOFT_DELETED → ¬Revives dto row)
    (approves : row.status = CREATE_NEW → ∀ status, dto.status = some status → ¬Approved status) :
    Lawful false (some row.status) (some (change.1.getD row.status)) := by
  unfold updateStatus at updates
  by_cases fresh : row.status = CREATE_NEW
  · rw [if_pos fresh] at updates
    obtain rfl := Option.some.inj updates
    rw [fresh]
    exact lawful_of_unapproved (approves fresh)
  · rw [if_neg fresh] at updates
    by_cases deleted : row.status = SOFT_DELETED
    · have kept := revives deleted
      split at updates
      · cases updates
      · next named =>
          have named := not_not.mp named
          obtain ⟨broadcast, broadcasts, updates⟩ := Option.bind_eq_some_iff.mp updates
          obtain ⟨consumerFrom, froms, updates⟩ := Option.bind_eq_some_iff.mp updates
          unfold Revives at kept
          simp only [named, broadcasts, froms, Option.isSome_some, true_and, ne_eq, Option.some.injEq, not_or,
            not_not] at kept
          obtain ⟨sameBroadcast, sameFrom, sameTopic, sameStatus⟩ := kept
          rw [if_neg (by simp [sameBroadcast, sameFrom, sameTopic, isChanged])] at updates
          obtain rfl := Option.some.inj updates
          rw [deleted]
          exact lawful_of_same (congrArg some sameStatus)
    · exact lawful_of_other deleted (.inr fresh)

theorem follows_updateConsumer (dto : ConsumerDTO) (ldapUser : LdapUser) (obeys : Obeys s (.updateConsumer dto ldapUser)) :
    EndsFrom SameDb s (ConsumerController.updateConsumer fold dto ldapUser) (Follows false .CONSUMER_GRUOP s) := by
  apply endsFrom_ensure_bind fun _ => follows_of_sameDb
  intro _
  apply endsFrom_transactional fun _ => follows_of_sameDb
  apply endsFrom_getConsumer_bind fun _ => follows_of_sameDb
  intro row found
  apply endsFrom_ensure_bind fun _ => follows_of_sameDb
  intro permitted
  obtain ⟨revives, approves⟩ := obeys row found permitted
  apply EndsFrom.weaken _ fun t => steady_of_db
  apply EndsFrom.bind (fun _ => follows_of_steady) (onDb_query _)
  intro refs
  apply EndsFrom.bind (fun _ => follows_of_steady) (Respects.when fun _ => steady_deleteRefs _ _)
  intro _
  apply endsFrom_ofOption_bind fun _ => follows_of_steady
  intro change updates
  apply EndsFrom.bind (fun _ => follows_of_steady) (Respects.forEach fun _ _ => steady_checkBroadcast fold _ _)
  intro _
  apply EndsFrom.bind (fun _ => follows_of_steady) (Respects.when fun _ => steady_insertRefs _ _)
  intro _
  apply endsFrom_change (sets_changeConsumer change.1.getD fun _ => rfl)
  intro status known
  rw [status_of_found found] at known
  obtain rfl := Option.some.inj known
  exact lawful_updateStatus rfl updates revives approves

theorem follows_approveConsumer (dto : ConsumerDTO) (obeys : Obeys s (.approveConsumer dto)) :
    EndsFrom SameDb s (ConsumerController.approveConsumer fold dto) (Follows true .CONSUMER_GRUOP s) := by
  apply endsFrom_ensure_bind fun _ => follows_of_sameDb
  intro _
  apply EndsFrom.bind (fun _ => follows_of_sameDb) (onDb_query _)
  intro refs
  apply endsFrom_ensure_bind fun _ => follows_of_sameDb
  intro _
  apply endsFrom_getConsumer_bind fun _ => follows_of_sameDb
  intro row found
  apply EndsFrom.weaken _ fun t => steady_of_db
  apply EndsFrom.bind (fun _ => follows_of_steady) (Respects.when fun _ => steady_deleteRefs _ _)
  intro _
  apply EndsFrom.bind (fun _ => follows_of_steady) (Respects.forEach fun _ _ => steady_approveNext fold _ _ _)
  intro _
  apply EndsFrom.bind (fun _ => follows_of_steady) (Respects.when fun _ => steady_insertRefs _ _)
  intro _
  apply endsFrom_change (sets_changeConsumer (fun _ => if row.status = CREATE_NEW then CREATE_APPROVED else UPDATE_APPROVED)
    fun _ => rfl)
  intro status known
  have live : status ≠ SOFT_DELETED := by
    intro deleted
    apply obeys
    obtain ⟨id, named, found⟩ := Option.bind_eq_some_iff.mp found
    obtain rfl : row.id = id := (Table.get_eq_some_iff.mp found).2
    rw [named, ← deleted]
    exact known
  exact lawful_of_other live (.inl rfl)

theorem lawful_delete {isApproval : Bool} (status : Int) : Lawful isApproval (some status) (some SOFT_DELETED) := by
  constructor
  · intro _
    rfl
  · intro _ _ value is
    obtain rfl := Option.some.inj is
    decide

theorem follows_of_follows {isApproval : Bool} {type : ZmsType} {s t u : State} (follows : Follows isApproval type s t)
    (steady : Steady type t u) : Follows isApproval type s u := by
  intro id
  have same : u.db.status type id = t.db.status type id := congrFun steady id
  rw [same]
  exact follows id

theorem follows_deleteConsumer (id : Option Int) :
    EndsFrom SameDb s (deleteConsumer id) (Follows false .CONSUMER_GRUOP s) := by
  apply endsFrom_getConsumer_bind fun _ => follows_of_sameDb
  intro row found
  apply EndsFrom.weaken _ fun t => steady_of_db
  apply EndsFrom.bind (fun _ => follows_of_steady) (onDb_query _)
  intro envs
  apply EndsFrom.bind (fun _ => follows_of_steady) (Respects.forEach fun _ _ => steady_deleteConsumerIn _ _)
  intro _
  apply EndsFrom.bind (fun _ => follows_of_steady) onDb_request
  intro _
  apply EndsFrom.andThen _ (fun _ => steady_deleteRefs _ _) fun _ _ => follows_of_follows
  exact endsFrom_change (sets_changeConsumer (fun _ => SOFT_DELETED) fun _ => rfl) fun status _ => lawful_delete status

theorem follows_updateTopic (id : Int) (dto : TopicDTO) (ldapUser : LdapUser)
    (obeys : Obeys s (.updateTopic id dto ldapUser)) :
    EndsFrom SameDb s (updateTopic id dto ldapUser) (Follows false .TOPIC s) := by
  apply endsFrom_selectByPrimaryKey_bind fun _ => follows_of_sameDb
  intro row found
  apply endsFrom_ensure_bind fun _ => follows_of_sameDb
  intro permitted
  obtain ⟨revives, approves⟩ := obeys row found permitted
  apply EndsFrom.weaken _ fun t => steady_of_db
  apply EndsFrom.bind (fun _ => follows_of_steady) (onDb_query _)
  intro topicList
  apply endsFrom_ensure_bind fun _ => follows_of_steady
  intro _
  have changes : ∀ lawful : Lawful false (some row.status) (some (dto.status.getD row.status)),
      EndsFrom (Steady .TOPIC) s (execute fun db => db.changeTopic id dto.copyProperties fun _ => rfl)
        (Follows false .TOPIC s) := by
    intro lawful
    apply endsFrom_change (sets_changeTopic dto.status.getD fun _ => rfl)
    intro status known
    unfold Database.status at known
    rw [found] at known
    obtain rfl := Option.some.inj known
    exact lawful
  by_cases fresh : row.status = CREATE_NEW
  · apply EndsFrom.bind (fun _ => follows_of_steady) (steady_updateEnvironments _ _)
    intro _
    apply changes
    rw [fresh]
    exact lawful_of_unapproved (approves fresh)
  · unfold updateEnvironments
    rw [if_neg fresh]
    apply endsFrom_ensure_bind fun _ => follows_of_steady
    intro named
    apply changes
    by_cases deleted : row.status = SOFT_DELETED
    · rw [deleted]
      exact lawful_of_same (congrArg some (revives deleted named))
    · exact lawful_of_other deleted (.inr fresh)

theorem steady_of_sets {type : ZmsType} {id : Int} {statement : Database → Option Database}
    (sets : Sets statement type id fun status => status) : Respects (Steady type) (execute statement) := by
  apply onDb_execute
  intro db db' done
  funext sought
  change db'.status type sought = db.status type sought
  rw [sets db db' done sought]
  split
  · next same => rw [same, Option.map_id']
  · rfl

theorem steady_updateById (id : Int) (partitions : Option Int) :
    Respects (Steady .TOPIC) (execute fun db => db.changeTopic id
      (fun row => { row with partitions := partitions.or row.partitions }) fun _ => rfl) :=
  steady_of_sets (sets_changeTopic (fun status => status) fun _ => rfl)

theorem follows_approveTopic (id : Int) (dto : TopicDTO) (obeys : Obeys s (.approveTopic id dto)) :
    EndsFrom SameDb s (TopicController.approveTopic id dto) (Follows true .TOPIC s) := by
  apply EndsFrom.weaken _ fun t => steady_of_db
  apply endsFrom_ensure_bind fun _ => follows_of_steady
  intro _
  apply EndsFrom.bind (fun _ => follows_of_steady) (steady_selectByPrimaryKey _)
  intro topic
  apply endsFrom_ofOption_bind fun _ => follows_of_steady
  intro infos _
  apply EndsFrom.bind (fun _ => follows_of_steady) (steady_listZmsServiceEntities _)
  intro serviceList
  apply endsFrom_ensure_bind fun _ => follows_of_steady
  intro _
  apply EndsFrom.bind (fun _ => follows_of_steady) (onDb_query _)
  intro localRefs
  apply EndsFrom.bind (fun _ => follows_of_steady) (steady_updateById _ _)
  intro _
  apply EndsFrom.bind (fun _ => follows_of_steady) (steady_approveEach _ _ _ _ _)
  intro failEnv
  apply endsFrom_ensure_bind fun _ => follows_of_steady
  intro _
  apply EndsFrom.andThen (R := Steady .TOPIC) _ (fun _ => respects_pure _) fun _ _ => follows_of_follows
  apply endsFrom_change (sets_changeTopic (fun _ => CREATE_APPROVED) fun _ => rfl)
  intro status known
  apply lawful_of_other _ (.inl rfl)
  intro deleted
  exact obeys (deleted ▸ known)

theorem follows_deleteTopic (id : Int) : EndsFrom SameDb s (deleteTopic id) (Follows false .TOPIC s) := by
  apply EndsFrom.weaken _ fun t => steady_of_db
  apply EndsFrom.bind (fun _ => follows_of_steady) (steady_selectByPrimaryKey _)
  intro topic
  apply EndsFrom.bind (fun _ => follows_of_steady) (onDb_query _)
  intro serviceIds
  apply EndsFrom.bind (fun _ => follows_of_steady) (onDb_query _)
  intro services
  apply EndsFrom.bind (fun _ => follows_of_steady) (Respects.forEach fun _ _ => steady_deleteTopicIn _ _)
  intro _
  apply EndsFrom.bind (fun _ => follows_of_steady) onDb_request
  intro _
  exact endsFrom_change (sets_changeTopic (fun _ => SOFT_DELETED) fun _ => rfl) fun status _ => lawful_delete status

end Calls

section Runs
variable (fold : Char → Char) (lower : String → String)

theorem respects_follows {α : Type} {type : ZmsType} {isApproval : Bool} {call : Call α}
    (steady : Respects (Steady type) call) (s : State) : Follows isApproval type s (call s).2 :=
  follows_of_steady (steady.related s)

theorem endsFrom_follows {α : Type} {type : ZmsType} {isApproval : Bool} {call : Call α} {s : State}
    (endsFrom : EndsFrom SameDb s call (Follows isApproval type s)) : Follows isApproval type s (call s).2 :=
  (endsFrom.ends s rfl).holds

theorem follows_leaves (s : State) (request : Request) (obeys : Obeys s request) (type : ZmsType) :
    Follows request.isApproval type s (request.leaves fold lower s) := by
  cases request with
  | addConsumer dto =>
      cases type with
      | TOPIC => exact respects_follows (steady_addConsumer fold dto) s
      | CONSUMER_GRUOP => exact follows_of_grows ((grows_addConsumer fold dto).related s)
  | updateConsumer dto ldapUser =>
      cases type with
      | TOPIC => exact respects_follows (steady_updateConsumer fold dto ldapUser) s
      | CONSUMER_GRUOP => exact endsFrom_follows (follows_updateConsumer fold s dto ldapUser obeys)
  | approveConsumer dto =>
      cases type with
      | TOPIC => exact respects_follows (steady_approveConsumer fold dto) s
      | CONSUMER_GRUOP => exact endsFrom_follows (follows_approveConsumer fold s dto obeys)
  | deleteConsumer id =>
      cases type with
      | TOPIC => exact respects_follows (steady_deleteConsumer (some id)) s
      | CONSUMER_GRUOP => exact endsFrom_follows (follows_deleteConsumer s (some id))
  | copyConsumers envIds consumerIds => exact respects_follows (steady_copyConsumers fold envIds consumerIds) s
  | backupConsumerMetadata dto => exact respects_follows (steady_backupConsumerMetadata fold dto) s
  | addTopic dto =>
      cases type with
      | TOPIC => exact follows_of_grows ((grows_addTopic lower dto).related s)
      | CONSUMER_GRUOP => exact respects_follows (steady_addTopic lower dto) s
  | updateTopic id dto ldapUser =>
      cases type with
      | TOPIC => exact endsFrom_follows (follows_updateTopic s id dto ldapUser obeys)
      | CONSUMER_GRUOP => exact respects_follows (steady_updateTopic id dto ldapUser) s
  | approveTopic id dto =>
      cases type with
      | TOPIC => exact endsFrom_follows (follows_approveTopic s id dto obeys)
      | CONSUMER_GRUOP => exact respects_follows (steady_approveTopic id dto) s
  | deleteTopic id =>
      cases type with
      | TOPIC => exact endsFrom_follows (follows_deleteTopic s id)
      | CONSUMER_GRUOP => exact respects_follows (steady_deleteTopic id) s
  | syncTopic topicId environments =>
      exact respects_follows ((respects_ensure _).bind fun _ => steady_syncTopic topicId environments) s
  | backupTopicMetadata dto => exact respects_follows (steady_backupTopicMetadata dto) s

/-- The requests that obey, whatever happens to what they ask. -/
def obedient : Guarded State Action := (portal fold lower).restrict fun s action => Obeys s action.request

theorem follows_effect {s : State} {action : Action} (enabled : (obedient fold lower).guard s action) (type : ZmsType) :
    Follows action.request.isApproval type s ((obedient fold lower).effect s action) :=
  follows_leaves fold lower { s with answers := action.answers } action.request
    (by cases action with | mk request answers => cases request <;> exact enabled.2) type

end Runs

/-- A group of a topic in one environment, with the status. -/
def groupOf (status : Int) : State where
  db :=
    { environments := [1]
      services := .ofList [⟨⟨10, 1, "main", "ROCKETMQ", false⟩, "ENABLE"⟩]
      topics := .ofList [⟨⟨1, "orders", CREATE_APPROVED⟩, "owner", some 4⟩]
      consumers := .ofList [⟨⟨1, "billing", 1, status, false, false, 0, 0⟩, "owner"⟩]
      refs _ := .ofList [.plain 1 1 (some 10)] }
  nodes _ _ _ := none
  clusters _ name := some ⟨name, none, some .ROCKETMQ, none⟩
  answers _ := true

/-- The body with which the page saves the group, with a status in it. -/
def savedGroup (status : Option Int) : ConsumerDTO :=
  ⟨some 1, some "billing", some 1, some "domain", some "memo", some 1, none, some false, some false, status, 0, 0⟩

def deletesTopic : Action := ⟨.deleteTopic 1, fun _ => true⟩

theorem deletesTopic_obeys : (obedient Char.toLower String.toLower).guard (groupOf SOFT_DELETED) deletesTopic :=
  ⟨trivial, trivial⟩

end Zms.Portal.Resources
