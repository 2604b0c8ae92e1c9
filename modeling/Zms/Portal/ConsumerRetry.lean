import Zms.Portal.ResourceConsumers
import Zms.Portal.ResourceFrames
import Zms.Portal.ResourceSteps

/-! What an approval of a consumer leaves in the database when it throws, and what
the same call does after that.
-/

set_option autoImplicit false

namespace Zms.Portal.Resources

open Zms.Registry Zms.Transition Zms.Transition.Throwing

/-- One request of the approval in an environment. -/
inductive ApprovalRequest where
  /-- Null where a value is needed, before any request. -/
  | fails
  /-- To the brokers. -/
  | server
  /-- The node of the consumer. -/
  | write (env : EnvId) (data : Properties)
  deriving DecidableEq

def ApprovalRequest.step (name : String) : ApprovalRequest → Step Rows
  | .fails => none
  | .server => some some
  | .write env data => some fun r => some { r with nodes := r.nodes.put env .CONSUMER_GRUOP name (some data) }

section Model
variable (fold : Char → Char)

/-- The requests of `registerConsumerToZk`. -/
def zkRequests (ref : JoinedRef) (dto : ConsumerDTO) : List ApprovalRequest :=
  match ConsumerMapperService.brokerType fold ref.clusterType with
  | none => []
  | some brokerType =>
      match (dto.registration ref.topicName ref.clusterName).bind fun registration =>
        buildConsumerGroupData (ConsumerMapperService.toMetadata registration brokerType) with
      | none => [.fails]
      | some data => [.write ref.environmentId data]

/-- The requests of the loop's body. -/
def nextRequests (dto : ConsumerDTO) (orig : Consumer) (ref : JoinedRef) : List ApprovalRequest :=
  (if orig.status = CREATE_NEW then zkRequests fold ref dto ++ [.server] else []) ++
    match dto.broadcast, dto.consumerFrom with
    | some broadcast, some consumerFrom =>
        (if 0 < orig.needUpdateZk ∨ dto.topicId ≠ some orig.topicId ∨ broadcast ≠ orig.broadcast ∨
          consumerFrom ≠ orig.consumerFrom then zkRequests fold ref dto else []) ++
        if 0 < orig.needUpdateServer then [.server] else []
    | _, _ => [.fails]

variable (dto : ConsumerDTO) (orig : Consumer)

def requestSteps (requests : List ApprovalRequest) : List (Step Rows) :=
  requests.map (ApprovalRequest.step (valueOf dto.name))

theorem name_of_registration {dto : ConsumerDTO} {topicName clusterName : Option String}
    {registration : ConsumerMapperService.ConsumerDTO}
    (known : dto.registration topicName clusterName = some registration) :
    registration.name = valueOf dto.name := by
  unfold ConsumerDTO.registration at known
  cases broadcast : dto.broadcast <;> cases consumerFrom : dto.consumerFrom <;> rw [broadcast, consumerFrom] at known
  case some.some =>
    cases known
    rfl
  all_goals cases known

theorem registerConsumerToZk_eq (ref : JoinedRef) :
    registerConsumerToZk fold ref.environmentId ref.clusterType (dto.registration ref.topicName ref.clusterName) =
      asking.perform (requestSteps dto (zkRequests fold ref dto)) := by
  unfold registerConsumerToZk zkRequests
  cases ConsumerMapperService.brokerType fold ref.clusterType with
  | none => rfl
  | some brokerType =>
    cases known : dto.registration ref.topicName ref.clusterName with
    | none => rfl
    | some registration =>
      have named : (ConsumerMapperService.toMetadata registration brokerType).name = valueOf dto.name :=
        name_of_registration known
      simp only [Option.bind_some]
      show writerConsumerInfo ref.environmentId (ConsumerMapperService.toMetadata registration brokerType) = _
      rw [writerConsumerInfo, named]
      cases buildConsumerGroupData (ConsumerMapperService.toMetadata registration brokerType) with
      | none => rfl
      | some data => rfl

theorem requestSteps_append (first rest : List ApprovalRequest) :
    requestSteps dto (first ++ rest) = requestSteps dto first ++ requestSteps dto rest := List.map_append

theorem requestSteps_ite (condition : Prop) [Decidable condition] (requests : List ApprovalRequest) :
    requestSteps dto (if condition then requests else []) = if condition then requestSteps dto requests else [] := by
  split <;> rfl

theorem registerConsumerToServer_eq : registerConsumerToServer = asking.perform (requestSteps dto [.server]) := by
  funext s
  unfold registerConsumerToServer
  rw [request_eq]
  show asking.ask s = (asking.ask >>= fun _ => _) s
  cases answered : s.answers 0 with
  | false => rw [bind_of_throws (Asking.ask_eq_of_refused answered), Asking.ask_eq_of_refused answered]
  | true =>
    rw [bind_of_returns (Asking.ask_eq_of_answered answered), Asking.ask_eq_of_answered answered]
    rfl

theorem approveNext_eq (ref : JoinedRef) :
    approveNext fold dto orig ref = asking.perform (requestSteps dto (nextRequests fold dto orig ref)) := by
  have zk := registerConsumerToZk_eq fold dto ref
  have both : (registerConsumerToZk fold ref.environmentId ref.clusterType
      (dto.registration ref.topicName ref.clusterName) >>= fun _ => registerConsumerToServer) =
      asking.perform (requestSteps dto (zkRequests fold ref dto ++ [.server])) := by
    rw [requestSteps_append, Asking.perform_append, ← zk, ← registerConsumerToServer_eq dto]
  unfold approveNext nextRequests
  rw [requestSteps_append, Asking.perform_append, requestSteps_ite, ← when_eq both]
  dsimp only
  congr 1
  funext _
  cases dto.broadcast with
  | none => rfl
  | some broadcast =>
    cases dto.consumerFrom with
    | none => rfl
    | some consumerFrom =>
      rw [requestSteps_append, Asking.perform_append, requestSteps_ite, requestSteps_ite, ← when_eq zk,
        ← when_eq (registerConsumerToServer_eq dto)]
      rfl

variable (topicEnvironmentRefs : List JoinedRef)

/-- The steps of an approval before its last statement. -/
def approvalSteps : List (Step Rows) :=
  (if dto.topicId ≠ some orig.topicId then [statement fun db => some (db.deleteRefs .CONSUMER_GRUOP orig.id)]
    else []) ++
    (requestSteps dto (topicEnvironmentRefs.flatMap (nextRequests fold dto orig)) ++
      if dto.topicId ≠ some orig.topicId then
        [statement fun db => db.insertRefs .CONSUMER_GRUOP (consumerEnvs orig.id topicEnvironmentRefs)]
      else [])

omit orig in
theorem id_copyProperties (status : Option Int) (needUpdateServer needUpdateZk : Int) (row : Consumer) :
    (dto.copyProperties status needUpdateServer needUpdateZk row).id = row.id := rfl

def approvalStatement : Step Rows :=
  statement fun db => db.changeConsumer orig.id (dto.copyProperties
    (some (if orig.status = CREATE_NEW then CREATE_APPROVED else UPDATE_APPROVED)) 0 0)
    (id_copyProperties dto _ _ _)

theorem approveConsumer_eq : approveConsumer fold dto = (do
    let topicEnvironmentRefs ← query fun db => (dto.topicId.map db.selectTopicAndCluster).getD []
    ensure (topicEnvironmentRefs ≠ [])
    let origConsumer ← getConsumer dto.id
    asking.perform (approvalSteps fold dto origConsumer topicEnvironmentRefs ++
      [approvalStatement dto origConsumer])) := by
  unfold approveConsumer
  refine congrArg _ (funext fun refs => congrArg _ (funext fun _ => congrArg _ (funext fun orig => ?_)))
  have loop : forEach (approveNext fold dto orig) refs =
      asking.perform (requestSteps dto (refs.flatMap (nextRequests fold dto orig))) := by
    rw [Asking.forEach_perform (approveNext_eq fold dto orig) refs]
    congr 1
    exact (List.map_flatMap ..).symm
  unfold approvalSteps approvalStatement
  rw [Asking.perform_append, Asking.perform_append, Asking.perform_append, ← when_eq (execute_eq _),
    ← when_eq (execute_eq _), ← loop, ← execute_eq, bind_assoc, bind_assoc]

end Model

/-! ### The nodes after some requests -/

def written (name : String) : List ApprovalRequest → Nodes → Nodes
  | [], nodes => nodes
  | .write env data :: rest, nodes => written name rest (nodes.put env .CONSUMER_GRUOP name (some data))
  | .fails :: rest, nodes => written name rest nodes
  | .server :: rest, nodes => written name rest nodes

def Holding (name : String) (requests : List ApprovalRequest) (nodes : Nodes) : Prop :=
  ∀ env data, .write env data ∈ requests → nodes env .CONSUMER_GRUOP name = some data

/-- The requests write the same data wherever they write a node again. -/
def Agree (requests : List ApprovalRequest) : Prop :=
  ∀ env data data', .write env data ∈ requests → .write env data' ∈ requests → data = data'

section Written
variable {name : String} {requests : List ApprovalRequest} {nodes : Nodes}

theorem put_eq_self {env : EnvId} {type : ZmsType} {data : Option Properties} (same : nodes env type name = data) :
    nodes.put env type name data = nodes := by
  funext env' type' name'
  by_cases here : env' = env ∧ type' = type ∧ name' = name
  · obtain ⟨rfl, rfl, rfl⟩ := here
    rw [put_self, same]
  · exact put_of_ne nodes data here

theorem written_eq_self (holding : Holding name requests nodes) : written name requests nodes = nodes := by
  induction requests with
  | nil => rfl
  | cons request rest ih =>
    have later := ih fun env data member => holding env data (List.mem_cons_of_mem _ member)
    cases request with
    | fails => exact later
    | server => exact later
    | write env data =>
      rw [written, put_eq_self (holding env data List.mem_cons_self)]
      exact later

theorem written_keeps {env : EnvId} {data : Properties} (holds : nodes env .CONSUMER_GRUOP name = some data)
    (same : ∀ data', .write env data' ∈ requests → data' = data) :
    written name requests nodes env .CONSUMER_GRUOP name = some data := by
  induction requests generalizing nodes with
  | nil => exact holds
  | cons request rest ih =>
    have later : ∀ data', .write env data' ∈ rest → data' = data :=
      fun data' member => same data' (List.mem_cons_of_mem _ member)
    cases request with
    | fails => exact ih holds later
    | server => exact ih holds later
    | write env' data' =>
      refine ih ?_ later
      by_cases here : env = env'
      · subst here
        rw [put_self, same data' List.mem_cons_self]
      · rw [put_of_ne nodes _ fun both => here both.1]
        exact holds

theorem holding_written (agree : Agree requests) : Holding name requests (written name requests nodes) := by
  induction requests generalizing nodes with
  | nil =>
    intro env data member
    cases member
  | cons request rest ih =>
    have later : Agree rest := fun env data data' member member' =>
      agree env data data' (List.mem_cons_of_mem _ member) (List.mem_cons_of_mem _ member')
    intro env data member
    cases request with
    | fails => exact ih later env data ((List.mem_cons.mp member).resolve_left nofun)
    | server => exact ih later env data ((List.mem_cons.mp member).resolve_left nofun)
    | write env' data' =>
      rcases List.mem_cons.mp member with first | member
      · cases first
        show written name rest (nodes.put env .CONSUMER_GRUOP name (some data)) env .CONSUMER_GRUOP name = some data
        exact written_keeps (put_self ..) fun data' again =>
          agree env data' data (List.mem_cons_of_mem _ again) List.mem_cons_self
      · exact ih later env data member

theorem written_written (agree : Agree requests) :
    written name requests (written name requests nodes) = written name requests nodes :=
  written_eq_self (holding_written agree)

end Written

theorem applied_requestSteps {dto : ConsumerDTO} {requests : List ApprovalRequest} {r t : Rows} :
    applied (requestSteps dto requests) r = some t ↔
      .fails ∉ requests ∧ t = { r with nodes := written (valueOf dto.name) requests r.nodes } := by
  induction requests generalizing r with
  | nil => simp [requestSteps, applied, written, eq_comm]
  | cons request rest ih =>
    cases request with
    | fails => simp [requestSteps, applied, ApprovalRequest.step]
    | server =>
      show applied (requestSteps dto rest) r = some t ↔ _
      rw [ih]
      simp [written]
    | write env data =>
      show applied (requestSteps dto rest)
        { r with nodes := r.nodes.put env .CONSUMER_GRUOP _ (some data) } = some t ↔ _
      rw [ih]
      simp [written]

theorem length_requestSteps (dto : ConsumerDTO) (requests : List ApprovalRequest) :
    (requestSteps dto requests).length = requests.length := List.length_map _

theorem requestSteps_take (dto : ConsumerDTO) (requests : List ApprovalRequest) (k : Nat) :
    (requestSteps dto requests).take k = requestSteps dto (requests.take k) := List.map_take.symm

/-! ### The rows after some steps -/

section Rows
variable {db inserted : Database} {type : ZmsType} {resourceId : Int}

theorem refs_deleteRefs : (db.deleteRefs type resourceId).refs type =
    (db.refs type).filter fun ref => ref.resourceId ≠ resourceId := by
  simp only [Database.deleteRefs, Database.setRefs, Function.update_self]

theorem setRefs_setRefs (refs refs' : Table EnvironmentRef.key) :
    (db.setRefs type refs).setRefs type refs' = db.setRefs type refs' := by
  simp only [Database.setRefs, Function.update_idem]

theorem table_ext {table other : Table EnvironmentRef.key} (same : table.rows = other.rows) : table = other := by
  cases table
  cases other
  cases same
  rfl

theorem deleteRefs_deleteRefs : (db.deleteRefs type resourceId).deleteRefs type resourceId =
    db.deleteRefs type resourceId := by
  show (db.deleteRefs type resourceId).setRefs type _ = _
  rw [refs_deleteRefs]
  refine (setRefs_setRefs ..).trans (congrArg (db.setRefs type) (table_ext ?_))
  simp only [Table.filter, List.filter_filter, Bool.and_self]

theorem insertRefs_eq_some {rows : List EnvironmentRef} (done : db.insertRefs type rows = some inserted) :
    ∃ refs, (db.refs type).insertList rows = some refs ∧ db.setRefs type refs = inserted :=
  Option.map_eq_some_iff.mp done

theorem deleteRefs_insertRefs {rows : List EnvironmentRef} (own : ∀ ref ∈ rows, ref.resourceId = resourceId)
    (done : (db.deleteRefs type resourceId).insertRefs type rows = some inserted) :
    inserted.deleteRefs type resourceId = db.deleteRefs type resourceId := by
  obtain ⟨refs, extended, rfl⟩ := insertRefs_eq_some done
  have none_left : rows.filter (fun ref => ref.resourceId ≠ resourceId) = [] := by
    apply List.filter_eq_nil_iff.mpr
    intro ref member
    simp only [own ref member, ne_eq, not_true_eq_false, decide_false, Bool.false_eq_true, not_false_eq_true]
  have rows_eq := Table.rows_of_insertList extended
  rw [refs_deleteRefs] at rows_eq
  unfold Database.deleteRefs
  rw [setRefs_setRefs, setRefs_setRefs]
  refine congrArg (db.setRefs type) (table_ext ?_)
  simp only [Database.setRefs, Function.update_self, Table.filter, rows_eq, List.filter_append, none_left,
    List.append_nil, List.filter_filter, Bool.and_self]

theorem listByConsumerId_deleteRefs (consumerId : Int) :
    (db.deleteRefs .CONSUMER_GRUOP consumerId).listByConsumerId consumerId = [] := by
  unfold Database.listByConsumerId
  rw [refs_deleteRefs]
  apply List.filter_eq_nil_iff.mpr
  intro ref member
  have other := (List.mem_filter.mp member).2
  simpa using other

theorem listByConsumerId_insertRefs {consumerId : Int} {rows : List EnvironmentRef}
    (own : ∀ ref ∈ rows, ref.resourceId = consumerId)
    (done : (db.deleteRefs .CONSUMER_GRUOP consumerId).insertRefs .CONSUMER_GRUOP rows = some inserted) :
    inserted.listByConsumerId consumerId = rows := by
  obtain ⟨refs, extended, rfl⟩ := insertRefs_eq_some done
  have before : (db.deleteRefs .CONSUMER_GRUOP consumerId).listByConsumerId consumerId = [] :=
    listByConsumerId_deleteRefs consumerId
  have all : rows.filter (fun ref => ref.resourceId = consumerId) = rows :=
    List.filter_eq_self.mpr fun ref member => decide_eq_true (own ref member)
  unfold Database.listByConsumerId at before ⊢
  simp only [Database.setRefs, Function.update_self, Table.rows_of_insertList extended, List.filter_append, all]
  rw [before, List.nil_append]

end Rows

/-! ### Where the steps can stop -/

theorem environments_selectTopicAndCluster (db : Database) (topicId : Int) :
    ((db.selectTopicAndCluster topicId).map (·.environmentId)).Nodup := by
  have keys : (((db.refs .TOPIC).rows.filter fun ref => ref.resourceId = topicId).map EnvironmentRef.key).Nodup :=
    ((db.refs .TOPIC).filter _).keys
  unfold Database.selectTopicAndCluster
  rw [List.map_map]
  refine (keys.of_map _).map_on ?_
  intro ref member other member' same
  refine List.inj_on_of_nodup_map keys member member' ?_
  have own := of_decide_eq_true (List.mem_filter.mp member).2
  have own' := of_decide_eq_true (List.mem_filter.mp member').2
  exact Prod.ext (own.trans own'.symm) same

section Stops
variable {fold : Char → Char} {dto : ConsumerDTO} {orig : Consumer} {refs : List JoinedRef}

theorem zkRequests_of_write {ref : JoinedRef} {env : EnvId} {data : Properties}
    (member : .write env data ∈ zkRequests fold ref dto) :
    env = ref.environmentId ∧ zkRequests fold ref dto = [.write ref.environmentId data] := by
  unfold zkRequests at member ⊢
  split at member
  · cases member
  · split at member
    · cases List.mem_singleton.mp member
    · cases List.mem_singleton.mp member
      exact ⟨rfl, rfl⟩

theorem zkRequests_of_write_next {ref : JoinedRef} {env : EnvId} {data : Properties}
    (member : .write env data ∈ nextRequests fold dto orig ref) :
    env = ref.environmentId ∧ zkRequests fold ref dto = [.write ref.environmentId data] := by
  apply zkRequests_of_write
  unfold nextRequests at member
  rcases List.mem_append.mp member with member | member
  · split at member
    · simpa using member
    · cases member
  · split at member
    · rcases List.mem_append.mp member with member | member
      · split at member
        · exact member
        · cases member
      · split at member
        · cases List.mem_singleton.mp member
        · cases member
    · cases List.mem_singleton.mp member

/-- The topic has one reference in an environment, so a node is written with the same data always. -/
theorem agree_requests (distinct : (refs.map (·.environmentId)).Nodup) :
    Agree (refs.flatMap (nextRequests fold dto orig)) := by
  intro env data data' member member'
  obtain ⟨ref, among, member⟩ := List.mem_flatMap.mp member
  obtain ⟨ref', among', member'⟩ := List.mem_flatMap.mp member'
  obtain ⟨here, writes⟩ := zkRequests_of_write_next member
  obtain ⟨here', writes'⟩ := zkRequests_of_write_next member'
  obtain rfl := List.inj_on_of_nodup_map distinct among among' (here.symm.trans here')
  rw [writes] at writes'
  cases writes'
  rfl

theorem agree_take {requests : List ApprovalRequest} (agree : Agree requests) (k : Nat) : Agree (requests.take k) :=
  fun env data data' member member' => agree env data data' (List.mem_of_mem_take member) (List.mem_of_mem_take member')

theorem own_consumerEnvs (consumerId : Int) : ∀ ref ∈ consumerEnvs consumerId refs, ref.resourceId = consumerId := by
  intro ref member
  obtain ⟨joined, -, rfl⟩ := List.mem_map.mp member
  rfl

theorem insertRefs_consumerEnvs (distinct : (refs.map (·.environmentId)).Nodup) (db : Database) (consumerId : Int) :
    ((db.deleteRefs .CONSUMER_GRUOP consumerId).insertRefs .CONSUMER_GRUOP (consumerEnvs consumerId refs)).isSome := by
  unfold Database.insertRefs Table.insertList
  rw [Option.isSome_map, refs_deleteRefs]
  split
  · rfl
  · next clash =>
    refine absurd ?_ clash
    rw [List.map_append]
    refine List.Nodup.append (Table.keys _) ?_ ?_
    · have keys : (consumerEnvs consumerId refs).map EnvironmentRef.key =
          (refs.map (·.environmentId)).map fun env => (consumerId, env) := by
        simp only [consumerEnvs, List.map_map]
        rfl
      rw [keys]
      exact distinct.map fun _ _ same => (Prod.mk.inj same).2
    · intro key member member'
      obtain ⟨ref, among, rfl⟩ := List.mem_map.mp member
      obtain ⟨ref', among', same⟩ := List.mem_map.mp member'
      have other := (List.mem_filter.mp among).2
      have own : ref'.resourceId = consumerId := own_consumerEnvs consumerId ref' among'
      have key : ref'.resourceId = ref.resourceId := (Prod.mk.inj same).1
      rw [own] at key
      simp [← key] at other

variable (fold dto orig refs) in
/-- The database after the first steps of an approval. -/
inductive Left (db : Database) : Nat → Database → Prop where
  | untouched {k : Nat} (before : dto.topicId = some orig.topicId ∨ k = 0) : Left db k db
  | deleted {k : Nat} (changed : dto.topicId ≠ some orig.topicId) (after : 0 < k)
      (before : k ≤ (refs.flatMap (nextRequests fold dto orig)).length + 1) :
      Left db k (db.deleteRefs .CONSUMER_GRUOP orig.id)
  | inserted {db' : Database} (changed : dto.topicId ≠ some orig.topicId)
      (done : .fails ∉ refs.flatMap (nextRequests fold dto orig))
      (into : (db.deleteRefs .CONSUMER_GRUOP orig.id).insertRefs .CONSUMER_GRUOP (consumerEnvs orig.id refs) =
        some db') :
      Left db ((refs.flatMap (nextRequests fold dto orig)).length + 2) db'

theorem applied_statement {change : Database → Option Database} {rest : List (Step Rows)} {r t : Rows} :
    applied (statement change :: rest) r = some t ↔
      ∃ db, change r.db = some db ∧ applied rest { r with db } = some t := by
  show ((change r.db).map _).bind (applied rest) = some t ↔ _
  cases change r.db <;> simp

/-- The steps before a stop can be taken again, and change nothing then. -/
theorem left_and_again (distinct : (refs.map (·.environmentId)).Nodup) {k : Nat} {r t : Rows}
    (below : k < (approvalSteps fold dto orig refs ++ [approvalStatement dto orig]).length)
    (done : applied ((approvalSteps fold dto orig refs ++ [approvalStatement dto orig]).take k) r = some t) :
    Left fold dto orig refs r.db k t.db ∧
      applied ((approvalSteps fold dto orig refs ++ [approvalStatement dto orig]).take k) t = some t := by
  have agree : Agree (refs.flatMap (nextRequests fold dto orig)) := agree_requests distinct
  have length := length_requestSteps dto (refs.flatMap (nextRequests fold dto orig))
  unfold approvalSteps at below done ⊢
  by_cases kept : dto.topicId = some orig.topicId
  · simp only [if_neg (not_not.mpr kept), List.nil_append, List.append_nil, List.length_append, List.length_singleton,
      length] at below done ⊢
    rw [List.take_append_of_le_length (by omega), requestSteps_take] at done ⊢
    obtain ⟨succeeds, rfl⟩ := applied_requestSteps.mp done
    refine ⟨.untouched (.inl kept), applied_requestSteps.mpr ⟨succeeds, ?_⟩⟩
    simp only [written_written (agree_take agree k)]
  · simp only [if_pos kept, List.cons_append, List.nil_append, List.length_cons, List.length_append, List.length_nil,
      length] at below done ⊢
    cases k with
    | zero =>
      cases done
      exact ⟨.untouched (.inr rfl), rfl⟩
    | succ k =>
      rw [List.take_succ_cons] at done ⊢
      obtain ⟨db, deleted, done⟩ := applied_statement.mp done
      obtain rfl := Option.some.inj deleted
      by_cases early : k ≤ (refs.flatMap (nextRequests fold dto orig)).length
      · rw [List.append_assoc, List.take_append_of_le_length (by omega), requestSteps_take] at done ⊢
        obtain ⟨succeeds, rfl⟩ := applied_requestSteps.mp done
        refine ⟨.deleted kept (Nat.succ_pos k) (by omega), applied_statement.mpr ⟨_, rfl, ?_⟩⟩
        refine applied_requestSteps.mpr ⟨succeeds, ?_⟩
        simp only [written_written (agree_take agree k), deleteRefs_deleteRefs]
      · obtain rfl : k = (refs.flatMap (nextRequests fold dto orig)).length + 1 := by omega
        rw [List.take_left' (by simp [length])] at done ⊢
        rw [applied_append] at done
        obtain ⟨mid, requested, done⟩ := Option.bind_eq_some_iff.mp done
        obtain ⟨succeeds, rfl⟩ := applied_requestSteps.mp requested
        obtain ⟨db', into, done⟩ := applied_statement.mp done
        cases done
        refine ⟨.inserted kept succeeds into, applied_statement.mpr ⟨_, rfl, ?_⟩⟩
        rw [applied_append, Option.bind_eq_some_iff]
        refine ⟨_, applied_requestSteps.mpr ⟨succeeds, rfl⟩, applied_statement.mpr ⟨db', ?_, ?_⟩⟩
        · simp only [deleteRefs_insertRefs (own_consumerEnvs orig.id) into, into]
        · simp only [written_written agree]
          rfl

end Stops

/-! ### The calls that throw -/

/-- The call finds the environments of the topic and the consumer. -/
structure Begins (dto : ConsumerDTO) (s : State) (orig : Consumer) (refs : List JoinedRef) : Prop where
  first : s.answers 0 = true
  second : s.answers 1 = true
  selected : (dto.topicId.map s.db.selectTopicAndCluster).getD [] = refs
  nonempty : refs ≠ []
  found : dto.id.bind s.db.consumers.get = some orig

def State.repaired (s : State) : State := { s with answers := fun _ => true }

section Calls
variable {fold : Char → Char} {dto : ConsumerDTO} {orig : Consumer} {refs : List JoinedRef} {s t : State}

theorem approveConsumer_of_begins (begins : Begins dto s orig refs) :
    approveConsumer fold dto s = asking.perform (approvalSteps fold dto orig refs ++ [approvalStatement dto orig])
      { s with answers := fun n => s.answers (n + 2) } := by
  rw [approveConsumer_eq, bind_of_returns (query_of_answered begins.first), begins.selected,
    ensure_bind begins.nonempty, getConsumer, bind_assoc]
  rw [bind_of_returns (query_of_answered begins.second), begins.found]
  rfl

theorem begins_or (fold : Char → Char) (dto : ConsumerDTO) (s : State) : (∃ orig refs, Begins dto s orig refs) ∨
    (approveConsumer fold dto s).1 = none ∧ (approveConsumer fold dto s).2.repaired = s.repaired := by
  rw [approveConsumer_eq]
  cases first : s.answers 0 with
  | false =>
    rw [bind_of_throws (query_of_refused first)]
    exact .inr ⟨rfl, rfl⟩
  | true =>
    rw [bind_of_returns (query_of_answered first)]
    by_cases nonempty : (dto.topicId.map s.db.selectTopicAndCluster).getD [] ≠ []
    case neg =>
      rw [ensure_bind_of_not nonempty]
      exact .inr ⟨rfl, rfl⟩
    rw [ensure_bind nonempty, getConsumer, bind_assoc]
    cases second : s.answers 1 with
    | false =>
      rw [bind_of_throws (query_of_refused second)]
      exact .inr ⟨rfl, rfl⟩
    | true =>
      rw [bind_of_returns (query_of_answered second)]
      cases found : dto.id.bind s.db.consumers.get with
      | none => exact .inr ⟨rfl, rfl⟩
      | some orig => exact .inl ⟨orig, _, first, second, rfl, nonempty, found⟩

theorem Begins.distinct (begins : Begins dto s orig refs) : (refs.map (·.environmentId)).Nodup := by
  rw [← begins.selected]
  cases dto.topicId with
  | none => exact List.nodup_nil
  | some topicId => exact environments_selectTopicAndCluster s.db topicId

theorem stops_of_throws (begins : Begins dto s orig refs) (throws : approveConsumer fold dto s = (none, t)) :
    ∃ k, Asking.Stops (approvalSteps fold dto orig refs ++ [approvalStatement dto orig]) (fun n => s.answers (n + 2))
      s.rows t.rows k := by
  have ended := Asking.perform_ended (A := asking) (approvalSteps fold dto orig refs ++ [approvalStatement dto orig])
    { s with answers := fun n => s.answers (n + 2) }
  rw [← approveConsumer_of_begins begins, throws] at ended
  cases ended with
  | throws stops => exact ⟨_, stops⟩

/-- What the call reads besides the references of consumers. -/
structure SameTopics (db db' : Database) : Prop where
  consumers : db'.consumers = db.consumers
  select : ∀ topicId, db'.selectTopicAndCluster topicId = db.selectTopicAndCluster topicId

theorem sameTopics_setRefs (db : Database) (refs : Table EnvironmentRef.key) :
    SameTopics db (db.setRefs .CONSUMER_GRUOP refs) := ⟨rfl, fun _ => rfl⟩

theorem Left.sameTopics {k : Nat} {db db' : Database} (left : Left fold dto orig refs db k db') : SameTopics db db' := by
  cases left with
  | untouched => exact ⟨rfl, fun _ => rfl⟩
  | deleted => exact sameTopics_setRefs db _
  | inserted _ _ into =>
    obtain ⟨_, -, rfl⟩ := insertRefs_eq_some into
    exact ⟨rfl, fun _ => rfl⟩

theorem Begins.repaired (begins : Begins dto s orig refs) (same : SameTopics s.db t.db) :
    Begins dto t.repaired orig refs where
  first := rfl
  second := rfl
  selected := by
    rw [← begins.selected]
    exact congrArg (fun select => (dto.topicId.map select).getD []) (funext same.select)
  nonempty := begins.nonempty
  found := by
    show dto.id.bind t.db.consumers.get = some orig
    rw [same.consumers]
    exact begins.found

variable (fold) in
theorem approveConsumer_repaired (begins : Begins dto s.repaired orig refs) :
    (approveConsumer fold dto s.repaired).1 =
        (finish (approvalSteps fold dto orig refs ++ [approvalStatement dto orig]) s.rows).1 ∧
      (approveConsumer fold dto s.repaired).2.rows =
        (finish (approvalSteps fold dto orig refs ++ [approvalStatement dto orig]) s.rows).2 := by
  rw [approveConsumer_of_begins begins]
  exact Asking.perform_finish (A := asking) _ _ fun _ => rfl

/-- A request that does not succeed though it is answered has nothing to ask for. -/
theorem fails_of_stops {requests : List ApprovalRequest} {rest : List (Step Rows)} {j : Nat} {r : Rows}
    (early : j < requests.length)
    (stops : applied (((requestSteps dto requests ++ rest).drop j).take 1) r = none) : .fails ∈ requests := by
  have length : j < (requestSteps dto requests).length := by rwa [length_requestSteps]
  rw [List.drop_append_of_le_length length.le, List.drop_eq_getElem_cons length, List.cons_append,
    List.take_succ_cons, List.take_zero] at stops
  simp only [requestSteps, List.getElem_map] at stops
  have member := List.getElem_mem early
  cases request : requests[j] with
  | fails =>
    rw [request] at member
    exact member
  | server =>
    rw [request] at stops
    cases stops
  | write env data =>
    rw [request] at stops
    cases stops

variable (fold dto s orig refs) in
/-- The references of the consumer when the call throws after it has deleted those before. -/
def refsLeft : List EnvironmentRef :=
  if .fails ∉ refs.flatMap (nextRequests fold dto orig) ∧
      ∀ i < (refs.flatMap (nextRequests fold dto orig)).length + 4, s.answers i = true
  then consumerEnvs orig.id refs else []

theorem listByConsumerId_of_stops (begins : Begins dto s orig refs) (changed : dto.topicId ≠ some orig.topicId)
    {k : Nat} (left : Left fold dto orig refs s.db k t.db) (past : 0 < k)
    (stops : Asking.Stops (approvalSteps fold dto orig refs ++ [approvalStatement dto orig])
      (fun n => s.answers (n + 2)) s.rows t.rows k) :
    t.db.listByConsumerId orig.id = refsLeft fold dto orig refs s := by
  unfold refsLeft
  generalize after : t.db = db at left
  cases left with
  | untouched before => exact absurd before (not_or.mpr ⟨changed, past.ne'⟩)
  | deleted _ _ before =>
    rw [listByConsumerId_deleteRefs, if_neg]
    intro ⟨succeeds, answered⟩
    have stopped := stops.stops (answered (k + 2) (by omega))
    obtain ⟨j, rfl⟩ : ∃ j, k = j + 1 := ⟨k - 1, by omega⟩
    unfold approvalSteps at stopped
    simp only [if_pos changed, List.cons_append, List.nil_append, List.drop_succ_cons, List.append_assoc] at stopped
    by_cases early : j < (refs.flatMap (nextRequests fold dto orig)).length
    · exact succeeds (fails_of_stops early stopped)
    · obtain rfl : j = (refs.flatMap (nextRequests fold dto orig)).length := by omega
      rw [List.drop_left' (length_requestSteps ..)] at stopped
      obtain ⟨db, into⟩ := Option.isSome_iff_exists.mp (insertRefs_consumerEnvs begins.distinct s.db orig.id)
      have inserts : applied [statement fun db => db.insertRefs .CONSUMER_GRUOP (consumerEnvs orig.id refs)] t.rows =
          some { t.rows with db } := by
        apply applied_statement.mpr
        refine ⟨db, ?_, rfl⟩
        rw [← after] at into
        exact into
      rw [List.take_succ_cons, List.take_zero, inserts] at stopped
      cases stopped
  | inserted _ succeeds into =>
    rw [listByConsumerId_insertRefs (own_consumerEnvs orig.id) into, if_pos]
    refine ⟨succeeds, fun i below => ?_⟩
    match i with
    | 0 => exact begins.first
    | 1 => exact begins.second
    | i + 2 => exact stops.passed i (by omega)

variable (fold dto s t) in
/-- The consumer and its references are as before, and the same call without a fault ends as it would have
ended at once. -/
structure ChangesNothing : Prop where
  consumer : dto.id.bind t.db.consumers.get = dto.id.bind s.db.consumers.get
  refs : ∀ consumerId, dto.id = some consumerId →
    ∀ ref, ref ∈ t.db.listByConsumerId consumerId ↔ ref ∈ s.db.listByConsumerId consumerId
  answer : (approveConsumer fold dto t.repaired).1 = (approveConsumer fold dto s.repaired).1
  ends : (approveConsumer fold dto t.repaired).2.rows = (approveConsumer fold dto s.repaired).2.rows

variable (fold dto s) in
/-- The call keeps the topic of the consumer, or throws before it deletes the references, or they are the
same that it leaves. -/
def KeepsReferences : Prop :=
  ∀ orig refs, Begins dto s orig refs → dto.topicId = some orig.topicId ∨ s.answers 2 = false ∨
    ∀ ref, ref ∈ s.db.listByConsumerId orig.id ↔ ref ∈ refsLeft fold dto orig refs s

theorem Begins.id_eq (begins : Begins dto s orig refs) : dto.id = some orig.id := by
  obtain ⟨consumerId, named, found⟩ := Option.bind_eq_some_iff.mp begins.found
  rw [named, (Table.get_eq_some_iff.mp found).2]

theorem references_of_throws (begins : Begins dto s orig refs) (throws : approveConsumer fold dto s = (none, t)) :
    if dto.topicId = some orig.topicId ∨ s.answers 2 = false then t.db = s.db
    else t.db.listByConsumerId orig.id = refsLeft fold dto orig refs s := by
  obtain ⟨k, stops⟩ := stops_of_throws begins throws
  have left := (left_and_again begins.distinct stops.below stops.done).1
  by_cases changed : dto.topicId ≠ some orig.topicId
  case neg =>
    rw [if_pos (.inl (not_not.mp changed))]
    generalize after : t.rows.db = db at left
    cases left with
    | untouched => exact after
    | deleted different => exact absurd different changed
    | inserted different => exact absurd different changed
  cases k with
  | succ k =>
    rw [if_neg (not_or.mpr ⟨changed, ?_⟩)]
    · exact listByConsumerId_of_stops begins changed left (Nat.succ_pos k) stops
    · have deleted : s.answers 2 = true := stops.passed 0 (Nat.succ_pos k)
      rw [deleted]
      decide
  | zero =>
    have refused : s.answers 2 = false := by
      cases answered : s.answers 2 with
      | false => rfl
      | true =>
        have fails := stops.stops answered
        unfold approvalSteps at fails
        rw [if_pos changed] at fails
        cases fails
    rw [if_pos (.inr refused)]
    generalize after : t.rows.db = db at left
    cases left with
    | untouched => exact after
    | deleted _ past => cases past

/-- Nothing is lost for good: the call that is made again ends as the first one without a fault. -/
theorem repeats_of_throws (begins : Begins dto s orig refs) (throws : approveConsumer fold dto s = (none, t)) :
    (approveConsumer fold dto t.repaired).1 = (approveConsumer fold dto s.repaired).1 ∧
      (approveConsumer fold dto t.repaired).2.rows = (approveConsumer fold dto s.repaired).2.rows ∧
      t.db.consumers = s.db.consumers := by
  obtain ⟨k, stops⟩ := stops_of_throws begins throws
  obtain ⟨left, again⟩ := left_and_again begins.distinct stops.below stops.done
  have same : SameTopics s.db t.db := left.sameTopics
  have first := approveConsumer_repaired fold (begins.repaired ⟨rfl, fun _ => rfl⟩)
  have second := approveConsumer_repaired fold (begins.repaired same)
  have both := finish_again stops.done again
  refine ⟨?_, ?_, same.consumers⟩
  · rw [first.1, second.1, both]
  · rw [first.2, second.2, both]

/-- The deletion of the references is no transaction with the loop and the new references. -/
theorem changesNothing_iff (throws : approveConsumer fold dto s = (none, t)) :
    ChangesNothing fold dto s t ↔ KeepsReferences fold dto s := by
  constructor
  · intro nothing orig refs begins
    have left := references_of_throws begins throws
    split at left
    · next kept => exact kept.imp id .inl
    · right
      right
      intro ref
      rw [← left]
      exact (nothing.refs orig.id begins.id_eq ref).symm
  · intro keeps
    rcases begins_or fold dto s with ⟨orig, refs, begins⟩ | ⟨-, same⟩
    · have left := references_of_throws begins throws
      obtain ⟨answer, ends, consumers⟩ := repeats_of_throws begins throws
      refine ⟨by rw [consumers], fun consumerId named => ?_, answer, ends⟩
      obtain rfl : orig.id = consumerId := Option.some.inj (begins.id_eq.symm.trans named)
      intro ref
      split at left
      · rw [left]
      · next deleted =>
        rw [left]
        exact (((keeps orig refs begins).resolve_left fun kept => deleted (.inl kept)).resolve_left
          (fun refused => deleted (.inr refused)) ref).symm
    · rw [throws] at same
      change t.repaired = s.repaired at same
      have db : t.repaired.db = s.repaired.db := congrArg State.db same
      change t.db = s.db at db
      refine ⟨by rw [db], fun _ _ _ => by rw [db], ?_, ?_⟩
      · exact congrArg (fun u => (approveConsumer fold dto u).1) same
      · exact congrArg (fun u => (approveConsumer fold dto u).2.rows) same

end Calls

/-- A group of the first of two topics in one environment; the request `failing` gets no answer. -/
def twoTopics (failing : Nat) : State where
  db :=
    { environments := [1]
      services := .ofList [⟨⟨10, 1, "main", "ROCKETMQ", false⟩, "ENABLE"⟩]
      topics := .ofList [⟨⟨1, "orders", CREATE_APPROVED⟩, "owner", some 4⟩,
        ⟨⟨2, "bills", CREATE_APPROVED⟩, "owner", some 4⟩]
      consumers := .ofList [⟨⟨1, "billing", 1, UPDATE_NEW, false, false, 0, 0⟩, "owner"⟩]
      refs
        | .TOPIC => .ofList [.plain 1 1 (some 10), .plain 2 1 (some 10)]
        | .CONSUMER_GRUOP => .ofList [.plain 1 1 (some 10)] }
  nodes _ _ _ := none
  clusters _ name := some ⟨name, none, some .ROCKETMQ, none⟩
  answers n := n ≠ failing

/-- An approval that moves the group to the second topic. -/
def moved : ConsumerDTO :=
  ⟨some 1, some "billing", some 2, some "domain", some "memo", some 1, none, some false, some false, none, 0, 0⟩

theorem moved_throws : approveConsumer Char.toLower moved (twoTopics 3) =
    (none, (approveConsumer Char.toLower moved (twoTopics 3)).2) := Prod.ext (by decide) rfl

/-- The node is not written, and the group has lost its reference. -/
theorem loses_references : ∃ t, approveConsumer Char.toLower moved (twoTopics 3) = (none, t) ∧
    ¬ChangesNothing Char.toLower moved (twoTopics 3) t := by
  refine ⟨_, moved_throws, fun nothing => ?_⟩
  have kept := (nothing.refs 1 rfl (.plain 1 1 (some 10))).mpr (by decide)
  exact absurd kept (by decide)

theorem changesNothing_iff_moved :
    ChangesNothing Char.toLower moved (twoTopics 3) (approveConsumer Char.toLower moved (twoTopics 3)).2 ↔
      KeepsReferences Char.toLower moved (twoTopics 3) := changesNothing_iff moved_throws

end Zms.Portal.Resources
