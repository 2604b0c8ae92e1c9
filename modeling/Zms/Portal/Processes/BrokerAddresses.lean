import Zms.Portal.Processes.NodesFollow

/-! The cluster nodes list the brokers that were started, as long as the listeners do their work. -/

set_option autoImplicit false

namespace Zms.Portal.Clusters

open Zms.Registry Zms.Transition Zms.Portal.Processes

section Addresses
variable (hosts : Table ZmsHost.id)

/-- The addresses of the instances of a service that were started, each that of its last start. -/
def startedAddrs (db : Database) (serviceId : Int) : List String :=
  (queryHostServiceInstance hosts db serviceId).filterMap (brokerAddr db (lastProcess db (· = .SUCCESS)))

/-- The node of the service lists them. -/
def Lists (db : Database) (nodes : Nodes) (service : ZmsServiceEntity) : Prop :=
  ∃ data, nodes service.environmentId service.serverName = some data ∧
    data.bootAddr = some (",".intercalate (startedAddrs hosts db service.id))

variable {hosts} {services : Services} {db after : Database} {starts : Int → Prop} {serviceId : Int}

theorem mem_query {instance_ : HostServiceInstanceDTO}
    (listed : instance_ ∈ queryHostServiceInstance hosts db serviceId) :
    ∃ row ∈ db.instances.rows, row.serviceId = serviceId ∧ row.isDeleted = false ∧ row.id = instance_.id := by
  obtain ⟨row, member, rfl⟩ := List.mem_map.mp listed
  obtain ⟨isRow, holds⟩ := List.mem_filter.mp member
  simp only [Bool.and_eq_true, decide_eq_true_eq, Bool.not_eq_true'] at holds
  exact ⟨row, isRow, holds.1, holds.2, rfl⟩

theorem Rows.service_eq (placed : Rows services db) {row : ServiceInstance} (isRow : row ∈ db.instances.rows)
    {process : ServiceProcess} (isProcess : process ∈ db.processes.rows) (own : process.instanceId = row.id) :
    process.serviceId = row.serviceId := by
  obtain ⟨other, isOther, isId, same⟩ := placed.processes process isProcess
  rw [← same, List.inj_on_of_nodup_map db.instances.keys isOther isRow (isId.trans own)]

theorem lastProcess_congr {counts others : ProcessStatus → Bool} {instanceId : Int}
    (same : ∀ process ∈ db.processes.rows, process.instanceId = instanceId →
      counts process.status = others process.status) :
    lastProcess db counts instanceId = lastProcess db others instanceId := by
  unfold lastProcess
  refine congrArg (fun rows => (List.map ServiceProcess.id rows).max?) (List.filter_congr fun process member => ?_)
  by_cases own : process.instanceId = instanceId
  · rw [same process member own]
  · simp [own]

theorem mem_of_lastProcess {counts : ProcessStatus → Bool} {instanceId processId : Int}
    (isLast : lastProcess db counts instanceId = some processId) :
    ∃ process ∈ db.processes.rows, process.id = processId ∧ process.instanceId = instanceId := by
  obtain ⟨process, listed, isId⟩ := List.mem_map.mp (List.max?_mem isLast)
  obtain ⟨member, holds⟩ := List.mem_filter.mp listed
  simp only [Bool.and_eq_true, decide_eq_true_eq] at holds
  exact ⟨process, member, isId, holds.1⟩

theorem brokerAddr_congr {last lastAfter : Int → Option Int} {instance_ : HostServiceInstanceDTO}
    (same : lastAfter instance_.id = last instance_.id)
    (refs : listByProcessIdName after (last instance_.id) "listeners" =
      listByProcessIdName db (last instance_.id) "listeners") :
    brokerAddr after lastAfter instance_ = brokerAddr db last instance_ := by
  unfold brokerAddr
  rw [same, refs]

theorem brokerAddr_of_none {last : Int → Option Int} {instance_ : HostServiceInstanceDTO}
    (never : last instance_.id = none) : brokerAddr db last instance_ = none := by
  have empty : listByProcessIdName db (last instance_.id) "listeners" = [] :=
    List.filter_eq_nil_iff.mpr fun ref _ => by simp [never]
  unfold brokerAddr
  rw [empty]
  rfl

theorem startedAddrs_congr (same : queryHostServiceInstance hosts after serviceId =
      queryHostServiceInstance hosts db serviceId)
    (addr : ∀ instance_ ∈ queryHostServiceInstance hosts db serviceId,
      brokerAddr after (lastProcess after (· = .SUCCESS)) instance_ =
        brokerAddr db (lastProcess db (· = .SUCCESS)) instance_) :
    startedAddrs hosts after serviceId = startedAddrs hosts db serviceId := by
  unfold startedAddrs
  rw [same]
  exact List.filterMap_congr addr

theorem filterMap_of_mapM {α β : Type} {f : α → Option β} {xs : List α} {ys : List β} (all : xs.mapM f = some ys) :
    xs.filterMap f = ys := by
  induction xs generalizing ys with
  | nil => exact Option.some.inj all
  | cons x xs ih =>
      rw [List.mapM_cons] at all
      obtain ⟨y, isY, rest⟩ := Option.bind_eq_some_iff.mp all
      obtain ⟨ys', isRest, isAll⟩ := Option.bind_eq_some_iff.mp rest
      rw [List.filterMap_cons_some isY, ih isRest]
      exact Option.some.inj isAll

/-- While no process of the service starts, what the listener writes is what was started. -/
theorem brokerAddrList_of_settled (placed : Rows services db)
    (settled : ∀ process ∈ db.processes.rows, process.serviceId = serviceId → process.status ≠ .INIT)
    {addrs : List String}
    (isAddrs : brokerAddrList hosts db (listLastSuccessProcessByInstance db) serviceId = some addrs) :
    startedAddrs hosts db serviceId = addrs := by
  rw [← filterMap_of_mapM isAddrs]
  unfold startedAddrs
  refine List.filterMap_congr fun instance_ listed => ?_
  obtain ⟨row, isRow, ofService, _, isId⟩ := mem_query listed
  refine brokerAddr_congr (lastProcess_congr fun process member own => ?_) rfl
  have notInit := settled process member ((placed.service_eq isRow member (own.trans isId.symm)).trans ofService)
  cases status : process.status with
  | INIT => exact absurd status notInit
  | SUCCESS => rfl
  | FAILURE => rfl

/-! ### What keeps the addresses -/

theorem startedAddrs_of_alike (placed : Rows services db) (alike : Alike starts db after) (none : ¬starts serviceId) :
    startedAddrs hosts after serviceId = startedAddrs hosts db serviceId := by
  refine startedAddrs_congr ?_ fun instance_ listed => ?_
  · obtain ⟨f, rows, keeps⟩ := alike.instances
    unfold queryHostServiceInstance
    rw [rows, List.filter_map, List.map_map]
    have same : ((fun row : ServiceInstance => decide (row.serviceId = serviceId) && !row.isDeleted) ∘ f) =
        fun row => decide (row.serviceId = serviceId) && !row.isDeleted := by
      funext row
      obtain ⟨_, ofService, _, isDeleted⟩ := keeps row
      simp [ofService, isDeleted]
    rw [same]
    refine List.map_congr_left fun row _ => ?_
    obtain ⟨id, _, hostId, _⟩ := keeps row
    simp [id, hostId]
  · obtain ⟨row, isRow, ofService, _, isId⟩ := mem_query listed
    obtain ⟨g, rows, keeps⟩ := alike.processes
    refine brokerAddr_congr ?_ (by unfold listByProcessIdName; rw [alike.refs])
    unfold lastProcess
    rw [rows, List.filter_map, List.map_map]
    have kept : db.processes.rows.filter ((fun process => decide (process.instanceId = instance_.id) &&
          decide (process.status = .SUCCESS)) ∘ g) =
        db.processes.rows.filter fun process => decide (process.instanceId = instance_.id) &&
          decide (process.status = .SUCCESS) := by
      refine List.filter_congr fun process member => ?_
      obtain ⟨_, _, instanceId, _, isSuccess⟩ := keeps process member
      by_cases own : process.instanceId = instance_.id
      · have sameService := (placed.service_eq isRow member (own.trans isId.symm)).trans ofService
        simp [instanceId, own, isSuccess (sameService ▸ none)]
      · simp [instanceId, own]
    rw [kept]
    refine congrArg List.max? (List.map_congr_left fun process member => ?_)
    exact (keeps process (List.mem_filter.mp member).1).1

theorem lt_nextId {process : ServiceProcess} (member : process ∈ db.processes.rows) :
    process.id < Programs.nextId db := by
  have atMost (ids : List Int) (start : Int) : start ≤ ids.foldl max start ∧ ∀ id ∈ ids, id ≤ ids.foldl max start := by
    induction ids generalizing start with
    | nil => exact ⟨le_refl start, fun _ impossible => by cases impossible⟩
    | cons first rest ih =>
        obtain ⟨fromStart, fromRest⟩ := ih (max start first)
        refine ⟨(le_max_left start first).trans fromStart, fun id isId => ?_⟩
        rcases List.mem_cons.mp isId with rfl | inRest
        · exact (le_max_right start id).trans fromStart
        · exact fromRest id inRest
  have bound := (atMost (db.processes.rows.map ServiceProcess.id) 0).2 process.id (List.mem_map_of_mem member)
  unfold Programs.nextId
  omega

theorem startedAddrs_addProcesses {new : List ServiceProcess} {processes : Table ServiceProcess.id}
    (inserted : db.processes.insertList new = some processes) (isInit : ∀ process ∈ new, process.status = .INIT)
    {refs : List ProcessPropertyValueRef} (fresh : ∀ ref ∈ refs, Programs.nextId db ≤ ref.serviceProcessId) :
    startedAddrs hosts { db with processes, refs := db.refs ++ refs } serviceId = startedAddrs hosts db serviceId := by
  refine startedAddrs_congr rfl fun instance_ _ => ?_
  refine brokerAddr_congr ?_ ?_
  · unfold lastProcess
    have none : new.filter (fun process => decide (process.instanceId = instance_.id) &&
        decide (process.status = .SUCCESS)) = [] :=
      List.filter_eq_nil_iff.mpr fun process member => by simp [isInit process member]
    dsimp only
    rw [Table.rows_of_insertList inserted, List.filter_append, none, List.append_nil]
  · unfold listByProcessIdName
    dsimp only
    rw [List.filter_append, List.append_right_eq_self, List.filter_eq_nil_iff]
    intro ref member holds
    simp only [Bool.and_eq_true, decide_eq_true_eq] at holds
    obtain ⟨process, isProcess, isId, _⟩ := mem_of_lastProcess holds.1.symm
    have older := lt_nextId isProcess
    have newer := fresh ref member
    omega

theorem startedAddrs_addInstance (placed : Rows services db) {row : ServiceInstance}
    {instances : Table ServiceInstance.id} (inserted : db.instances.insertList [row] = some instances) :
    startedAddrs hosts { db with instances } serviceId = startedAddrs hosts db serviceId := by
  have rows := Table.rows_of_insertList inserted
  have never : lastProcess db (· = .SUCCESS) row.id = none := by
    unfold lastProcess
    rw [List.max?_eq_none_iff, List.map_eq_nil_iff, List.filter_eq_nil_iff]
    intro process member holds
    simp only [Bool.and_eq_true, decide_eq_true_eq] at holds
    obtain ⟨other, isOther, isId, _⟩ := placed.processes process member
    have keys := instances.keys
    rw [rows, List.map_append, List.nodup_append] at keys
    exact keys.2.2 _ (List.mem_map_of_mem isOther) row.id (by simp) (isId.trans holds.1)
  unfold startedAddrs queryHostServiceInstance
  dsimp only
  rw [rows, List.filter_append, List.map_append, List.filterMap_append]
  change _ ++ List.filterMap (brokerAddr db (lastProcess db (· = .SUCCESS))) _ = _
  refine (List.append_right_eq_self.mpr ?_)
  refine List.filterMap_eq_nil_iff.mpr fun instance_ listed => ?_
  obtain ⟨other, isOther, rfl⟩ := List.mem_map.mp listed
  obtain rfl := List.mem_singleton.mp (List.mem_filter.mp isOther).1
  have none (instance_ : HostServiceInstanceDTO) (same : instance_.id = other.id) :
      brokerAddr db (lastProcess db (· = .SUCCESS)) instance_ = none := brokerAddr_of_none (same ▸ never)
  exact none _ rfl

theorem startedAddrs_deleteByIds {ids : List Int}
    (others : ∀ row ∈ db.instances.rows, row.isDeleted = false → row.serviceId = serviceId → row.id ∉ ids) :
    startedAddrs hosts (Programs.deleteByIds db ids) serviceId = startedAddrs hosts db serviceId := by
  refine startedAddrs_congr ?_ fun _ _ => rfl
  unfold queryHostServiceInstance Programs.deleteByIds Table.update
  dsimp only
  rw [List.filter_map, List.map_map]
  have kept : db.instances.rows.filter ((fun row => decide (row.serviceId = serviceId) && !row.isDeleted) ∘
        fun row => if row.id ∈ ids then { row with isDeleted := true } else row) =
      db.instances.rows.filter fun row => decide (row.serviceId = serviceId) && !row.isDeleted := by
    refine List.filter_congr fun row member => ?_
    simp only [Function.comp_apply]
    split
    · next deleted =>
        cases isDeleted : row.isDeleted with
        | true => simp
        | false =>
            have other : row.serviceId ≠ serviceId := fun own => others row member isDeleted own deleted
            simp [other]
    · rfl
  rw [kept]
  refine List.map_congr_left fun row _ => ?_
  simp only [Function.comp_apply]
  split <;> rfl

end Addresses

/-! ### Runs -/

/-- A live service of Kafka, some process of which was started, and for which no listener waits. -/
structure Running (s : State) (service : ZmsServiceEntity) : Prop where
  row : service ∈ s.services.rows
  live : service.isDeleted = false
  kafka : service.serverType = "KAFKA"
  quiet : ∀ waiting ∈ s.waiting, waiting.serviceId ≠ service.id
  started : ∃ process ∈ s.db.processes.rows, process.serviceId = service.id ∧ process.status = .SUCCESS

def Current (hosts : Table ZmsHost.id) (s : State) : Prop :=
  ∀ service, Running s service → Lists hosts s.db s.nodes service

/-- The listeners are called and do their work, while no process of their service starts; only processes that
were started are reported, and no service is deleted twice. -/
def Listened (hosts : Table ZmsHost.id) (s : State) : Action → Prop
  | .startProcess _ outside => outside.throws .listenerStart = false
  | .updateRunningStatus serviceProcesses => Reports (fun _ => False) s.db serviceProcesses
  | .listen waiting answers => answers = true ∧
      (start hosts s waiting.serviceId waiting.processId).isSome = true ∧ s.Settled waiting.serviceId
  | .deleteServiceInstance ids answers => (removeEach hosts s ids answers).1 = some () ∧
      ∀ row ∈ listByInstanceIds s.db ids, s.Settled row.serviceId
  | .deleteService id _ => isLive s.services id = true
  | _ => True

instance (starts : Int → Prop) [DecidablePred starts] (db : Database) (serviceProcesses : List Reported) :
    Decidable (Reports starts db serviceProcesses) :=
  inferInstanceAs (Decidable (∀ entry ∈ serviceProcesses, ∀ row ∈ db.processes.rows, _ → _))

instance (hosts : Table ZmsHost.id) (s : State) (a : Action) : Decidable (Listened hosts s a) := by
  apply Action.casesOn (motive := fun a => Decidable (Listened hosts s a)) a <;> intros <;> dsimp only [Listened] <;>
    infer_instance

section Runs
variable {fold : Char → Char} {hosts : Table ZmsHost.id} {s t : State} {starts : Int → Prop}

/-- A service whose node is not written keeps its node and its addresses. -/
theorem current_of (current : Current hosts s) (each : ∀ service, Running t service → Lists hosts t.db t.nodes service ∨
    Running s service ∧
      t.nodes service.environmentId service.serverName = s.nodes service.environmentId service.serverName ∧
      startedAddrs hosts t.db service.id = startedAddrs hosts s.db service.id) : Current hosts t := by
  intro service running
  rcases each service running with written | ⟨before, sameNode, sameAddrs⟩
  · exact written
  · obtain ⟨data, isData, addr⟩ := current service before
    exact ⟨data, sameNode.trans isData, by rw [addr, sameAddrs]⟩

theorem current_of_alike (placed : Placed s) (current : Current hosts s) (alike : Alike starts s.db t.db)
    (services : t.services = s.services) (nodes : t.nodes = s.nodes)
    (waiting : ∀ serviceId, (∀ waiting ∈ t.waiting, waiting.serviceId ≠ serviceId) →
      ¬starts serviceId ∧ ∀ waiting ∈ s.waiting, waiting.serviceId ≠ serviceId) : Current hosts t := by
  refine current_of current fun service running => .inr ?_
  obtain ⟨none, quiet⟩ := waiting service.id running.quiet
  have started : ∃ process ∈ s.db.processes.rows, process.serviceId = service.id ∧ process.status = .SUCCESS := by
    obtain ⟨process, member, own, success⟩ := running.started
    obtain ⟨g, rows, keeps⟩ := alike.processes
    rw [rows] at member
    obtain ⟨old, isOld, rfl⟩ := List.mem_map.mp member
    obtain ⟨_, serviceId, _, _, isSuccess⟩ := keeps old isOld
    rw [serviceId] at own
    exact ⟨old, isOld, own, (isSuccess (own ▸ none)).mp success⟩
  refine ⟨⟨services ▸ running.row, running.live, running.kafka, quiet, started⟩, by rw [nodes], ?_⟩
  exact startedAddrs_of_alike placed.rows alike none

theorem current_startProcess (placed : Placed s) (current : Current hosts s) {process : ServiceProcess}
    {outside : Outside} (known : s.db.processes.get process.id = some process) (isInit : process.status = .INIT)
    (listens : outside.throws .listenerStart = false) : Current hosts (startProcess hosts s process outside) := by
  have alike : Alike (fun serviceId => serviceId = process.serviceId ∧
      (Processes.startProcess hosts outside process.instanceId process.id s.db).1 = some ()) s.db
      (startProcess hosts s process outside).db := by
    refine alike_startProcess known isInit fun returns => ⟨rfl, returns.resolve_right fun throws => ?_⟩
    rw [listens] at throws
    cases throws
  refine current_of_alike placed current alike rfl rfl fun serviceId quiet => ?_
  unfold startProcess at quiet
  dsimp only at quiet
  split at quiet
  · refine ⟨fun starts => ?_, fun waiting member => quiet waiting (List.mem_append_left _ member)⟩
    exact quiet ⟨process.serviceId, process.id⟩ (List.mem_append_right _ (List.mem_singleton.mpr rfl)) starts.1.symm
  · next throws => exact ⟨fun starts => throws starts.2, quiet⟩

theorem lists_of_writes {services : Services} {db : Database} (placed : Rows services db) {service : ZmsServiceEntity}
    (settled : ∀ process ∈ db.processes.rows, process.serviceId = service.id → process.status ≠ .INIT)
    {processId : Int} {metadata : ClusterMetadata}
    (assembles : assembleClusterDto hosts db services service processId = some metadata) {nodes after : Nodes}
    (writes : Writes service metadata nodes after) : Lists hosts db after service := by
  obtain ⟨data, isData, sameAddr⟩ := writes.here
  obtain ⟨_, addrs, isAddrs, addr⟩ := assembled assembles
  refine ⟨data, isData, ?_⟩
  rw [sameAddr, addr, brokerAddrList_of_settled placed settled isAddrs]

theorem apart_of_unique (placed : Placed s) {service other : ZmsServiceEntity} (isRow : service ∈ s.services.rows)
    (isOther : other ∈ s.services.rows) (live : service.isDeleted = false) (otherLive : other.isDeleted = false)
    (apart : service.id ≠ other.id) :
    ¬(service.environmentId = other.environmentId ∧ service.serverName = other.serverName) := fun same =>
  apart (congrArg _ (placed.unique service isRow other isOther live otherLive same.1 same.2))

theorem current_listen (placed : Placed s) (current : Current hosts s) {waiting : Waiting} (waits : waiting ∈ s.waiting)
    {answers : Bool} (listened : answers = true ∧
      (start hosts s waiting.serviceId waiting.processId).isSome = true ∧ s.Settled waiting.serviceId) :
    Current hosts (listen hosts s waiting answers) := by
  obtain ⟨rfl, returns, settled⟩ := listened
  obtain ⟨nodes, starts⟩ := Option.isSome_iff_exists.mp returns
  have written : (listen hosts s waiting true).nodes = nodes := by
    unfold listen
    rw [if_pos rfl, starts]
    rfl
  obtain ⟨own, isService, effect⟩ := started starts
  obtain ⟨isRow, isId⟩ := Table.get_eq_some_iff.mp isService
  obtain ⟨owner, isOwner, ownerId, isLeft⟩ := isLive_iff.mp (placed.waiting waiting waits).1
  obtain rfl := List.inj_on_of_nodup_map s.services.keys isOwner isRow (ownerId.trans isId.symm)
  refine current_of current fun service running => ?_
  by_cases same : service.id = owner.id
  · obtain rfl := List.inj_on_of_nodup_map s.services.keys running.row isRow same
    rcases effect with ⟨other, _⟩ | ⟨_, metadata, assembles, writes⟩
    · exact absurd running.kafka other
    · exact .inl (written ▸ lists_of_writes placed.rows (isId ▸ settled) assembles writes)
  · refine .inr ⟨⟨running.row, running.live, running.kafka, fun other member => ?_, running.started⟩, ?_, rfl⟩
    · by_cases it : other = waiting
      · exact fun sameId => same (sameId.symm.trans (it ▸ isId.symm))
      · exact running.quiet other ((List.mem_erase_of_ne it).mpr member)
    · rw [written]
      rcases effect with ⟨_, unchanged⟩ | ⟨_, metadata, _, writes⟩
      · rw [unchanged]
      · exact writes.elsewhere _ _ (apart_of_unique placed running.row isRow running.live isLeft same)

theorem current_createProcess (current : Current hosts s) {instanceIds : List Int}
    {refs : List ProcessPropertyValueRef} (fresh : ∀ ref ∈ refs, Programs.nextId s.db ≤ ref.serviceProcessId)
    (one : ∀ row ∈ listByInstanceIds s.db instanceIds, ∀ other ∈ listByInstanceIds s.db instanceIds,
      row.serviceId = other.serviceId) : Current hosts (createProcess hosts s instanceIds refs) := by
  unfold createProcess
  split
  · exact current
  · next serviceId accepted =>
      split
      · exact current
      · next processes inserted =>
          have isInit : ∀ process ∈ Programs.newProcesses s.db serviceId (listHostByInstanceIds hosts s.db instanceIds),
              process.status = .INIT := fun _ isNew => (newProcess_own accepted one isNew).1
          refine current_of current fun service running =>
            .inr ⟨?_, rfl, startedAddrs_addProcesses inserted isInit fresh⟩
          refine ⟨running.row, running.live, running.kafka, running.quiet, ?_⟩
          obtain ⟨process, member, own, success⟩ := running.started
          dsimp only at member
          rw [Table.rows_of_insertList inserted] at member
          rcases List.mem_append.mp member with old | new
          · exact ⟨process, old, own, success⟩
          · rw [isInit process new] at success
            cases success

theorem current_addService (placed : Placed s) (current : Current hosts s) (row : ZmsServiceEntity) :
    Current hosts { s with services := (s.services.insertList [row]).getD s.services } := by
  cases inserted : s.services.insertList [row] with
  | none => exact current
  | some services =>
      have rows := Table.rows_of_insertList inserted
      refine current_of current fun service running => .inr ⟨?_, rfl, rfl⟩
      refine ⟨?_, running.live, running.kafka, running.quiet, running.started⟩
      have member : service ∈ s.services.rows ++ [row] := rows ▸ running.row
      rcases List.mem_append.mp member with old | new
      · exact old
      · obtain rfl := List.mem_singleton.mp new
        -- its id is that of no service before
        obtain ⟨process, isProcess, own, _⟩ := running.started
        obtain ⟨instance_, isInstance, _, same⟩ := placed.rows.processes process isProcess
        obtain ⟨before, isBefore, isId⟩ := Table.isSome_get_iff.mp (placed.rows.housed instance_ isInstance)
        have keys := services.keys
        rw [rows, List.map_append, List.nodup_append] at keys
        exact absurd (isId.trans (same.trans own)) (keys.2.2 _ (List.mem_map_of_mem isBefore) service.id (by simp))

theorem current_addServiceInstance (placed : Placed s) (current : Current hosts s) (row : ServiceInstance) :
    Current hosts
      { s with db := { s.db with instances := (s.db.instances.insertList [row]).getD s.db.instances } } := by
  cases inserted : s.db.instances.insertList [row] with
  | none => exact current
  | some instances =>
      refine current_of current fun service running => .inr ⟨?_, rfl, startedAddrs_addInstance placed.rows inserted⟩
      exact ⟨running.row, running.live, running.kafka, running.quiet, running.started⟩

/-- A call of `remove` leaves the node of a service with its addresses, or is that of another service. -/
theorem lists_of_removal {db : Database} (placed : Placed s) (rows : Rows s.services db) {item : ServiceInstance}
    (settled : ∀ process ∈ db.processes.rows, process.serviceId = item.serviceId → process.status ≠ .INIT)
    (isLeft : isLive s.services item.serviceId = true) {nodes after : Nodes}
    (removal : Removal hosts db s.services item nodes (some ()) after) {service : ZmsServiceEntity}
    (running : Running s service) (before : Lists hosts db nodes service ∨ item.serviceId = service.id) :
    Lists hosts db after service := by
  have isIt {owner : ZmsServiceEntity} (isOwner : s.services.get item.serviceId = some owner)
      (own : item.serviceId = service.id) : owner = service :=
    Option.some.inj (isOwner.symm.trans (own ▸ Table.get_key running.row))
  rcases removal with ⟨rfl, other⟩ | ⟨owner, process, metadata, isOwner, _, _, assembles, writes⟩
  · refine before.resolve_right fun own => ?_
    obtain ⟨owner, isOwner, notKafka⟩ := other rfl
    exact notKafka (isIt isOwner own ▸ running.kafka)
  · obtain ⟨isRow, isId⟩ := Table.get_eq_some_iff.mp isOwner
    by_cases own : item.serviceId = service.id
    · obtain rfl := isIt isOwner own
      exact lists_of_writes rows (isId ▸ settled) assembles writes
    · obtain ⟨other, isOther, otherId, live⟩ := isLive_iff.mp isLeft
      obtain rfl := List.inj_on_of_nodup_map s.services.keys isOther isRow (otherId.trans isId.symm)
      obtain ⟨data, isData, addr⟩ := before.resolve_right own
      have apart := apart_of_unique placed running.row isRow running.live live fun same =>
        own (otherId.symm.trans same.symm)
      exact ⟨data, (writes.elsewhere _ _ apart).trans isData, addr⟩

theorem lists_of_forEach {db : Database} (placed : Placed s) (rows : Rows s.services db) {answers : Int → Bool}
    {items : List ServiceInstance} (settled : ∀ item ∈ items, ∀ process ∈ db.processes.rows,
      process.serviceId = item.serviceId → process.status ≠ .INIT)
    (live : ∀ item ∈ items, isLive s.services item.serviceId = true) {nodes : Nodes}
    (returns : (Throwing.forEach (remove hosts db s.services answers) items nodes).1 = some ())
    {service : ZmsServiceEntity} (running : Running s service)
    (before : Lists hosts db nodes service ∨ ∃ item ∈ items, item.serviceId = service.id) :
    Lists hosts db (Throwing.forEach (remove hosts db s.services answers) items nodes).2 service := by
  induction items generalizing nodes with
  | nil =>
      rcases before with lists | ⟨_, impossible, _⟩
      · exact lists
      · cases impossible
  | cons item rest ih =>
      rw [Throwing.forEach_cons] at returns ⊢
      have step : Removal hosts db s.services item nodes _ _ := (removal answers item nodes).holds
      cases result : remove hosts db s.services answers item nodes with
      | mk answer after =>
          rw [result] at step
          cases answer with
          | none =>
              rw [Throwing.bind_of_throws result] at returns
              cases returns
          | some _ =>
              rw [Throwing.bind_of_returns result] at returns ⊢
              refine ih (fun other member => settled other (List.mem_cons_of_mem _ member))
                (fun other member => live other (List.mem_cons_of_mem _ member)) returns ?_
              have here := lists_of_removal placed rows (settled item List.mem_cons_self) (live item List.mem_cons_self)
                step running
              rcases before with lists | ⟨other, member, own⟩
              · exact .inl (here (.inl lists))
              · rcases List.mem_cons.mp member with rfl | inRest
                · exact .inl (here (.inr own))
                · exact .inr ⟨other, inRest, own⟩

theorem current_deleteServiceInstance (placed : Placed s) (current : Current hosts s) {ids : List Int}
    {answers : Int → Bool} (listened : (removeEach hosts s ids answers).1 = some () ∧
      ∀ row ∈ listByInstanceIds s.db ids, s.Settled row.serviceId) :
    Current hosts (deleteServiceInstance hosts s ids answers) := by
  obtain ⟨returns, settled⟩ := listened
  unfold deleteServiceInstance
  rw [if_pos returns]
  split
  · intro service after
    have running : Running s service := ⟨after.row, after.live, after.kafka, after.quiet, after.started⟩
    have rows := rows_deletedInstances placed.rows ids
    have live : ∀ row ∈ listByInstanceIds s.db ids, isLive s.services row.serviceId = true := by
      intro row listed
      obtain ⟨isRow, holds⟩ := List.mem_filter.mp listed
      exact placed.rows.live row isRow (by simpa using (Bool.and_eq_true_iff.mp holds).2)
    refine lists_of_forEach placed rows settled live returns running ?_
    by_cases some : ∃ item ∈ listByInstanceIds s.db ids, item.serviceId = service.id
    · exact .inr some
    · have sameAddrs :
          startedAddrs hosts (deletedInstances s.db ids) service.id = startedAddrs hosts s.db service.id := by
        refine startedAddrs_deleteByIds fun row member isLeft own deleted => some ?_
        obtain ⟨item, listed, sameId⟩ := List.mem_map.mp deleted
        have same := List.inj_on_of_nodup_map s.db.instances.keys (List.mem_filter.mp listed).1 member sameId
        exact ⟨item, listed, same ▸ own⟩
      obtain ⟨data, isData, addr⟩ := current service running
      exact .inl ⟨data, isData, by rw [addr, sameAddrs]⟩
  · exact current

theorem current_renameService (current : Current hosts s) {id : Int} (serverName : String)
    (none : ∀ process ∈ s.db.processes.rows, process.serviceId ≠ id) :
    Current hosts (renameService s id serverName) := by
  unfold renameService
  split
  · exact current
  · split
    · refine current_of current fun service running => .inr ⟨?_, rfl, rfl⟩
      refine ⟨?_, running.live, running.kafka, running.quiet, running.started⟩
      obtain ⟨process, isProcess, own, _⟩ := running.started
      obtain ⟨old, isOld, same⟩ := mem_rename.mp running.row
      split at same
      · next renamed =>
          subst same
          exact absurd (own.trans renamed) (none process isProcess)
      · exact same ▸ isOld
    · exact current

theorem current_deleteService (placed : Placed s) (current : Current hosts s) {id : Int} (answers : Bool)
    (isLeft : isLive s.services id = true) : Current hosts (deleteService s id answers) := by
  unfold deleteService
  split
  · exact current
  · next deleted found =>
      obtain ⟨isRow, isId⟩ := Table.get_eq_some_iff.mp found
      obtain ⟨other, isOther, otherId, live⟩ := isLive_iff.mp isLeft
      obtain rfl := List.inj_on_of_nodup_map s.services.keys isOther isRow (otherId.trans isId.symm)
      -- who is left has another id, its instances and its node
      have others {t : State} (db : t.db = Programs.deleteByIds s.db ((listAllByServiceId s.db id).map (·.id)))
          (services : t.services = deleteById s.services id) (waiting : t.waiting = s.waiting)
          (nodes : ∀ env name, ¬(env = other.environmentId ∧ name = other.serverName) →
            t.nodes env name = s.nodes env name) : Current hosts t := by
        refine current_of current fun service running => .inr ?_
        have row := running.row
        rw [services] at row
        obtain ⟨old, isOld, same⟩ := mem_deleteById.mp row
        split at same
        · have gone := running.live
          subst same
          cases gone
        · next kept =>
            subst same
            have started := running.started
            rw [db] at started
            refine ⟨⟨isOld, running.live, running.kafka, waiting ▸ running.quiet, started⟩, nodes _ _ ?_, ?_⟩
            · exact apart_of_unique placed isOld isRow running.live live fun sameId => kept (sameId.trans isId)
            · rw [db]
              refine startedAddrs_deleteByIds fun row member isLeft own listed => kept ?_
              obtain ⟨item, isItem, sameId⟩ := List.mem_map.mp listed
              obtain ⟨isInstance, holds⟩ := List.mem_filter.mp isItem
              have same := List.inj_on_of_nodup_map s.db.instances.keys isInstance member sameId
              simp only [Bool.and_eq_true, decide_eq_true_eq] at holds
              exact own.symm.trans (same ▸ holds.1)
      split
      · exact current
      · dsimp only
        split
        · split
          · exact others rfl rfl rfl fun _ _ apart => put_other s.nodes none apart
          · exact current
        · exact others rfl rfl rfl fun _ _ _ => rfl

theorem current_effect (placed : Placed s) (current : Current hosts s) {a : Action} (enabled : guard s a)
    (orderly : Orderly s a) (listened : Listened hosts s a) : Current hosts (effect fold hosts s a) := by
  cases a with
  | addService row => exact current_addService placed current row
  | addServiceInstance row => exact current_addServiceInstance placed current row
  | createProcess instanceIds refs => exact current_createProcess current enabled orderly
  | startProcess process outside => exact current_startProcess placed current enabled.1 enabled.2 listened
  | stopServiceInstance instanceIds outside =>
      have alike : Alike (fun _ => False) s.db (effect fold hosts s (.stopServiceInstance instanceIds outside)).db :=
        alike_stopServiceInstance instanceIds outside ⟨s.db, []⟩
      exact current_of_alike placed current alike rfl rfl fun _ quiet => ⟨not_false, quiet⟩
  | updateRunningStatus serviceProcesses =>
      have alike : Alike (fun _ => False) s.db (effect fold hosts s (.updateRunningStatus serviceProcesses)).db :=
        alike_report listened
      exact current_of_alike placed current alike rfl rfl fun _ quiet => ⟨not_false, quiet⟩
  | listen waiting answers => exact current_listen placed current enabled listened
  | deleteServiceInstance ids answers => exact current_deleteServiceInstance placed current listened
  | renameService id serverName => exact current_renameService current serverName orderly
  | deleteService id answers => exact current_deleteService placed current answers listened

/-- The addresses of the node of a service are those of the instances that were started. -/
theorem current_of_listened
    (reached : ((system fold hosts).restrict fun s a => Orderly s a ∧ Listened hosts s a).Reachable s)
    {service : ZmsServiceEntity} (running : Running s service) : Lists hosts s.db s.nodes service := by
  have both : Placed s ∧ Current hosts s := by
    refine reached.invariant (fun s => Placed s ∧ Current hosts s) ?_ ?_
    · intro s initial
      refine ⟨placed_of_orderly (.start initial), fun service running => ?_⟩
      obtain ⟨_, processes, _⟩ := initial
      obtain ⟨process, member, _⟩ := running.started
      rw [processes] at member
      cases member
    · intro s a ⟨placed, current⟩ ⟨enabled, orderly, listened⟩
      exact ⟨placed_effect placed enabled orderly, current_effect placed current enabled orderly listened⟩
  exact both.2 service running

end Runs

theorem lists_orders : ∃ s : State, startedAddrs oneHost s.db 2 = ["10.0.0.1:9092"] ∧
    Lists oneHost s.db s.nodes ⟨2, 1, "orders", "KAFKA", false⟩ := by
  have run : ∃ s : State,
      ((system Char.toLower oneHost).restrict fun s a => Orderly s a ∧ Listened oneHost s a).Reachable s ∧
        startedAddrs oneHost s.db 2 = ["10.0.0.1:9092"] ∧ ⟨2, 1, "orders", "KAFKA", false⟩ ∈ s.services.rows ∧
          s.waiting = [] ∧ ∃ process ∈ s.db.processes.rows, process.serviceId = 2 ∧ process.status = .SUCCESS :=
    Guarded.exists_reachable oneBroker (⟨rfl, rfl, rfl, rfl, rfl, rfl⟩ : (system _ _).init nothing) (by decide +kernel)
  obtain ⟨s, reached, addrs, row, waiting, started⟩ := run
  refine ⟨s, addrs, current_of_listened reached ⟨row, rfl, rfl, fun other member => ?_, started⟩⟩
  rw [waiting] at member
  cases member

end Zms.Portal.Clusters
