import Zms.Portal.Processes.ClusterNodes
import Zms.Portal.Processes.OneProgram

/-! Which services the cluster nodes belong to, and when they list the brokers that were started. -/

set_option autoImplicit false

namespace Zms.Portal.Clusters

open Zms.Registry Zms.Transition Zms.Portal.Processes

/-! ### What the listener writes -/

section Writing
variable {nodes after : Nodes} {service : ZmsServiceEntity} {metadata : ClusterMetadata}

theorem put_same (nodes : Nodes) (env : EnvId) (clusterName : String) (data : Option ClusterMetadata) :
    nodes.put env clusterName data env clusterName = data := by
  unfold Nodes.put
  rw [Function.update_self, Function.update_self]

theorem put_other (nodes : Nodes) {env other : EnvId} {clusterName name : String} (data : Option ClusterMetadata)
    (apart : ¬(other = env ∧ name = clusterName)) : nodes.put env clusterName data other name = nodes other name := by
  unfold Nodes.put
  by_cases sameEnv : other = env
  · subst sameEnv
    rw [Function.update_self, Function.update_of_ne fun sameName => apart ⟨rfl, sameName⟩]
  · rw [Function.update_of_ne sameEnv]

/-- The node of the service has the address, and no other node changes. -/
structure Writes (service : ZmsServiceEntity) (metadata : ClusterMetadata) (nodes after : Nodes) : Prop where
  here : ∃ data, after service.environmentId service.serverName = some data ∧ data.bootAddr = metadata.bootAddr
  elsewhere : ∀ env name, ¬(env = service.environmentId ∧ name = service.serverName) → after env name = nodes env name

theorem writes_writeClusterInfo (named : metadata.clusterName = service.serverName) (nodes : Nodes) :
    Writes service metadata nodes (writeClusterInfo nodes service.environmentId metadata) where
  here := by
    unfold writeClusterInfo
    rw [named]
    exact ⟨metadata, put_same _ _ _ _, rfl⟩
  elsewhere env name apart := by
    unfold writeClusterInfo
    rw [named]
    exact put_other nodes _ apart

theorem writes_writeClusterInfoNecessary (named : metadata.clusterName = service.serverName) (nodes : Nodes) :
    Writes service metadata nodes (writeClusterInfoNecessary nodes service.environmentId metadata) := by
  unfold writeClusterInfoNecessary
  split
  · next same =>
      obtain ⟨data, found, isMetadata⟩ := Option.map_eq_some_iff.mp same
      refine ⟨⟨data, named ▸ found, ?_⟩, fun _ _ _ => rfl⟩
      rw [← isMetadata]
  · exact writes_writeClusterInfo named nodes

end Writing

section Listener
variable {hosts : Table ZmsHost.id} {s : State} {db : Database} {services : Services}

theorem assembled {service : ZmsServiceEntity} {processId : Int} {metadata : ClusterMetadata}
    (assembles : assembleClusterDto hosts db services service processId = some metadata) :
    metadata.clusterName = service.serverName ∧
      ∃ addrs, brokerAddrList hosts db (listLastSuccessProcessByInstance db) service.id = some addrs ∧
        metadata.bootAddr = some (",".intercalate addrs) := by
  obtain ⟨zookeepers, _, rest⟩ := Option.bind_eq_some_iff.mp assembles
  obtain ⟨addrs, isAddrs, written⟩ := Option.bind_eq_some_iff.mp rest
  obtain rfl := Option.some.inj written
  exact ⟨rfl, addrs, isAddrs, rfl⟩

theorem started {serviceId processId : Int} {nodes : Nodes} (starts : start hosts s serviceId processId = some nodes) :
    ∃ service, s.services.get serviceId = some service ∧ (service.serverType ≠ "KAFKA" ∧ nodes = s.nodes ∨
      service.serverType = "KAFKA" ∧ ∃ metadata,
        assembleClusterDto hosts s.db s.services service processId = some metadata ∧
          Writes service metadata s.nodes nodes) := by
  obtain ⟨service, isService, rest⟩ := Option.bind_eq_some_iff.mp starts
  refine ⟨service, isService, ?_⟩
  by_cases kafka : service.serverType = "KAFKA"
  · rw [if_pos kafka] at rest
    obtain ⟨metadata, assembles, written⟩ := Option.bind_eq_some_iff.mp rest
    obtain rfl := Option.some.inj written
    exact .inr ⟨kafka, metadata, assembles, writes_writeClusterInfoNecessary (assembled assembles).1 s.nodes⟩
  · rw [if_neg kafka] at rest
    exact .inl ⟨kafka, (Option.some.inj rest).symm⟩

/-- What `remove` does to the nodes; it has written nothing where it throws. -/
def Removal (hosts : Table ZmsHost.id) (db : Database) (services : Services) (item : ServiceInstance) (nodes : Nodes)
    (answer : Option Unit) (after : Nodes) : Prop :=
  after = nodes ∧ (answer = some () →
      ∃ service, services.get item.serviceId = some service ∧ service.serverType ≠ "KAFKA") ∨
    ∃ service process metadata, services.get item.serviceId = some service ∧ service.serverType = "KAFKA" ∧
      db.listRunningProcessByInstance item.id = some process ∧
      assembleClusterDto hosts db services service process.id = some metadata ∧ Writes service metadata nodes after

theorem removal (answers : Int → Bool) (item : ServiceInstance) (nodes : Nodes) :
    Throwing.Ends (remove hosts db services answers item) nodes (Removal hosts db services item nodes) := by
  have throws : Removal hosts db services item nodes none nodes := .inl ⟨rfl, fun impossible => by cases impossible⟩
  unfold remove
  refine Throwing.ends_ofOption_bind (fun _ => throws) fun service isService => ?_
  by_cases kafka : service.serverType = "KAFKA"
  · rw [Throwing.when_of kafka]
    refine Throwing.ends_ofOption_bind (fun _ => throws) fun process isLast => ?_
    refine Throwing.ends_ofOption_bind (fun _ => throws) fun metadata assembles => ?_
    refine Throwing.ends_ensure_bind (fun _ => throws) fun _ => ⟨.inr ?_⟩
    exact ⟨service, process, metadata, isService, kafka, isLast, assembles,
      writes_writeClusterInfo (assembled assembles).1 nodes⟩
  · rw [Throwing.when_of_not kafka]
    exact ⟨.inl ⟨rfl, fun _ => ⟨service, isService, kafka⟩⟩⟩

end Listener

/-! ### What the calls leave of the rows -/

/-- The instances change their status only, the processes theirs; none becomes an `INIT`, and of the
services for which `starts` does not hold, the successes stay the same. -/
structure Alike (starts : Int → Prop) (db after : Database) : Prop where
  instances : ∃ f : ServiceInstance → ServiceInstance, after.instances.rows = db.instances.rows.map f ∧
    ∀ row, (f row).id = row.id ∧ (f row).serviceId = row.serviceId ∧ (f row).hostId = row.hostId ∧
      (f row).isDeleted = row.isDeleted
  processes : ∃ g : ServiceProcess → ServiceProcess, after.processes.rows = db.processes.rows.map g ∧
    ∀ row ∈ db.processes.rows, (g row).id = row.id ∧ (g row).serviceId = row.serviceId ∧
      (g row).instanceId = row.instanceId ∧ ((g row).status = .INIT → row.status = .INIT) ∧
      (¬starts row.serviceId → ((g row).status = .SUCCESS ↔ row.status = .SUCCESS))
  refs : after.refs = db.refs

section Alike
variable {starts : Int → Prop} {db after last : Database}

theorem Alike.refl (starts : Int → Prop) (db : Database) : Alike starts db db where
  instances := ⟨id, (List.map_id _).symm, fun _ => ⟨rfl, rfl, rfl, rfl⟩⟩
  processes := ⟨id, (List.map_id _).symm, fun _ _ => ⟨rfl, rfl, rfl, id, fun _ => Iff.rfl⟩⟩
  refs := rfl

theorem Alike.trans (first : Alike starts db after) (second : Alike starts after last) : Alike starts db last where
  instances := by
    obtain ⟨f, rows, keeps⟩ := first.instances
    obtain ⟨g, rowsAgain, keepsAgain⟩ := second.instances
    refine ⟨g ∘ f, by rw [rowsAgain, rows, List.map_map], fun row => ?_⟩
    obtain ⟨id, serviceId, hostId, isDeleted⟩ := keeps row
    obtain ⟨idAgain, serviceIdAgain, hostIdAgain, isDeletedAgain⟩ := keepsAgain (f row)
    exact ⟨idAgain.trans id, serviceIdAgain.trans serviceId, hostIdAgain.trans hostId, isDeletedAgain.trans isDeleted⟩
  processes := by
    obtain ⟨f, rows, keeps⟩ := first.processes
    obtain ⟨g, rowsAgain, keepsAgain⟩ := second.processes
    refine ⟨g ∘ f, by rw [rowsAgain, rows, List.map_map], fun row member => ?_⟩
    obtain ⟨id, serviceId, instanceId, isInit, isSuccess⟩ := keeps row member
    obtain ⟨idAgain, serviceIdAgain, instanceIdAgain, isInitAgain, isSuccessAgain⟩ :=
      keepsAgain (f row) (rows ▸ List.mem_map_of_mem member)
    refine ⟨idAgain.trans id, serviceIdAgain.trans serviceId, instanceIdAgain.trans instanceId,
      fun left => isInit (isInitAgain left), fun none => ?_⟩
    rw [serviceId] at isSuccessAgain
    exact (isSuccessAgain none).trans (isSuccess none)
  refs := second.refs.trans first.refs

theorem alike_updateInstanceStatus (starts : Int → Prop) (db : Database) (instanceId : Int)
    (status : InstanceStatusEnum) : Alike starts db (db.updateInstanceStatus instanceId status) where
  instances := ⟨_, rfl, fun row => by split <;> exact ⟨rfl, rfl, rfl, rfl⟩⟩
  processes := (Alike.refl starts db).processes
  refs := rfl

theorem alike_processes {change : ServiceProcess → ServiceProcess}
    (processes : after.processes.rows = db.processes.rows.map change)
    (others : after.instances = db.instances ∧ after.refs = db.refs)
    (same : ∀ row, (change row).id = row.id ∧ (change row).serviceId = row.serviceId ∧
      (change row).instanceId = row.instanceId)
    (status : ∀ row ∈ db.processes.rows, ((change row).status = .INIT → row.status = .INIT) ∧
      (¬starts row.serviceId → ((change row).status = .SUCCESS ↔ row.status = .SUCCESS))) : Alike starts db after where
  instances := by
    rw [others.1]
    exact (Alike.refl starts db).instances
  processes := by
    refine ⟨change, processes, fun row member => ?_⟩
    obtain ⟨id, serviceId, instanceId⟩ := same row
    exact ⟨id, serviceId, instanceId, (status row member).1, (status row member).2⟩
  refs := others.2

theorem alike_stopByAdmin (starts : Int → Prop) (db : Database) (processId : Int) :
    Alike starts db (Programs.stopByAdmin db processId) := by
  refine alike_processes rfl ⟨rfl, rfl⟩ (fun row => ?_) fun row _ => ?_
  · split <;> exact ⟨rfl, rfl, rfl⟩
  · split <;> exact ⟨id, fun _ => Iff.rfl⟩

theorem alike_updateRunningStatus {processId : Int} (seen : ∀ row ∈ db.processes.rows, row.id = processId →
    row.status = .SUCCESS ∨ starts row.serviceId) (runningStatus : String) :
    Alike starts db (db.updateRunningStatus processId runningStatus) := by
  refine alike_processes rfl ⟨rfl, rfl⟩ (fun row => ?_) fun row member => ?_
  · split <;> exact ⟨rfl, rfl, rfl⟩
  · split
    · next same =>
        refine ⟨fun impossible => (by cases impossible), fun none => ?_⟩
        exact iff_of_true rfl ((seen row member same).resolve_right none)
    · exact ⟨id, fun _ => Iff.rfl⟩

theorem alike_updateStatus {processId : Int} {status : ProcessStatus}
    (waits : ∀ row ∈ db.processes.rows, row.id = processId →
      row.status = .INIT ∧ (status = .FAILURE ∨ starts row.serviceId)) :
    Alike starts db (db.updateStatus processId status) := by
  refine alike_processes rfl ⟨rfl, rfl⟩ (fun row => ?_) fun row member => ?_
  · split <;> exact ⟨rfl, rfl, rfl⟩
  · split
    · next same =>
        obtain ⟨isInit, ends⟩ := waits row member same
        refine ⟨fun _ => isInit, fun none => ?_⟩
        have failed := ends.resolve_right none
        simp [failed, isInit]
    · exact ⟨id, fun _ => Iff.rfl⟩

theorem Alike.success (alike : Alike starts db after) {processId : Int}
    (seen : ∀ row ∈ db.processes.rows, row.id = processId → row.status = .SUCCESS ∨ starts row.serviceId) :
    ∀ row ∈ after.processes.rows, row.id = processId → row.status = .SUCCESS ∨ starts row.serviceId := by
  intro row member same
  obtain ⟨g, rows, keeps⟩ := alike.processes
  rw [rows] at member
  obtain ⟨old, isOld, rfl⟩ := List.mem_map.mp member
  obtain ⟨id, serviceId, _, _, isSuccess⟩ := keeps old isOld
  rw [serviceId]
  rcases seen old isOld (id.symm.trans same) with before | some
  · by_cases some : starts old.serviceId
    · exact .inr some
    · exact .inl ((isSuccess some).mpr before)
  · exact .inr some

theorem Alike.instance_of (alike : Alike starts db after) {row : ServiceInstance}
    (member : row ∈ after.instances.rows) :
    ∃ old ∈ db.instances.rows, row.id = old.id ∧ row.serviceId = old.serviceId ∧ row.isDeleted = old.isDeleted := by
  obtain ⟨f, rows, keeps⟩ := alike.instances
  rw [rows] at member
  obtain ⟨old, isOld, rfl⟩ := List.mem_map.mp member
  obtain ⟨id, serviceId, _, isDeleted⟩ := keeps old
  exact ⟨old, isOld, id, serviceId, isDeleted⟩

theorem Alike.instance_left (alike : Alike starts db after) {old : ServiceInstance} (member : old ∈ db.instances.rows) :
    ∃ row ∈ after.instances.rows, row.id = old.id ∧ row.serviceId = old.serviceId := by
  obtain ⟨f, rows, keeps⟩ := alike.instances
  exact ⟨f old, rows ▸ List.mem_map_of_mem member, (keeps old).1, (keeps old).2.1⟩

theorem Alike.process_of (alike : Alike starts db after) {row : ServiceProcess} (member : row ∈ after.processes.rows) :
    ∃ old ∈ db.processes.rows, row.instanceId = old.instanceId ∧ row.serviceId = old.serviceId ∧
      (row.status = .INIT → old.status = .INIT) := by
  obtain ⟨g, rows, keeps⟩ := alike.processes
  rw [rows] at member
  obtain ⟨old, isOld, rfl⟩ := List.mem_map.mp member
  obtain ⟨_, serviceId, instanceId, isInit, _⟩ := keeps old isOld
  exact ⟨old, isOld, instanceId, serviceId, isInit⟩

end Alike

/-! ### Stopping, reporting, starting -/

section Calls
variable {fold : Char → Char} {hosts : Table ZmsHost.id} {starts : Int → Prop}

theorem alike_stopPrograms (outside : Int → Programs.StopOutside) (processIds : List Int) (s : Programs.State) :
    Alike starts s.db (processIds.foldl (Programs.stopProgram hosts outside) s).db := by
  induction processIds generalizing s with
  | nil => exact Alike.refl starts s.db
  | cons processId rest ih =>
      have first : Alike starts s.db (Programs.stopProgram hosts outside s processId).db := by
        unfold Programs.stopProgram
        dsimp only
        rcases Programs.stopProcess_leaves hosts (outside processId) s.db processId with same | noted
        · rw [same]
          exact Alike.refl starts s.db
        · rw [noted]
          exact alike_stopByAdmin starts s.db processId
      exact first.trans (ih _)

theorem alike_stopServiceInstance (instanceIds : List Int) (outside : Int → Programs.StopOutside) (s : Programs.State) :
    Alike starts s.db (Programs.stopServiceInstance fold hosts instanceIds outside s).db := by
  unfold Programs.stopServiceInstance
  induction listHostByInstanceIds hosts s.db instanceIds generalizing s with
  | nil => exact Alike.refl starts s.db
  | cons instance_ rest ih =>
      have first : Alike starts s.db (Programs.stopInstance fold hosts outside s instance_).db :=
        (alike_stopPrograms outside _ s).trans (alike_updateInstanceStatus starts _ _ _)
      exact first.trans (ih _)

/-- Each process that is named was started before, or its service is one that starts. -/
def Reports (starts : Int → Prop) (db : Database) (serviceProcesses : List Reported) : Prop :=
  ∀ entry ∈ serviceProcesses, ∀ row ∈ db.processes.rows, row.id = entry.processId →
    row.status = .SUCCESS ∨ starts row.serviceId

theorem alike_applyReport {serviceProcesses : List Reported} {db : Database}
    (reports : Reports starts db serviceProcesses) : Alike starts db (applyReport fold serviceProcesses db).1 := by
  induction serviceProcesses generalizing db with
  | nil => exact Alike.refl starts db
  | cons entry rest ih =>
      have seen := alike_updateRunningStatus (reports entry List.mem_cons_self) entry.stateName
      unfold applyReport
      dsimp only
      split
      · exact seen
      · exact seen
      · next status process _ _ =>
          have both := seen.trans
            (alike_updateInstanceStatus starts _ process.instanceId (instanceStatusOf status))
          exact both.trans (ih fun other member => both.success (reports other (List.mem_cons_of_mem _ member)))

theorem alike_stopVanished {gone : List ServiceProcess} {db : Database} (succeeded : ∀ process ∈ gone,
    ∀ row ∈ db.processes.rows, row.id = process.id → row.status = .SUCCESS ∨ starts row.serviceId) :
    Alike starts db (gone.foldl stopVanished db) := by
  induction gone generalizing db with
  | nil => exact Alike.refl starts db
  | cons process rest ih =>
      have first : Alike starts db (stopVanished db process) :=
        (alike_updateRunningStatus (succeeded process List.mem_cons_self) _).trans
          (alike_updateInstanceStatus starts _ _ _)
      exact first.trans (ih fun other member => first.success (succeeded other (List.mem_cons_of_mem _ member)))

theorem alike_report {serviceProcesses : List Reported} {db : Database} (reports : Reports starts db serviceProcesses) :
    Alike starts db (updateRunningStatus fold serviceProcesses db) := by
  have applied : Alike starts db (applyReport fold serviceProcesses db).1 := alike_applyReport reports
  unfold updateRunningStatus
  split
  · next after isAfter =>
      rw [isAfter] at applied
      rw [updateSupervisorNotExists_eq]
      refine applied.trans (alike_stopVanished fun process member row isRow same => .inl ?_)
      cases serviceProcesses with
      | nil => cases member
      | cons entry rest =>
          obtain ⟨_, _, _, _, newest, _⟩ := mem_swept_iff.mp member
          obtain ⟨isProcess, succeeded, _⟩ := mem_succeeded_iff.mp (mem_listLast_iff.mp newest).1
          rw [List.inj_on_of_nodup_map after.processes.keys isRow isProcess same]
          exact succeeded
  · next after _ isAfter =>
      rw [isAfter] at applied
      exact applied

theorem alike_finish {outside : Outside} {db : Database} {processId serviceId : Int} {answer : Option Bool}
    (waits : ∀ row ∈ db.processes.rows, row.id = processId → row.status = .INIT ∧ row.serviceId = serviceId)
    (noted : (finish outside processId answer db).1 = some () ∨ outside.throws .listenerStart = true →
      starts serviceId) : Alike starts db (finish outside processId answer db).2 := by
  rw [finish_eq] at noted ⊢
  split
  · next success =>
      rw [if_pos success] at noted
      cases unnoted : outside.throws .updateSuccess with
      | true => exact Alike.refl starts db
      | false =>
          rw [unnoted] at noted
          refine alike_updateStatus fun row member same => ?_
          obtain ⟨isInit, own⟩ := waits row member same
          refine ⟨isInit, .inr (own ▸ noted ?_)⟩
          cases outside.throws .listenerStart with
          | true => exact .inr rfl
          | false => exact .inl rfl
  · dsimp only
    split
    · exact Alike.refl starts db
    · exact alike_updateStatus fun row member same => ⟨(waits row member same).1, .inl rfl⟩

/-- A process is noted as a success where the call returns, or only its listener is not started. -/
theorem alike_startProcess {outside : Outside} {db : Database} {process : ServiceProcess} {instanceId : Int}
    (known : db.processes.get process.id = some process) (isInit : process.status = .INIT)
    (noted : (Processes.startProcess hosts outside instanceId process.id db).1 = some () ∨
      outside.throws .listenerStart = true → starts process.serviceId) :
    Alike starts db (Processes.startProcess hosts outside instanceId process.id db).2 := by
  have waits : ∀ row ∈ db.processes.rows, row.id = process.id →
      row.status = .INIT ∧ row.serviceId = process.serviceId := by
    intro row member same
    rw [List.inj_on_of_nodup_map db.processes.keys member (Table.get_eq_some_iff.mp known).1 same]
    exact ⟨isInit, rfl⟩
  by_cases reads : Reads outside db process.id
  · by_cases starting : SetsStarting hosts outside db process.id
    · rw [startProcess_of_starting hosts outside db instanceId process.id starting] at noted ⊢
      exact (alike_updateInstanceStatus starts db instanceId .STARTING).trans (alike_finish waits noted)
    · rw [startProcess_of_not_starting hosts outside db instanceId process.id reads starting] at noted ⊢
      exact alike_finish waits noted
  · rw [startProcess_of_not_reads hosts outside db instanceId process.id reads]
    exact Alike.refl starts db

end Calls

/-! ### Whose the rows are -/

def isLive (services : Services) (serviceId : Int) : Bool :=
  (services.get serviceId).any fun service => !service.isDeleted

/-- A process of the service, whatever became of it. -/
def HasProcess (db : Database) (serviceId : Int) : Prop := ∃ process ∈ db.processes.rows, process.serviceId = serviceId

structure Rows (services : Services) (db : Database) : Prop where
  housed : ∀ row ∈ db.instances.rows, (services.get row.serviceId).isSome = true
  live : ∀ row ∈ db.instances.rows, row.isDeleted = false → isLive services row.serviceId = true
  processes : ∀ process ∈ db.processes.rows,
    ∃ row ∈ db.instances.rows, row.id = process.instanceId ∧ row.serviceId = process.serviceId
  starting : ∀ process ∈ db.processes.rows, process.status = .INIT → isLive services process.serviceId = true

section Rows
variable {services : Services} {db after : Database} {starts : Int → Prop}

theorem isLive_iff {serviceId : Int} :
    isLive services serviceId = true ↔
      ∃ service ∈ services.rows, service.id = serviceId ∧ service.isDeleted = false := by
  unfold isLive
  rw [Option.any_eq_true]
  simp only [Table.get_eq_some_iff, Bool.not_eq_true']
  exact exists_congr fun service => and_assoc

theorem hasProcess_of_alike (alike : Alike starts db after) {serviceId : Int} :
    HasProcess after serviceId ↔ HasProcess db serviceId := by
  constructor
  · intro ⟨process, member, own⟩
    obtain ⟨old, isOld, _, same, _⟩ := alike.process_of member
    exact ⟨old, isOld, same.symm.trans own⟩
  · intro ⟨process, member, own⟩
    obtain ⟨g, rows, keeps⟩ := alike.processes
    exact ⟨g process, rows ▸ List.mem_map_of_mem member, (keeps process member).2.1.trans own⟩

theorem rows_of_alike (placed : Rows services db) (alike : Alike starts db after) : Rows services after where
  housed row member := by
    obtain ⟨old, isOld, _, serviceId, _⟩ := alike.instance_of member
    exact serviceId ▸ placed.housed old isOld
  live row member isLeft := by
    obtain ⟨old, isOld, _, serviceId, isDeleted⟩ := alike.instance_of member
    exact serviceId ▸ placed.live old isOld (isDeleted.symm.trans isLeft)
  processes process member := by
    obtain ⟨old, isOld, instanceId, serviceId, _⟩ := alike.process_of member
    obtain ⟨row, isRow, own, sameService⟩ := placed.processes old isOld
    obtain ⟨left, isLeft, id, leftService⟩ := alike.instance_left isRow
    exact ⟨left, isLeft, id.trans (own.trans instanceId.symm), leftService.trans (sameService.trans serviceId.symm)⟩
  starting process member isInit := by
    obtain ⟨old, isOld, _, serviceId, wasInit⟩ := alike.process_of member
    exact serviceId ▸ placed.starting old isOld (wasInit isInit)

theorem rows_addInstance (placed : Rows services db) {row : ServiceInstance} {instances : Table ServiceInstance.id}
    (inserted : db.instances.insertList [row] = some instances) (isService : isLive services row.serviceId = true) :
    Rows services { db with instances } := by
  have rows := Table.rows_of_insertList inserted
  have isHoused : (services.get row.serviceId).isSome = true := by
    obtain ⟨service, isRow, isId, _⟩ := isLive_iff.mp isService
    exact Table.isSome_get_iff.mpr ⟨service, isRow, isId⟩
  constructor
  · intro other member
    rw [rows] at member
    rcases List.mem_append.mp member with old | new
    · exact placed.housed other old
    · exact List.mem_singleton.mp new ▸ isHoused
  · intro other member isLeft
    rw [rows] at member
    rcases List.mem_append.mp member with old | new
    · exact placed.live other old isLeft
    · exact List.mem_singleton.mp new ▸ isService
  · intro process member
    obtain ⟨other, isOther, own⟩ := placed.processes process member
    exact ⟨other, rows ▸ List.mem_append_left _ isOther, own⟩
  · exact placed.starting

theorem rows_addProcesses (placed : Rows services db) {new : List ServiceProcess} {processes : Table ServiceProcess.id}
    (inserted : db.processes.insertList new = some processes) {refs : List ProcessPropertyValueRef}
    (own : ∀ process ∈ new, isLive services process.serviceId = true ∧
      ∃ row ∈ db.instances.rows, row.id = process.instanceId ∧ row.serviceId = process.serviceId) :
    Rows services { db with processes, refs } := by
  have rows := Table.rows_of_insertList inserted
  refine ⟨placed.housed, placed.live, fun process member => ?_, fun process member isInit => ?_⟩
  · rw [rows] at member
    rcases List.mem_append.mp member with old | isNew
    · exact placed.processes process old
    · exact (own process isNew).2
  · rw [rows] at member
    rcases List.mem_append.mp member with old | isNew
    · exact placed.starting process old isInit
    · exact (own process isNew).1

theorem mem_deleteByIds {ids : List Int} {row : ServiceInstance}
    (member : row ∈ (Programs.deleteByIds db ids).instances.rows) :
    ∃ old ∈ db.instances.rows, row.id = old.id ∧ row.serviceId = old.serviceId ∧ row.hostId = old.hostId ∧
      (row.isDeleted = false → old.isDeleted = false ∧ old.id ∉ ids) := by
  obtain ⟨old, isOld, rfl⟩ := List.mem_map.mp member
  refine ⟨old, isOld, ?_⟩
  split
  · exact ⟨rfl, rfl, rfl, fun impossible => by cases impossible⟩
  · next kept => exact ⟨rfl, rfl, rfl, fun isLeft => ⟨isLeft, kept⟩⟩

/-- Instances are deleted, and services whose instances and starts are all gone. -/
theorem rows_delete (placed : Rows services db) {after : Services} {ids : List Int}
    (there : ∀ serviceId, (services.get serviceId).isSome = true → (after.get serviceId).isSome = true)
    (left : ∀ row ∈ db.instances.rows, row.isDeleted = false → row.id ∉ ids → isLive after row.serviceId = true)
    (starting : ∀ process ∈ db.processes.rows, process.status = .INIT → isLive after process.serviceId = true) :
    Rows after (Programs.deleteByIds db ids) where
  housed row member := by
    obtain ⟨old, isOld, _, serviceId, _⟩ := mem_deleteByIds member
    exact there _ (serviceId ▸ placed.housed old isOld)
  live row member isLeft := by
    obtain ⟨old, isOld, _, serviceId, _, kept⟩ := mem_deleteByIds member
    exact serviceId ▸ left old isOld (kept isLeft).1 (kept isLeft).2
  processes process member := by
    obtain ⟨old, isOld, own, same⟩ := placed.processes process member
    refine ⟨_, List.mem_map_of_mem isOld, ?_⟩
    split
    · exact ⟨own, same⟩
    · exact ⟨own, same⟩
  starting := starting

theorem rows_deletedInstances (placed : Rows services db) (ids : List Int) : Rows services (deletedInstances db ids) :=
  rows_delete placed (fun _ isSome => isSome) (fun row member isLeft _ => placed.live row member isLeft) placed.starting

theorem rows_of_services (placed : Rows services db) {after : Services}
    (there : ∀ serviceId, (services.get serviceId).isSome = true → (after.get serviceId).isSome = true)
    (live : ∀ serviceId, isLive services serviceId = true → isLive after serviceId = true) : Rows after db where
  housed row member := there _ (placed.housed row member)
  live row member isLeft := live _ (placed.live row member isLeft)
  processes := placed.processes
  starting process member isInit := live _ (placed.starting process member isInit)

theorem own_listRunning {instanceId : Int} {process : ServiceProcess}
    (isLast : db.listRunningProcessByInstance instanceId = some process) :
    process ∈ db.processes.rows ∧ process.instanceId = instanceId := by
  have listed := List.mem_mergeSort.mp (List.mem_of_head? isLast)
  obtain ⟨member, own⟩ := List.mem_filter.mp listed
  exact ⟨member, of_decide_eq_true own⟩

theorem Rows.hasProcess (placed : Rows services db) {item : ServiceInstance} (member : item ∈ db.instances.rows)
    {process : ServiceProcess} (isLast : db.listRunningProcessByInstance item.id = some process) :
    HasProcess db item.serviceId := by
  obtain ⟨isProcess, own⟩ := own_listRunning isLast
  obtain ⟨row, isRow, isId, same⟩ := placed.processes process isProcess
  have sameRow : row = item := List.inj_on_of_nodup_map db.instances.keys isRow member (isId.trans own)
  exact ⟨process, isProcess, (sameRow ▸ same).symm⟩

end Rows

/-! ### Whose the nodes are -/

structure Owns (services : Services) (env : EnvId) (clusterName : String) (service : ZmsServiceEntity) : Prop where
  row : service ∈ services.rows
  live : service.isDeleted = false
  kafka : service.serverType = "KAFKA"
  environment : service.environmentId = env
  name : service.serverName = clusterName

/-- No two services of an environment have a name. -/
def Unique (services : Services) : Prop :=
  ∀ service ∈ services.rows, ∀ other ∈ services.rows, service.isDeleted = false → other.isDeleted = false →
    service.environmentId = other.environmentId → service.serverName = other.serverName → service = other

structure Placed (s : State) : Prop where
  unique : Unique s.services
  rows : Rows s.services s.db
  waiting : ∀ waiting ∈ s.waiting, isLive s.services waiting.serviceId = true ∧ HasProcess s.db waiting.serviceId
  owned : ∀ env clusterName, (s.nodes env clusterName).isSome = true →
    ∃ service, Owns s.services env clusterName service ∧ HasProcess s.db service.id

def State.Settled (s : State) (serviceId : Int) : Prop :=
  ∀ process ∈ s.db.processes.rows, process.serviceId = serviceId → process.status ≠ .INIT

/-- A name is given to one service at a time, a service is renamed only as long as it has no process, and
deleted only while none of its processes starts and no listener waits for it. -/
def Orderly (s : State) : Action → Prop
  | .addService row => getByEnvIdAndName s.services row.environmentId row.serverName = []
  | .addServiceInstance row => isLive s.services row.serviceId = true
  | .createProcess instanceIds _ => ∀ row ∈ listByInstanceIds s.db instanceIds,
      ∀ other ∈ listByInstanceIds s.db instanceIds, row.serviceId = other.serviceId
  | .renameService id _ => ∀ process ∈ s.db.processes.rows, process.serviceId ≠ id
  | .deleteService id _ => s.Settled id ∧ ∀ waiting ∈ s.waiting, waiting.serviceId ≠ id
  | _ => True

instance (s : State) (serviceId : Int) : Decidable (s.Settled serviceId) :=
  inferInstanceAs (Decidable (∀ process ∈ s.db.processes.rows, process.serviceId = serviceId → process.status ≠ .INIT))

instance (s : State) (a : Action) : Decidable (Orderly s a) := by
  apply Action.casesOn (motive := fun a => Decidable (Orderly s a)) a <;> intros <;> dsimp only [Orderly] <;>
    infer_instance

section Placed
variable {fold : Char → Char} {hosts : Table ZmsHost.id} {s t : State} {starts : Int → Prop}

theorem placed_of_alike (placed : Placed s) (alike : Alike starts s.db t.db) (services : t.services = s.services)
    (nodes : t.nodes = s.nodes) (waiting : ∀ waiting ∈ t.waiting, waiting ∈ s.waiting ∨
      isLive s.services waiting.serviceId = true ∧ HasProcess s.db waiting.serviceId) : Placed t where
  unique := services ▸ placed.unique
  rows := services ▸ rows_of_alike placed.rows alike
  waiting waits member := by
    rw [services, hasProcess_of_alike alike]
    rcases waiting waits member with old | new
    · exact placed.waiting waits old
    · exact new
  owned env clusterName isSome := by
    rw [nodes] at isSome
    obtain ⟨service, owns, process⟩ := placed.owned env clusterName isSome
    exact ⟨service, services ▸ owns, (hasProcess_of_alike alike).mpr process⟩

/-- Nodes are added for services that have a process. -/
def Grows (services : Services) (db : Database) (nodes after : Nodes) : Prop :=
  ∀ env clusterName, (after env clusterName).isSome = true → (nodes env clusterName).isSome = true ∨
    ∃ service, Owns services env clusterName service ∧ HasProcess db service.id

instance (services : Services) (db : Database) : IsPreorder Nodes (Grows services db) where
  refl _ _ _ isSome := .inl isSome
  trans _ _ _ first second env clusterName isSome := by
    rcases second env clusterName isSome with before | new
    · exact first env clusterName before
    · exact .inr new

theorem grows_of_writes {services : Services} {db : Database} {service : ZmsServiceEntity} {metadata : ClusterMetadata}
    {nodes after : Nodes} (writes : Writes service metadata nodes after) (isService : service ∈ services.rows)
    (isLeft : isLive services service.id = true) (kafka : service.serverType = "KAFKA")
    (process : HasProcess db service.id) : Grows services db nodes after := by
  intro env clusterName isSome
  by_cases own : env = service.environmentId ∧ clusterName = service.serverName
  · obtain ⟨other, isOther, sameId, isLive⟩ := isLive_iff.mp isLeft
    obtain rfl := List.inj_on_of_nodup_map services.keys isOther isService sameId
    exact .inr ⟨other, ⟨isService, isLive, kafka, own.1.symm, own.2.symm⟩, process⟩
  · rw [writes.elsewhere env clusterName own] at isSome
    exact .inl isSome

theorem placed_of_grows (placed : Placed s) {nodes : Nodes} (grows : Grows s.services s.db s.nodes nodes) :
    Placed { s with nodes } where
  unique := placed.unique
  rows := placed.rows
  waiting := placed.waiting
  owned env clusterName isSome := by
    rcases grows env clusterName isSome with before | new
    · exact placed.owned env clusterName before
    · exact new

theorem placed_listen (placed : Placed s) {waiting : Waiting} (answers : Bool) (waits : waiting ∈ s.waiting) :
    Placed (listen hosts s waiting answers) := by
  have grows : Grows s.services s.db s.nodes (listen hosts s waiting answers).nodes := by
    unfold listen
    dsimp only
    split
    · cases starts : start hosts s waiting.serviceId waiting.processId with
      | none => exact refl_of (Grows s.services s.db) s.nodes
      | some nodes =>
          obtain ⟨service, isService, same | ⟨kafka, metadata, _, writes⟩⟩ := started starts
          · exact same.2 ▸ refl_of (Grows s.services s.db) s.nodes
          · obtain ⟨isRow, isId⟩ := Table.get_eq_some_iff.mp isService
            obtain ⟨isLeft, process⟩ := placed.waiting waiting waits
            exact grows_of_writes writes isRow (isId ▸ isLeft) kafka (isId ▸ process)
    · exact refl_of (Grows s.services s.db) s.nodes
  have written := placed_of_grows placed grows
  exact ⟨written.unique, written.rows, fun other member => written.waiting other (List.mem_of_mem_erase member),
    written.owned⟩

theorem placed_deleteServiceInstance (placed : Placed s) (ids : List Int) (answers : Int → Bool) :
    Placed (deleteServiceInstance hosts s ids answers) := by
  have deleted := rows_deletedInstances placed.rows ids
  have grows : Grows s.services s.db s.nodes (removeEach hosts s ids answers).2 := by
    refine (Throwing.Respects.forEach (R := Grows s.services s.db) fun item member => ⟨fun nodes => ?_⟩).related s.nodes
    obtain ⟨isItem, holds⟩ := List.mem_filter.mp member
    have isLeft : item.isDeleted = false := by simpa using (Bool.and_eq_true_iff.mp holds).2
    rcases (removal answers item nodes).holds with
      ⟨same, _⟩ | ⟨service, process, metadata, isService, kafka, isLast, _, writes⟩
    · rw [same]
      exact refl_of (Grows s.services s.db) nodes
    · obtain ⟨isRow, isId⟩ := Table.get_eq_some_iff.mp isService
      -- the processes are as before
      have isLastBefore : s.db.listRunningProcessByInstance item.id = some process := isLast
      exact grows_of_writes writes isRow (isId ▸ placed.rows.live item isItem isLeft) kafka
        (isId ▸ placed.rows.hasProcess isItem isLastBefore)
  have written := placed_of_grows placed grows
  unfold deleteServiceInstance
  split
  · split
    · exact ⟨written.unique, deleted, written.waiting, written.owned⟩
    · exact written
  · exact placed

theorem placed_startProcess (placed : Placed s) {process : ServiceProcess} (outside : Outside)
    (known : s.db.processes.get process.id = some process) (isInit : process.status = .INIT) :
    Placed (startProcess hosts s process outside) := by
  have isRow := (Table.get_eq_some_iff.mp known).1
  have alike : Alike (fun _ => True) s.db (startProcess hosts s process outside).db :=
    alike_startProcess known isInit fun _ => trivial
  refine placed_of_alike placed alike rfl rfl fun waiting member => ?_
  unfold startProcess at member
  dsimp only at member
  split at member
  · rcases List.mem_append.mp member with old | new
    · exact .inl old
    · obtain rfl := List.mem_singleton.mp new
      exact .inr ⟨placed.rows.starting process isRow isInit, process, isRow, rfl⟩
  · exact .inl member

theorem newProcess_own {instanceIds : List Int} {serviceId : Int}
    (accepted : checkStart hosts s.db instanceIds = some serviceId)
    (one : ∀ row ∈ listByInstanceIds s.db instanceIds, ∀ other ∈ listByInstanceIds s.db instanceIds,
      row.serviceId = other.serviceId) {process : ServiceProcess} (isNew : process ∈
      Programs.newProcesses s.db serviceId (listHostByInstanceIds hosts s.db instanceIds)) :
    process.status = .INIT ∧ process.serviceId = serviceId ∧ Programs.nextId s.db ≤ process.id ∧
      ∃ row ∈ s.db.instances.rows, row.id = process.instanceId ∧ row.serviceId = serviceId ∧ row.isDeleted = false := by
  obtain ⟨⟨row, index⟩, isEntry, rfl⟩ := List.mem_map.mp isNew
  obtain ⟨isRow, holds⟩ := List.mem_filter.mp (List.fst_mem_of_mem_zipIdx isEntry)
  have isLeft : row.isDeleted = false := by simpa using (Bool.and_eq_true_iff.mp holds).2
  have asked := (Bool.and_eq_true_iff.mp (Bool.and_eq_true_iff.mp holds).1).1
  have listed : row ∈ listByInstanceIds s.db instanceIds := List.mem_filter.mpr ⟨isRow, by rw [asked, isLeft]; rfl⟩
  refine ⟨rfl, rfl, by dsimp only; omega, row, isRow, rfl, ?_, isLeft⟩
  unfold checkStart at accepted
  dsimp only at accepted
  split at accepted
  · obtain ⟨first, isFirst, rfl⟩ := Option.map_eq_some_iff.mp accepted
    exact one row listed first (List.mem_of_head? isFirst)
  · cases accepted

theorem placed_createProcess (placed : Placed s) {instanceIds : List Int} (refs : List ProcessPropertyValueRef)
    (one : ∀ row ∈ listByInstanceIds s.db instanceIds, ∀ other ∈ listByInstanceIds s.db instanceIds,
      row.serviceId = other.serviceId) : Placed (createProcess hosts s instanceIds refs) := by
  unfold createProcess
  split
  · exact placed
  · next serviceId accepted =>
      split
      · exact placed
      · next processes inserted =>
          have rows : Rows s.services { s.db with processes, refs := s.db.refs ++ refs } :=
            rows_addProcesses placed.rows inserted fun process isNew => by
              obtain ⟨_, own, _, row, isRow, isId, same, isLeft⟩ := newProcess_own accepted one isNew
              exact ⟨own ▸ same ▸ placed.rows.live row isRow isLeft, row, isRow, isId, same.trans own.symm⟩
          have more {serviceId : Int} (has : HasProcess s.db serviceId) :
              HasProcess { s.db with processes, refs := s.db.refs ++ refs } serviceId := by
            obtain ⟨process, member, own⟩ := has
            exact ⟨process, Table.rows_of_insertList inserted ▸ List.mem_append_left _ member, own⟩
          refine ⟨placed.unique, rows, fun waiting member => ?_, fun env clusterName isSome => ?_⟩
          · exact ⟨(placed.waiting waiting member).1, more (placed.waiting waiting member).2⟩
          · obtain ⟨service, owns, has⟩ := placed.owned env clusterName isSome
            exact ⟨service, owns, more has⟩

theorem placed_addService (placed : Placed s) {row : ZmsServiceEntity}
    (free : getByEnvIdAndName s.services row.environmentId row.serverName = []) :
    Placed { s with services := (s.services.insertList [row]).getD s.services } := by
  cases inserted : s.services.insertList [row] with
  | none => exact placed
  | some services =>
      have rows := Table.rows_of_insertList inserted
      have more {service : ZmsServiceEntity} (member : service ∈ s.services.rows) : service ∈ services.rows :=
        rows ▸ List.mem_append_left _ member
      have liveStill (serviceId : Int) (isLeft : isLive s.services serviceId = true) :
          isLive services serviceId = true := by
        obtain ⟨service, member, holds⟩ := isLive_iff.mp isLeft
        exact isLive_iff.mpr ⟨service, more member, holds⟩
      have thereStill (serviceId : Int) (isSome : (s.services.get serviceId).isSome = true) :
          (services.get serviceId).isSome = true := by
        obtain ⟨service, member, same⟩ := Table.isSome_get_iff.mp isSome
        exact Table.isSome_get_iff.mpr ⟨service, more member, same⟩
      -- no live service has the name of the new one
      have apart {service : ZmsServiceEntity} (member : service ∈ s.services.rows) (live : service.isDeleted = false)
          (env : service.environmentId = row.environmentId) (name : service.serverName = row.serverName) : False := by
        have listed : service ∈ getByEnvIdAndName s.services row.environmentId row.serverName :=
          List.mem_filter.mpr ⟨member, by simp [env, name, live]⟩
        rw [free] at listed
        cases listed
      refine ⟨?_, rows_of_services placed.rows thereStill liveStill, fun waiting member => ?_, ?_⟩
      · intro service member other isOther live otherLive env name
        change service ∈ services.rows at member
        change other ∈ services.rows at isOther
        rw [rows] at member isOther
        rcases List.mem_append.mp member with old | new
        · rcases List.mem_append.mp isOther with otherOld | otherNew
          · exact placed.unique service old other otherOld live otherLive env name
          · obtain rfl := List.mem_singleton.mp otherNew
            exact (apart old live env name).elim
        · obtain rfl := List.mem_singleton.mp new
          rcases List.mem_append.mp isOther with otherOld | otherNew
          · exact (apart otherOld otherLive env.symm name.symm).elim
          · exact (List.mem_singleton.mp otherNew).symm
      · exact ⟨liveStill _ (placed.waiting waiting member).1, (placed.waiting waiting member).2⟩
      · intro env clusterName isSome
        obtain ⟨service, owns, has⟩ := placed.owned env clusterName isSome
        exact ⟨service, ⟨more owns.row, owns.live, owns.kafka, owns.environment, owns.name⟩, has⟩

theorem placed_addServiceInstance (placed : Placed s) {row : ServiceInstance}
    (isService : isLive s.services row.serviceId = true) :
    Placed { s with db := { s.db with instances := (s.db.instances.insertList [row]).getD s.db.instances } } := by
  cases inserted : s.db.instances.insertList [row] with
  | none => exact placed
  | some instances =>
      exact ⟨placed.unique, rows_addInstance placed.rows inserted isService, placed.waiting, placed.owned⟩

theorem mem_rename {services : Services} {id : Int} {serverName : String} {row : ZmsServiceEntity} :
    row ∈ (rename services id serverName).rows ↔
      ∃ old ∈ services.rows, (if old.id = id then { old with serverName } else old) = row := List.mem_map

theorem mem_deleteById {services : Services} {id : Int} {row : ZmsServiceEntity} :
    row ∈ (deleteById services id).rows ↔
      ∃ old ∈ services.rows, (if old.id = id then { old with isDeleted := true } else old) = row := List.mem_map

theorem mem_rename_of_ne {services : Services} {id : Int} {serverName : String} {row : ZmsServiceEntity}
    (member : row ∈ services.rows) (other : row.id ≠ id) : row ∈ (rename services id serverName).rows :=
  mem_rename.mpr ⟨row, member, if_neg other⟩

theorem mem_deleteById_of_ne {services : Services} {id : Int} {row : ZmsServiceEntity}
    (member : row ∈ services.rows) (other : row.id ≠ id) : row ∈ (deleteById services id).rows :=
  mem_deleteById.mpr ⟨row, member, if_neg other⟩

theorem isSome_changeService {services : Services} {id : Int} {change : ZmsServiceEntity → ZmsServiceEntity}
    {keeps : ∀ row, (change row).id = row.id} {serviceId : Int} :
    ((changeService services id change keeps).get serviceId).isSome = (services.get serviceId).isSome := by
  unfold changeService
  rw [Table.get_update, Option.isSome_map]

theorem isSome_rename {services : Services} {id serviceId : Int} {serverName : String} :
    ((rename services id serverName).get serviceId).isSome = (services.get serviceId).isSome := by
  unfold rename
  exact isSome_changeService

theorem isSome_deleteById {services : Services} {id serviceId : Int} :
    ((deleteById services id).get serviceId).isSome = (services.get serviceId).isSome := by
  unfold deleteById
  exact isSome_changeService

theorem placed_renameService (placed : Placed s) {id : Int} (serverName : String)
    (none : ∀ process ∈ s.db.processes.rows, process.serviceId ≠ id) : Placed (renameService s id serverName) := by
  unfold renameService
  split
  · exact placed
  · next entity found =>
      obtain ⟨isEntity, isId⟩ := Table.get_eq_some_iff.mp found
      split
      · next free =>
          -- who has the new name is the service itself
          have own {other : ZmsServiceEntity} (member : other ∈ s.services.rows) (live : other.isDeleted = false)
              (env : other.environmentId = entity.environmentId) (name : other.serverName = serverName) :
              other.id = id := by
            have listed : other ∈ getByEnvIdAndName s.services entity.environmentId serverName :=
              List.mem_filter.mpr ⟨member, by simp [env, name, live]⟩
            rcases free with empty | single
            · rw [empty] at listed
              cases listed
            · exact List.mem_singleton.mp (single ▸ List.mem_map_of_mem listed)
          have liveStill (serviceId : Int) (isLeft : isLive s.services serviceId = true) :
              isLive (rename s.services id serverName) serviceId = true := by
            obtain ⟨service, member, same, live⟩ := isLive_iff.mp isLeft
            refine isLive_iff.mpr ⟨_, mem_rename.mpr ⟨service, member, rfl⟩, ?_⟩
            split
            · exact ⟨same, live⟩
            · exact ⟨same, live⟩
          refine ⟨?_, rows_of_services placed.rows (fun _ => isSome_rename.trans) liveStill,
            fun waiting member => ?_, ?_⟩
          · intro service member other isOther live otherLive env name
            obtain ⟨old, isOld, rfl⟩ := mem_rename.mp member
            obtain ⟨otherOld, isOtherOld, rfl⟩ := mem_rename.mp isOther
            by_cases first : old.id = id
            · obtain rfl := List.inj_on_of_nodup_map s.services.keys isOld isEntity (first.trans isId.symm)
              by_cases second : otherOld.id = id
              · rw [List.inj_on_of_nodup_map s.services.keys isOtherOld isOld (second.trans first.symm)]
              · rw [if_pos first] at env name
                rw [if_neg second] at env name otherLive
                exact absurd (own isOtherOld otherLive env.symm name.symm) second
            · rw [if_neg first] at live env name ⊢
              by_cases second : otherOld.id = id
              · obtain rfl := List.inj_on_of_nodup_map s.services.keys isOtherOld isEntity (second.trans isId.symm)
                rw [if_pos second] at env name
                exact absurd (own isOld live env name) first
              · rw [if_neg second] at otherLive env name ⊢
                exact placed.unique old isOld otherOld isOtherOld live otherLive env name
          · exact ⟨liveStill _ (placed.waiting waiting member).1, (placed.waiting waiting member).2⟩
          · intro env clusterName isSome
            obtain ⟨service, owns, process, member, same⟩ := placed.owned env clusterName isSome
            have other : service.id ≠ id := fun sameId => none process member (same.trans sameId)
            exact ⟨service, ⟨mem_rename_of_ne owns.row other, owns.live, owns.kafka, owns.environment,
              owns.name⟩, process, member, same⟩
      · exact placed

theorem placed_deleteService (placed : Placed s) {id : Int} (answers : Bool) (settled : s.Settled id)
    (noneWaits : ∀ waiting ∈ s.waiting, waiting.serviceId ≠ id) : Placed (deleteService s id answers) := by
  unfold deleteService
  split
  · exact placed
  · next service found =>
      obtain ⟨isService, isId⟩ := Table.get_eq_some_iff.mp found
      have liveStill {serviceId : Int} (isLeft : isLive s.services serviceId = true) (other : serviceId ≠ id) :
          isLive (deleteById s.services id) serviceId = true := by
        obtain ⟨service, member, same, live⟩ := isLive_iff.mp isLeft
        exact isLive_iff.mpr ⟨service, mem_deleteById_of_ne member (same ▸ other), same, live⟩
      have rows : Rows (deleteById s.services id)
          (Programs.deleteByIds s.db ((listAllByServiceId s.db id).map (·.id))) := rows_delete placed.rows
        (fun _ => isSome_deleteById.trans)
        (fun row member isLeft kept => liveStill (placed.rows.live row member isLeft) fun own => kept
          (List.mem_map_of_mem (List.mem_filter.mpr ⟨member, by simp [own, isLeft]⟩)))
        (fun process member isInit => liveStill (placed.rows.starting process member isInit) fun own =>
          settled process member own isInit)
      have unique : Unique (deleteById s.services id) := by
        intro service member other isOther live otherLive env name
        obtain ⟨old, isOld, rfl⟩ := mem_deleteById.mp member
        obtain ⟨otherOld, isOtherOld, rfl⟩ := mem_deleteById.mp isOther
        split at live
        · cases live
        · next first =>
            split at otherLive
            · cases otherLive
            · next second =>
                rw [if_neg first, if_neg second] at env name ⊢
                exact placed.unique old isOld otherOld isOtherOld live otherLive env name
      have waiting : ∀ waiting ∈ s.waiting,
          isLive (deleteById s.services id) waiting.serviceId = true ∧ HasProcess s.db waiting.serviceId :=
        fun waiting member =>
        ⟨liveStill (placed.waiting waiting member).1 (noneWaits waiting member), (placed.waiting waiting member).2⟩
      have owned {env : EnvId} {clusterName : String} (isSome : (s.nodes env clusterName).isSome = true)
          (other : ∀ owner, Owns s.services env clusterName owner → owner.id ≠ id) :
          ∃ owner, Owns (deleteById s.services id)
            env clusterName owner ∧ HasProcess s.db owner.id := by
        obtain ⟨owner, owns, has⟩ := placed.owned env clusterName isSome
        exact ⟨owner, ⟨mem_deleteById_of_ne owns.row (other owner owns), owns.live, owns.kafka, owns.environment,
          owns.name⟩, has⟩
      have isIt {env : EnvId} {clusterName : String} {owner : ZmsServiceEntity}
          (owns : Owns s.services env clusterName owner) (same : owner.id = id) : owner = service :=
        List.inj_on_of_nodup_map s.services.keys owns.row isService (same.trans isId.symm)
      split
      · exact placed
      · split
        · split
          · refine ⟨unique, rows, waiting, fun env clusterName isSome => ?_⟩
            by_cases removed : env = service.environmentId ∧ clusterName = service.serverName
            · obtain ⟨rfl, rfl⟩ := removed
              change ((s.nodes.put _ _ none) _ _).isSome = true at isSome
              rw [put_same] at isSome
              cases isSome
            · change ((s.nodes.put _ _ none) _ _).isSome = true at isSome
              rw [put_other _ _ removed] at isSome
              refine owned isSome fun owner owns same => removed ?_
              obtain rfl := isIt owns same
              exact ⟨owns.environment.symm, owns.name.symm⟩
          · exact placed
        · next other =>
            refine ⟨unique, rows, waiting, fun env clusterName isSome => owned isSome fun owner owns same => other ?_⟩
            exact isIt owns same ▸ owns.kafka

theorem placed_effect (placed : Placed s) {a : Action} (enabled : guard s a) (orderly : Orderly s a) :
    Placed (effect fold hosts s a) := by
  cases a with
  | addService row => exact placed_addService placed orderly
  | addServiceInstance row => exact placed_addServiceInstance placed orderly
  | createProcess instanceIds refs => exact placed_createProcess placed refs orderly
  | startProcess process outside => exact placed_startProcess placed outside enabled.1 enabled.2
  | stopServiceInstance instanceIds outside =>
      have alike : Alike (fun _ => True) s.db (effect fold hosts s (.stopServiceInstance instanceIds outside)).db :=
        alike_stopServiceInstance instanceIds outside ⟨s.db, []⟩
      exact placed_of_alike placed alike rfl rfl fun _ member => .inl member
  | updateRunningStatus serviceProcesses =>
      have alike : Alike (fun _ => True) s.db (effect fold hosts s (.updateRunningStatus serviceProcesses)).db :=
        alike_report fun _ _ _ _ _ => .inr trivial
      exact placed_of_alike placed alike rfl rfl fun _ member => .inl member
  | listen waiting answers => exact placed_listen placed answers enabled
  | deleteServiceInstance ids answers => exact placed_deleteServiceInstance placed ids answers
  | renameService id serverName => exact placed_renameService placed serverName orderly
  | deleteService id answers => exact placed_deleteService placed answers orderly.1 orderly.2

theorem placed_of_orderly (reached : ((system fold hosts).restrict Orderly).Reachable s) : Placed s := by
  refine reached.invariant Placed ?_ ?_
  · intro s ⟨instances, processes, _, services, nodes, waiting⟩
    refine ⟨?_, ⟨?_, ?_, ?_, ?_⟩, ?_, ?_⟩
    all_goals simp [Unique, instances, processes, services, nodes, waiting]
  · intro s a placed enabled
    exact placed_effect placed enabled.1 enabled.2

/-- Whatever the agents and the listeners answer, each node is that of one service. -/
theorem owned_of_orderly (reached : ((system fold hosts).restrict Orderly).Reachable s) {env : EnvId}
    {clusterName : String} {data : ClusterMetadata} (isData : s.nodes env clusterName = some data) :
    ∃! service, Owns s.services env clusterName service := by
  have placed := placed_of_orderly reached
  obtain ⟨service, owns, _⟩ := placed.owned env clusterName (isData ▸ rfl)
  refine ⟨service, owns, fun other others => ?_⟩
  exact placed.unique other others.row service owns.row others.live owns.live
    (others.environment.trans owns.environment.symm) (others.name.trans owns.name.symm)

end Placed

def nothing : State := ⟨⟨⟨[], List.nodup_nil⟩, ⟨[], List.nodup_nil⟩, []⟩, ⟨[], List.nodup_nil⟩, fun _ _ => none, []⟩

/-- A service of Kafka and its ZooKeeper, each with an instance that is started. -/
def oneBroker : List Action := [
  .addService ⟨1, 1, "zk", "ZOOKEEPER", false⟩,
  .addServiceInstance ⟨1, 1, 1, .STOP, false⟩,
  .createProcess [1] [⟨some 1, 1, "clientPort", "2181"⟩],
  .startProcess ⟨1, 1, 1, "", .INIT⟩ ⟨fun _ => false, true⟩,
  .updateRunningStatus [⟨1, "RUNNING"⟩],
  .listen ⟨1, 1⟩ true,
  .addService ⟨2, 1, "orders", "KAFKA", false⟩,
  .addServiceInstance ⟨2, 2, 1, .STOP, false⟩,
  .createProcess [2] [⟨some 2, 2, "listeners", "9092"⟩, ⟨some 2, 2, "ZOOKEEPER", "1"⟩],
  .startProcess ⟨2, 2, 2, "", .INIT⟩ ⟨fun _ => false, true⟩,
  .listen ⟨2, 2⟩ true]

theorem owned_orders : ∃ (s : State) (data : ClusterMetadata), s.nodes 1 "orders" = some data ∧
    ∃! service, Owns s.services 1 "orders" service := by
  have run : ∃ s : State, ((system Char.toLower oneHost).restrict Orderly).Reachable s ∧
      (s.nodes 1 "orders").isSome = true :=
    Guarded.exists_reachable oneBroker (⟨rfl, rfl, rfl, rfl, rfl, rfl⟩ : (system _ _).init nothing) (by decide +kernel)
  obtain ⟨s, reached, isSome⟩ := run
  obtain ⟨data, isData⟩ := Option.isSome_iff_exists.mp isSome
  exact ⟨s, data, isData, owned_of_orderly reached isData⟩

/-- A listener that still waits writes the node of a service that is deleted. -/
theorem not_forall_reachable_owned : ¬∀ s : State, (system Char.toLower oneHost).Reachable s →
    ∀ env clusterName, (s.nodes env clusterName).isSome = true →
      ∃ service, Owns s.services env clusterName service := by
  have run : ∃ s : State, (system Char.toLower oneHost).Reachable s ∧ (s.nodes 1 "orders").isSome = true ∧
      ∀ service ∈ s.services.rows, service.serverName = "orders" → service.isDeleted = true :=
    Guarded.exists_reachable
      (oneBroker.dropLast ++ [.updateRunningStatus [⟨2, "STOPPED"⟩], .deleteService 2 true, .listen ⟨2, 2⟩ true])
      (⟨rfl, rfl, rfl, rfl, rfl, rfl⟩ : (system _ _).init nothing) (by decide +kernel)
  obtain ⟨s, reached, isSome, deleted⟩ := run
  intro all
  obtain ⟨service, owns⟩ := all s reached 1 "orders" isSome
  have gone := deleted service owns.row owns.name
  rw [owns.live] at gone
  cases gone

end Zms.Portal.Clusters
