import Zms.Portal.Processes.Programs
import Zms.Portal.Processes.StatusFollows
import Zms.Transition.Guarded

/-! When an instance has at most one program running, and none where it is shown as stopped. -/

set_option autoImplicit false

namespace Zms.Portal.Processes.Programs

open Zms.Registry Zms.Transition

def NoneRuns (s : State) (instanceId : Int) : Prop :=
  ∀ processId ∈ s.running, s.db.instanceOf processId ≠ some instanceId

structure Sound (s : State) : Prop where
  one : ∀ processId ∈ s.running, ∀ other ∈ s.running,
    s.db.instanceOf processId = s.db.instanceOf other → processId = other
  stopped : ∀ row ∈ s.db.instances.rows, row.instanceStatus = .STOP → NoneRuns s row.id
  deleted : ∀ row ∈ s.db.instances.rows, row.isDeleted = true → NoneRuns s row.id

section Condition
variable (fold : Char → Char) (hosts : Table ZmsHost.id)

def system : Guarded State Action where
  init s := s.running = []
  guard _ _ := True
  effect := effect fold hosts

/-- The program is found, and its agent gets the request and ends it. -/
def Ends (s : State) (outside : Int → StopOutside) (instanceId processId : Int) : Prop :=
  processId ∈ queryLastRunningProcessByInstanceId fold s.db instanceId ∧
    StopReaches hosts (outside processId) s.db processId ∧ (outside processId).stops = true

def StopsOne (s : State) (outside : Int → StopOutside) (instanceId : Int) : Prop :=
  ∀ processId ∈ s.running, s.db.instanceOf processId = some instanceId → Ends fold hosts s outside instanceId processId

def Stops (s : State) (instanceIds : List Int) (outside : Int → StopOutside) : Prop :=
  ∀ row ∈ listHostByInstanceIds hosts s.db instanceIds, StopsOne fold hosts s outside row.id

/-- For no instance with a running program the last reported state is another than `RUNNING` and
`STARTING`, and for none the newest process is missing. -/
def Reports (s : State) (report : List Reported) : Prop :=
  ∀ row ∈ s.db.instances.rows, ¬NoneRuns s row.id →
    ¬Vanished fold s.db report row ∧ shownStatus fold s.db report row ≠ .STOP

def Heard (s : State) : Action → Prop
  | .stop instanceIds outside => Stops fold hosts s instanceIds outside
  | .restart instanceIds stopOutside _ _ _ => Stops fold hosts s instanceIds stopOutside
  | .report serviceProcesses => Reports fold s serviceProcesses
  | _ => True

end Condition

/-! ### What a call leaves alone -/

/-- Of the instances that are not touched, neither the row nor a process changes; no process
changes its instance. -/
structure Frame (touched : Int → Prop) (db after : Database) : Prop where
  processes : ∀ processId, ∃ f : ServiceProcess → ServiceProcess,
    after.processes.get processId = (db.processes.get processId).map f ∧
      ∀ process, (f process).instanceId = process.instanceId ∧ (¬touched process.instanceId → f process = process)
  instances : ∀ instanceId, ∃ f : ServiceInstance → ServiceInstance,
    after.instances.get instanceId = (db.instances.get instanceId).map f ∧
      ∀ row, (f row).hostId = row.hostId ∧ (f row).isDeleted = row.isDeleted ∧ (¬touched instanceId → f row = row)

section Frames
variable {touched : Int → Prop} {db after : Database} {hosts : Table ZmsHost.id} {fold : Char → Char}

theorem Frame.refl (touched : Int → Prop) (db : Database) : Frame touched db db where
  processes _ := ⟨id, Option.map_id.symm ▸ rfl, fun _ => ⟨rfl, fun _ => rfl⟩⟩
  instances _ := ⟨id, Option.map_id.symm ▸ rfl, fun _ => ⟨rfl, rfl, fun _ => rfl⟩⟩

theorem Frame.trans {last : Database} (first : Frame touched db after) (second : Frame touched after last) :
    Frame touched db last where
  processes := by
    intro processId
    obtain ⟨f, changed, keeps⟩ := first.processes processId
    obtain ⟨g, changedAgain, keepsAgain⟩ := second.processes processId
    refine ⟨g ∘ f, by rw [changedAgain, changed, Option.map_map], fun process => ⟨?_, fun free => ?_⟩⟩
    · exact (keepsAgain (f process)).1.trans (keeps process).1
    · have stays := (keeps process).2 free
      rw [Function.comp_apply, stays]
      exact (keepsAgain process).2 free
  instances := by
    intro instanceId
    obtain ⟨f, changed, keeps⟩ := first.instances instanceId
    obtain ⟨g, changedAgain, keepsAgain⟩ := second.instances instanceId
    refine ⟨g ∘ f, by rw [changedAgain, changed, Option.map_map], fun row => ⟨?_, ?_, fun free => ?_⟩⟩
    · exact (keepsAgain (f row)).1.trans (keeps row).1
    · exact (keepsAgain (f row)).2.1.trans (keeps row).2.1
    · have stays := (keeps row).2.2 free
      rw [Function.comp_apply, stays]
      exact (keepsAgain row).2.2 free

theorem frame_processes {change : ServiceProcess → ServiceProcess} (keeps : ∀ row, (change row).id = row.id)
    (instances : after.instances = db.instances) (processes : after.processes = db.processes.update change keeps)
    (own : ∀ row, (change row).instanceId = row.instanceId)
    (only : ∀ row ∈ db.processes.rows, change row = row ∨ touched row.instanceId) : Frame touched db after where
  processes := by
    intro processId
    refine ⟨fun process => if process ∈ db.processes.rows then change process else process, ?_, fun process => ?_⟩
    · rw [processes, Table.get_update]
      cases found : db.processes.get processId with
      | none => rfl
      | some process =>
          have member := (Table.get_eq_some_iff.mp found).1
          exact congrArg some (if_pos member).symm
    · beta_reduce
      split
      · next member => exact ⟨own process, fun free => (only process member).resolve_right free⟩
      · exact ⟨rfl, fun _ => rfl⟩
  instances instanceId := by
    rw [instances]
    exact (Frame.refl touched db).instances instanceId

theorem frame_updateInstanceStatus {instanceId : Int} (isTouched : touched instanceId) (db : Database)
    (status : InstanceStatusEnum) : Frame touched db (db.updateInstanceStatus instanceId status) where
  processes := (Frame.refl touched db).processes
  instances := by
    intro other
    refine ⟨fun row => if other = instanceId then { row with instanceStatus := status } else row, ?_, fun row => ?_⟩
    · unfold Database.updateInstanceStatus
      rw [Table.get_update]
      cases found : db.instances.get other with
      | none => rfl
      | some row =>
          rw [Option.map_some, Option.map_some, (Table.get_eq_some_iff.mp found).2]
    · split
      · next same => exact ⟨rfl, rfl, fun free => absurd (same ▸ isTouched) free⟩
      · exact ⟨rfl, rfl, fun _ => rfl⟩

theorem Frame.instanceOf (frame : Frame touched db after) (processId : Int) :
    after.instanceOf processId = db.instanceOf processId := by
  obtain ⟨f, changed, keeps⟩ := frame.processes processId
  unfold Database.instanceOf
  rw [changed, Option.map_map]
  congr 1
  funext process
  exact (keeps process).1

theorem Frame.noneRuns {s t : State} (frame : Frame touched s.db t.db)
    (fewer : ∀ processId ∈ t.running, processId ∈ s.running) {instanceId : Int} (none : NoneRuns s instanceId) :
    NoneRuns t instanceId := by
  intro processId runs
  rw [frame.instanceOf]
  exact none processId (fewer processId runs)

theorem Frame.row (frame : Frame touched db after) {row : ServiceInstance} (member : row ∈ after.instances.rows) :
    ∃ old ∈ db.instances.rows, old.id = row.id ∧ old.isDeleted = row.isDeleted ∧ (¬touched row.id → old = row) := by
  obtain ⟨f, changed, keeps⟩ := frame.instances row.id
  rw [Table.get_key member] at changed
  obtain ⟨old, found, same⟩ := Option.map_eq_some_iff.mp changed.symm
  obtain ⟨isRow, isId⟩ := Table.get_eq_some_iff.mp found
  obtain ⟨_, deleted, stays⟩ := keeps old
  rw [same] at deleted stays
  exact ⟨old, isRow, isId, deleted.symm, fun free => (stays free).symm⟩

end Frames

/-! ### What keeps the invariant -/

structure Placed (s : State) : Prop where
  sound : Sound s
  known : ∀ processId ∈ s.running, ∃ instanceId, s.db.instanceOf processId = some instanceId

section Steps
variable {touched : Int → Prop} {hosts : Table ZmsHost.id} {fold : Char → Char} {s t : State}

/-- Programs end, and what is shown as stopped afterwards has none. -/
theorem placed_of_frame (placed : Placed s) (frame : Frame touched s.db t.db)
    (fewer : ∀ processId ∈ t.running, processId ∈ s.running)
    (settled : ∀ row ∈ t.db.instances.rows, touched row.id → row.instanceStatus = .STOP → NoneRuns t row.id) :
    Placed t where
  sound := by
    constructor
    · intro processId runs other otherRuns same
      rw [frame.instanceOf, frame.instanceOf] at same
      exact placed.sound.one processId (fewer processId runs) other (fewer other otherRuns) same
    · intro row member isStopped
      by_cases isTouched : touched row.id
      · exact settled row member isTouched isStopped
      · obtain ⟨old, isRow, _, _, stays⟩ := frame.row member
        rw [stays isTouched] at isRow
        exact frame.noneRuns fewer (placed.sound.stopped row isRow isStopped)
    · intro row member isDeleted
      obtain ⟨old, isRow, isId, deleted, _⟩ := frame.row member
      rw [← isId]
      exact frame.noneRuns fewer (placed.sound.deleted old isRow (deleted.trans isDeleted))
  known processId runs := by
    rw [frame.instanceOf]
    exact placed.known processId (fewer processId runs)

theorem placed_of_fewer (placed : Placed s) {running : List Int} (fewer : ∀ processId ∈ running, processId ∈ s.running) :
    Placed { s with running } :=
  placed_of_frame placed (Frame.refl (fun _ => False) s.db) fewer fun _ _ impossible => impossible.elim

/-! ### Stopping -/

theorem stopCall_bind {β : Type} (outside : StopOutside) (callee : StopCall) (next : Unit → Throwing Database β)
    (db : Database) :
    (stopCall outside callee >>= next) db = if outside.throws callee then (none, db) else next () db := by
  cases throws : outside.throws callee with
  | true => exact Throwing.ensure_bind_of_not (by rw [throws]; decide) next db
  | false => exact Throwing.ensure_bind throws next db

/-- What `stopProcess` needs to ask the agent. -/
def Asks (hosts : Table ZmsHost.id) (outside : StopOutside) (db : Database) (processId : Int) : Prop :=
  (∀ callee ∈ [StopCall.getProgramName, .getByProcessId, .getByInstanceId, .getToken],
      outside.throws callee = false) ∧
    ((db.processes.get processId).bind fun process => getByInstanceId hosts db process.instanceId).isSome = true

instance (outside : StopOutside) (db : Database) (processId : Int) : Decidable (Asks hosts outside db processId) :=
  inferInstanceAs (Decidable (_ ∧ _))

theorem requestStop_eq (hosts : Table ZmsHost.id) (outside : StopOutside) (db : Database) (processId : Int) :
    requestStop hosts outside processId db = (if Asks hosts outside db processId then some () else none, db) := by
  have asks : Asks hosts outside db processId ↔ outside.throws .getProgramName = false ∧
      outside.throws .getByProcessId = false ∧
        ((db.processes.get processId).bind fun process =>
          getByInstanceId hosts db process.instanceId).isSome = true ∧
          outside.throws .getByInstanceId = false ∧ outside.throws .getToken = false := by
    unfold Asks
    simp only [List.forall_mem_cons, List.not_mem_nil, false_implies, implies_true, and_true]
    tauto
  unfold requestStop
  rw [stopCall_bind, stopCall_bind]
  cases found : db.processes.get processId with
  | none =>
      have never : ¬Asks hosts outside db processId := fun all => by simp [asks, found] at all
      rw [if_neg never]
      change (if _ then _ else if _ then _ else (Throwing.ofOption (db.processes.get processId) >>= _) db) = _
      rw [found]
      split
      · rfl
      · split <;> rfl
  | some process =>
      change (if _ then _ else if _ then _ else (Throwing.ofOption (db.processes.get processId) >>= _) db) = _
      rw [ofOption_bind_of_eq db found, stopCall_bind]
      cases host : getByInstanceId hosts db process.instanceId with
      | none =>
          have never : ¬Asks hosts outside db processId := fun all => by simp [asks, found, host] at all
          rw [if_neg never]
          split
          · rfl
          · split
            · rfl
            · split <;> rfl
      | some zmsHost =>
          rw [Throwing.ofOption_bind]
          simp only [asks, found, host, Option.bind_some, Option.isSome_some, true_and]
          unfold stopCall Throwing.ensure
          cases outside.throws .getProgramName <;> cases outside.throws .getByProcessId <;>
            cases outside.throws .getByInstanceId <;> cases outside.throws .getToken <;> rfl

theorem stopReaches_iff {outside : StopOutside} {db : Database} {processId : Int} :
    StopReaches hosts outside db processId ↔ Asks hosts outside db processId := by
  unfold StopReaches
  rw [requestStop_eq]
  split
  · next asks => exact iff_of_true rfl asks
  · next never => exact iff_of_false (fun impossible => by cases impossible) never

theorem stopProcess_leaves (hosts : Table ZmsHost.id) (outside : StopOutside) (db : Database) (processId : Int) :
    (stopProcess hosts outside processId db).2 = db ∨
      (stopProcess hosts outside processId db).2 = stopByAdmin db processId := by
  unfold stopProcess
  by_cases asks : Asks hosts outside db processId
  · have requested : requestStop hosts outside processId db = (some (), db) := by
      rw [requestStop_eq, if_pos asks]
    rw [Throwing.bind_of_returns requested, stopCall_bind]
    cases outside.throws .agentStopProcess with
    | true => exact .inl rfl
    | false =>
        cases answer : outside.status with
        | false => exact .inl rfl
        | true =>
            rw [Throwing.when_of rfl, Throwing.bind_assoc, if_neg (by decide), stopCall_bind]
            cases outside.throws .stopByAdmin with
            | true => exact .inl rfl
            | false => exact .inr rfl
  · have refused : requestStop hosts outside processId db = (none, db) := by
      rw [requestStop_eq, if_neg asks]
    rw [Throwing.bind_of_throws refused]
    exact .inl rfl

theorem frame_stopProcess {outside : StopOutside} {db : Database} {processId : Int}
    (isTouched : ∀ instanceId, db.instanceOf processId = some instanceId → touched instanceId) :
    Frame touched db (stopProcess hosts outside processId db).2 := by
  rcases stopProcess_leaves hosts outside db processId with same | noted
  · rw [same]
    exact Frame.refl touched db
  · rw [noted]
    refine frame_processes (by intro row; split <;> rfl) rfl rfl ?_ ?_
    · intro row
      split <;> rfl
    · intro row member
      split
      · next own =>
          refine .inr (isTouched row.instanceId ?_)
          rw [← own]
          exact congrArg (Option.map ServiceProcess.instanceId) (Table.get_key member)
      · exact .inl rfl

section Framed
variable {db after : Database}

theorem Frame.getByInstanceId (frame : Frame touched db after) (instanceId : Int) :
    getByInstanceId hosts after instanceId = getByInstanceId hosts db instanceId := by
  obtain ⟨f, changed, keeps⟩ := frame.instances instanceId
  unfold Processes.getByInstanceId
  rw [changed, Option.bind_map]
  congr 1
  funext row
  exact congrArg hosts.get (keeps row).1

theorem Frame.stopReaches_iff (frame : Frame touched db after) {outside : StopOutside} {processId : Int} :
    StopReaches hosts outside after processId ↔ StopReaches hosts outside db processId := by
  obtain ⟨f, changed, keeps⟩ := frame.processes processId
  rw [Programs.stopReaches_iff, Programs.stopReaches_iff]
  unfold Asks
  rw [changed, Option.bind_map]
  simp only [Function.comp_def, frame.getByInstanceId, (keeps _).1]

theorem mem_query_iff {processId instanceId : Int} :
    processId ∈ queryLastRunningProcessByInstanceId fold db instanceId ↔
      ∃ process, db.processes.get processId = some process ∧ process.instanceId = instanceId ∧
        process.status = .SUCCESS ∧ equalsIgnoreCase fold process.runningStatus "running" = true ∧
          ∃ row, db.instances.get instanceId = some row ∧ row.isDeleted = false := by
  unfold queryLastRunningProcessByInstanceId
  rw [List.mem_map]
  constructor
  · rintro ⟨process, listed, rfl⟩
    obtain ⟨member, holds⟩ := List.mem_filter.mp listed
    simp only [Bool.and_eq_true, decide_eq_true_eq, List.any_eq_true, Bool.not_eq_true'] at holds
    obtain ⟨⟨⟨success, own⟩, isRunning⟩, row, isRow, isId, kept⟩ := holds
    rw [own] at isId
    exact ⟨process, Table.get_key member, own, success, isRunning, row, isId ▸ Table.get_key isRow, kept⟩
  · rintro ⟨process, found, own, success, isRunning, row, isRow, kept⟩
    obtain ⟨member, isId⟩ := Table.get_eq_some_iff.mp found
    obtain ⟨rowMember, rowId⟩ := Table.get_eq_some_iff.mp isRow
    refine ⟨process, List.mem_filter.mpr ⟨member, ?_⟩, isId⟩
    simp only [Bool.and_eq_true, decide_eq_true_eq, List.any_eq_true, Bool.not_eq_true']
    exact ⟨⟨⟨success, own⟩, isRunning⟩, row, rowMember, rowId.trans own.symm, kept⟩

theorem Frame.mem_query_iff (frame : Frame touched db after) {processId instanceId : Int} (free : ¬touched instanceId) :
    processId ∈ queryLastRunningProcessByInstanceId fold after instanceId ↔
      processId ∈ queryLastRunningProcessByInstanceId fold db instanceId := by
  obtain ⟨f, changed, keeps⟩ := frame.processes processId
  obtain ⟨g, changedRow, keepsRow⟩ := frame.instances instanceId
  have sameRow : after.instances.get instanceId = db.instances.get instanceId := by
    rw [changedRow]
    cases db.instances.get instanceId with
    | none => rfl
    | some row => exact congrArg some ((keepsRow row).2.2 free)
  rw [Programs.mem_query_iff, Programs.mem_query_iff, sameRow, changed]
  cases db.processes.get processId with
  | none => rfl
  | some process =>
      by_cases own : process.instanceId = instanceId
      · rw [Option.map_some, (keeps process).2 (own ▸ free)]
      · refine iff_of_false ?_ ?_
        · rintro ⟨_, found, isInstance, _⟩
          rw [← Option.some.inj found] at isInstance
          exact own ((keeps process).1.symm.trans isInstance)
        · rintro ⟨_, found, isInstance, _⟩
          rw [← Option.some.inj found] at isInstance
          exact own isInstance

end Framed

theorem instanceOf_of_listed {db : Database} {processId instanceId : Int}
    (listed : processId ∈ queryLastRunningProcessByInstanceId fold db instanceId) :
    db.instanceOf processId = some instanceId := by
  obtain ⟨process, found, own, _⟩ := mem_query_iff.mp listed
  unfold Database.instanceOf
  rw [found]
  exact congrArg some own

theorem fewer_stopProgram (hosts : Table ZmsHost.id) (outside : Int → StopOutside) (s : State) (processId : Int) :
    ∀ other ∈ (stopProgram hosts outside s processId).running, other ∈ s.running := by
  intro other runs
  unfold stopProgram at runs
  split at runs
  · exact (List.mem_filter.mp runs).1
  · exact runs

/-- The listed programs of an instance end if their agents get the requests and end them. -/
theorem stopPrograms (hosts : Table ZmsHost.id) (outside : Int → StopOutside) {processIds : List Int}
    (own : ∀ processId ∈ processIds, ∀ instanceId, s.db.instanceOf processId = some instanceId → touched instanceId) :
    Frame touched s.db (processIds.foldl (stopProgram hosts outside) s).db ∧
      (∀ other ∈ (processIds.foldl (stopProgram hosts outside) s).running, other ∈ s.running) ∧
      ∀ processId ∈ processIds, StopReaches hosts (outside processId) s.db processId → (outside processId).stops = true →
        processId ∉ (processIds.foldl (stopProgram hosts outside) s).running := by
  induction processIds generalizing s with
  | nil => exact ⟨Frame.refl touched s.db, fun _ runs => runs, fun _ impossible => by cases impossible⟩
  | cons processId rest ih =>
      have frame : Frame touched s.db (stopProgram hosts outside s processId).db :=
        frame_stopProcess (own processId List.mem_cons_self)
      obtain ⟨later, fewer, ended⟩ := ih fun other member instanceId isInstance =>
        own other (List.mem_cons_of_mem _ member) instanceId ((frame.instanceOf other).symm.trans isInstance)
      have fewerStill := fun other runs => fewer_stopProgram hosts outside s processId other (fewer other runs)
      refine ⟨frame.trans later, fewerStill, ?_⟩
      intro other member reaches stops runs
      rcases List.mem_cons.mp member with rfl | inRest
      · have left := fewer other runs
        unfold stopProgram at left
        rw [if_pos ⟨reaches, stops⟩] at left
        simp at left
      · exact ended other inRest (frame.stopReaches_iff.mpr reaches) stops runs

theorem frame_stopInstance (fold : Char → Char) (hosts : Table ZmsHost.id) (outside : Int → StopOutside) (s : State)
    (instance_ : ServiceInstance) :
    Frame (fun instanceId => instanceId = instance_.id) s.db (stopInstance fold hosts outside s instance_).db := by
  have own : ∀ processId ∈ queryLastRunningProcessByInstanceId fold s.db instance_.id, ∀ instanceId,
      s.db.instanceOf processId = some instanceId → instanceId = instance_.id := by
    intro processId listed instanceId isInstance
    exact Option.some.inj (isInstance.symm.trans (instanceOf_of_listed listed))
  have last (db : Database) : Frame (fun instanceId => instanceId = instance_.id) db
      (db.updateInstanceStatus instance_.id .STOP) := frame_updateInstanceStatus (by rfl) db .STOP
  exact (stopPrograms hosts outside own).1.trans (last _)

theorem placed_stopInstance (placed : Placed s) {outside : Int → StopOutside} {instance_ : ServiceInstance}
    (stops : StopsOne fold hosts s outside instance_.id) :
    Placed (stopInstance fold hosts outside s instance_) ∧
      Frame (fun instanceId => instanceId = instance_.id) s.db (stopInstance fold hosts outside s instance_).db ∧
      ∀ other ∈ (stopInstance fold hosts outside s instance_).running, other ∈ s.running := by
  obtain ⟨_, fewer, ended⟩ := stopPrograms hosts outside fun processId listed instanceId
      (_ : s.db.instanceOf processId = some instanceId) => trivial
  have whole := frame_stopInstance fold hosts outside s instance_
  refine ⟨placed_of_frame placed whole fewer ?_, whole, fewer⟩
  intro row _ isTouched _ processId runs isInstance
  rw [whole.instanceOf, isTouched] at isInstance
  obtain ⟨listed, reaches, ends⟩ := stops processId (fewer processId runs) isInstance
  exact ended processId listed reaches ends runs

theorem placed_stopEach {outside : Int → StopOutside} {instances : List ServiceInstance}
    (distinct : (instances.map ServiceInstance.id).Nodup) (placed : Placed s)
    (stops : ∀ instance_ ∈ instances, StopsOne fold hosts s outside instance_.id) :
    Placed (instances.foldl (stopInstance fold hosts outside) s) := by
  induction instances generalizing s with
  | nil => exact placed
  | cons instance_ rest ih =>
      obtain ⟨fresh, distinctRest⟩ := List.nodup_cons.mp distinct
      obtain ⟨placedNext, frame, fewer⟩ := placed_stopInstance placed (stops instance_ List.mem_cons_self)
      refine ih distinctRest placedNext ?_
      intro other member processId runs isInstance
      have free : ¬other.id = instance_.id := fun same => fresh (same ▸ List.mem_map_of_mem member)
      rw [frame.instanceOf] at isInstance
      obtain ⟨listed, reaches, ends⟩ :=
        stops other (List.mem_cons_of_mem _ member) processId (fewer processId runs) isInstance
      exact ⟨(frame.mem_query_iff free).mpr listed, frame.stopReaches_iff.mpr reaches, ends⟩

theorem placed_stopServiceInstance (placed : Placed s) {instanceIds : List Int} {outside : Int → StopOutside}
    (stops : Stops fold hosts s instanceIds outside) :
    Placed (stopServiceInstance fold hosts instanceIds outside s) :=
  placed_stopEach (s.db.instances.keys.sublist (List.filter_sublist.map _)) placed stops

/-! ### A stop that leaves a program -/

/-! ### Reports -/

theorem frame_updateRunningStatus (db : Database) (processId : Int) (runningStatus : String) :
    Frame (fun _ => True) db (db.updateRunningStatus processId runningStatus) :=
  frame_processes (by intro row; split <;> rfl) rfl rfl (by intro row; split <;> rfl) fun _ _ => .inr trivial

theorem frame_applyReport (fold : Char → Char) (report : List Reported) (db : Database) :
    Frame (fun _ => True) db (applyReport fold report db).1 := by
  induction report generalizing db with
  | nil => exact Frame.refl _ db
  | cons entry rest ih =>
      have seen := frame_updateRunningStatus db entry.processId entry.stateName
      unfold applyReport
      dsimp only
      split
      · exact seen
      · exact seen
      · exact (seen.trans (frame_updateInstanceStatus trivial _ _)).trans (ih _)

theorem frame_stopVanished (gone : List ServiceProcess) (db : Database) :
    Frame (fun _ => True) db (gone.foldl stopVanished db) := by
  induction gone generalizing db with
  | nil => exact Frame.refl _ db
  | cons process rest ih =>
      have stopped : Frame (fun _ => True) db (stopVanished db process) :=
        (frame_updateRunningStatus db process.id _).trans (frame_updateInstanceStatus trivial _ _)
      exact stopped.trans (ih _)

theorem frame_report (fold : Char → Char) (report : List Reported) (db : Database) :
    Frame (fun _ => True) db (Processes.updateRunningStatus fold report db) := by
  have applied := frame_applyReport fold report db
  unfold Processes.updateRunningStatus
  split
  · next after isAfter =>
      rw [isAfter] at applied
      rw [updateSupervisorNotExists_eq]
      exact applied.trans (frame_stopVanished _ after)
  · next after _ isAfter =>
      rw [isAfter] at applied
      exact applied

theorem placed_report (placed : Placed s) {report : List Reported} (reports : Reports fold s report) :
    Placed { s with db := Processes.updateRunningStatus fold report s.db } := by
  have frame := frame_report fold report s.db
  refine placed_of_frame placed frame (fun _ runs => runs) ?_
  intro row member _ isStopped
  obtain ⟨old, isRow, isId, _⟩ := frame.row member
  by_contra some
  have someOld : ¬NoneRuns s old.id := by
    intro none
    rw [isId] at none
    refine some fun processId runs isInstance => ?_
    exact none processId runs ((frame.instanceOf processId).symm.trans isInstance)
  obtain ⟨stays, shown⟩ := reports old isRow someOld
  have after : (Processes.updateRunningStatus fold report s.db).instances.get old.id = Option.some row := by
    rw [isId]
    exact Table.get_key member
  rcases (get_updateRunningStatus fold isRow).mp after with ⟨vanished, _⟩ | ⟨_, isShown⟩
  · exact stays vanished
  · rw [isShown] at isStopped
    exact shown isStopped

/-! ### Starting -/

theorem frame_updateStatus {db : Database} {processId instanceId : Int}
    (own : db.instanceOf processId = some instanceId) (status : ProcessStatus) :
    Frame (fun other => other = instanceId) db (db.updateStatus processId status) := by
  refine frame_processes (by intro row; split <;> rfl) rfl rfl ?_ ?_
  · intro row
    split <;> rfl
  · intro row member
    split
    · next same =>
        refine .inr (Option.some.inj (Eq.trans ?_ own))
        rw [← same]
        exact (congrArg (Option.map ServiceProcess.instanceId) (Table.get_key member)).symm
    · exact .inl rfl

theorem finish_leaves (outside : Outside) (db : Database) (processId : Int) (answer : Option Bool) :
    (finish outside processId answer db).2 = db ∨
      ∃ status, (finish outside processId answer db).2 = db.updateStatus processId status := by
  rw [finish_eq]
  split
  · split
    · exact .inl rfl
    · exact .inr ⟨.SUCCESS, rfl⟩
  · dsimp only
    split
    · exact .inl rfl
    · exact .inr ⟨.FAILURE, rfl⟩

theorem frame_finish (outside : Outside) {db : Database} {processId instanceId : Int} (answer : Option Bool)
    (own : db.instanceOf processId = some instanceId) :
    Frame (fun other => other = instanceId) db (finish outside processId answer db).2 ∧
      (finish outside processId answer db).2.instances = db.instances := by
  rcases finish_leaves outside db processId answer with same | ⟨status, noted⟩
  · rw [same]
    exact ⟨Frame.refl _ db, rfl⟩
  · rw [noted]
    exact ⟨frame_updateStatus own status, rfl⟩

theorem frame_startProcess (hosts : Table ZmsHost.id) (outside : Outside) {db : Database} {processId instanceId : Int}
    (own : db.instanceOf processId = some instanceId) :
    Frame (fun other => other = instanceId) db (startProcess hosts outside instanceId processId db).2 ∧
      (SetsStarting hosts outside db processId →
        ∀ row ∈ (startProcess hosts outside instanceId processId db).2.instances.rows,
          row.id = instanceId → row.instanceStatus = .STARTING) := by
  by_cases starting : SetsStarting hosts outside db processId
  · have set : Frame (fun other => other = instanceId) db (db.updateInstanceStatus instanceId .STARTING) :=
      frame_updateInstanceStatus (by rfl) db .STARTING
    rw [startProcess_of_starting hosts outside db instanceId processId starting]
    obtain ⟨frame, instances⟩ := frame_finish outside
      (if outside.throws .agentStartProcess then none else some outside.status)
      ((set.instanceOf processId).trans own)
    refine ⟨set.trans frame, fun _ row member isInstance => ?_⟩
    rw [instances, Database.rows_updateInstanceStatus] at member
    obtain ⟨old, _, rfl⟩ := List.mem_map.mp member
    by_cases same : old.id = instanceId
    · rw [if_pos same]
    · rw [if_neg same] at isInstance
      exact absurd isInstance same
  · refine ⟨?_, fun sets => absurd sets starting⟩
    by_cases reads : Reads outside db processId
    · rw [startProcess_of_not_starting hosts outside db instanceId processId reads starting]
      exact (frame_finish outside none own).1
    · rw [startProcess_of_not_reads hosts outside db instanceId processId reads]
      exact Frame.refl _ db

/-- An instance that is to be started: none of its programs runs. -/
structure Ready (s : State) (process : ServiceProcess) : Prop where
  own : s.db.instanceOf process.id = some process.instanceId
  none : NoneRuns s process.instanceId
  kept : ∀ row ∈ s.db.instances.rows, row.id = process.instanceId → row.isDeleted = false

theorem placed_startProgram (placed : Placed s) {outside : Int → Outside} {starts : Int → Bool}
    {process : ServiceProcess} (ready : Ready s process) :
    Placed (startProgram hosts outside starts s process) ∧
      ∀ other : ServiceProcess, other.instanceId ≠ process.instanceId → Ready s other →
        Ready (startProgram hosts outside starts s process) other := by
  obtain ⟨frame, starting⟩ := frame_startProcess hosts (outside process.id) ready.own
  -- besides the programs that run, only this one may run afterwards
  have runs_cases (processId : Int) (runs : processId ∈ (startProgram hosts outside starts s process).running) :
      processId ∈ s.running ∨ processId = process.id ∧ SetsStarting hosts (outside process.id) s.db process.id := by
    unfold startProgram at runs
    split at runs
    · next started =>
        rcases List.mem_cons.mp runs with isNew | old
        · exact .inr ⟨isNew, started.1⟩
        · exact .inl old
    · exact .inl runs
  have stillNone {instanceId : Int} (other : instanceId ≠ process.instanceId) (none : NoneRuns s instanceId) :
      NoneRuns (startProgram hosts outside starts s process) instanceId := by
    intro processId runs isInstance
    have isInstance := (frame.instanceOf processId).symm.trans isInstance
    rcases runs_cases processId runs with old | ⟨isNew, _⟩
    · exact none processId old isInstance
    · rw [isNew, ready.own] at isInstance
      exact other (Option.some.inj isInstance).symm
  refine ⟨⟨⟨?_, ?_, ?_⟩, ?_⟩, ?_⟩
  · intro processId runs other otherRuns same
    have same := (frame.instanceOf processId).symm.trans (same.trans (frame.instanceOf other))
    rcases runs_cases processId runs with old | ⟨isNew, _⟩
    · rcases runs_cases other otherRuns with otherOld | ⟨otherNew, _⟩
      · exact placed.sound.one processId old other otherOld same
      · rw [otherNew, ready.own] at same
        exact absurd same (ready.none processId old)
    · rcases runs_cases other otherRuns with otherOld | ⟨otherNew, _⟩
      · rw [isNew, ready.own] at same
        exact absurd same.symm (ready.none other otherOld)
      · rw [isNew, otherNew]
  · intro row member isStopped
    by_cases own : row.id = process.instanceId
    · intro processId runs isInstance
      have isInstance := (frame.instanceOf processId).symm.trans isInstance
      rcases runs_cases processId runs with old | ⟨_, sets⟩
      · rw [own] at isInstance
        exact ready.none processId old isInstance
      · have isStarting := starting sets row member own
        rw [isStarting] at isStopped
        cases isStopped
    · obtain ⟨old, isRow, _, _, stays⟩ := frame.row member
      rw [stays own] at isRow
      exact stillNone own (placed.sound.stopped row isRow isStopped)
  · intro row member isDeleted
    obtain ⟨old, isRow, isId, deleted, _⟩ := frame.row member
    have isDeletedOld := deleted.trans isDeleted
    have other : row.id ≠ process.instanceId := by
      intro own
      rw [ready.kept old isRow (isId.trans own)] at isDeletedOld
      cases isDeletedOld
    have none := placed.sound.deleted old isRow isDeletedOld
    rw [isId] at none
    exact stillNone other none
  · intro processId runs
    rcases runs_cases processId runs with old | ⟨isNew, _⟩
    · obtain ⟨instanceId, isInstance⟩ := placed.known processId old
      exact ⟨instanceId, (frame.instanceOf processId).trans isInstance⟩
    · rw [isNew]
      exact ⟨process.instanceId, (frame.instanceOf process.id).trans ready.own⟩
  · intro other differs otherReady
    refine ⟨(frame.instanceOf other.id).trans otherReady.own, stillNone differs otherReady.none, ?_⟩
    intro row member isInstance
    obtain ⟨old, isRow, isId, deleted, _⟩ := frame.row member
    rw [← deleted]
    exact otherReady.kept old isRow (isId.trans isInstance)

theorem placed_startEach {outside : Int → Outside} {starts : Int → Bool} {processes : List ServiceProcess}
    (distinct : (processes.map ServiceProcess.instanceId).Nodup) (placed : Placed s)
    (ready : ∀ process ∈ processes, Ready s process) :
    Placed (processes.foldl (startProgram hosts outside starts) s) := by
  induction processes generalizing s with
  | nil => exact placed
  | cons process rest ih =>
      obtain ⟨fresh, distinctRest⟩ := List.nodup_cons.mp distinct
      obtain ⟨placedNext, readyNext⟩ := placed_startProgram placed (ready process List.mem_cons_self)
      refine ih distinctRest placedNext fun other member => ?_
      refine readyNext other ?_ (ready other (List.mem_cons_of_mem _ member))
      intro same
      exact fresh (same ▸ List.mem_map_of_mem member)

theorem placed_inserted (placed : Placed s) {serviceProcesses : List ServiceProcess}
    {processes : Table ServiceProcess.id} (inserted : s.db.processes.insertList serviceProcesses = some processes)
    (refs : List ProcessPropertyValueRef) :
    Placed ⟨⟨s.db.instances, processes, refs⟩, s.running⟩ ∧
      ∀ process ∈ serviceProcesses, NoneRuns s process.instanceId →
        (∀ row ∈ s.db.instances.rows, row.id = process.instanceId → row.isDeleted = false) →
          Ready ⟨⟨s.db.instances, processes, refs⟩, s.running⟩ process := by
  have rows := Table.rows_of_insertList inserted
  have same (processId : Int) (runs : processId ∈ s.running) :
      Database.instanceOf ⟨s.db.instances, processes, refs⟩ processId = s.db.instanceOf processId := by
    obtain ⟨instanceId, isInstance⟩ := placed.known processId runs
    obtain ⟨process, found, own⟩ := Option.map_eq_some_iff.mp isInstance
    obtain ⟨member, isId⟩ := Table.get_eq_some_iff.mp found
    have foundAgain : processes.get processId = some process := by
      refine Table.get_eq_some_iff.mpr ⟨?_, isId⟩
      rw [rows]
      exact List.mem_append_left _ member
    exact congrArg (Option.map ServiceProcess.instanceId) (foundAgain.trans found.symm)
  have none {instanceId : Int} (noneBefore : NoneRuns s instanceId) :
      NoneRuns ⟨⟨s.db.instances, processes, refs⟩, s.running⟩ instanceId := fun processId runs isInstance =>
    noneBefore processId runs ((same processId runs).symm.trans isInstance)
  refine ⟨⟨⟨?_, ?_, ?_⟩, ?_⟩, ?_⟩
  · intro processId runs other otherRuns together
    have together := (same processId runs).symm.trans (together.trans (same other otherRuns))
    exact placed.sound.one processId runs other otherRuns together
  · exact fun row member isStopped => none (placed.sound.stopped row member isStopped)
  · exact fun row member isDeleted => none (placed.sound.deleted row member isDeleted)
  · intro processId runs
    obtain ⟨instanceId, isInstance⟩ := placed.known processId runs
    exact ⟨instanceId, (same processId runs).trans isInstance⟩
  · intro process member noneBefore kept
    refine ⟨?_, none noneBefore, kept⟩
    have listed : process ∈ processes.rows := by
      rw [rows]
      exact List.mem_append_right _ member
    exact congrArg (Option.map ServiceProcess.instanceId) (Table.get_key listed)

theorem instanceIds_newProcesses (db : Database) (serviceId : Int) (instances : List ServiceInstance) :
    (newProcesses db serviceId instances).map ServiceProcess.instanceId = instances.map ServiceInstance.id := by
  have read : ServiceProcess.instanceId ∘ (fun entry : ServiceInstance × Nat =>
      (⟨nextId db + entry.2, serviceId, entry.1.id, "", .INIT⟩ : ServiceProcess)) = ServiceInstance.id ∘ Prod.fst := rfl
  rw [newProcesses, List.map_map, read, ← List.map_map, List.zipIdx_map_fst]

theorem stopped_of_checkStart {db : Database} {instanceIds : List Int} {serviceId : Int}
    (accepted : checkStart hosts db instanceIds = some serviceId) {row : ServiceInstance}
    (listed : row ∈ listHostByInstanceIds hosts db instanceIds) : row.instanceStatus = .STOP := by
  unfold checkStart at accepted
  dsimp only at accepted
  split at accepted
  · next idle =>
      have free := List.all_eq_true.mp idle row listed
      cases status : row.instanceStatus with
      | STOP => rfl
      | START => simp [status] at free
      | STARTING => simp [status] at free
  · cases accepted

theorem placed_startServiceInstance (placed : Placed s) (instanceIds : List Int) (creation : Creation)
    (outside : Int → Outside) (starts : Int → Bool) :
    Placed (startServiceInstance hosts instanceIds creation outside starts s) := by
  unfold startServiceInstance
  split
  · exact placed
  · next serviceId accepted =>
      dsimp only
      split
      · next refs processes inserted =>
          obtain ⟨placedNew, ready⟩ := placed_inserted placed inserted (s.db.refs ++ refs)
          refine placed_startEach ?_ placedNew fun process member => ?_
          · rw [instanceIds_newProcesses]
            exact s.db.instances.keys.sublist (List.filter_sublist.map _)
          · have listed := List.mem_map_of_mem (f := ServiceProcess.instanceId) member
            rw [instanceIds_newProcesses] at listed
            obtain ⟨row, isListed, isId⟩ := List.mem_map.mp listed
            obtain ⟨isRow, holds⟩ := List.mem_filter.mp isListed
            have none := placed.sound.stopped row isRow (stopped_of_checkStart accepted isListed)
            rw [isId] at none
            refine ready process member none fun other isOther otherId => ?_
            have sameRow : other = row :=
              List.inj_on_of_nodup_map s.db.instances.keys isOther isRow (otherId.trans isId.symm)
            rw [sameRow]
            simpa using (Bool.and_eq_true_iff.mp holds).2
      · next processes inserted => exact (placed_inserted placed inserted s.db.refs).1
      · exact placed

/-! ### Deleting -/

theorem placed_deleteServiceInstance (placed : Placed s) (ids : List Int) (commits : Bool) :
    Placed (deleteServiceInstance ids commits s) := by
  unfold deleteServiceInstance
  split
  · next stops =>
      have source {row : ServiceInstance} (member : row ∈ (deleteByIds s.db ids).instances.rows) :
          ∃ old ∈ s.db.instances.rows, row = if old.id ∈ ids then { old with isDeleted := true } else old := by
        obtain ⟨old, isOld, same⟩ := List.mem_map.mp member
        exact ⟨old, isOld, same.symm⟩
      refine ⟨⟨placed.sound.one, ?_, ?_⟩, placed.known⟩
      · intro row member isStopped
        obtain ⟨old, isOld, rfl⟩ := source member
        split at isStopped
        · next deleted =>
            rw [if_pos deleted]
            exact placed.sound.stopped old isOld isStopped
        · next kept =>
            rw [if_neg kept]
            exact placed.sound.stopped old isOld isStopped
      · intro row member isDeleted
        obtain ⟨old, isOld, rfl⟩ := source member
        by_cases asked : old.id ∈ ids
        · rw [if_pos asked]
          cases before : old.isDeleted with
          | true => exact placed.sound.deleted old isOld before
          | false =>
              have listed : old ∈ listByInstanceIds s.db ids :=
                List.mem_filter.mpr ⟨isOld, by simp [asked, before]⟩
              exact placed.sound.stopped old isOld (stops.2 old listed)
        · rw [if_neg asked] at isDeleted ⊢
          exact placed.sound.deleted old isOld isDeleted
  · exact placed

/-! ### Runs -/

theorem placed_effect (placed : Placed s) {a : Action} (heard : Heard fold hosts s a) :
    Placed (effect fold hosts s a) := by
  cases a with
  | start instanceIds creation outside starts =>
      exact placed_startServiceInstance placed instanceIds creation outside starts
  | stop instanceIds outside => exact placed_stopServiceInstance placed heard
  | restart instanceIds stopOutside creation outside starts =>
      exact placed_startServiceInstance (placed_stopServiceInstance placed heard) instanceIds creation outside starts
  | report serviceProcesses => exact placed_report placed heard
  | delete ids commits => exact placed_deleteServiceInstance placed ids commits
  | exit processId => exact placed_of_fewer placed fun other runs => (List.mem_filter.mp runs).1

end Steps

/-! ### A stop before the first report -/

theorem startProgram_of_answered {hosts : Table ZmsHost.id} {s : State} {outside : Int → Outside} {starts : Int → Bool}
    {process : ServiceProcess} (answered : Answered hosts (outside process.id) s.db process.id)
    (success : (outside process.id).throws .updateSuccess = false) (started : starts process.id = true) :
    startProgram hosts outside starts s process =
      ⟨(s.db.updateInstanceStatus process.instanceId .STARTING).updateSuccess process.id, process.id :: s.running⟩ := by
  have answer : (if (outside process.id).throws .agentStartProcess = true then none
      else some (outside process.id).status) = some true := by
    rw [answered.2.1, answered.2.2]
    rfl
  have asked : SetsStarting hosts (outside process.id) s.db process.id ∧ starts process.id = true :=
    ⟨answered.1, started⟩
  unfold startProgram
  rw [startProcess_of_starting _ _ _ _ _ answered.1, finish_eq, if_pos answer, success,
    if_neg Bool.false_ne_true, if_pos asked]

def fine : Outside := ⟨fun _ => false, true⟩

def launch : Action := .start [1] (.completes []) (fun _ => fine) (fun _ => true)

def halt : Action := .stop [1] fun _ => ⟨fun _ => false, true, true⟩

def launchedProcesses : Table ServiceProcess.id :=
  ⟨[⟨10, 5, 1, "", .INIT⟩, ⟨11, 5, 1, "", .INIT⟩], by decide⟩

theorem effect_launch : effect Char.toLower oneHost ⟨stoppedInstance, []⟩ launch =
    ⟨(Database.updateInstanceStatus ⟨stoppedInstance.instances, launchedProcesses, []⟩ 1 .STARTING).updateSuccess 11,
      [11]⟩ := by
  have created : effect Char.toLower oneHost ⟨stoppedInstance, []⟩ launch =
      startProgram oneHost (fun _ => fine) (fun _ => true)
        ⟨⟨stoppedInstance.instances, launchedProcesses, []⟩, []⟩ ⟨11, 5, 1, "", .INIT⟩ := rfl
  rw [created]
  apply startProgram_of_answered
  · exact ⟨⟨⟨rfl, by decide⟩, ⟨_, rfl, rfl⟩, rfl, rfl⟩, rfl, rfl⟩
  · rfl
  · rfl

end Zms.Portal.Processes.Programs
