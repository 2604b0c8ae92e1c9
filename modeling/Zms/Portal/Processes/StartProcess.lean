import Mathlib
import Zms.Portal.Processes.Tables
import Zms.Transition.Throwing

/-! `ProcessService.startProcess`, and what it leaves where it throws. -/

set_option autoImplicit false

namespace Zms.Portal.Processes

open Zms.Registry Zms.Transition

/-- What is read of a row of `zms_host`. -/
structure ZmsHost where
  id : Int
  environmentId : Int
  hostIp : String
  deriving DecidableEq, Repr

/-- The calls of `startProcess`, each of which may throw. -/
inductive Call where
  | getByProcessId | getProgramName | getProgramType | listRunningProcessByInstance | getLastProgramName
  | getByInstanceId | getToken | updateInstanceStatus | agentStartProcess | updateSuccess | updateFailure
  | listenerStart
  deriving DecidableEq, Repr

/-- What happens outside: the calls that throw, and `isStatus` of the answer of the agent. -/
structure Outside where
  throws : Call → Bool
  status : Bool

namespace Database

def updateStatus (db : Database) (processId : Int) (status : ProcessStatus) : Database :=
  { db with
    processes := db.processes.update
      (fun row => if row.id = processId then { row with status } else row)
      (by intro row; split <;> rfl) }

def updateSuccess (db : Database) (processId : Int) : Database := db.updateStatus processId .SUCCESS

def updateFailure (db : Database) (processId : Int) : Database := db.updateStatus processId .FAILURE

/-- The last process of an instance; those that are running come first. -/
def listRunningProcessByInstance (db : Database) (instanceId : Int) : Option ServiceProcess :=
  ((db.processes.rows.filter fun row => row.instanceId = instanceId).mergeSort fun x y =>
    decide (x.runningStatus = "RUNNING" ∧ y.runningStatus ≠ "RUNNING") ||
      decide ((x.runningStatus = "RUNNING" ↔ y.runningStatus = "RUNNING") ∧ y.id ≤ x.id)).head?

end Database

section Code
variable (hosts : Table ZmsHost.id)

def getByInstanceId (db : Database) (instanceId : Int) : Option ZmsHost :=
  (db.instances.get instanceId).bind fun row => hosts.get row.hostId

variable (outside : Outside)

def call (callee : Call) : Throwing Database Unit := Throwing.ensure (outside.throws callee = false)

/-- What `startProcess` reads before its `try`: the host of the instance. -/
def readHost (processId : Int) : Throwing Database (Option ZmsHost) := do
  call outside .getByProcessId
  let db ← Throwing.get
  let serviceProcess ← Throwing.ofOption (db.processes.get processId)
  call outside .getProgramName
  call outside .getProgramType
  call outside .listRunningProcessByInstance
  -- `lastProcess.getId()`
  let _ ← Throwing.ofOption (db.listRunningProcessByInstance serviceProcess.instanceId)
  call outside .getLastProgramName
  call outside .getByInstanceId
  return getByInstanceId hosts db serviceProcess.instanceId

/-- The `try` of `startProcess`: the answer of the agent. -/
def requestStart (host : Option ZmsHost) (instanceId : Int) : Throwing Database Bool := do
  -- `host.getEnvironmentId()`
  let _ ← Throwing.ofOption host
  call outside .getToken
  call outside .updateInstanceStatus
  Throwing.modify (·.updateInstanceStatus instanceId .STARTING)
  call outside .agentStartProcess
  return outside.status

/-- What follows the `try`; `none` is the `catch`. -/
def finish (processId : Int) : Option Bool → Throwing Database Unit
  | none => do
    call outside .updateFailure
    Throwing.modify (·.updateFailure processId)
    Throwing.throw
  | some true => do
    call outside .updateSuccess
    Throwing.modify (·.updateSuccess processId)
    call outside .listenerStart
  | some false => do
    call outside .updateFailure
    Throwing.modify (·.updateFailure processId)
    -- `Assert.that(result.isStatus(), ..)`
    Throwing.throw

def startProcess (instanceId processId : Int) : Throwing Database Unit := do
  let host ← readHost hosts outside processId
  let result ← Throwing.attempt (requestStart outside host instanceId)
  finish outside processId result

/-- `ServiceInstanceMapper.listHostByInstanceIds`. -/
def listHostByInstanceIds (db : Database) (instanceIds : List Int) : List ServiceInstance :=
  db.instances.rows.filter fun row => row.id ∈ instanceIds && (hosts.get row.hostId).isSome && !row.isDeleted

def listByInstanceIds (db : Database) (instanceIds : List Int) : List ServiceInstance :=
  db.instances.rows.filter fun row => row.id ∈ instanceIds && !row.isDeleted

/-- The checks of `startServiceInstance` before it creates processes; `none` where it refuses. -/
def checkStart (db : Database) (instanceIds : List Int) : Option Int :=
  let checkSuccess := (listHostByInstanceIds hosts db instanceIds).all fun item =>
    item.instanceStatus ≠ .STARTING && item.instanceStatus ≠ .START
  if checkSuccess then (listByInstanceIds db instanceIds).head?.map ServiceInstance.serviceId else none

end Code

/-! What a failed start should leave. -/

/-- The instance is shown neither as started nor as starting, and may be started. -/
structure Idle (hosts : Table ZmsHost.id) (db : Database) (instanceId : Int) : Prop where
  status : ∀ row, db.instances.get instanceId = some row → row.instanceStatus ≠ .STARTING ∧ row.instanceStatus ≠ .START
  accepted : (checkStart hosts db [instanceId]).isSome

/-- An earlier process of the instance is running. -/
def EarlierRunning (db : Database) (instanceId processId : Int) : Prop :=
  ∃ row ∈ db.processes.rows, row.instanceId = instanceId ∧ row.id < processId ∧ row.runningStatus = "RUNNING"

structure Startable (hosts : Table ZmsHost.id) (db : Database) (instanceId processId : Int) : Prop where
  process : ∃ row, db.processes.get processId = some row ∧ row.status = .FAILURE
  idle : Idle hosts db instanceId ∨ EarlierRunning db instanceId processId

/-! How the call ends. -/

section Ends
variable (hosts : Table ZmsHost.id) (outside : Outside) (db : Database) (instanceId processId : Int)

theorem call_bind {β : Type} (callee : Call) (next : Unit → Throwing Database β) :
    (call outside callee >>= next) db = if outside.throws callee then (none, db) else next () db := by
  cases throws : outside.throws callee with
  | true => exact Throwing.ensure_bind_of_not (by rw [throws]; decide) next db
  | false => exact Throwing.ensure_bind throws next db

/-- What is read before the `try` is there. -/
def Reads : Prop :=
  (db.processes.get processId).isSome = true ∧
    ∀ callee ∈ [Call.getByProcessId, .getProgramName, .getProgramType, .listRunningProcessByInstance,
      .getLastProgramName, .getByInstanceId], outside.throws callee = false

instance : Decidable (Reads outside db processId) := inferInstanceAs (Decidable (_ ∧ _))

/-- The instance is set to `STARTING`. -/
def SetsStarting : Prop :=
  Reads outside db processId ∧
    (∃ process, db.processes.get processId = some process ∧
      (getByInstanceId hosts db process.instanceId).isSome = true) ∧
    outside.throws .getToken = false ∧ outside.throws .updateInstanceStatus = false

/-- The agent answers that the program was started. -/
def Answered : Prop :=
  SetsStarting hosts outside db processId ∧ outside.throws .agentStartProcess = false ∧ outside.status = true

theorem requestStart_eq (host : Option ZmsHost) : requestStart outside host instanceId db =
    if host.isSome = true ∧ outside.throws .getToken = false ∧ outside.throws .updateInstanceStatus = false then
      (if outside.throws .agentStartProcess then none else some outside.status,
        db.updateInstanceStatus instanceId .STARTING)
    else (none, db) := by
  cases host with
  | none => rfl
  | some host =>
    have unfolded : requestStart outside (some host) instanceId db =
        if outside.throws .getToken then (none, db)
        else if outside.throws .updateInstanceStatus then (none, db)
        else if outside.throws .agentStartProcess then (none, db.updateInstanceStatus instanceId .STARTING)
        else (some outside.status, db.updateInstanceStatus instanceId .STARTING) := by
      change (call outside .getToken >>= _) db = _
      rw [call_bind, call_bind]
      congr 2
      exact call_bind outside _ .agentStartProcess _
    rw [unfolded]
    cases outside.throws .getToken <;> cases outside.throws .updateInstanceStatus <;>
      cases outside.throws .agentStartProcess <;> rfl

theorem exists_listRunning {process : ServiceProcess} (found : db.processes.get processId = some process) :
    ∃ last, db.listRunningProcessByInstance process.instanceId = some last := by
  have member : process ∈ db.processes.rows.filter fun row => row.instanceId = process.instanceId :=
    List.mem_filter.mpr ⟨(Table.get_eq_some_iff.mp found).1, decide_eq_true rfl⟩
  unfold Database.listRunningProcessByInstance
  rw [← Option.isSome_iff_exists, List.isSome_head?, ← List.length_pos_iff, List.length_mergeSort]
  exact List.length_pos_of_mem member

theorem ite_passes {α : Type} (throws : Bool) (passed thrown : α) :
    (if throws = false then passed else thrown) = if throws = true then thrown else passed := by
  cases throws <;> rfl

theorem ofOption_bind_of_eq {α β : Type} {value : Option α} {a : α} (found : value = some a)
    (next : α → Throwing Database β) : (Throwing.ofOption value >>= next) db = next a db := by
  rw [found]
  rfl

theorem readHost_eq : readHost hosts outside processId db =
    if Reads outside db processId then
      (some ((db.processes.get processId).bind fun process => getByInstanceId hosts db process.instanceId), db)
    else (none, db) := by
  unfold readHost
  rw [call_bind]
  cases found : db.processes.get processId with
  | none =>
    have noReads : ¬Reads outside db processId := fun reads => by simp [Reads, found] at reads
    rw [if_neg noReads]
    change (if _ then _ else (Throwing.ofOption (db.processes.get processId) >>= _) db) = _
    rw [found]
    split <;> rfl
  | some process =>
    obtain ⟨last, isLast⟩ := exists_listRunning db processId found
    change (if _ then _ else (Throwing.ofOption (db.processes.get processId) >>= _) db) = _
    rw [ofOption_bind_of_eq db found, call_bind, call_bind, call_bind, ofOption_bind_of_eq db isLast, call_bind,
      call_bind]
    have reads : Reads outside db processId ↔ outside.throws .getByProcessId = false ∧
        outside.throws .getProgramName = false ∧ outside.throws .getProgramType = false ∧
        outside.throws .listRunningProcessByInstance = false ∧ outside.throws .getLastProgramName = false ∧
        outside.throws .getByInstanceId = false := by
      simp [Reads, found]
    simp only [reads, ite_and, ite_passes]
    rfl

theorem finish_eq (answer : Option Bool) : finish outside processId answer db =
    if answer = some true then
      if outside.throws .updateSuccess then (none, db)
      else (if outside.throws .listenerStart then none else some (), db.updateSuccess processId)
    else (none, if outside.throws .updateFailure then db else db.updateFailure processId) := by
  have failure : (call outside .updateFailure >>= fun _ =>
      Throwing.modify (·.updateFailure processId) >>= fun _ => (Throwing.throw : Throwing Database Unit)) db =
      (none, if outside.throws .updateFailure then db else db.updateFailure processId) := by
    rw [call_bind]
    cases outside.throws .updateFailure <;> rfl
  cases answer with
  | none => exact failure
  | some status =>
    cases status with
    | false => exact failure
    | true =>
      change (call outside .updateSuccess >>= _) db = _
      rw [call_bind, if_pos rfl]
      congr 1
      change call outside .listenerStart (db.updateSuccess processId) = _
      unfold call Throwing.ensure
      cases outside.throws .listenerStart <;> rfl

theorem startProcess_of_reads (reads : Reads outside db processId) :
    startProcess hosts outside instanceId processId db =
      let host := (db.processes.get processId).bind fun process => getByInstanceId hosts db process.instanceId
      let requested := requestStart outside host instanceId db
      finish outside processId requested.1 requested.2 := by
  have read := (readHost_eq hosts outside db processId).trans (if_pos reads)
  unfold startProcess
  rw [Throwing.bind_of_returns read]
  rfl

theorem startProcess_of_not_reads (reads : ¬Reads outside db processId) :
    startProcess hosts outside instanceId processId db = (none, db) := by
  have read := (readHost_eq hosts outside db processId).trans (if_neg reads)
  unfold startProcess
  rw [Throwing.bind_of_throws read]

theorem startProcess_of_starting (starting : SetsStarting hosts outside db processId) :
    startProcess hosts outside instanceId processId db =
      finish outside processId (if outside.throws .agentStartProcess then none else some outside.status)
        (db.updateInstanceStatus instanceId .STARTING) := by
  obtain ⟨reads, ⟨process, found, host⟩, token, update⟩ := starting
  rw [startProcess_of_reads hosts outside db instanceId processId reads]
  simp only [found, Option.bind_some, requestStart_eq]
  rw [if_pos ⟨host, token, update⟩]

theorem startProcess_of_not_starting (reads : Reads outside db processId)
    (starting : ¬SetsStarting hosts outside db processId) :
    startProcess hosts outside instanceId processId db = finish outside processId none db := by
  obtain ⟨process, found⟩ := Option.isSome_iff_exists.mp reads.1
  rw [startProcess_of_reads hosts outside db instanceId processId reads]
  simp only [found, Option.bind_some, requestStart_eq]
  rw [if_neg fun sets => starting ⟨reads, ⟨process, found, sets.1⟩, sets.2⟩]

end Ends

/-! What the updates leave. -/

section Updates
variable (hosts : Table ZmsHost.id) (db : Database) (instanceId processId : Int)

theorem get_updateStatus (status : ProcessStatus) : (db.updateStatus processId status).processes.get processId =
    (db.processes.get processId).map fun row => { row with status } := by
  unfold Database.updateStatus
  rw [Table.get_update]
  cases found : db.processes.get processId with
  | none => rfl
  | some row => simp [(Table.get_eq_some_iff.mp found).2]

theorem earlierRunning_updateStatus (status : ProcessStatus) :
    EarlierRunning (db.updateStatus processId status) instanceId processId ↔
      EarlierRunning db instanceId processId := by
  let marked := fun row : ServiceProcess => if row.id = processId then { row with status } else row
  have rows : (db.updateStatus processId status).processes.rows = db.processes.rows.map marked := rfl
  have fields : ∀ row, (marked row).instanceId = row.instanceId ∧ (marked row).id = row.id ∧
      (marked row).runningStatus = row.runningStatus := by
    intro row
    simp only [marked]
    split <;> exact ⟨rfl, rfl, rfl⟩
  unfold EarlierRunning
  rw [rows]
  constructor
  · rintro ⟨_, member, running⟩
    obtain ⟨row, isRow, rfl⟩ := List.mem_map.mp member
    obtain ⟨sameInstance, sameId, sameStatus⟩ := fields row
    rw [sameInstance, sameId, sameStatus] at running
    exact ⟨row, isRow, running⟩
  · rintro ⟨row, isRow, running⟩
    obtain ⟨sameInstance, sameId, sameStatus⟩ := fields row
    refine ⟨marked row, List.mem_map_of_mem isRow, ?_⟩
    rwa [sameInstance, sameId, sameStatus]

theorem earlierRunning_updateInstanceStatus (status : InstanceStatusEnum) :
    EarlierRunning (db.updateInstanceStatus instanceId status) instanceId processId ↔
      EarlierRunning db instanceId processId := Iff.rfl

theorem idle_updateStatus (status : ProcessStatus) :
    Idle hosts (db.updateStatus processId status) instanceId ↔ Idle hosts db instanceId :=
  ⟨fun idle => ⟨idle.status, idle.accepted⟩, fun idle => ⟨idle.status, idle.accepted⟩⟩

theorem not_idle_starting : ¬Idle hosts (db.updateInstanceStatus instanceId .STARTING) instanceId := by
  intro idle
  have starting : (db.updateInstanceStatus instanceId .STARTING).instances.get instanceId =
      (db.instances.get instanceId).map fun row => { row with instanceStatus := .STARTING } := by
    unfold Database.updateInstanceStatus
    rw [Table.get_update]
    cases found : db.instances.get instanceId with
    | none => rfl
    | some row => simp [(Table.get_eq_some_iff.mp found).2]
  cases found : db.instances.get instanceId with
  | some row => exact (idle.status _ (starting.trans (by rw [found]; rfl))).1 rfl
  | none =>
    have none : listByInstanceIds (db.updateInstanceStatus instanceId .STARTING) [instanceId] = [] := by
      refine List.filter_eq_nil_iff.mpr fun row member isThere => ?_
      have sameId : row.id = instanceId := by simpa using (Bool.and_eq_true_iff.mp isThere).1
      have some : ((db.updateInstanceStatus instanceId .STARTING).instances.get instanceId).isSome :=
        Table.isSome_get_iff.mpr ⟨row, member, sameId⟩
      rw [starting, found] at some
      cases some
    have accepted := idle.accepted
    unfold checkStart at accepted
    rw [none] at accepted
    simp at accepted

end Updates

/-! Which failures leave the instance startable. -/

section Failures
variable (hosts : Table ZmsHost.id) (outside : Outside) (db : Database) (instanceId processId : Int)

/-- If the call throws, which it also does for a failure answer, the instance may be started again. -/
def LeavesStartable : Prop :=
  (startProcess hosts outside instanceId processId db).1 = none →
    Startable hosts (startProcess hosts outside instanceId processId db).2 instanceId processId

def Succeeds : Prop :=
  Answered hosts outside db processId ∧ outside.throws .updateSuccess = false ∧ outside.throws .listenerStart = false

/-- The process row is marked as a failure, by this call or already before it. -/
def Marked : Prop :=
  ∃ process, db.processes.get processId = some process ∧
    ((Reads outside db processId ∧ ¬Answered hosts outside db processId ∧ outside.throws .updateFailure = false) ∨
      (process.status = .FAILURE ∧ ¬(Answered hosts outside db processId ∧ outside.throws .updateSuccess = false)))

theorem startable_iff : Startable hosts db instanceId processId ↔
    (∃ row, db.processes.get processId = some row ∧ row.status = .FAILURE) ∧
      (Idle hosts db instanceId ∨ EarlierRunning db instanceId processId) :=
  ⟨fun startable => ⟨startable.process, startable.idle⟩, fun both => ⟨both.1, both.2⟩⟩

theorem startable_marking_iff : Startable hosts
      (if outside.throws .updateFailure then db else db.updateFailure processId) instanceId processId ↔
    (∃ row, db.processes.get processId = some row ∧ (outside.throws .updateFailure = false ∨ row.status = .FAILURE)) ∧
      (Idle hosts db instanceId ∨ EarlierRunning db instanceId processId) := by
  cases throws : outside.throws .updateFailure with
  | true => simpa [throws] using startable_iff hosts db instanceId processId
  | false =>
    have failed := startable_iff hosts (db.updateFailure processId) instanceId processId
    unfold Database.updateFailure at failed
    rw [get_updateStatus, idle_updateStatus, earlierRunning_updateStatus] at failed
    simpa [throws, Database.updateFailure] using failed

variable {hosts outside db instanceId processId}

theorem marked_of_not_answered (reads : Reads outside db processId) (noAnswer : ¬Answered hosts outside db processId) :
    Marked hosts outside db processId ↔ ∃ row, db.processes.get processId = some row ∧
      (outside.throws .updateFailure = false ∨ row.status = .FAILURE) := by
  simp only [Marked, reads, noAnswer, true_and, false_and, not_false_eq_true, and_true]

theorem marked_of_answered (answered : Answered hosts outside db processId) : Marked hosts outside db processId ↔
    ∃ row, db.processes.get processId = some row ∧ row.status = .FAILURE ∧ outside.throws .updateSuccess = true := by
  simp only [Marked, answered, not_true_eq_false, and_false, false_and, true_and, false_or, Bool.not_eq_false]

variable (hosts outside db instanceId processId)

/-- The call leaves the instance startable exactly where it succeeds, or the process row is marked
and an earlier process is running or the instance, idle before, was not set to `STARTING`. -/
theorem leavesStartable_iff : LeavesStartable hosts outside db instanceId processId ↔
    Succeeds hosts outside db processId ∨ (Marked hosts outside db processId ∧
      (EarlierRunning db instanceId processId ∨
        (¬SetsStarting hosts outside db processId ∧ Idle hosts db instanceId))) := by
  unfold LeavesStartable
  by_cases reads : Reads outside db processId
  · by_cases starting : SetsStarting hosts outside db processId
    · rw [startProcess_of_starting hosts outside db instanceId processId starting, finish_eq]
      by_cases answered : Answered hosts outside db processId
      · have answer : (if outside.throws .agentStartProcess = true then none else some outside.status) = some true := by
          rw [answered.2.1, answered.2.2]
          rfl
        rw [if_pos answer, marked_of_answered answered]
        cases success : outside.throws .updateSuccess with
        | true =>
          have left := startable_iff hosts (db.updateInstanceStatus instanceId .STARTING) instanceId processId
          simp only [not_idle_starting, earlierRunning_updateInstanceStatus, false_or] at left
          simpa [Succeeds, success, answered, starting] using left
        | false =>
          cases listener : outside.throws .listenerStart with
          | false => exact iff_of_true (fun thrown => by simp at thrown) (.inl ⟨answered, success, listener⟩)
          | true =>
            refine iff_of_false (fun leaves => ?_) (by simp [Succeeds, listener])
            obtain ⟨row, found, failure⟩ := (leaves (by simp)).process
            have updated := get_updateStatus (db.updateInstanceStatus instanceId .STARTING) processId .SUCCESS
            obtain ⟨_, -, rfl⟩ := Option.map_eq_some_iff.mp (updated.symm.trans found)
            cases failure
      · have noAnswer :
            (if outside.throws .agentStartProcess = true then none else some outside.status) ≠ some true := by
          intro answer
          split at answer
          · cases answer
          next returned => exact answered ⟨starting, by simpa using returned, Option.some.inj answer⟩
        have marking :=
          startable_marking_iff hosts outside (db.updateInstanceStatus instanceId .STARTING) instanceId processId
        rw [if_neg noAnswer, marked_of_not_answered reads answered]
        simp only [true_implies, marking, not_idle_starting, earlierRunning_updateInstanceStatus, false_or, Succeeds,
          answered, starting, false_and, not_true_eq_false, or_false]
        rfl
    · have noAnswer : ¬Answered hosts outside db processId := fun answered => starting answered.1
      rw [startProcess_of_not_starting hosts outside db instanceId processId reads starting, finish_eq,
        if_neg (by simp), marked_of_not_answered reads noAnswer]
      simp only [true_implies, startable_marking_iff, Succeeds, noAnswer, starting, false_and, false_or,
        not_false_eq_true, true_and, or_comm (a := Idle hosts db instanceId)]
  · have noStarting : ¬SetsStarting hosts outside db processId := fun sets => reads sets.1
    have noAnswer : ¬Answered hosts outside db processId := fun answered => noStarting answered.1
    have marked : Marked hosts outside db processId ↔
        ∃ row, db.processes.get processId = some row ∧ row.status = .FAILURE := by
      simp only [Marked, reads, noAnswer, false_and, not_false_eq_true, and_true, false_or]
    rw [startProcess_of_not_reads hosts outside db instanceId processId reads, marked]
    simp only [true_implies, startable_iff, Succeeds, noAnswer, noStarting, false_and, false_or,
      not_false_eq_true, true_and, or_comm (a := Idle hosts db instanceId)]

end Failures

def oneHost : Table ZmsHost.id := ⟨[⟨1, 1, "10.0.0.1"⟩], by decide⟩

/-- An instance that was stopped, with the new process 10. -/
def stoppedInstance : Database where
  instances := ⟨[⟨1, 5, 1, .STOP, false⟩], by decide⟩
  processes := ⟨[⟨10, 5, 1, "", .INIT⟩], by decide⟩
  refs := []

/-- The agent of the host cannot be reached. -/
def unreachable : Outside := ⟨fun callee => callee = .agentStartProcess, false⟩

/-- The instance stays at `STARTING`. -/
theorem stays_starting : ¬LeavesStartable oneHost unreachable stoppedInstance 1 10 := by
  have starting : SetsStarting oneHost unreachable stoppedInstance 10 :=
    ⟨⟨rfl, by decide⟩, ⟨⟨10, 5, 1, "", .INIT⟩, rfl, rfl⟩, rfl, rfl⟩
  unfold LeavesStartable
  rw [startProcess_of_starting oneHost unreachable stoppedInstance 1 10 starting]
  intro leaves
  rcases (leaves rfl).idle with idle | ⟨row, member, -, -, running⟩
  · exact (idle.status _ rfl).1 rfl
  · obtain rfl := List.mem_singleton.mp member
    exact absurd running (by decide)

end Zms.Portal.Processes
