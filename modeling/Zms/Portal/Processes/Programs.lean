import Zms.Portal.Processes.StartProcess
import Zms.Portal.Processes.RunningStatus

/-! The calls of `ServeInstanceService` that start, stop, restart and delete instances, and the
programs that run under the supervisors of the hosts.

A call to an agent may fail, be lost, or do its work without an answer, so that what becomes of
the program is told apart from what the portal hears.
-/

set_option autoImplicit false

namespace Zms.Portal.Processes.Programs

open Zms.Registry Zms.Transition

/-- A program is that of a process. -/
structure State where
  db : Database
  running : List Int

/-! ### Stopping -/

inductive StopCall where
  | getProgramName | getByProcessId | getByInstanceId | getToken | agentStopProcess | stopByAdmin
  deriving DecidableEq, Repr

/-- The calls that throw, `isStatus` of the answer of the agent, and whether the program ends where
the agent is asked. -/
structure StopOutside where
  throws : StopCall → Bool
  status : Bool
  stops : Bool

def stopByAdmin (db : Database) (processId : Int) : Database :=
  { db with
    processes := db.processes.update
      (fun row => if row.id = processId then { row with runningStatus := "STOPPED" } else row)
      (by intro row; split <;> rfl) }

section Stopping
variable (fold : Char → Char) (hosts : Table ZmsHost.id)

def stopCall (outside : StopOutside) (callee : StopCall) : Throwing Database Unit :=
  Throwing.ensure (outside.throws callee = false)

/-- `stopProcess` before it asks the agent. -/
def requestStop (outside : StopOutside) (processId : Int) : Throwing Database Unit := do
  stopCall outside .getProgramName
  stopCall outside .getByProcessId
  let db ← Throwing.get
  -- `serviceProcess.getInstanceId()`
  let serviceProcess ← Throwing.ofOption (db.processes.get processId)
  stopCall outside .getByInstanceId
  -- `host.getEnvironmentId()`
  let _ ← Throwing.ofOption (getByInstanceId hosts db serviceProcess.instanceId)
  stopCall outside .getToken

def stopProcess (outside : StopOutside) (processId : Int) : Throwing Database Bool := do
  requestStop hosts outside processId
  stopCall outside .agentStopProcess
  Throwing.when (outside.status = true) do
    stopCall outside .stopByAdmin
    Throwing.modify (stopByAdmin · processId)
  return outside.status

/-- The agent gets the request. -/
def StopReaches (outside : StopOutside) (db : Database) (processId : Int) : Prop :=
  (requestStop hosts outside processId db).1.isSome = true

instance (outside : StopOutside) (db : Database) (processId : Int) :
    Decidable (StopReaches hosts outside db processId) := inferInstanceAs (Decidable (_ = true))

/-- `stopProcess` and what it does to the program; its exception is caught. -/
def stopProgram (outside : Int → StopOutside) (s : State) (processId : Int) : State where
  db := (stopProcess hosts (outside processId) processId s.db).2
  running :=
    if StopReaches hosts (outside processId) s.db processId ∧ (outside processId).stops = true then
      s.running.filter (· ≠ processId)
    else s.running

/-- The column is compared without regard to case. -/
def queryLastRunningProcessByInstanceId (db : Database) (instanceId : Int) : List Int :=
  (db.processes.rows.filter fun process => process.status = .SUCCESS && process.instanceId = instanceId &&
    equalsIgnoreCase fold process.runningStatus "running" &&
    db.instances.rows.any fun row => row.id = process.instanceId && !row.isDeleted).map ServiceProcess.id

/-- The instance is set to `STOP` whatever the answers were. -/
def stopInstance (outside : Int → StopOutside) (s : State) (instance_ : ServiceInstance) : State :=
  let stopped := (queryLastRunningProcessByInstanceId fold s.db instance_.id).foldl (stopProgram hosts outside) s
  { stopped with db := stopped.db.updateInstanceStatus instance_.id .STOP }

def stopServiceInstance (instanceIds : List Int) (outside : Int → StopOutside) (s : State) : State :=
  (listHostByInstanceIds hosts s.db instanceIds).foldl (stopInstance fold hosts outside) s

end Stopping

/-! ### Starting -/

/-- How far `createProcess` gets: it throws before or after it has inserted the processes, or
returns with the properties inserted as well. -/
inductive Creation where
  | throws | inserts
  | completes (refs : List ProcessPropertyValueRef)

/-- The next value of the key. -/
def nextId (db : Database) : Int := (db.processes.rows.map ServiceProcess.id).foldl max 0 + 1

def newProcesses (db : Database) (serviceId : Int) (instances : List ServiceInstance) : List ServiceProcess :=
  instances.zipIdx.map fun entry => ⟨nextId db + entry.2, serviceId, entry.1.id, "", .INIT⟩

section Starting
variable (hosts : Table ZmsHost.id)

instance (outside : Outside) (db : Database) (processId : Int) : Decidable (SetsStarting hosts outside db processId) :=
  decidable_of_iff (Reads outside db processId ∧
    ((db.processes.get processId).bind fun process => getByInstanceId hosts db process.instanceId).isSome = true ∧
      outside.throws .getToken = false ∧ outside.throws .updateInstanceStatus = false) (by
        unfold SetsStarting
        simp only [Option.isSome_bind, Option.any_eq_true])

/-- `startProcess` and what it does to the program, which `starts` says where the agent is asked. -/
def startProgram (outside : Int → Outside) (starts : Int → Bool) (s : State) (process : ServiceProcess) : State where
  db := (startProcess hosts (outside process.id) process.instanceId process.id s.db).2
  running :=
    if SetsStarting hosts (outside process.id) s.db process.id ∧ starts process.id = true then process.id :: s.running
    else s.running

def startServiceInstance (instanceIds : List Int) (creation : Creation) (outside : Int → Outside)
    (starts : Int → Bool) (s : State) : State :=
  match checkStart hosts s.db instanceIds with
  | none => s
  | some serviceId =>
      let serviceProcesses := newProcesses s.db serviceId (listHostByInstanceIds hosts s.db instanceIds)
      match creation, s.db.processes.insertList serviceProcesses with
      | .completes refs, some processes =>
          serviceProcesses.foldl (startProgram hosts outside starts)
            ⟨⟨s.db.instances, processes, s.db.refs ++ refs⟩, s.running⟩
      | .inserts, some processes => ⟨⟨s.db.instances, processes, s.db.refs⟩, s.running⟩
      | _, _ => s

end Starting

/-! ### The other calls -/

def deleteByIds (db : Database) (ids : List Int) : Database :=
  { db with
    instances := db.instances.update
      (fun row => if row.id ∈ ids then { row with isDeleted := true } else row)
      (by intro row; split <;> rfl) }

/-- A transaction: where a listener throws, nothing is deleted. -/
def deleteServiceInstance (ids : List Int) (commits : Bool) (s : State) : State :=
  if commits = true ∧ ∀ item ∈ listByInstanceIds s.db ids, item.instanceStatus = .STOP then
    { s with db := deleteByIds s.db ids }
  else s

inductive Action where
  | start (instanceIds : List Int) (creation : Creation) (outside : Int → Outside) (starts : Int → Bool)
  | stop (instanceIds : List Int) (outside : Int → StopOutside)
  | restart (instanceIds : List Int) (stopOutside : Int → StopOutside) (creation : Creation)
      (outside : Int → Outside) (starts : Int → Bool)
  | report (serviceProcesses : List Reported)
  | delete (ids : List Int) (commits : Bool)
  -- a program ends by itself
  | exit (processId : Int)

section Machine
variable (fold : Char → Char) (hosts : Table ZmsHost.id)

def effect (s : State) : Action → State
  | .start instanceIds creation outside starts => startServiceInstance hosts instanceIds creation outside starts s
  | .stop instanceIds outside => stopServiceInstance fold hosts instanceIds outside s
  | .restart instanceIds stopOutside creation outside starts =>
      startServiceInstance hosts instanceIds creation outside starts
        (stopServiceInstance fold hosts instanceIds stopOutside s)
  | .report serviceProcesses => { s with db := updateRunningStatus fold serviceProcesses s.db }
  | .delete ids commits => deleteServiceInstance ids commits s
  | .exit processId => { s with running := s.running.filter (· ≠ processId) }

end Machine

end Zms.Portal.Processes.Programs
