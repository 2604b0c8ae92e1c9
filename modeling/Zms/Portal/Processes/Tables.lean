import Mathlib
import Zms.Registry.Tables

/-! The instances of services and the processes that they were started with, as the portal's
database has them. -/

set_option autoImplicit false

namespace Zms.Portal.Processes

open Zms.Registry

inductive InstanceStatusEnum where
  | START | STOP | STARTING
  deriving DecidableEq, Repr

/-- `status` of a process: whether it was ever started. -/
inductive ProcessStatus where
  | INIT | SUCCESS | FAILURE
  deriving DecidableEq, Repr

structure ServiceInstance where
  id : Int
  serviceId : Int
  hostId : Int
  instanceStatus : InstanceStatusEnum
  isDeleted : Bool
  deriving DecidableEq, Repr

structure ServiceProcess where
  id : Int
  serviceId : Int
  instanceId : Int
  runningStatus : String
  status : ProcessStatus
  deriving DecidableEq, Repr

structure ProcessPropertyValueRef where
  instanceId : Option Int
  serviceProcessId : Int
  propertyName : String
  currentValue : String
  deriving DecidableEq, Repr

structure Database where
  instances : Table ServiceInstance.id
  processes : Table ServiceProcess.id
  refs : List ProcessPropertyValueRef

namespace Database

/-- `ServiceInstanceMapper.updateInstanceStatus`. -/
def updateInstanceStatus (db : Database) (instanceId : Int) (instanceStatus : InstanceStatusEnum) : Database :=
  { db with
    instances := db.instances.update
      (fun row => if row.id = instanceId then { row with instanceStatus } else row)
      (by intro row; split <;> rfl) }

/-- `ServiceProcessMapper.updateRunningStatus`: a process that was seen was started. -/
def updateRunningStatus (db : Database) (processId : Int) (runningStatus : String) : Database :=
  { db with
    processes := db.processes.update
      (fun row => if row.id = processId then { row with runningStatus, status := .SUCCESS } else row)
      (by intro row; split <;> rfl) }

section Updates
variable (db : Database) (id : Int) (instanceStatus : InstanceStatusEnum) (runningStatus : String)

@[simp] theorem processes_updateInstanceStatus :
    (db.updateInstanceStatus id instanceStatus).processes = db.processes := rfl

@[simp] theorem refs_updateInstanceStatus : (db.updateInstanceStatus id instanceStatus).refs = db.refs := rfl

@[simp] theorem instances_updateRunningStatus :
    (db.updateRunningStatus id runningStatus).instances = db.instances := rfl

@[simp] theorem refs_updateRunningStatus : (db.updateRunningStatus id runningStatus).refs = db.refs := rfl

@[simp] theorem rows_updateInstanceStatus : (db.updateInstanceStatus id instanceStatus).instances.rows =
    db.instances.rows.map fun row => if row.id = id then { row with instanceStatus } else row := rfl

@[simp] theorem rows_updateRunningStatus : (db.updateRunningStatus id runningStatus).processes.rows =
    db.processes.rows.map fun row => if row.id = id then { row with runningStatus, status := .SUCCESS } else row := rfl

end Updates

end Database

end Zms.Portal.Processes
