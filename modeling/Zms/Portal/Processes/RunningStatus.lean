import Mathlib
import Zms.Portal.Processes.Tables
import Zms.Portal.Tables

/-! `ProcessService.updateRunningStatus`: what the portal makes of the states that an agent
reports for the programs of its supervisor. -/

set_option autoImplicit false

namespace Zms.Portal.Processes

open Zms.Registry

inductive RunningStatusEnum where
  | STARTING | RUNNING | STOPPING | STOPPED | BACKOFF | FATAL | EXITED | UNKNOWN
  deriving DecidableEq, Repr

def RunningStatusEnum.name : RunningStatusEnum → String
  | .STARTING => "STARTING"
  | .RUNNING => "RUNNING"
  | .STOPPING => "STOPPING"
  | .STOPPED => "STOPPED"
  | .BACKOFF => "BACKOFF"
  | .FATAL => "FATAL"
  | .EXITED => "EXITED"
  | .UNKNOWN => "UNKNOWN"

def RunningStatusEnum.values : List RunningStatusEnum :=
  [.STARTING, .RUNNING, .STOPPING, .STOPPED, .BACKOFF, .FATAL, .EXITED, .UNKNOWN]

def getRunningStatusEnum (fold : Char → Char) (value : String) : Option RunningStatusEnum :=
  RunningStatusEnum.values.find? fun statusEnum => value ≠ "" && equalsIgnoreCase fold value statusEnum.name

def instanceStatusOf : RunningStatusEnum → InstanceStatusEnum
  | .RUNNING => .START
  | .STARTING => .STARTING
  | _ => .STOP

/-- An entry of the report. -/
structure Reported where
  processId : Int
  stateName : String
  deriving DecidableEq, Repr

/-- How the loop over the report ends: at its end, by the return for an unknown state, or by
the exception for a process without a row. -/
inductive Ending where
  | done | returned | thrown
  deriving DecidableEq, Repr

section Report
variable (fold : Char → Char)

def applyReport : List Reported → Database → Database × Ending
  | [], db => (db, .done)
  | serviceProcess :: rest, db =>
      let db := db.updateRunningStatus serviceProcess.processId serviceProcess.stateName
      match getRunningStatusEnum fold serviceProcess.stateName, db.processes.get serviceProcess.processId with
      | none, _ => (db, .returned)
      | some _, none => (db, .thrown)
      | some statusEnum, some process =>
          applyReport rest (db.updateInstanceStatus process.instanceId (instanceStatusOf statusEnum))

/-- The hosts of the subselect. -/
def startedHosts (db : Database) (processId : Int) : List Int :=
  ((db.instances.rows.filter fun row => row.instanceStatus = .START &&
    db.refs.any fun ref => ref.serviceProcessId = processId && ref.instanceId = some row.id).map
      ServiceInstance.hostId).dedup

/-- The services and the host; `none` is the exception for a subselect with more than one row. -/
def listRunningServiceByProcessId (db : Database) (processId : Int) : Option (List (Int × Int)) :=
  match startedHosts db processId with
  | [] => some []
  | [hostId] => some ((db.instances.rows.filter fun row => row.hostId = hostId).map
      fun row => (row.serviceId, row.hostId)).dedup
  | _ => none

def succeeded (db : Database) (serviceIds : List Int) (hostId : Int) : List ServiceProcess :=
  db.processes.rows.filter fun process => process.status = .SUCCESS && serviceIds.contains process.serviceId &&
    db.instances.rows.any fun row => row.id = process.instanceId && !row.isDeleted && row.hostId = hostId

/-- The newest of each service and instance. -/
def listLastSuccessProcessByServiceIdsAndHost (db : Database) (serviceIds : List Int) (hostId : Int) :
    List ServiceProcess :=
  (succeeded db serviceIds hostId).filter fun process => (succeeded db serviceIds hostId).all fun other =>
    !(other.serviceId = process.serviceId && other.instanceId = process.instanceId) || other.id ≤ process.id

def stopVanished (db : Database) (process : ServiceProcess) : Database :=
  (db.updateRunningStatus process.id RunningStatusEnum.STOPPED.name).updateInstanceStatus process.instanceId .STOP

def updateSupervisorNotExists (serviceProcesses : List Reported) (db : Database) : Option Database :=
  match serviceProcesses with
  | [] => some db
  | first :: _ =>
      (listRunningServiceByProcessId db first.processId).map fun services =>
        match services with
        | [] => db
        | (_, hostId) :: _ =>
            let allHostProcess := listLastSuccessProcessByServiceIdsAndHost db (services.map Prod.fst) hostId
            (allHostProcess.filter fun process =>
              !(serviceProcesses.map Reported.processId).contains process.id).foldl stopVanished db

/-- The database after the report, however the call ends. -/
def updateRunningStatus (serviceProcesses : List Reported) (db : Database) : Database :=
  match applyReport fold serviceProcesses db with
  | (after, .done) => (updateSupervisorNotExists serviceProcesses after).getD after
  | (after, _) => after

end Report

end Zms.Portal.Processes
