import Mathlib
import Zms.Collector.Reporters

/-! `DLQAlertService`: the offsets of the dead-letter queues as they are at the start,
and the check that compares the latest ones with them. -/

set_option autoImplicit false

namespace Zms.Alert

open Zms.Transition Zms.Transition.Catching Zms.Collector

/-- A row of the query; the values are finite. -/
structure DLQTopicInfo where
  clusterName : String
  topicName : String
  value : Rat
  deriving DecidableEq, Repr

/-- What InfluxDB does for one execution; a result is mapped to rows, or the mapping throws. -/
structure DlqCalls where
  query : Answer (Option (Answer (List DLQTopicInfo)))
  insertDLQNotifications : DLQTopicInfo → Answer Unit

namespace DLQAlertService

/-- `dlqTopicOffsets`. -/
abbrev Offsets : Type := String → Option Rat

abbrev Program (α : Type) : Type := Catching Throwable Offsets α

def dlqKey (info : DLQTopicInfo) : String := info.clusterName ++ "_" ++ info.topicName

def getQueryResult (calls : DlqCalls) : Program (List DLQTopicInfo) := do
  let answered ← call calls.query
  let queryResult ← nonNull .other answered
  call queryResult

def putOffset (info : DLQTopicInfo) : Program Unit :=
  modify fun offsets => Function.update offsets (dlqKey info) (some info.value)

def sendAlertMsg (calls : DlqCalls) (info : DLQTopicInfo) : Program Unit := call (calls.insertDLQNotifications info)

def isChanged (offsets : Offsets) (info : DLQTopicInfo) : Bool := offsets (dlqKey info) != some info.value

def checkTopic (calls : DlqCalls) (info : DLQTopicInfo) : Program Unit := do
  let offsets ← get
  if isChanged offsets info then do
    sendAlertMsg calls info
    putOffset info
  else pure ()

/-- The first query of `start`; the rest of it schedules the check. -/
def start (calls : DlqCalls) : Program Unit := do
  let infos ← getQueryResult calls
  forEach putOffset infos

def check (calls : DlqCalls) : Program Unit := do
  let infos ← getQueryResult calls
  forEach (checkTopic calls) infos

def notified : Offsets → List DLQTopicInfo → List DLQTopicInfo
  | _, [] => []
  | offsets, info :: rest =>
      let others := notified (Function.update offsets (dlqKey info) (some info.value)) rest
      if isChanged offsets info then info :: others else others

/-- The query answers with rows, and every message about them is written. -/
def Answered (calls : DlqCalls) (offsets : Offsets) : Prop :=
  ∃ infos, calls.query = .ok (some (.ok infos)) ∧
    ∀ info ∈ notified offsets infos, calls.insertDLQNotifications info = .ok ()

theorem returns_checkAll_iff (calls : DlqCalls) (infos : List DLQTopicInfo) (offsets : Offsets) :
    Returns (forEach (checkTopic calls) infos) offsets ↔
      ∀ info ∈ notified offsets infos, calls.insertDLQNotifications info = .ok () := by
  induction infos generalizing offsets with
  | nil => simp [forEach, notified, Returns, Catching.pure]
  | cons info rest ih =>
    rw [forEach_cons, checkTopic, bind_assoc, returns_get_bind, notified]
    by_cases changed : isChanged offsets info = true
    · rw [if_pos changed, if_pos changed, bind_assoc, sendAlertMsg, returns_call_bind, List.forall_mem_cons]
      constructor
      · rintro ⟨⟨⟩, sent, others⟩
        exact ⟨sent, (ih _).mp others⟩
      · rintro ⟨sent, others⟩
        exact ⟨(), sent, (ih _).mpr others⟩
    · have seen : offsets (dlqKey info) = some info.value := by simpa [isChanged] using changed
      have same : Function.update offsets (dlqKey info) (some info.value) = offsets :=
        Function.update_eq_self_iff.mpr seen.symm
      rw [if_neg changed, if_neg changed, pure_bind, ih, same]

/-- The check ends without an exception exactly when all its calls answer. -/
theorem returns_check_iff (calls : DlqCalls) (offsets : Offsets) :
    Returns (check calls) offsets ↔ Answered calls offsets := by
  rw [check, getQueryResult]
  simp only [bind_assoc, returns_call_bind, returns_nonNull_bind, returns_checkAll_iff, Answered]
  constructor
  · rintro ⟨_, answers, queryResult, rfl, infos, rfl, sent⟩
    exact ⟨infos, answers, sent⟩
  · rintro ⟨infos, answers, sent⟩
    exact ⟨_, answers, _, rfl, infos, rfl, sent⟩

end DLQAlertService

end Zms.Alert
