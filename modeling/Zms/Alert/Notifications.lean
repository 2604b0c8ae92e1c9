import Zms.Alert.AlertTask
import Zms.Transition.Guarded

/-! The checks of one rule by `AlertTask` and the notifications that `NotificationService` makes of
them, for any order of checks and writes.

The description is state of its own: the checks share the rule object, and a notification changes it.
-/

set_option autoImplicit false

namespace Zms.Alert.NotificationService

open Transition

def ENV_NAME_DESC : String := "环境："

def startsWith (text start : String) : Prop := start.toList <+: text.toList

instance (text start : String) : Decidable (startsWith text start) :=
  inferInstanceAs (Decidable (start.toList <+: text.toList))

/-- `equalsIgnoreCase` of a sign that has no other case. -/
def operate (operator : Option String) (src target : Int) : Bool :=
  if operator = some ">" then src > target
  else if operator = some "=" then src = target
  else src < target

/-- How the content of an answer is closed. -/
inductive Content where
  | closed
  | ioException
  | runtimeException
  deriving DecidableEq

/-- What comes of `execute`; an answer may have no entity. -/
inductive Execute where
  | response (getEntity : Option Content)
  | ioException
  | runtimeException
  deriving DecidableEq

/-- Whether it returns. `validUri` tells the texts that `URI.create` takes. -/
def sendDingdingGroup (validUri : String → Bool) (alertDingding : String) (execute : Execute) : Bool :=
  validUri alertDingding &&
    match execute with
    | .ioException => true
    | .runtimeException => false
    -- a null pointer in the finally block
    | .response none => false
    | .response (some .runtimeException) => false
    | .response (some .closed) | .response (some .ioException) => true

structure Notification where
  name : String
  field : String
  type : String
  description : Option String

structure State where
  description : Option String
  /-- Handed to the writer, which reads the description when it comes to them. -/
  pending : Nat
  written : List Notification
  /-- The checks whose count compared, however they went on. -/
  triggered : Nat

/-- What a check does on a text that is null or empty. -/
def isEmpty (text : Option String) : Bool := text.all fun text => text = ""

variable (validUri : String → Bool) (envName : String) (rule : AlertRuleConfig)

/-- An exception leaves what is done so far. -/
def sendNotification (execute : Execute) (s : State) : State :=
  match s.description with
  -- a null pointer
  | none => s
  | some description =>
    let s := if startsWith description ENV_NAME_DESC then s
      else { s with description := some (ENV_NAME_DESC ++ envName ++ "\n" ++ description) }
    if isEmpty rule.alertDingding ∨ sendDingdingGroup validUri (rule.alertDingding.getD "") execute then
      { s with pending := s.pending + 1 }
    else s

/-- What the signs say that the form offers. -/
def Compares (operator : Option String) (count times : Int) : Prop :=
  operator = some ">" ∧ count > times ∨ operator = some "=" ∧ count = times ∨ operator = some "<" ∧ count < times

instance (operator : Option String) (count times : Int) : Decidable (Compares operator count times) :=
  inferInstanceAs (Decidable (_ ∨ _))

/-- The rest of a check for the count that the database returned. -/
def check (count : Int) (execute : Execute) (s : State) : State :=
  if operate rule.triggerOperator count rule.triggerTimes then sendNotification validUri envName rule execute s
  else s

inductive Event where
  | check (count : Int) (execute : Execute)
  | write

def guard (s : State) : Event → Prop
  | .check _ _ => True
  | .write => 0 < s.pending

def effect (s : State) : Event → State
  | .check count execute =>
      let s := if Compares rule.triggerOperator count rule.triggerTimes then { s with triggered := s.triggered + 1 }
        else s
      check validUri envName rule count execute s
  | .write =>
      { s with
        pending := s.pending - 1
        written := s.written ++ [⟨rule.name, rule.field, rule.type, s.description⟩] }

def system (text : Option String) : Guarded State Event where
  init s := s = ⟨text, 0, [], 0⟩
  guard := guard
  effect := effect validUri envName rule

/-! ### Every alert is recorded -/

def withEnvironment (text : Option String) : Option String :=
  text.map fun text => ENV_NAME_DESC ++ envName ++ "\n" ++ text

/-- One record for each check that compares, with the rule's text after the environment. -/
structure Recorded (text : Option String) (s : State) : Prop where
  once : s.pending + s.written.length = s.triggered
  exact : ∀ notification ∈ s.written,
    notification = ⟨rule.name, rule.field, rule.type, withEnvironment envName text⟩

/-- A check that compares has a text that does not look like one with an environment, and sends
nothing or gets through with it. -/
def Delivers (text : Option String) : Event → Prop
  | .check count execute =>
      Compares rule.triggerOperator count rule.triggerTimes →
        (∃ own, text = some own ∧ ¬ startsWith own ENV_NAME_DESC) ∧
          ∀ alertDingding, rule.alertDingding = some alertDingding → alertDingding ≠ "" →
            validUri alertDingding ∧ execute ≠ .runtimeException ∧ execute ≠ .response none ∧
              execute ≠ .response (some .runtimeException)
  | .write => True

/-- The signs of the form. -/
def Offered : Prop :=
  rule.triggerOperator = some ">" ∨ rule.triggerOperator = some "=" ∨ rule.triggerOperator = some "<"

variable {validUri envName rule}

theorem operate_iff_compares (offered : Offered rule) (count : Int) :
    operate rule.triggerOperator count rule.triggerTimes ↔ Compares rule.triggerOperator count rule.triggerTimes := by
  rcases offered with sign | sign | sign <;> simp [operate, Compares, sign]

theorem startsWith_withEnvironment (own : String) :
    startsWith (ENV_NAME_DESC ++ envName ++ "\n" ++ own) ENV_NAME_DESC := by
  unfold startsWith
  rw [String.toList_append, String.toList_append, String.toList_append, List.append_assoc, List.append_assoc]
  exact List.prefix_append _ _

theorem sends_iff (execute : Execute) :
    isEmpty rule.alertDingding ∨ sendDingdingGroup validUri (rule.alertDingding.getD "") execute ↔
      ∀ alertDingding, rule.alertDingding = some alertDingding → alertDingding ≠ "" →
        validUri alertDingding ∧ execute ≠ .runtimeException ∧ execute ≠ .response none ∧
          execute ≠ .response (some .runtimeException) := by
  have returns (alertDingding : String) : sendDingdingGroup validUri alertDingding execute ↔
      validUri alertDingding ∧ execute ≠ .runtimeException ∧ execute ≠ .response none ∧
        execute ≠ .response (some .runtimeException) := by
    unfold sendDingdingGroup
    cases execute with
    | ioException | runtimeException => simp
    | response getEntity =>
      cases getEntity with
      | none => simp
      | some content => cases content <;> simp
  cases rule.alertDingding with
  | none => simp [isEmpty]
  | some alertDingding =>
    by_cases empty : alertDingding = ""
    · simp [isEmpty, empty]
    · simp [isEmpty, empty, returns]

section Checks
variable {own : String} {execute : Execute} {s : State}

/-- The environment is put in front once. -/
theorem sendNotification_delivers (plain : ¬ startsWith own ENV_NAME_DESC)
    (before : s.description = some own ∨ s.description = withEnvironment envName (some own))
    (sends : isEmpty rule.alertDingding ∨ sendDingdingGroup validUri (rule.alertDingding.getD "") execute) :
    sendNotification validUri envName rule execute s =
      { s with description := withEnvironment envName (some own), pending := s.pending + 1 } := by
  rcases before with first | again
  · rw [sendNotification, first]
    simp only [if_neg plain, if_pos sends]
    rfl
  · have noted : s.description = some (ENV_NAME_DESC ++ envName ++ "\n" ++ own) := again
    have starts : startsWith (ENV_NAME_DESC ++ envName ++ "\n" ++ own) ENV_NAME_DESC := startsWith_withEnvironment own
    rw [sendNotification, noted]
    simp only [if_pos starts, if_pos sends, ← again]

end Checks

/-- The description is the rule's text, or has the environment in front of it. -/
structure Noted (envName : String) (rule : AlertRuleConfig) (text : Option String) (s : State) : Prop where
  recorded : Recorded envName rule text s
  description : s.description = text ∧ s.pending = 0 ∨ s.description = withEnvironment envName text

theorem noted_effect (offered : Offered rule) {text : Option String} {s : State} {event : Event}
    (noted : Noted envName rule text s) (enabled : guard s event) (delivers : Delivers validUri rule text event) :
    Noted envName rule text (effect validUri envName rule s event) := by
  obtain ⟨recorded, description⟩ := noted
  cases event with
  | check count execute =>
    simp only [effect, check]
    by_cases compares : Compares rule.triggerOperator count rule.triggerTimes
    · obtain ⟨⟨own, rfl, plain⟩, sends⟩ := delivers compares
      have before : s.description = some own ∨ s.description = withEnvironment envName (some own) :=
        description.imp And.left id
      rw [if_pos compares, if_pos ((operate_iff_compares offered count).mpr compares),
        sendNotification_delivers (s := { s with triggered := s.triggered + 1 }) plain before
          ((sends_iff execute).mpr sends)]
      refine ⟨⟨?_, recorded.exact⟩, .inr rfl⟩
      have once := recorded.once
      change s.pending + 1 + s.written.length = s.triggered + 1
      omega
    · rw [if_neg compares, if_neg fun operates => compares ((operate_iff_compares offered count).mp operates)]
      exact ⟨recorded, description⟩
  | write =>
    have noted : s.description = withEnvironment envName text :=
      description.resolve_left fun untouched => (Nat.ne_of_gt enabled) untouched.2
    refine ⟨⟨?_, fun notification member => ?_⟩, .inr noted⟩
    · have once := recorded.once
      have positive : 0 < s.pending := enabled
      change s.pending - 1 + (s.written ++ [_]).length = s.triggered
      rw [List.length_append, List.length_singleton]
      omega
    · rcases List.mem_append.mp member with earlier | last
      · exact recorded.exact notification earlier
      · rw [List.mem_singleton.mp last, noted]

/-- As long as the checks that compare deliver, there is one record for each of them. -/
theorem recorded_of_reachable (offered : Offered rule) {text : Option String} {s : State}
    (reached : ((system validUri envName rule text).restrict fun _ => Delivers validUri rule text).Reachable s) :
    Recorded envName rule text s := by
  have noted : Noted envName rule text s := by
    refine reached.invariant _ (fun s started => ?_) fun s event noted enabled => ?_
    · rw [show s = ⟨text, 0, [], 0⟩ from started]
      exact ⟨⟨rfl, fun _ member => absurd member List.not_mem_nil⟩, .inl ⟨rfl, rfl⟩⟩
    · exact noted_effect offered noted enabled.1 enabled.2
  exact noted.recorded

/-! ### Alerts that are lost or recorded as another's -/

section Orders

/-- Alerts on more than three delays of the group "orders". -/
def delays (alertDingding : Option String) : AlertRuleConfig where
  id := 1
  name := "orders"
  type := "consumer"
  field := "latency"
  operator := ">"
  target := 1000
  scope := "5m"
  triggerTimes := 3
  triggerOperator := some ">"
  alertUser := "admin"
  alertMobile := "13800000000"
  alertEmail := none
  alertDingding := alertDingding
  effect := true
  influxSql := ""
  description := "delay"
  effectFrom := "00:00"
  effectTo := "23:59"

theorem recorded_delays : Recorded "prod" (delays none) (some "delay")
    (effect (fun _ => true) "prod" (delays none)
      (effect (fun _ => true) "prod" (delays none) ⟨some "delay", 0, [], 0⟩ (.check 5 .ioException)) .write) := by
  have started : ((system (fun _ => true) "prod" (delays none) (some "delay")).restrict fun _ =>
      Delivers (fun _ => true) (delays none) (some "delay")).Reachable ⟨some "delay", 0, [], 0⟩ := .start rfl
  have checked := Guarded.Reachable.step (a := Event.check 5 .ioException) started
    ⟨trivial, fun _ => ⟨⟨"delay", rfl, by decide⟩, fun _ none => by cases none⟩⟩
  exact recorded_of_reachable (.inl rfl) (Guarded.Reachable.step (a := Event.write) checked ⟨Nat.zero_lt_one, trivial⟩)

/-- The address has a space, which `URI.create` does not take. -/
theorem not_always_recorded : ¬ ∀ (validUri : String → Bool) (envName : String) (rule : AlertRuleConfig)
    (text : Option String) (s : State), Offered rule → (system validUri envName rule text).Reachable s →
      Recorded envName rule text s := by
  intro always
  have started : (system (fun text => !text.toList.contains ' ') "prod"
    (delays (some "https://oapi.dingtalk.com/robot/send access_token=1")) (some "delay")).Reachable
      ⟨some "delay", 0, [], 0⟩ := .start rfl
  have checked := Guarded.Reachable.step (a := Event.check 5 .ioException) started trivial
  have once := (always _ _ _ _ _ (.inl rfl) checked).once
  revert once
  decide

end Orders

end Zms.Alert.NotificationService
