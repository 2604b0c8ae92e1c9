import Mathlib
import Zms.Registry.Mirrors

/-! The alert service of one environment: the rules it checks and how the
messages of the portal change them.
-/

set_option autoImplicit false

namespace Zms.Alert

open Zms.Registry

/-- The columns of `alert_rule` that the portal writes and the alert service reads. -/
structure AlertRuleConfig where
  id : Nat
  name : String
  type : String
  field : String
  operator : String
  target : Int
  scope : String
  triggerTimes : Int
  triggerOperator : Option String
  alertUser : String
  alertMobile : String
  alertEmail : Option String
  alertDingding : Option String
  effect : Bool
  influxSql : String
  description : String
  effectFrom : String
  effectTo : String
  deriving DecidableEq, Repr

def AlertRuleConfig.getRuleKey (rule : AlertRuleConfig) : String :=
  rule.type ++ "_" ++ rule.name ++ "_" ++ rule.field

/-- The tags of the portal's messages. -/
inductive Tag where
  | ADD | UPDATE | DELETE
  deriving DecidableEq, Repr

structure Message where
  tag : Tag
  rule : AlertRuleConfig
  deriving DecidableEq, Repr

namespace AlertTask

abbrev RuleMap := Entries String AlertRuleConfig

/-- What `run` makes of the rules that the portal answers. -/
def run (rules : List AlertRuleConfig) : RuleMap :=
  rules.foldl (fun ruleMap rule => ruleMap.insert rule.getRuleKey rule) ∅

def onMessage (ruleMap : RuleMap) (message : Message) : RuleMap :=
  let rule := message.rule
  match message.tag with
  | .ADD => ruleMap.insert rule.getRuleKey rule
  | .UPDATE =>
      if rule.effect then
        let cleared := (ruleMap.values.filter fun item => item.id = rule.id).foldl
          (fun ruleMap item => ruleMap.erase item.getRuleKey) ruleMap
        cleared.insert rule.getRuleKey rule
      else ruleMap.erase rule.getRuleKey
  | .DELETE => ruleMap.erase rule.getRuleKey

def Shown (rows : AlertRuleConfig → Prop) (message : Message) (rule : AlertRuleConfig) : Prop :=
  match message.tag with
  | .ADD => rule = message.rule ∨ rows rule ∧ rule.getRuleKey ≠ message.rule.getRuleKey
  | .UPDATE =>
      if message.rule.effect then
        rule = message.rule ∨
          (rows rule ∧ rule.id ≠ message.rule.id) ∧ rule.getRuleKey ≠ message.rule.getRuleKey
      else rows rule ∧ rule.getRuleKey ≠ message.rule.getRuleKey
  | .DELETE => rows rule ∧ rule.getRuleKey ≠ message.rule.getRuleKey

theorem mirrors_onMessage {ruleMap : RuleMap} {rows : AlertRuleConfig → Prop}
    (mirrors : Mirrors ruleMap AlertRuleConfig.getRuleKey rows) (message : Message) :
    Mirrors (onMessage ruleMap message) AlertRuleConfig.getRuleKey (Shown rows message) := by
  unfold onMessage Shown
  cases message.tag with
  | ADD => exact mirrors.insert message.rule
  | DELETE => exact mirrors.erase message.rule.getRuleKey
  | UPDATE =>
    dsimp only
    split
    · have cleared := (mirrors.eraseWhere fun item => item.id = message.rule.id).insert message.rule
      simpa only [decide_eq_false_iff_not] using cleared
    · exact mirrors.erase message.rule.getRuleKey

/-- The start-up keeps every answered rule when no two of them share a key. -/
theorem mirrors_run {rules : List AlertRuleConfig} (distinct : (rules.map AlertRuleConfig.getRuleKey).Nodup) :
    Mirrors (run rules) AlertRuleConfig.getRuleKey fun rule => rule ∈ rules := by
  induction rules using List.reverseRecOn with
  | nil =>
    apply Mirrors.empty.rows_iff.mpr
    intro rule
    simp only [List.not_mem_nil]
  | append_singleton rules last ih =>
    rw [List.map_append, List.nodup_append] at distinct
    obtain ⟨before, -, apart⟩ := distinct
    unfold run at ih ⊢
    rw [List.foldl_append]
    apply ((ih before).insert last).rows_iff.mpr
    intro rule
    rw [List.mem_append, List.mem_singleton]
    constructor
    · rintro (same | ⟨member, _⟩)
      · exact .inr same
      · exact .inl member
    · rintro (member | same)
      · exact .inr ⟨member, apart _ (List.mem_map_of_mem member) _ (List.mem_singleton_self _)⟩
      · exact .inl same

end AlertTask

end Zms.Alert
