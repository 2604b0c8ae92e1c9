import Mathlib
import Zms.Portal.AlertRules

/-! The portal's alert rules against the maps of the alert services.

Only the last contents of a rule are sent, and only to the environments of the
call. What a call owes to the others, and to the entry under a former name, is
what the condition of the main result lists.
-/

set_option autoImplicit false

namespace Zms.Portal.AlertService

open Zms.Alert Zms.Registry Zms.Transition

section Sets
variable {rows : AlertRuleConfig → Prop} {rule : AlertRuleConfig} {id : Nat} {key : String}

theorem added_iff {effective : Prop} (fresh : ∀ row, rows row → row.id ≠ rule.id) :
    (∀ row, (row = rule ∨ rows row ∧ row.getRuleKey ≠ rule.getRuleKey) ↔ rows row ∨ row = rule ∧ effective) ↔
      effective ∧ ∀ row, rows row → row.getRuleKey ≠ rule.getRuleKey := by
  constructor
  · intro sets
    constructor
    · obtain old | ⟨-, effective⟩ := (sets rule).mp (.inl rfl)
      · exact absurd rfl (fresh rule old)
      · exact effective
    · intro row old
      obtain rfl | ⟨-, differs⟩ := (sets row).mpr (.inl old)
      · exact absurd rfl (fresh row old)
      · exact differs
  · rintro ⟨effective, apart⟩ row
    constructor
    · rintro (rfl | ⟨old, -⟩)
      · exact .inr ⟨rfl, effective⟩
      · exact .inl old
    · rintro (old | ⟨rfl, -⟩)
      · exact .inr ⟨old, apart row old⟩
      · exact .inl rfl

theorem replaced_iff :
    (∀ row, (row = rule ∨ (rows row ∧ row.id ≠ rule.id) ∧ row.getRuleKey ≠ rule.getRuleKey) ↔
      (rows row ∧ row.id ≠ rule.id) ∨ row = rule) ↔
      ∀ row, rows row → row.id ≠ rule.id → row.getRuleKey ≠ rule.getRuleKey := by
  constructor
  · intro sets row old other
    obtain rfl | ⟨-, differs⟩ := (sets row).mpr (.inl ⟨old, other⟩)
    · exact absurd rfl other
    · exact differs
  · intro apart row
    constructor
    · rintro (rfl | ⟨kept, -⟩)
      · exact .inr rfl
      · exact .inl kept
    · rintro (⟨old, other⟩ | rfl)
      · exact .inr ⟨⟨old, other⟩, apart row old other⟩
      · exact .inl rfl

theorem erased_iff : (∀ row, (rows row ∧ row.getRuleKey ≠ key) ↔ rows row ∧ row.id ≠ id) ↔
    ∀ row, rows row → (row.getRuleKey = key ↔ row.id = id) := by
  apply forall_congr'
  intro row
  rw [and_congr_right_iff]
  apply imp_congr_right
  intro _
  exact not_iff_not

theorem unsent_iff : (∀ row, rows row ↔ rows row ∧ row.id ≠ id) ↔ ∀ row, rows row → row.id ≠ id := by
  apply forall_congr'
  intro row
  rw [iff_self_and]

end Sets

section Agreement
variable {tables : Tables} {s : State} {rules : Rules} {env : EnvId} {envs : List EnvId} {rule : AlertRuleConfig}

theorem forall_assigned (holds : String → Nat → Prop) :
    (∀ row, Assigned tables rules env row → holds row.getRuleKey row.id) ↔
      ∀ row ∈ selectEffectAlertRulesByEnvId rules env, holds row.getRuleKey row.id := by
  constructor
  · intro all row member
    have shown := all _ ⟨row, member, rfl⟩
    rw [getRuleKey_getClusterName, getClusterName_id] at shown
    exact shown
  · rintro all _ ⟨row, member, rfl⟩
    rw [getRuleKey_getClusterName, getClusterName_id]
    exact all row member

theorem assigned_insert {next : Nat} (fresh : ∀ row ∈ rules.rows, row.id ≠ rule.id)
    (refFresh : ∀ ref ∈ rules.refs, ref.1 ≠ rule.id) (row : AlertRuleConfig) :
    Assigned tables (Rules.insertAlertRuleEnvironmentRef
      { rules with rows := rules.rows ++ [rule], nextId := next } rule.id envs) env row ↔
      Assigned tables rules env row ∨ row = getClusterName tables env rule ∧ rule.effect = true ∧ env ∈ envs := by
  unfold Assigned
  simp only [mem_selectEffect_insert fresh refFresh]
  constructor
  · rintro ⟨row, old | ⟨rfl, new⟩, rfl⟩
    · exact .inl ⟨row, old, rfl⟩
    · exact .inr ⟨rfl, new⟩
  · rintro (⟨row, old, rfl⟩ | ⟨rfl, new⟩)
    · exact ⟨row, .inl old, rfl⟩
    · exact ⟨rule, .inr ⟨rfl, new⟩, rfl⟩

theorem assigned_update (found : ∃ row ∈ rules.rows, row.id = rule.id) (row : AlertRuleConfig) :
    Assigned tables ((Rules.deleteAlertRuleId
      { rules with rows := rules.rows.map fun row => if row.id = rule.id then rule else row }
      rule.id).insertAlertRuleEnvironmentRef rule.id envs) env row ↔
      (Assigned tables rules env row ∧ row.id ≠ rule.id) ∨
        row = getClusterName tables env rule ∧ rule.effect = true ∧ env ∈ envs := by
  unfold Assigned
  simp only [mem_selectEffect_update found]
  constructor
  · rintro ⟨row, ⟨old, other⟩ | ⟨rfl, new⟩, rfl⟩
    · rw [getClusterName_id]
      exact .inl ⟨⟨row, old, rfl⟩, other⟩
    · exact .inr ⟨rfl, new⟩
  · rintro (⟨⟨row, old, rfl⟩, other⟩ | ⟨rfl, new⟩)
    · rw [getClusterName_id] at other
      exact ⟨row, .inl ⟨old, other⟩, rfl⟩
    · exact ⟨rule, .inr ⟨rfl, new⟩, rfl⟩

theorem assigned_delete {id : Nat} (row : AlertRuleConfig) :
    Assigned tables (Rules.deleteAlertRuleId
      { rules with rows := rules.rows.filter fun row => row.id ≠ id } id) env row ↔
      Assigned tables rules env row ∧ row.id ≠ id := by
  unfold Assigned
  simp only [mem_selectEffect_delete]
  constructor
  · rintro ⟨row, ⟨old, other⟩, rfl⟩
    rw [getClusterName_id]
    exact ⟨⟨row, old, rfl⟩, other⟩
  · rintro ⟨⟨row, old, rfl⟩, other⟩
    rw [getClusterName_id] at other
    exact ⟨row, ⟨old, other⟩, rfl⟩

theorem agrees_insert (agrees : Agrees tables s) (tidy : Tidy s.rules) (dto : AlertRuleDTO) :
    Agrees tables (effect tables s (.insert dto)) ↔ InsertAgrees tables s.rules dto := by
  obtain ⟨refused, vacuous⟩ | ⟨refs, rule, alone, found, generated, numbered, effective, key, sent⟩ :=
    insert_cases tables s.rules dto
  · rw [effect, refused]
    exact iff_of_true agrees vacuous
  have fresh : ∀ row ∈ s.rules.rows, row.id ≠ rule.id := by
    intro row member same
    have older := tidy.row row member
    omega
  have refFresh : ∀ ref ∈ s.rules.refs, ref.1 ≠ rule.id := by
    intro ref member same
    have older := tidy.ref ref member
    omega
  have newer (env : EnvId) : ∀ row, Assigned tables s.rules env row → row.id ≠ (getClusterName tables env rule).id := by
    rintro _ ⟨row, old, rfl⟩
    rw [getClusterName_id, getClusterName_id]
    exact fresh row (mem_selectEffect.mp old).1
  have each (env : EnvId) : (∀ row, (if env ∈ refs.map (·.environmentId)
        then AlertTask.Shown (Assigned tables s.rules env) ⟨.ADD, getClusterName tables env rule⟩ row
        else Assigned tables s.rules env row) ↔
      Assigned tables s.rules env row ∨
        row = getClusterName tables env rule ∧ rule.effect = true ∧ env ∈ refs.map (·.environmentId)) ↔
      (env ∈ refs.map (·.environmentId) → rule.effect = true ∧
        ∀ row ∈ selectEffectAlertRulesByEnvId s.rules env, row.getRuleKey ≠ rule.getRuleKey) := by
    by_cases member : env ∈ refs.map (·.environmentId)
    · simp only [member, if_true, and_true, true_implies, AlertTask.Shown]
      rw [added_iff (newer env), getRuleKey_getClusterName,
        forall_assigned fun key _ => key ≠ rule.getRuleKey]
    · simp only [member, if_false, and_false, or_false, implies_true, false_implies]
  rw [effect, sent, agrees_call agrees (getEnvironmentRefDto_nodup found)]
  simp only [assigned_insert fresh refFresh, each]
  constructor
  · intro holds _ refs' found' _
    obtain rfl := Option.some.inj (found.symm.trans found')
    rw [← effective, ← key]
    obtain ⟨first, listed⟩ := exists_environment found
    refine ⟨(holds _ (List.mem_map_of_mem listed)).1, fun ref member => ?_⟩
    exact (holds _ (List.mem_map_of_mem member)).2
  · intro holds env member
    obtain ⟨inEffect, apart⟩ := holds alone refs found generated
    obtain ⟨ref, listed, rfl⟩ := List.mem_map.mp member
    rw [effective, key]
    exact ⟨inEffect, apart ref listed⟩

theorem agrees_update (agrees : Agrees tables s) (dto : AlertRuleDTO) (user : LdapUser) :
    Agrees tables (effect tables s (.update dto user)) ↔ UpdateAgrees tables s.rules dto user := by
  obtain ⟨refused, vacuous⟩ | ⟨refs, rule, allowed, present, found, generated, own, effective, key, sent⟩ :=
    update_cases tables s.rules dto user
  · rw [effect, refused]
    exact iff_of_true agrees vacuous
  have exists_row : ∃ row ∈ s.rules.rows, row.id = rule.id := by
    rw [own]
    exact selectByPrimaryKey_isSome.mp present
  have each (env : EnvId) : (∀ row, (if env ∈ refs.map (·.environmentId)
        then AlertTask.Shown (Assigned tables s.rules env) ⟨.UPDATE, getClusterName tables env rule⟩ row
        else Assigned tables s.rules env row) ↔
      (Assigned tables s.rules env row ∧ row.id ≠ rule.id) ∨
        row = getClusterName tables env rule ∧ rule.effect = true ∧ env ∈ refs.map (·.environmentId)) ↔
      ∀ row ∈ selectEffectAlertRulesByEnvId s.rules env,
        if env ∈ refs.map (·.environmentId) then
          if rule.effect then row.id ≠ rule.id → row.getRuleKey ≠ rule.getRuleKey
          else row.getRuleKey = rule.getRuleKey ↔ row.id = rule.id
        else row.id ≠ rule.id := by
    by_cases member : env ∈ refs.map (·.environmentId)
    · by_cases inEffect : rule.effect = true
      · have replaced := @replaced_iff (Assigned tables s.rules env) (getClusterName tables env rule)
        rw [getClusterName_id, getRuleKey_getClusterName] at replaced
        simp only [member, inEffect, if_true, and_true, AlertTask.Shown, getClusterName_effect, getClusterName_id,
          getRuleKey_getClusterName]
        rw [replaced, forall_assigned fun key id => id ≠ rule.id → key ≠ rule.getRuleKey]
      · simp only [member, inEffect, if_true, if_false, false_and, and_false, or_false, AlertTask.Shown,
          getClusterName_effect, getRuleKey_getClusterName, Bool.false_eq_true]
        rw [erased_iff, forall_assigned fun key id => key = rule.getRuleKey ↔ id = rule.id]
    · simp only [member, if_false, and_false, or_false]
      rw [unsent_iff, forall_assigned fun _ id => id ≠ rule.id]
  rw [effect, sent, agrees_call agrees (getEnvironmentRefDto_nodup found)]
  simp only [assigned_update exists_row, each]
  rw [own, effective, key]
  constructor
  · intro holds _ _ refs' found' _
    obtain rfl := Option.some.inj (found.symm.trans found')
    constructor
    · intro ref member row old
      have inside := holds ref.environmentId row old
      rw [if_pos (List.mem_map_of_mem member)] at inside
      exact inside
    · intro env _ absent row old
      have outside := holds env row old
      rw [if_neg absent] at outside
      exact outside
  · intro holds env row old
    obtain ⟨inside, outside⟩ := holds allowed present refs found generated
    split
    · next member =>
      obtain ⟨ref, listed, rfl⟩ := List.mem_map.mp member
      exact inside ref listed row old
    · next absent =>
      -- a row of the rule counts in an environment only where a reference says so
      intro same
      apply outside env (mem_envs.mpr _) absent row old same
      rw [← same]
      exact (mem_selectEffect.mp old).2.2

theorem agrees_delete (agrees : Agrees tables s) (tidy : Tidy s.rules) (rule : AlertRuleConfig) :
    Agrees tables (effect tables s (.delete rule)) ↔ DeleteAgrees s.rules rule := by
  obtain ⟨refused, vacuous⟩ | ⟨deleted, found, sent⟩ := delete_cases s.rules rule
  · rw [effect, refused]
    exact iff_of_true agrees vacuous
  have once : (if (selectByPrimaryKey s.rules.rows deleted.id).isSome then s.rules.envs deleted.id
      else []).Nodup := by
    split
    · exact tidy.envs_nodup deleted.id
    · exact List.nodup_nil
  have unreferred {env : EnvId} (absent : env ∉ s.rules.envs deleted.id) :
      ∀ row ∈ selectEffectAlertRulesByEnvId s.rules env, row.id ≠ deleted.id := by
    intro row old same
    apply absent (mem_envs.mpr _)
    rw [← same]
    exact (mem_selectEffect.mp old).2.2
  rw [effect, sent, agrees_call agrees once]
  simp only [assigned_delete]
  by_cases present : (selectByPrimaryKey s.rules.rows deleted.id).isSome
  · simp only [present, if_true]
    have each (env : EnvId) : (∀ row, (if env ∈ s.rules.envs deleted.id
          then AlertTask.Shown (Assigned tables s.rules env) ⟨.DELETE, getClusterName tables env deleted⟩ row
          else Assigned tables s.rules env row) ↔ Assigned tables s.rules env row ∧ row.id ≠ deleted.id) ↔
        (env ∈ s.rules.envs deleted.id → ∀ row ∈ selectEffectAlertRulesByEnvId s.rules env,
          row.getRuleKey = deleted.getRuleKey ↔ row.id = deleted.id) := by
      by_cases member : env ∈ s.rules.envs deleted.id
      · simp only [member, if_true, true_implies, AlertTask.Shown, getRuleKey_getClusterName]
        rw [erased_iff, forall_assigned fun key id => key = deleted.getRuleKey ↔ id = deleted.id]
      · simp only [member, if_false, false_implies, iff_true]
        rw [unsent_iff, forall_assigned fun _ id => id ≠ deleted.id]
        exact unreferred member
    simp only [each]
    constructor
    · intro holds deleted' found' _
      obtain rfl := Option.some.inj (found.symm.trans found')
      exact holds
    · intro holds
      exact holds deleted found present
  · simp only [present, List.not_mem_nil, if_false, Bool.false_eq_true]
    apply iff_of_true
    · intro env
      rw [unsent_iff, forall_assigned fun _ id => id ≠ deleted.id]
      intro row old same
      exact present (selectByPrimaryKey_isSome.mpr ⟨row, (mem_selectEffect.mp old).1, same⟩)
    · intro deleted' found' present'
      obtain rfl := Option.some.inj (found.symm.trans found')
      exact absurd present' present

theorem agrees_effect (agrees : Agrees tables s) (tidy : Tidy s.rules) (a : Action) :
    Agrees tables (effect tables s a) ↔ CallAgrees tables s a := by
  cases a with
  | insert dto => exact agrees_insert agrees tidy dto
  | update dto user => exact agrees_update agrees dto user
  | delete rule => exact agrees_delete agrees tidy rule
  | deliver env =>
    apply iff_of_true _ trivial
    intro other
    have same : (effect tables s (.deliver env)).rules = s.rules := by
      unfold effect
      dsimp only
      split <;> rfl
    rw [settled_deliver, same]
    exact agrees other

end Agreement

theorem tidy_of_reachable {tables : Tables} {s : State} (reached : (machine tables).Reachable s) : Tidy s.rules := by
  induction reached with
  | start initial => exact initial.1
  | step _ _ ih => exact tidy_effect ih _

theorem settled_of_empty {s : State} {env : EnvId} (empty : s.queue env = []) : settled s env = s.ruleMap env := by
  unfold settled
  rw [empty]
  rfl

/-- An alert service that starts with distinct keys and resolved queries holds its rules. -/
theorem mirrors_start {tables : Tables} {rules : Rules} {env : EnvId}
    (distinct : ((getEffectAlertRulesByEnv tables rules env).map AlertRuleConfig.getRuleKey).Nodup)
    (resolved : ∀ row ∈ selectEffectAlertRulesByEnvId rules env,
      contains (getClusterName tables env row).influxSql "{clusterName}" = false) :
    Mirrors (AlertTask.run (getEffectAlertRulesByEnv tables rules env)) AlertRuleConfig.getRuleKey
      (Assigned tables rules env) := by
  apply (AlertTask.mirrors_run distinct).rows_iff.mpr
  intro rule
  unfold getEffectAlertRulesByEnv Assigned
  rw [List.mem_filter, List.mem_map]
  constructor
  · rintro ⟨⟨row, member, rfl⟩, -⟩
    exact ⟨row, member, rfl⟩
  · rintro ⟨row, member, rfl⟩
    refine ⟨⟨row, member, rfl⟩, ?_⟩
    rw [resolved row member]
    rfl

section Example

def twoEnvironments : Tables where
  topics := [⟨"orders", 1, some 7⟩, ⟨"orders", 2, some 7⟩]
  consumers := []
  services := [⟨7, 1, "mq1", "rocketmq", false⟩]
  fold := Char.toLower
  sameTopic name other := name = other
  sameText name other := name = other
  topicOnce name := by
    have once : ([1, 2] : List EnvId).Nodup := by decide
    exact once.sublist (List.filter_sublist.map _)
  consumerOnce _ := List.nodup_nil

def request (refList : List EnvId) : AlertRuleDTO where
  refList := refList
  rule :=
    { id := 0, name := "orders", type := "topic", field := "tps", operator := ">", target := 1000, scope := "5m"
      triggerTimes := 1, triggerOperator := some ">", alertUser := "admin", alertMobile := "", alertEmail := none
      alertDingding := none, effect := true, influxSql := "", description := "busy", effectFrom := "00:00"
      effectTo := "23:59" }

def noRules : State where
  rules := ⟨[], [], 0⟩
  queue _ := []
  ruleMap _ := ∅

def administrator : LdapUser := ⟨some "root", true⟩

theorem generates (refList : List EnvId) :
    (generateSql twoEnvironments (request refList).rule (some 7)).isSome := rfl

theorem noRules_init : (machine twoEnvironments).init noRules := by
  refine ⟨⟨List.nodup_nil, ?_, ?_, List.nodup_nil⟩, ?_, fun _ => rfl⟩
  · intro row member
    cases member
  · intro ref member
    cases member
  · intro env
    apply Mirrors.empty.rows_iff.mpr
    intro rule
    constructor
    · exact False.elim
    · rintro ⟨row, member, -⟩
      cases member

theorem callAgrees_first : CallAgrees twoEnvironments noRules (.insert (request [1, 2])) := by
  intro _ refs _ _
  refine ⟨rfl, fun ref _ row member => ?_⟩
  cases member

def inserted : State := effect twoEnvironments noRules (.insert (request [1, 2]))

theorem inserted_rules : ∃ rule : AlertRuleConfig, rule.id = 0 ∧ rule.effect = true ∧
    inserted.rules = ⟨[rule], [(0, 1), (0, 2)], 1⟩ := by
  have sent := insert_cases twoEnvironments noRules.rules (request [1, 2])
  obtain ⟨refused, -⟩ | ⟨refs, rule, -, found, -, numbered, effective, -, sent⟩ := sent
  · cases refused
  · refine ⟨rule, numbered, effective, ?_⟩
    have both : refs = [⟨"orders", 1, some 7⟩, ⟨"orders", 2, some 7⟩] := Option.some.inj found.symm
    rw [inserted, effect, sent, rules_call_some, numbered, both]
    rfl

theorem inserted_reachable : ((machine twoEnvironments).restrict (CallAgrees twoEnvironments)).Reachable inserted := by
  have start : ((machine twoEnvironments).restrict (CallAgrees twoEnvironments)).Reachable noRules :=
    .start noRules_init
  exact start.step (a := .insert (request [1, 2])) (by exact ⟨trivial, callAgrees_first⟩)

end Example

end Zms.Portal.AlertService
