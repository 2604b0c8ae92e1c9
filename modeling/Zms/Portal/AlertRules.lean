import Mathlib
import Zms.Portal.AlertService
import Zms.Transition.Guarded

/-! The portal's calls and the deliveries of their messages: what a call does
to the rows, to the queues and to the rules assigned to each environment.
-/

set_option autoImplicit false

namespace Zms.Portal.AlertService

open Zms.Alert Zms.Registry Zms.Transition

structure State where
  rules : Rules
  queue : EnvId → List Message
  ruleMap : EnvId → AlertTask.RuleMap

inductive Action where
  | insert (dto : AlertRuleDTO)
  | update (dto : AlertRuleDTO) (user : LdapUser)
  | delete (rule : AlertRuleConfig)
  | deliver (env : EnvId)

def State.asyncSend (s : State) (env : EnvId) (message : Message) : State :=
  { s with queue := Function.update s.queue env (s.queue env ++ [message]) }

def sendAlertRule (tables : Tables) (envs : List EnvId) (rule : AlertRuleConfig) (tag : Tag) (s : State) : State :=
  envs.foldl (fun s env => s.asyncSend env ⟨tag, getClusterName tables env rule⟩) s

def State.call (tables : Tables) (s : State) (tag : Tag) : Option Sending → State
  | none => s
  | some sending => sendAlertRule tables sending.envs sending.rule tag { s with rules := sending.rules }

def effect (tables : Tables) (s : State) : Action → State
  | .insert dto => s.call tables .ADD (insert tables s.rules dto)
  | .update dto user => s.call tables .UPDATE (update tables s.rules dto user)
  | .delete rule => s.call tables .DELETE (delete s.rules rule)
  | .deliver env =>
      match s.queue env with
      | [] => s
      | message :: rest =>
          { s with
            queue := Function.update s.queue env rest
            ruleMap := Function.update s.ruleMap env (AlertTask.onMessage (s.ruleMap env) message) }

def guard (s : State) : Action → Prop
  | .deliver env => s.queue env ≠ []
  | _ => True

/-- The map of an environment after all its messages are processed. -/
def settled (s : State) (env : EnvId) : AlertTask.RuleMap :=
  (s.queue env).foldl AlertTask.onMessage (s.ruleMap env)

/-- The effective rules that the database assigns to an environment, as they are sent there. -/
def Assigned (tables : Tables) (rules : Rules) (env : EnvId) (rule : AlertRuleConfig) : Prop :=
  ∃ row ∈ selectEffectAlertRulesByEnvId rules env, rule = getClusterName tables env row

/-- Every alert service comes to hold the rules assigned to its environment and nothing else. -/
def Agrees (tables : Tables) (s : State) : Prop :=
  ∀ env, Mirrors (settled s env) AlertRuleConfig.getRuleKey (Assigned tables s.rules env)

/-- What the keys of the database ensure: ids are unique and assigned in order. -/
structure Tidy (rules : Rules) : Prop where
  once : (rules.rows.map (·.id)).Nodup
  row : ∀ row ∈ rules.rows, row.id < rules.nextId
  ref : ∀ ref ∈ rules.refs, ref.1 < rules.nextId
  refOnce : rules.refs.Nodup

def machine (tables : Tables) : Guarded State Action where
  init s := Tidy s.rules ∧ Agrees tables s ∧ ∀ env, s.queue env = []
  guard := guard
  effect := effect tables

section Sent
variable {tables : Tables} {s : State} {envs : List EnvId} {rule : AlertRuleConfig} {tag : Tag}

@[simp] theorem getClusterName_id (env : EnvId) : (getClusterName tables env rule).id = rule.id := by
  unfold getClusterName
  split
  · dsimp only
    split
    · rfl
    · split <;> rfl
  · rfl

@[simp] theorem getClusterName_effect (env : EnvId) : (getClusterName tables env rule).effect = rule.effect := by
  unfold getClusterName
  split
  · dsimp only
    split
    · rfl
    · split <;> rfl
  · rfl

@[simp] theorem getRuleKey_getClusterName (env : EnvId) :
    (getClusterName tables env rule).getRuleKey = rule.getRuleKey := by
  unfold getClusterName
  split
  · dsimp only
    split
    · rfl
    · split <;> rfl
  · rfl

@[simp] theorem rules_sendAlertRule : (sendAlertRule tables envs rule tag s).rules = s.rules := by
  unfold sendAlertRule
  induction envs generalizing s with
  | nil => rfl
  | cons env rest ih => exact ih

theorem ruleMap_sendAlertRule : (sendAlertRule tables envs rule tag s).ruleMap = s.ruleMap := by
  unfold sendAlertRule
  induction envs generalizing s with
  | nil => rfl
  | cons env rest ih => exact ih

theorem queue_sendAlertRule (once : envs.Nodup) (env : EnvId) :
    (sendAlertRule tables envs rule tag s).queue env =
      if env ∈ envs then s.queue env ++ [⟨tag, getClusterName tables env rule⟩] else s.queue env := by
  unfold sendAlertRule
  induction envs generalizing s with
  | nil => rfl
  | cons first rest ih =>
    obtain ⟨absent, once⟩ := List.nodup_cons.mp once
    rw [List.foldl_cons, ih once]
    by_cases same : env = first
    · subst same
      rw [if_neg absent, if_pos List.mem_cons_self]
      exact Function.update_self ..
    · simp only [List.mem_cons, same, false_or, State.asyncSend, ne_eq, not_false_eq_true,
        Function.update_of_ne]

theorem settled_sendAlertRule (once : envs.Nodup) (env : EnvId) :
    settled (sendAlertRule tables envs rule tag s) env =
      if env ∈ envs then AlertTask.onMessage (settled s env) ⟨tag, getClusterName tables env rule⟩
      else settled s env := by
  unfold settled
  rw [queue_sendAlertRule once, ruleMap_sendAlertRule]
  split
  · rw [List.foldl_append]
    rfl
  · rfl

theorem settled_deliver (env other : EnvId) : settled (effect tables s (.deliver env)) other = settled s other := by
  unfold settled effect
  dsimp only
  split
  · rfl
  · next message rest pending =>
    dsimp only
    by_cases same : other = env
    · subst same
      rw [Function.update_self, Function.update_self, pending]
      rfl
    · rw [Function.update_of_ne same, Function.update_of_ne same]

/-- Whether a call keeps the agreement is a question about sets of rules. -/
theorem agrees_call (agrees : Agrees tables s) {sending : Sending} (once : sending.envs.Nodup) :
    Agrees tables (s.call tables tag (some sending)) ↔ ∀ env rule,
      (if env ∈ sending.envs
        then AlertTask.Shown (Assigned tables s.rules env) ⟨tag, getClusterName tables env sending.rule⟩ rule
        else Assigned tables s.rules env rule) ↔ Assigned tables sending.rules env rule := by
  unfold Agrees State.call
  apply forall_congr'
  intro env
  rw [settled_sendAlertRule once, rules_sendAlertRule]
  by_cases sent : env ∈ sending.envs
  · simp only [if_pos sent]
    exact (AlertTask.mirrors_onMessage (agrees env) _).rows_iff
  · simp only [if_neg sent]
    exact (agrees env).rows_iff

end Sent

section Rows
variable {tables : Tables} {rules : Rules} {env : EnvId} {id : Nat} {rule row : AlertRuleConfig}

theorem mem_selectEffect : row ∈ selectEffectAlertRulesByEnvId rules env ↔
    row ∈ rules.rows ∧ row.effect = true ∧ (row.id, env) ∈ rules.refs := by
  unfold selectEffectAlertRulesByEnvId
  rw [List.mem_filter, Bool.and_eq_true, List.contains_iff_mem]

theorem mem_envs : env ∈ rules.envs id ↔ (id, env) ∈ rules.refs := by
  unfold Rules.envs
  rw [List.mem_map]
  constructor
  · rintro ⟨⟨found, _⟩, listed, rfl⟩
    obtain ⟨listed, same⟩ := List.mem_filter.mp listed
    rw [← of_decide_eq_true same]
    exact listed
  · intro listed
    exact ⟨(id, env), List.mem_filter.mpr ⟨listed, decide_eq_true rfl⟩, rfl⟩

theorem Tidy.envs_nodup (tidy : Tidy rules) (id : Nat) : (rules.envs id).Nodup := by
  unfold Rules.envs
  apply List.Nodup.map_on
  · rintro ⟨first, _⟩ member ⟨second, _⟩ member' same
    obtain rfl := of_decide_eq_true (List.mem_filter.mp member).2
    obtain same' := of_decide_eq_true (List.mem_filter.mp member').2
    exact Prod.ext same'.symm same
  · exact tidy.refOnce.filter _

theorem selectByPrimaryKey_isSome : (selectByPrimaryKey rules.rows id).isSome ↔ ∃ row ∈ rules.rows, row.id = id := by
  unfold selectByPrimaryKey
  simp only [List.find?_isSome, decide_eq_true_eq]

theorem getEnvironmentRefDto_nodup {dto : AlertRuleDTO} {refs : List EnvironmentRef}
    (found : tables.getEnvironmentRefDto dto = some refs) : (refs.map (·.environmentId)).Nodup := by
  simp only [Tables.getEnvironmentRefDto, Option.ite_none_left_eq_some] at found
  obtain ⟨-, found⟩ := found
  obtain rfl := Option.some.inj found
  split
  · exact (tables.topicOnce dto.rule.name).sublist (List.filter_sublist.map _)
  · exact (tables.consumerOnce dto.rule.name).sublist (List.filter_sublist.map _)

@[simp] theorem alertRule_id (dto : AlertRuleDTO) (sql : String) : (alertRule dto sql).id = dto.rule.id := by
  unfold alertRule
  dsimp only
  split <;> rfl

@[simp] theorem alertRule_effect (dto : AlertRuleDTO) (sql : String) :
    (alertRule dto sql).effect = dto.rule.effect := by
  unfold alertRule
  dsimp only
  split <;> rfl

@[simp] theorem getRuleKey_alertRule (dto : AlertRuleDTO) (sql : String) :
    (alertRule dto sql).getRuleKey = dto.rule.getRuleKey := by
  unfold alertRule
  dsimp only
  split <;> rfl

theorem mem_selectEffect_insert {envs : List EnvId} {next : Nat} (fresh : ∀ row ∈ rules.rows, row.id ≠ rule.id)
    (refFresh : ∀ ref ∈ rules.refs, ref.1 ≠ rule.id) :
    row ∈ selectEffectAlertRulesByEnvId (Rules.insertAlertRuleEnvironmentRef
      { rules with rows := rules.rows ++ [rule], nextId := next } rule.id envs) env ↔
      row ∈ selectEffectAlertRulesByEnvId rules env ∨ row = rule ∧ rule.effect = true ∧ env ∈ envs := by
  rw [mem_selectEffect, mem_selectEffect]
  simp only [Rules.insertAlertRuleEnvironmentRef, List.mem_append, List.mem_singleton, List.mem_map, Prod.mk.injEq]
  constructor
  · rintro ⟨old | rfl, effective, listed | ⟨other, member, same, rfl⟩⟩
    · exact .inl ⟨old, effective, listed⟩
    · exact absurd same.symm (fresh row old)
    · exact absurd rfl (refFresh _ listed)
    · exact .inr ⟨rfl, effective, member⟩
  · rintro (⟨old, effective, listed⟩ | ⟨rfl, effective, member⟩)
    · exact ⟨.inl old, effective, .inl listed⟩
    · exact ⟨.inr rfl, effective, .inr ⟨env, member, rfl, rfl⟩⟩

theorem mem_selectEffect_update {envs : List EnvId} (found : ∃ row ∈ rules.rows, row.id = rule.id) :
    row ∈ selectEffectAlertRulesByEnvId ((Rules.deleteAlertRuleId
      { rules with rows := rules.rows.map fun row => if row.id = rule.id then rule else row }
      rule.id).insertAlertRuleEnvironmentRef rule.id envs) env ↔
      (row ∈ selectEffectAlertRulesByEnvId rules env ∧ row.id ≠ rule.id) ∨
        row = rule ∧ rule.effect = true ∧ env ∈ envs := by
  rw [mem_selectEffect, mem_selectEffect]
  simp only [Rules.insertAlertRuleEnvironmentRef, Rules.deleteAlertRuleId, List.mem_append, List.mem_map,
    List.mem_filter, decide_eq_true_eq, Prod.mk.injEq]
  constructor
  · rintro ⟨⟨old, member, rfl⟩, effective, listed⟩
    by_cases own : old.id = rule.id
    · rw [if_pos own] at effective listed ⊢
      obtain ⟨-, away⟩ | ⟨other, member, -, rfl⟩ := listed
      · exact absurd rfl away
      · exact .inr ⟨rfl, effective, member⟩
    · rw [if_neg own] at effective listed ⊢
      obtain ⟨listed, -⟩ | ⟨-, -, same, -⟩ := listed
      · exact .inl ⟨⟨member, effective, listed⟩, own⟩
      · exact absurd same.symm own
  · rintro (⟨⟨member, effective, listed⟩, away⟩ | ⟨rfl, effective, member⟩)
    · exact ⟨⟨row, member, if_neg away⟩, effective, .inl ⟨listed, away⟩⟩
    · obtain ⟨old, before, own⟩ := found
      exact ⟨⟨old, before, if_pos own⟩, effective, .inr ⟨env, member, rfl, rfl⟩⟩

theorem mem_selectEffect_delete :
    row ∈ selectEffectAlertRulesByEnvId (Rules.deleteAlertRuleId
      { rules with rows := rules.rows.filter fun row => row.id ≠ id } id) env ↔
      row ∈ selectEffectAlertRulesByEnvId rules env ∧ row.id ≠ id := by
  rw [mem_selectEffect, mem_selectEffect]
  simp only [Rules.deleteAlertRuleId, List.mem_filter, decide_eq_true_eq]
  constructor
  · rintro ⟨⟨member, away⟩, effective, listed, -⟩
    exact ⟨⟨member, effective, listed⟩, away⟩
  · rintro ⟨⟨member, effective, listed⟩, away⟩
    exact ⟨⟨member, away⟩, effective, listed, away⟩

end Rows

/-- No rule of another name hides behind the key of the new one, which is in effect. -/
def InsertAgrees (tables : Tables) (rules : Rules) (dto : AlertRuleDTO) : Prop :=
  queryAlertRules tables rules.rows dto.rule.name dto.rule.field dto.rule.type = [] →
    ∀ refs ∈ tables.getEnvironmentRefDto dto,
      (generateSql tables dto.rule (refs.head?.bind (·.serviceId))).isSome →
        dto.rule.effect = true ∧ ∀ ref ∈ refs, ∀ row ∈ selectEffectAlertRulesByEnvId rules ref.environmentId,
          row.getRuleKey ≠ dto.rule.getRuleKey

/-- In its environments an effective rule takes no other rule's key and an
ineffective one keeps its own; from the others nothing is to be removed. -/
def UpdateAgrees (tables : Tables) (rules : Rules) (dto : AlertRuleDTO) (user : LdapUser) : Prop :=
  mayModify rules dto user = true → (selectByPrimaryKey rules.rows dto.rule.id).isSome →
    ∀ refs ∈ tables.getEnvironmentRefDto dto,
      (generateSql tables dto.rule (refs.head?.bind (·.serviceId))).isSome →
        (∀ ref ∈ refs, ∀ row ∈ selectEffectAlertRulesByEnvId rules ref.environmentId,
          if dto.rule.effect then row.id ≠ dto.rule.id → row.getRuleKey ≠ dto.rule.getRuleKey
          else row.getRuleKey = dto.rule.getRuleKey ↔ row.id = dto.rule.id) ∧
        ∀ env ∈ rules.envs dto.rule.id, env ∉ refs.map (·.environmentId) →
          ∀ row ∈ selectEffectAlertRulesByEnvId rules env, row.id ≠ dto.rule.id

/-- The key of the request is the key of the row, and of no other effective row. -/
def DeleteAgrees (rules : Rules) (rule : AlertRuleConfig) : Prop :=
  ∀ deleted ∈ deletedRule rules rule, (selectByPrimaryKey rules.rows deleted.id).isSome →
    ∀ env ∈ rules.envs deleted.id, ∀ row ∈ selectEffectAlertRulesByEnvId rules env,
      row.getRuleKey = deleted.getRuleKey ↔ row.id = deleted.id

def CallAgrees (tables : Tables) (s : State) : Action → Prop
  | .insert dto => InsertAgrees tables s.rules dto
  | .update dto user => UpdateAgrees tables s.rules dto user
  | .delete rule => DeleteAgrees s.rules rule
  | .deliver _ => True

section Calls
variable {tables : Tables} {s : State} {rules : Rules}

theorem insert_cases (tables : Tables) (rules : Rules) (dto : AlertRuleDTO) :
    (insert tables rules dto = none ∧ InsertAgrees tables rules dto) ∨ ∃ refs rule,
      queryAlertRules tables rules.rows dto.rule.name dto.rule.field dto.rule.type = [] ∧
      tables.getEnvironmentRefDto dto = some refs ∧
      (generateSql tables dto.rule (refs.head?.bind (·.serviceId))).isSome ∧
      rule.id = rules.nextId ∧ rule.effect = dto.rule.effect ∧ rule.getRuleKey = dto.rule.getRuleKey ∧
      insert tables rules dto = some ⟨Rules.insertAlertRuleEnvironmentRef
        { rules with rows := rules.rows ++ [rule], nextId := rules.nextId + 1 } rule.id
          (refs.map (·.environmentId)), refs.map (·.environmentId), rule⟩ := by
  unfold insert InsertAgrees
  split
  · next alone =>
    cases found : tables.getEnvironmentRefDto dto with
    | none =>
      left
      refine ⟨rfl, fun _ refs member => ?_⟩
      cases member
    | some refs =>
      cases generated : generateSql tables dto.rule (refs.head?.bind (·.serviceId)) with
      | none =>
        left
        simp only [Option.bind_eq_bind, Option.bind_some, generated, Option.bind_none, true_and]
        intro _ refs' same present
        obtain rfl := Option.some.inj same
        rw [generated] at present
        cases present
      | some sql =>
        right
        refine ⟨refs, { alertRule dto sql with id := rules.nextId }, alone, rfl, ?_, rfl, alertRule_effect dto sql,
          getRuleKey_alertRule dto sql, ?_⟩
        · rw [generated]
          rfl
        · simp only [Option.bind_eq_bind, Option.bind_some, generated]
          rfl
  · next repeated =>
    left
    exact ⟨rfl, fun alone => absurd alone repeated⟩

theorem update_cases (tables : Tables) (rules : Rules) (dto : AlertRuleDTO) (user : LdapUser) :
    (update tables rules dto user = none ∧ UpdateAgrees tables rules dto user) ∨ ∃ refs rule,
      mayModify rules dto user = true ∧ (selectByPrimaryKey rules.rows dto.rule.id).isSome ∧
      tables.getEnvironmentRefDto dto = some refs ∧
      (generateSql tables dto.rule (refs.head?.bind (·.serviceId))).isSome ∧
      rule.id = dto.rule.id ∧ rule.effect = dto.rule.effect ∧ rule.getRuleKey = dto.rule.getRuleKey ∧
      update tables rules dto user = some ⟨(Rules.deleteAlertRuleId
        { rules with rows := rules.rows.map fun row => if row.id = rule.id then rule else row }
        rule.id).insertAlertRuleEnvironmentRef rule.id (refs.map (·.environmentId)),
          refs.map (·.environmentId), rule⟩ := by
  unfold update UpdateAgrees
  split
  · next allowed =>
    cases found : tables.getEnvironmentRefDto dto with
    | none =>
      left
      refine ⟨rfl, fun _ _ refs member => ?_⟩
      cases member
    | some refs =>
      cases generated : generateSql tables dto.rule (refs.head?.bind (·.serviceId)) with
      | none =>
        left
        simp only [Option.bind_eq_bind, Option.bind_some, generated, Option.bind_none, true_and]
        intro _ _ refs' same present
        obtain rfl := Option.some.inj same
        rw [generated] at present
        cases present
      | some sql =>
        simp only [Option.bind_eq_bind, Option.bind_some, generated, alertRule_id]
        by_cases present : (selectByPrimaryKey rules.rows dto.rule.id).isSome
        · right
          refine ⟨refs, alertRule dto sql, allowed, present, rfl, ?_, alertRule_id dto sql,
            alertRule_effect dto sql, getRuleKey_alertRule dto sql, ?_⟩
          · rw [generated]
            rfl
          · rw [if_pos present, alertRule_id]
            rfl
        · left
          exact ⟨if_neg present, fun _ present' => absurd present' present⟩
  · next forbidden =>
    left
    exact ⟨rfl, fun allowed => absurd allowed forbidden⟩

theorem delete_cases (rules : Rules) (rule : AlertRuleConfig) :
    (delete rules rule = none ∧ DeleteAgrees rules rule) ∨ ∃ deleted, deletedRule rules rule = some deleted ∧
      delete rules rule = some ⟨Rules.deleteAlertRuleId
        { rules with rows := rules.rows.filter fun row => row.id ≠ deleted.id } deleted.id,
        if (selectByPrimaryKey rules.rows deleted.id).isSome then rules.envs deleted.id else [], deleted⟩ := by
  unfold delete DeleteAgrees
  cases found : deletedRule rules rule with
  | none =>
    left
    refine ⟨rfl, fun deleted member => ?_⟩
    cases member
  | some deleted =>
    right
    exact ⟨deleted, rfl, rfl⟩

theorem Tidy.inserted (tidy : Tidy rules) {rule : AlertRuleConfig} (numbered : rule.id = rules.nextId)
    {envs : List EnvId} (once : envs.Nodup) : Tidy (Rules.insertAlertRuleEnvironmentRef
      { rules with rows := rules.rows ++ [rule], nextId := rules.nextId + 1 } rule.id envs) where
  once := by
    simp only [Rules.insertAlertRuleEnvironmentRef, List.map_append, List.map_cons, List.map_nil]
    apply tidy.once.append (List.nodup_singleton _)
    intro id member same
    obtain ⟨row, listed, rfl⟩ := List.mem_map.mp member
    have older := tidy.row row listed
    have newer := List.mem_singleton.mp same
    omega
  row := by
    intro row member
    obtain old | new := List.mem_append.mp member
    · exact Nat.lt_succ_of_lt (tidy.row row old)
    · obtain rfl := List.mem_singleton.mp new
      exact Nat.lt_succ_of_le numbered.le
  ref := by
    intro ref member
    obtain old | new := List.mem_append.mp member
    · exact Nat.lt_succ_of_lt (tidy.ref ref old)
    · obtain ⟨env, -, rfl⟩ := List.mem_map.mp new
      exact Nat.lt_succ_of_le numbered.le
  refOnce := by
    apply tidy.refOnce.append
    · exact once.map_on fun env _ other _ same => (Prod.mk.inj same).2
    · intro ref old new
      obtain ⟨env, -, rfl⟩ := List.mem_map.mp new
      have older := tidy.ref _ old
      dsimp only at older
      omega

theorem Tidy.updated (tidy : Tidy rules) {rule : AlertRuleConfig} (found : ∃ row ∈ rules.rows, row.id = rule.id)
    {envs : List EnvId} (once : envs.Nodup) : Tidy ((Rules.deleteAlertRuleId
      { rules with rows := rules.rows.map fun row => if row.id = rule.id then rule else row }
      rule.id).insertAlertRuleEnvironmentRef rule.id envs) := by
  have kept (row : AlertRuleConfig) : (if row.id = rule.id then rule else row).id = row.id := by
    split
    · next same => exact same.symm
    · rfl
  obtain ⟨before, listed, own⟩ := found
  have bound : rule.id < rules.nextId := own ▸ tidy.row before listed
  constructor
  · simp only [Rules.insertAlertRuleEnvironmentRef, Rules.deleteAlertRuleId, List.map_map, Function.comp_def, kept]
    exact tidy.once
  · intro row member
    obtain ⟨old, listed, rfl⟩ := List.mem_map.mp member
    rw [kept]
    exact tidy.row old listed
  · intro ref member
    obtain old | new := List.mem_append.mp member
    · exact tidy.ref ref (List.mem_of_mem_filter old)
    · obtain ⟨env, -, rfl⟩ := List.mem_map.mp new
      exact bound
  · apply (tidy.refOnce.filter _).append
    · exact once.map_on fun env _ other _ same => (Prod.mk.inj same).2
    · intro ref old new
      obtain ⟨env, -, rfl⟩ := List.mem_map.mp new
      exact absurd rfl (of_decide_eq_true (List.mem_filter.mp old).2)

theorem Tidy.deleted (tidy : Tidy rules) (id : Nat) : Tidy (Rules.deleteAlertRuleId
    { rules with rows := rules.rows.filter fun row => row.id ≠ id } id) where
  once := tidy.once.sublist (List.filter_sublist.map _)
  row row member := tidy.row row (List.mem_of_mem_filter member)
  ref ref member := tidy.ref ref (List.mem_of_mem_filter member)
  refOnce := tidy.refOnce.filter _

@[simp] theorem rules_call_some {tag : Tag} (sending : Sending) :
    (s.call tables tag (some sending)).rules = sending.rules := rules_sendAlertRule

theorem tidy_effect (tidy : Tidy s.rules) (a : Action) : Tidy (effect tables s a).rules := by
  cases a with
  | insert dto =>
    obtain ⟨refused, -⟩ | ⟨refs, rule, -, found, -, numbered, -, -, sent⟩ := insert_cases tables s.rules dto
    · rw [effect, refused]
      exact tidy
    · rw [effect, sent, rules_call_some]
      exact tidy.inserted numbered (getEnvironmentRefDto_nodup found)
  | update dto user =>
    obtain ⟨refused, -⟩ | ⟨refs, rule, -, present, found, -, own, -, -, sent⟩ :=
      update_cases tables s.rules dto user
    · rw [effect, refused]
      exact tidy
    · rw [effect, sent, rules_call_some]
      rw [← own] at present
      exact tidy.updated (selectByPrimaryKey_isSome.mp present) (getEnvironmentRefDto_nodup found)
  | delete rule =>
    obtain ⟨refused, -⟩ | ⟨deleted, -, sent⟩ := delete_cases s.rules rule
    · rw [effect, refused]
      exact tidy
    · rw [effect, sent, rules_call_some]
      exact tidy.deleted deleted.id
  | deliver env =>
    unfold effect
    dsimp only
    split
    · exact tidy
    · exact tidy

theorem exists_environment {dto : AlertRuleDTO} {refs : List EnvironmentRef}
    (found : tables.getEnvironmentRefDto dto = some refs) : ∃ ref, ref ∈ refs := by
  simp only [Tables.getEnvironmentRefDto, Option.ite_none_left_eq_some] at found
  obtain ⟨present, found⟩ := found
  obtain rfl := Option.some.inj found
  apply List.exists_mem_of_ne_nil
  intro absent
  exact present (List.isEmpty_iff.mpr absent)

end Calls

end Zms.Portal.AlertService
