import Zms.Portal.ResourceConsumers
import Zms.Portal.ResourceFrames
import Zms.Portal.ResourceSteps

/-! A copy of consumers into environments, with the messages it answers: what is
there afterwards for each of the consumers in each of the environments.
-/

set_option autoImplicit false

namespace Zms.Portal.Resources

open Zms.Registry Zms.Transition Zms.Transition.Throwing

/-- A consumer that is copied, with the cluster of its first reference. -/
structure CopiedConsumer extends toConsumerInEnvs : ConsumerInEnvs where
  clusterName : Option String
  deriving DecidableEq, Repr

def Database.selectCopiedConsumers (db : Database) (consumerIds : Option (List Int)) : Option (List CopiedConsumer) :=
  (db.selectConsumerInEnvIds consumerIds).map fun consumers => consumers.map fun consumer =>
    { consumer with
      clusterName := (db.listByConsumerId consumer.id).head?.bind fun ref =>
        (db.cluster ref.serviceId).map (·.serverName) }

/-- What becomes of a consumer in an environment. -/
inductive CopyOutcome where
  | topicMissing
  | clusterMissing
  | failed
  | registered
  deriving DecidableEq, Repr

structure ConsumerCopyMsgVO where
  envName : String
  errorMsg : String
  deriving DecidableEq, Repr

structure CopyResult where
  envId : EnvId
  consumer : CopiedConsumer
  outcome : CopyOutcome
  deriving DecidableEq, Repr

/-- `null` is written out. -/
def CopyResult.errorMsg (result : CopyResult) : Option String :=
  match result.outcome with
  | .topicMissing => some (valueOf result.consumer.topicName ++ "主题不存在")
  | .clusterMissing => some (valueOf result.consumer.clusterName ++ " 集群不存在")
  | .failed => some "注册消费组失败"
  | .registered => none

/-- Two environments have different names. -/
def CopyResult.message (environmentName : EnvId ↪ String) (result : CopyResult) : Option ConsumerCopyMsgVO :=
  result.errorMsg.map fun errorMsg => ⟨environmentName result.envId, errorMsg⟩

section Model
variable (fold : Char → Char)

/-- The references of the consumer's topic. -/
def topicEnvsOf (topicEnvironmentRefs : List JoinedRef) (consumer : CopiedConsumer) : List JoinedRef :=
  topicEnvironmentRefs.filter fun ref => ref.resourceId = consumer.topicId

def copyOne (environments : List EnvId) (topicEnvironmentRefs : List JoinedRef) (item : EnvId × CopiedConsumer) :
    Call CopyOutcome := do
  ensure (item.2.status = UPDATE_APPROVED ∨ item.2.status = CREATE_APPROVED)
  let topicEnvs := topicEnvsOf topicEnvironmentRefs item.2
  ensure (topicEnvs ≠ [])
  if item.1 ∉ topicEnvs.map (·.environmentId) then do
    ensure (item.1 ∈ environments)
    return .topicMissing
  else
    match topicCluster topicEnvs item.1 with
    | none => do
        ensure (item.1 ∈ environments)
        return .clusterMissing
    | some ref => do
        let registered ← attempt do
          registerConsumerToZk fold item.1 ref.clusterType (some (item.2.registration ref.clusterName))
          registerConsumerToServer
        if registered = some () then return .registered
        else do
          ensure (item.1 ∈ environments)
          return .failed

def copyEach (environments : List EnvId) (topicEnvironmentRefs : List JoinedRef) :
    List (EnvId × CopiedConsumer) → Call (List CopyResult)
  | [] => return []
  | item :: rest => do
      let outcome ← copyOne fold environments topicEnvironmentRefs item
      let results ← copyEach environments topicEnvironmentRefs rest
      return ⟨item.1, item.2, outcome⟩ :: results

/-- The references that are inserted after the loop. -/
def copiedRefs (topicEnvironmentRefs : List JoinedRef) (items : List (EnvId × CopiedConsumer)) : List EnvironmentRef :=
  items.flatMap fun item => copiedRef (topicEnvsOf topicEnvironmentRefs item.2) item.1 item.2.toConsumerInEnvs

def copyResults (envIds : List EnvId) (consumerIds : Option (List Int)) : Call (List CopyResult) := do
  let environments ← query fun db => db.environments.filter fun env => envIds.contains env
  let selected ← query fun db => db.selectCopiedConsumers consumerIds
  let consumers ← ofOption selected
  ensure (consumers ≠ [])
  let topicEnvironmentRefs ← query fun db => db.listByTopicId (consumers.map fun consumer => consumer.topicId)
  let items := envIds.flatMap fun envId => consumers.map fun consumer => (envId, consumer)
  let results ← copyEach fold environments topicEnvironmentRefs items
  execute fun db => db.insertRefs .CONSUMER_GRUOP (copiedRefs topicEnvironmentRefs items)
  return results

/-- `ConsumerMapperService.copyConsumers` with its answer. -/
def copyConsumersReporting (environmentName : EnvId ↪ String) (envIds : List EnvId) (consumerIds : Option (List Int)) :
    Call (List ConsumerCopyMsgVO) := do
  let results ← copyResults fold envIds consumerIds
  return results.filterMap (CopyResult.message environmentName)

end Model

/-! ### Without the messages -/

section Silent
variable (fold : Char → Char) (environments : List EnvId) (topicEnvironmentRefs : List JoinedRef)

/-- The program without its answer. -/
def silently {α : Type} (body : Call α) : Call Unit := do
  let _ ← body
  return ()

theorem silently_bind {α β : Type} (body : Call α) (next : α → Call β) :
    silently (body >>= next) = body >>= fun a => silently (next a) := bind_assoc ..

theorem silently_answer {α : Type} (body : Call Unit) (a : α) : silently (body >>= fun _ => pure a) = body := by
  funext s
  unfold silently
  rw [bind_assoc]
  cases result : body s with
  | mk answer t =>
    cases answer with
    | none => exact bind_of_throws result
    | some _ => exact bind_of_returns result

theorem ensure_congr {first second : Prop} [Decidable first] [Decidable second] (same : first ↔ second) :
    (ensure first : Call Unit) = ensure second := by
  funext s
  unfold ensure
  simp only [same]

theorem topicCluster_of_not_mem {topicEnvs : List JoinedRef} {envId : EnvId}
    (missing : envId ∉ topicEnvs.map (·.environmentId)) : topicCluster topicEnvs envId = none := by
  apply List.find?_eq_none.mpr
  intro ref member same
  have here := of_decide_eq_true (Bool.and_eq_true_iff.mp same).1
  exact missing (List.mem_map.mpr ⟨ref, member, here⟩)

theorem copyNext_eq (item : EnvId × CopiedConsumer) :
    copyNext fold environments topicEnvironmentRefs (item.1, item.2.toConsumerInEnvs) =
      silently (copyOne fold environments topicEnvironmentRefs item) := by
  unfold copyNext copyOne
  simp only [silently_bind]
  refine congrArg _ (funext fun _ => congrArg _ (funext fun _ => ?_))
  change (match topicCluster (topicEnvsOf topicEnvironmentRefs item.2) item.1 with | none => _ | some ref => _) = _
  by_cases missing : item.1 ∉ (topicEnvsOf topicEnvironmentRefs item.2).map (·.environmentId)
  · rw [topicCluster_of_not_mem missing, if_pos missing, silently_answer]
  · rw [if_neg missing]
    cases topicCluster (topicEnvsOf topicEnvironmentRefs item.2) item.1 with
    | none => exact (silently_answer _ _).symm
    | some ref =>
      dsimp only
      rw [silently_bind]
      refine congrArg _ (funext fun registered => ?_)
      by_cases succeeded : registered = some ()
      · rw [if_pos succeeded]
        funext s
        exact congrArg (·, s) (if_pos (.inl succeeded))
      · rw [if_neg succeeded, silently_answer]
        exact ensure_congr (or_iff_right succeeded)

theorem forEach_copyNext (items : List (EnvId × CopiedConsumer)) :
    forEach (copyNext fold environments topicEnvironmentRefs)
        (items.map fun item => (item.1, item.2.toConsumerInEnvs)) =
      silently (copyEach fold environments topicEnvironmentRefs items) := by
  induction items with
  | nil => rfl
  | cons item rest ih =>
    have unfolded : copyEach fold environments topicEnvironmentRefs (item :: rest) =
        copyOne fold environments topicEnvironmentRefs item >>= fun outcome =>
          copyEach fold environments topicEnvironmentRefs rest >>= fun results =>
            pure (⟨item.1, item.2, outcome⟩ :: results) := rfl
    rw [List.map_cons, forEach_cons, copyNext_eq, ih, unfolded]
    simp only [silently, bind_assoc]
    rfl

theorem query_map_bind {α β γ : Type} (select : Database → α) (change : α → β) (next : β → Call γ) :
    (query (fun db => change (select db)) >>= next) = query select >>= fun a => next (change a) := by
  unfold query
  simp only [bind_assoc]
  rfl

/-- Without its answer it is the call among the others of the portal. -/
theorem copyConsumers_eq (environmentName : EnvId ↪ String) (envIds : List EnvId) (consumerIds : Option (List Int)) :
    copyConsumers fold envIds consumerIds =
      silently (copyConsumersReporting fold environmentName envIds consumerIds) := by
  have quiet : silently (copyConsumersReporting fold environmentName envIds consumerIds) =
      silently (copyResults fold envIds consumerIds) := by
    unfold copyConsumersReporting silently
    rw [bind_assoc]
    rfl
  rw [quiet]
  unfold copyConsumers copyResults
  simp only [silently_bind]
  refine congrArg _ (funext fun environments => ?_)
  have selected : (query fun db => db.selectConsumerInEnvIds consumerIds) = query fun db =>
      (db.selectCopiedConsumers consumerIds).map fun consumers => consumers.map CopiedConsumer.toConsumerInEnvs := by
    congr 1
    funext db
    unfold Database.selectCopiedConsumers
    cases db.selectConsumerInEnvIds consumerIds with
    | none => rfl
    | some consumers =>
      simp only [Option.map_some, List.map_map]
      exact congrArg some (List.map_id consumers).symm
  rw [selected, query_map_bind]
  refine congrArg _ (funext fun found => ?_)
  cases found with
  | none => rfl
  | some consumers =>
    have items : (envIds.flatMap fun envId =>
        (consumers.map CopiedConsumer.toConsumerInEnvs).map fun consumer => (envId, consumer)) =
        (envIds.flatMap fun envId => consumers.map fun consumer => (envId, consumer)).map
          fun item : EnvId × CopiedConsumer => (item.1, item.2.toConsumerInEnvs) := by
      rw [List.map_flatMap]
      simp only [List.map_map]
      rfl
    have topics : ((consumers.map CopiedConsumer.toConsumerInEnvs).map fun consumer => consumer.topicId) =
        consumers.map fun consumer => consumer.topicId := List.map_map
    have nonempty : consumers.map CopiedConsumer.toConsumerInEnvs ≠ [] ↔ consumers ≠ [] :=
      not_congr List.map_eq_nil_iff
    change (ensure (consumers.map CopiedConsumer.toConsumerInEnvs ≠ []) >>= fun _ => _) =
      (ensure (consumers ≠ []) >>= fun _ => _)
    rw [ensure_congr nonempty, topics, items]
    refine congrArg _ (funext fun _ => congrArg _ (funext fun topicEnvironmentRefs => ?_))
    rw [forEach_copyNext, silently, bind_assoc]
    refine congrArg _ (funext fun results => ?_)
    rw [← silently_bind, silently_answer, copiedRefs, List.flatMap_map]
    rfl

end Silent

/-! ### What the loop leaves -/

section Loop
variable (fold : Char → Char) (topicEnvironmentRefs : List JoinedRef)

/-- What the registration of a consumer in an environment writes, if it writes its node. -/
def copyData (item : EnvId × CopiedConsumer) : Option Properties := do
  let ref ← topicCluster (topicEnvsOf topicEnvironmentRefs item.2) item.1
  let brokerType ← ConsumerMapperService.brokerType fold ref.clusterType
  buildConsumerGroupData (ConsumerMapperService.toMetadata (item.2.registration ref.clusterName) brokerType)

/-- The node of the consumer has been written, as `data` says. -/
def Writes (p q : State) (item : EnvId × CopiedConsumer) (data : Properties) : Prop :=
  q.nodes = p.nodes.put item.1 .CONSUMER_GRUOP item.2.name (some data)

structure CopiesOne (p q : State) (item : EnvId × CopiedConsumer) (outcome : CopyOutcome) : Prop where
  db : q.db = p.db
  refused : topicCluster (topicEnvsOf topicEnvironmentRefs item.2) item.1 = none ↔
    outcome = .topicMissing ∨ outcome = .clusterMissing
  nodes : q.nodes = p.nodes ∨ ∃ data, copyData fold topicEnvironmentRefs item = some data ∧ Writes p q item data
  registered : outcome = .registered → ∀ data, copyData fold topicEnvironmentRefs item = some data →
    Writes p q item data

variable {fold topicEnvironmentRefs} {item : EnvId × CopiedConsumer}

theorem ends_registration {ref : JoinedRef}
    (found : topicCluster (topicEnvsOf topicEnvironmentRefs item.2) item.1 = some ref) (p : State) :
    Ends (do
      registerConsumerToZk fold item.1 ref.clusterType (some (item.2.registration ref.clusterName))
      registerConsumerToServer) p fun answer q => q.db = p.db ∧
        (q.nodes = p.nodes ∨ ∃ data, copyData fold topicEnvironmentRefs item = some data ∧ Writes p q item data) ∧
        (answer = some () → ∀ data, copyData fold topicEnvironmentRefs item = some data → Writes p q item data) := by
  have data_eq : copyData fold topicEnvironmentRefs item = (ConsumerMapperService.brokerType fold ref.clusterType).bind
      fun brokerType => buildConsumerGroupData
        (ConsumerMapperService.toMetadata (item.2.registration ref.clusterName) brokerType) := by
    unfold copyData
    rw [found]
    rfl
  rw [data_eq]
  unfold registerConsumerToZk
  cases ConsumerMapperService.brokerType fold ref.clusterType with
  | none =>
    refine ⟨rfl, .inl rfl, ?_⟩
    intro _ data written
    cases written
  | some brokerType =>
    let metadata := ConsumerMapperService.toMetadata (item.2.registration ref.clusterName) brokerType
    obtain ⟨data, built⟩ : ∃ data, buildConsumerGroupData metadata = some data := ⟨_, rfl⟩
    change Ends (writerConsumerInfo item.1 metadata >>= fun _ => registerConsumerToServer) p _
    rw [writerConsumerInfo, built]
    change Ends (writeInfo item.1 .CONSUMER_GRUOP item.2.name (some data) >>= fun _ => registerConsumerToServer) p _
    simp only [Option.bind_some]
    cases answered : p.answers 0 with
    | false =>
      constructor
      rw [bind_of_throws (writeInfo_of_refused answered)]
      refine ⟨rfl, .inl rfl, ?_⟩
      intro impossible
      cases impossible
    | true =>
      constructor
      rw [bind_of_returns (writeInfo_of_answered answered)]
      refine ⟨rfl, .inr ⟨data, built, rfl⟩, ?_⟩
      intro _ data' built'
      cases built.symm.trans built'
      rfl

theorem ends_copyOne (environments : List EnvId) (item : EnvId × CopiedConsumer) (p : State) :
    Ends (copyOne fold environments topicEnvironmentRefs item) p fun answer q =>
      ∀ outcome, answer = some outcome → CopiesOne fold topicEnvironmentRefs p q item outcome := by
  have nothing {q : State} : ∀ outcome, (none : Option CopyOutcome) = some outcome →
      CopiesOne fold topicEnvironmentRefs p q item outcome := by
    intro outcome impossible
    cases impossible
  have refusal {outcome : CopyOutcome} (refused : outcome = .topicMissing ∨ outcome = .clusterMissing)
      (missing : topicCluster (topicEnvsOf topicEnvironmentRefs item.2) item.1 = none) :
      Ends (do ensure (item.1 ∈ environments); return outcome : Call CopyOutcome) p fun answer q =>
        ∀ outcome, answer = some outcome → CopiesOne fold topicEnvironmentRefs p q item outcome := by
    apply ends_ensure_bind
    · intro _
      exact nothing
    · intro _
      apply ends_pure
      intro outcome' same
      cases same
      refine ⟨rfl, iff_of_true missing refused, .inl rfl, ?_⟩
      intro registered
      rw [registered] at refused
      rcases refused with impossible | impossible <;> cases impossible
  unfold copyOne
  apply ends_ensure_bind
  · intro _
    exact nothing
  intro _
  apply ends_ensure_bind
  · intro _
    exact nothing
  intro _
  split
  · next missing => exact refusal (.inl rfl) (topicCluster_of_not_mem missing)
  split
  · next missing => exact refusal (.inr rfl) missing
  · next ref found =>
    have present : ¬topicCluster (topicEnvsOf topicEnvironmentRefs item.2) item.1 = none := by
      rw [found]
      intro impossible
      cases impossible
    apply Ends.bind (P := fun answer q => ∃ registered, answer = some registered ∧ q.db = p.db ∧
      (q.nodes = p.nodes ∨ ∃ data, copyData fold topicEnvironmentRefs item = some data ∧ Writes p q item data) ∧
      (registered = some () → ∀ data, copyData fold topicEnvironmentRefs item = some data → Writes p q item data))
    · exact ⟨⟨_, rfl, (ends_registration found p).holds⟩⟩
    · intro q impossible
      obtain ⟨_, impossible, -⟩ := impossible
      cases impossible
    · intro registered q done
      obtain ⟨_, same, db, nodes, written⟩ := done
      cases same
      split
      · next succeeded =>
        apply ends_pure
        intro outcome same
        cases same
        refine ⟨db, iff_of_false present ?_, nodes, fun _ => written succeeded⟩
        rintro (impossible | impossible) <;> cases impossible
      · apply ends_ensure_bind
        · intro _
          exact nothing
        · intro _
          apply ends_pure
          intro outcome same
          cases same
          refine ⟨db, iff_of_false present ?_, nodes, ?_⟩
          · rintro (impossible | impossible) <;> cases impossible
          · intro impossible
            cases impossible

variable (fold topicEnvironmentRefs) in
structure CopiesAll (p q : State) (items : List (EnvId × CopiedConsumer)) (results : List CopyResult) : Prop where
  db : q.db = p.db
  pairs : results.map (fun result => (result.envId, result.consumer)) = items
  refused : ∀ result ∈ results,
    topicCluster (topicEnvsOf topicEnvironmentRefs result.consumer) result.envId = none ↔
      result.outcome = .topicMissing ∨ result.outcome = .clusterMissing
  nodes : ∀ env name, q.nodes env .CONSUMER_GRUOP name = p.nodes env .CONSUMER_GRUOP name ∨
    ∃ item ∈ items, item.1 = env ∧ item.2.name = name ∧ ∃ data, copyData fold topicEnvironmentRefs item = some data ∧
      q.nodes env .CONSUMER_GRUOP name = some data
  registered : ∀ result ∈ results, result.outcome = .registered → ∀ data,
    copyData fold topicEnvironmentRefs (result.envId, result.consumer) = some data →
      q.nodes result.envId .CONSUMER_GRUOP result.consumer.name = some data

/-- No two consumers have the same name. -/
def OneForName (items : List (EnvId × CopiedConsumer)) : Prop :=
  ∀ item ∈ items, ∀ other ∈ items, item.1 = other.1 → item.2.name = other.2.name → item = other

theorem copiesAll_nil (p : State) : CopiesAll fold topicEnvironmentRefs p p [] [] where
  db := rfl
  pairs := rfl
  refused _ member := by cases member
  nodes _ _ := .inl rfl
  registered _ member := by cases member

theorem CopiesOne.place {p q : State} {outcome : CopyOutcome}
    (one : CopiesOne fold topicEnvironmentRefs p q item outcome) (env : EnvId) (name : String) :
    q.nodes env .CONSUMER_GRUOP name = p.nodes env .CONSUMER_GRUOP name ∨
      item.1 = env ∧ item.2.name = name ∧ ∃ data, copyData fold topicEnvironmentRefs item = some data ∧
        q.nodes env .CONSUMER_GRUOP name = some data := by
  obtain same | ⟨data, built, written⟩ := one.nodes
  · exact .inl (by rw [same])
  · rw [written]
    by_cases here : env = item.1 ∧ name = item.2.name
    · obtain ⟨rfl, rfl⟩ := here
      exact .inr ⟨rfl, rfl, data, built, put_self ..⟩
    · exact .inl (put_of_ne _ _ fun all => here ⟨all.1, all.2.2⟩)

theorem CopiesAll.cons {p mid q : State} {rest : List (EnvId × CopiedConsumer)} {outcome : CopyOutcome}
    {results : List CopyResult} (distinct : OneForName (item :: rest))
    (one : CopiesOne fold topicEnvironmentRefs p mid item outcome)
    (all : CopiesAll fold topicEnvironmentRefs mid q rest results) :
    CopiesAll fold topicEnvironmentRefs p q (item :: rest) (⟨item.1, item.2, outcome⟩ :: results) where
  db := all.db.trans one.db
  pairs := congrArg (item :: ·) all.pairs
  refused result member := by
    rcases List.mem_cons.mp member with rfl | member
    · exact one.refused
    · exact all.refused result member
  nodes env name := by
    obtain same | ⟨other, member, here⟩ := all.nodes env name
    · rw [same]
      obtain before | ⟨atEnv, atName, written⟩ := one.place env name
      · exact .inl before
      · exact .inr ⟨item, List.mem_cons_self, atEnv, atName, written⟩
    · exact .inr ⟨other, List.mem_cons_of_mem _ member, here⟩
  registered result member registered data built := by
    rcases List.mem_cons.mp member with rfl | member
    · obtain same | ⟨other, among, atEnv, atName, data', built', written⟩ := all.nodes item.1 item.2.name
      · rw [same, one.registered registered data built]
        exact put_self ..
      · have same : other = item :=
          distinct other (List.mem_cons_of_mem _ among) item List.mem_cons_self atEnv atName
        subst same
        cases built.symm.trans built'
        exact written
    · exact all.registered result member registered data built

theorem ends_copyEach (environments : List EnvId) {items : List (EnvId × CopiedConsumer)} (distinct : OneForName items)
    (p : State) : Ends (copyEach fold environments topicEnvironmentRefs items) p fun answer q =>
      ∀ results, answer = some results → CopiesAll fold topicEnvironmentRefs p q items results := by
  induction items generalizing p with
  | nil =>
    apply ends_pure
    intro results same
    cases same
    exact copiesAll_nil p
  | cons item rest ih =>
    have distinct' : OneForName rest := fun first member second member' =>
      distinct first (List.mem_cons_of_mem _ member) second (List.mem_cons_of_mem _ member')
    apply (ends_copyOne environments item p).bind
    · intro mid _ results impossible
      cases impossible
    · intro outcome mid copied
      apply (ih distinct' mid).bind
      · intro q _ results impossible
        cases impossible
      · intro results q all
        apply ends_pure
        intro results' same
        cases same
        exact .cons distinct (copied outcome rfl) (all results rfl)

end Loop

/-! ### What the call leaves -/

section Call
variable {fold : Char → Char} {envIds : List EnvId} {consumerIds : Option (List Int)} {s t : State}
  {results : List CopyResult}

/-- The rows that are asked for, as a copy has them. -/
def Database.copied (db : Database) (row : Consumer) : CopiedConsumer where
  toRow := row
  topicName := (db.topics.get row.topicId).map (·.name)
  envs := (db.listByConsumerId row.id).map (·.environmentId)
  clusterName := (db.listByConsumerId row.id).head?.bind fun ref => (db.cluster ref.serviceId).map (·.serverName)

theorem mem_selectCopiedConsumers {db : Database} {consumers : List CopiedConsumer}
    (selected : db.selectCopiedConsumers consumerIds = some consumers) (consumer : CopiedConsumer) :
    consumer ∈ consumers ↔ ∃ row ∈ db.consumers.rows, (∀ ids, consumerIds = some ids → row.id ∈ ids) ∧
      db.copied row = consumer := by
  unfold Database.selectCopiedConsumers Database.selectConsumerInEnvIds at selected
  split at selected
  · cases selected
  · cases selected
    have asked (row : Consumer) : (consumerIds.all fun ids => ids.contains row.id) = true ↔
        ∀ ids, consumerIds = some ids → row.id ∈ ids := by
      cases consumerIds <;> simp
    simp only [List.mem_map, List.mem_filter, asked]
    constructor
    · rintro ⟨_, ⟨row, ⟨member, named⟩, rfl⟩, rfl⟩
      exact ⟨row, member, named, rfl⟩
    · rintro ⟨row, member, named, rfl⟩
      exact ⟨_, ⟨row, ⟨member, named⟩, rfl⟩, rfl⟩

/-- What a call that returns has done. -/
structure Copied (fold : Char → Char) (envIds : List EnvId) (consumerIds : Option (List Int)) (s t : State)
    (results : List CopyResult) (consumers : List CopiedConsumer) : Prop where
  selected : s.db.selectCopiedConsumers consumerIds = some consumers
  loop : ∃ q : State, q.nodes = t.nodes ∧
    CopiesAll fold (s.db.listByTopicId (consumers.map fun consumer => consumer.topicId)) s q
      (envIds.flatMap fun envId => consumers.map fun consumer => (envId, consumer)) results
  inserted : s.db.insertRefs .CONSUMER_GRUOP
    (copiedRefs (s.db.listByTopicId (consumers.map fun consumer => consumer.topicId))
      (envIds.flatMap fun envId => consumers.map fun consumer => (envId, consumer))) = some t.db

theorem oneForName {consumers : List CopiedConsumer}
    (selected : s.db.selectCopiedConsumers consumerIds = some consumers) :
    OneForName (envIds.flatMap fun envId => consumers.map fun consumer => (envId, consumer)) := by
  intro item member other member' sameEnv sameName
  obtain ⟨env, -, inEnv⟩ := List.mem_flatMap.mp member
  obtain ⟨consumer, listed, rfl⟩ := List.mem_map.mp inEnv
  obtain ⟨env', -, inEnv'⟩ := List.mem_flatMap.mp member'
  obtain ⟨consumer', listed', rfl⟩ := List.mem_map.mp inEnv'
  obtain ⟨row, among, -, rfl⟩ := (mem_selectCopiedConsumers selected consumer).mp listed
  obtain ⟨row', among', -, rfl⟩ := (mem_selectCopiedConsumers selected consumer').mp listed'
  have same : row = row' := List.inj_on_of_nodup_map s.db.consumers.names among among' sameName
  rw [same, show env = env' from sameEnv]

theorem ends_copyResults (s : State) : Ends (copyResults fold envIds consumerIds) s fun answer t =>
    ∀ results, answer = some results → ∃ consumers, Copied fold envIds consumerIds s t results consumers := by
  have nothing {t : State} : ∀ results, (none : Option (List CopyResult)) = some results →
      ∃ consumers, Copied fold envIds consumerIds s t results consumers := by
    intro results impossible
    cases impossible
  apply ends_query_bind_frame
  · intro _
    exact nothing
  intro _
  apply ends_query_bind_frame
  · intro _
    exact nothing
  intro _
  apply ends_ofOption_bind
  · intro _
    exact nothing
  intro consumers selected
  apply ends_ensure_bind
  · intro _
    exact nothing
  intro _
  apply ends_query_bind_frame
  · intro _
    exact nothing
  intro answers
  apply (ends_copyEach _ (oneForName selected) _).bind
  · intro q _
    exact nothing
  intro results q copied
  have all := copied results rfl
  apply (ends_execute_returns _ q).bind
  · intro u _
    exact nothing
  · intro _ u executed
    apply ends_pure
    intro results' same
    cases same
    refine ⟨consumers, selected, ⟨q, executed.1.symm, all.db, all.pairs, all.refused, all.nodes, all.registered⟩, ?_⟩
    have inserted := executed.2 rfl
    rw [all.db] at inserted
    exact inserted

def Database.clusterOfTopic (db : Database) (topicId : Int) (env : EnvId) : Option ZmsService :=
  ((db.refs .TOPIC).get (topicId, env)).bind fun ref => db.cluster ref.serviceId

theorem joined_of_topicCluster {db : Database} {topicIds : List Int} {consumer : CopiedConsumer} {env : EnvId}
    {ref : JoinedRef} (found : topicCluster (topicEnvsOf (db.listByTopicId topicIds) consumer) env = some ref) :
    ∃ row, (db.refs .TOPIC).get (consumer.topicId, env) = some row ∧ db.join row = ref := by
  unfold topicCluster at found
  have passes := List.find?_some found
  have here := of_decide_eq_true (Bool.and_eq_true_iff.mp passes).1
  obtain ⟨listed, topic⟩ := List.mem_filter.mp (List.mem_of_find?_eq_some found)
  obtain ⟨row, member, rfl⟩ := List.mem_map.mp (List.mem_insertionSort _ |>.mp listed)
  refine ⟨row, Table.get_eq_some_iff.mpr ⟨List.mem_of_mem_filter member, ?_⟩, rfl⟩
  exact Prod.ext (of_decide_eq_true topic) here

variable (fold) in
theorem copyData_of_topicCluster {db : Database} {topicIds : List Int} {consumer : CopiedConsumer} {env : EnvId}
    {ref : JoinedRef} (found : topicCluster (topicEnvsOf (db.listByTopicId topicIds) consumer) env = some ref) :
    match db.clusterOfTopic consumer.topicId env with
    | none => copyData fold (db.listByTopicId topicIds) (env, consumer) = none
    | some cluster => (copyData fold (db.listByTopicId topicIds) (env, consumer)).map (·.clusterName) =
        (ConsumerMapperService.brokerType fold (some cluster.serverType)).map fun _ => cluster.serverName := by
  obtain ⟨row, got, rfl⟩ := joined_of_topicCluster found
  unfold copyData Database.clusterOfTopic
  rw [found, got]
  simp only [Option.bind_some, Database.join]
  cases db.cluster row.serviceId with
  | none => rfl
  | some cluster =>
    simp only [Option.map_some, Option.bind_eq_bind, Option.bind_some]
    cases ConsumerMapperService.brokerType fold (some cluster.serverType) <;> rfl

theorem mem_envs_iff {db : Database} {row : Consumer} {env : EnvId} :
    env ∈ (db.copied row).envs ↔ ((db.refs .CONSUMER_GRUOP).get (row.id, env)).isSome := by
  rw [Table.isSome_get_iff]
  simp only [Database.copied, Database.listByConsumerId, List.mem_map, List.mem_filter, decide_eq_true_eq]
  constructor
  · rintro ⟨ref, ⟨member, own⟩, rfl⟩
    exact ⟨ref, member, Prod.ext own rfl⟩
  · rintro ⟨ref, member, same⟩
    obtain ⟨own, here⟩ := Prod.mk.inj same
    exact ⟨ref, ⟨member, own⟩, here⟩

theorem get_insertRefs {db inserted : Database} {type : ZmsType} {rows : List EnvironmentRef}
    (done : db.insertRefs type rows = some inserted) (key : Int × EnvId) :
    (inserted.refs type).get key = ((db.refs type).get key).or (rows.find? fun ref => ref.key = key) := by
  obtain ⟨refs, extended, rfl⟩ := Option.map_eq_some_iff.mp done
  unfold Table.get
  simp only [Database.setRefs, Function.update_self, Table.rows_of_insertList extended, List.find?_append]

theorem Copied.row_of_mem {consumers : List CopiedConsumer}
    (copied : Copied fold envIds consumerIds s t results consumers) {result : CopyResult}
    (member : result ∈ results) : ∃ row ∈ s.db.consumers.rows,
      s.db.copied row = result.consumer ∧ (result.envId, result.consumer) ∈
        envIds.flatMap fun envId => consumers.map fun consumer => (envId, consumer) := by
  obtain ⟨q, -, all⟩ := copied.loop
  have among : (result.envId, result.consumer) ∈
      results.map fun result => (result.envId, result.consumer) := List.mem_map_of_mem member
  rw [all.pairs] at among
  obtain ⟨env, -, inEnv⟩ := List.mem_flatMap.mp among
  obtain ⟨consumer, listed, same⟩ := List.mem_map.mp inEnv
  obtain ⟨rfl, rfl⟩ := Prod.mk.inj same
  obtain ⟨row, isRow, -, asked⟩ := (mem_selectCopiedConsumers copied.selected _).mp listed
  exact ⟨row, isRow, asked, among⟩

theorem copiedRef_cases (topicEnvs : List JoinedRef) (env : EnvId) (consumer : ConsumerInEnvs) :
    (copiedRef topicEnvs env consumer = [] ∧ (topicCluster topicEnvs env = none ∨ env ∈ consumer.envs)) ∨
      ∃ ref, topicCluster topicEnvs env = some ref ∧ env ∉ consumer.envs ∧
        copiedRef topicEnvs env consumer = [.plain consumer.id env ref.serviceId] := by
  unfold copiedRef
  cases topicCluster topicEnvs env with
  | none => exact .inl ⟨rfl, .inl rfl⟩
  | some ref =>
    by_cases present : env ∈ consumer.envs
    · simp [present]
    · simp [present]

/-- The reference of a pair is the one before or the one that the copy adds. -/
theorem Copied.get_refs {consumers : List CopiedConsumer}
    (copied : Copied fold envIds consumerIds s t results consumers) {result : CopyResult} (member : result ∈ results) :
    (t.db.refs .CONSUMER_GRUOP).get (result.consumer.id, result.envId) =
      ((s.db.refs .CONSUMER_GRUOP).get (result.consumer.id, result.envId)).or
        (copiedRef (topicEnvsOf (s.db.listByTopicId (consumers.map fun consumer => consumer.topicId)) result.consumer)
          result.envId result.consumer.toConsumerInEnvs).head? := by
  obtain ⟨row, isRow, asked, among⟩ := copied.row_of_mem member
  rw [get_insertRefs copied.inserted]
  congr 1
  generalize s.db.listByTopicId (consumers.map fun consumer => consumer.topicId) = refs
  -- A reference with the key comes from this very pair.
  have own {ref : EnvironmentRef} (copies : ref ∈ copiedRefs refs
        (envIds.flatMap fun envId => consumers.map fun consumer => (envId, consumer)))
      (same : ref.key = (result.consumer.id, result.envId)) :
      copiedRef (topicEnvsOf refs result.consumer) result.envId result.consumer.toConsumerInEnvs = [ref] := by
    obtain ⟨item, listed, copies⟩ := List.mem_flatMap.mp copies
    obtain ⟨env, -, inEnv⟩ := List.mem_flatMap.mp listed
    obtain ⟨consumer, selected, rfl⟩ := List.mem_map.mp inEnv
    obtain ⟨row', isRow', -, asked'⟩ := (mem_selectCopiedConsumers copied.selected _).mp selected
    obtain ⟨empty, -⟩ | ⟨joined, -, -, single⟩ :=
      copiedRef_cases (topicEnvsOf refs consumer) env consumer.toConsumerInEnvs
    · rw [empty] at copies
      cases copies
    · rw [single] at copies
      obtain rfl := List.mem_singleton.mp copies
      obtain ⟨sameId, sameEnv⟩ := Prod.mk.inj same
      change env = result.envId at sameEnv
      have sameRow : row' = row := by
        refine List.inj_on_of_nodup_map s.db.consumers.keys isRow' isRow ?_
        rw [← asked, ← asked'] at sameId
        exact sameId
      rw [← asked, ← sameRow, asked', ← sameEnv]
      exact single
  cases found : (copiedRefs refs (envIds.flatMap fun envId => consumers.map fun consumer => (envId, consumer))).find?
      fun ref => ref.key = (result.consumer.id, result.envId) with
  | some ref =>
    have keyed := List.find?_some found
    rw [own (List.mem_of_find?_eq_some found) (of_decide_eq_true keyed)]
    rfl
  | none =>
    obtain ⟨empty, -⟩ | ⟨joined, -, -, single⟩ :=
      copiedRef_cases (topicEnvsOf refs result.consumer) result.envId result.consumer.toConsumerInEnvs
    · rw [empty]
      rfl
    · refine absurd (List.find?_eq_none.mp found (.plain result.consumer.id result.envId joined.serviceId) ?_) ?_
      · exact List.mem_flatMap.mpr ⟨_, among, single ▸ List.mem_singleton_self _⟩
      · exact not_not.mpr (decide_eq_true rfl)

/-- A message that names the environment and the consumer. -/
def ConsumerCopyMsgVO.Names (message : ConsumerCopyMsgVO) (envName name : String) : Prop :=
  message.envName = envName ∧ name.toList <:+: message.errorMsg.toList

/-- The consumers that are asked for, all of them without a list. -/
def requestedIds (db : Database) (consumerIds : Option (List Int)) : List Int :=
  consumerIds.getD (db.consumers.rows.map fun row => row.id)

variable (environmentName : EnvId ↪ String)

variable (envIds consumerIds s t results) in
/-- The messages tell of every pair that failed, nothing is inserted for it, and every other pair is
copied. -/
structure ReportsCopy : Prop where
  pairs : ∀ envId ∈ envIds, ∀ id ∈ requestedIds s.db consumerIds,
    ∃ result ∈ results, result.envId = envId ∧ result.consumer.id = id
  failed : ∀ result ∈ results, result.outcome ≠ .registered →
    (∃ message ∈ results.filterMap (CopyResult.message environmentName),
      message.Names (environmentName result.envId) result.consumer.name) ∧
    (t.db.refs .CONSUMER_GRUOP).get (result.consumer.id, result.envId) =
      (s.db.refs .CONSUMER_GRUOP).get (result.consumer.id, result.envId)
  registered : ∀ result ∈ results, result.outcome = .registered →
    (∃! ref, ref ∈ (t.db.refs .CONSUMER_GRUOP).rows ∧ ref.key = (result.consumer.id, result.envId)) ∧
    ∃ cluster data, s.db.clusterOfTopic result.consumer.topicId result.envId = some cluster ∧
      t.nodes result.envId .CONSUMER_GRUOP result.consumer.name = some data ∧ data.clusterName = cluster.serverName

variable (fold envIds consumerIds s results) in
/-- The consumers exist, every failure has a text with the name of its consumer, none is a registration of a
consumer without a reference, and where one succeeds the topic has a cluster that nodes are written for. -/
structure CopiesWell : Prop where
  known : ∀ envId ∈ envIds, ∀ id ∈ requestedIds s.db consumerIds, (s.db.consumers.get id).isSome
  named : ∀ result ∈ results, result.outcome ≠ .registered → ∃ other ∈ results, other.envId = result.envId ∧
    ∃ text, other.errorMsg = some text ∧ result.consumer.name.toList <:+: text.toList
  kept : ∀ result ∈ results, result.outcome = .failed →
    ((s.db.refs .CONSUMER_GRUOP).get (result.consumer.id, result.envId)).isSome
  live : ∀ result ∈ results, result.outcome = .registered →
    ∃ cluster, s.db.clusterOfTopic result.consumer.topicId result.envId = some cluster ∧
      ((ConsumerMapperService.brokerType fold (some cluster.serverType)).isSome ∨
        ∃ data, s.nodes result.envId .CONSUMER_GRUOP result.consumer.name = some data ∧
          data.clusterName = cluster.serverName)

theorem existsUnique_row {refs : Table EnvironmentRef.key} {key : Int × EnvId} (present : (refs.get key).isSome) :
    ∃! ref, ref ∈ refs.rows ∧ ref.key = key := by
  obtain ⟨ref, got⟩ := Option.isSome_iff_exists.mp present
  refine ⟨ref, Table.get_eq_some_iff.mp got, ?_⟩
  intro other isOther
  exact Option.some.inj ((Table.get_eq_some_iff.mpr isOther).symm.trans got)

/-- The node of a pair that is registered, where the topic has a cluster. -/
theorem Copied.node_of_registered {consumers : List CopiedConsumer}
    (copied : Copied fold envIds consumerIds s t results consumers) {result : CopyResult} (member : result ∈ results)
    (registered : result.outcome = .registered) {cluster : ZmsService}
    (clustered : s.db.clusterOfTopic result.consumer.topicId result.envId = some cluster) :
    (∃ data, t.nodes result.envId .CONSUMER_GRUOP result.consumer.name = some data ∧
        data.clusterName = cluster.serverName) ↔
      (ConsumerMapperService.brokerType fold (some cluster.serverType)).isSome ∨
        ∃ data, s.nodes result.envId .CONSUMER_GRUOP result.consumer.name = some data ∧
          data.clusterName = cluster.serverName := by
  obtain ⟨row, -, -, among⟩ := copied.row_of_mem member
  obtain ⟨q, nodes, all⟩ := copied.loop
  have present : topicCluster (topicEnvsOf (s.db.listByTopicId (consumers.map fun consumer => consumer.topicId))
      result.consumer) result.envId ≠ none := by
    intro missing
    rcases (all.refused result member).mp missing with refused | refused <;> cases registered.symm.trans refused
  obtain ⟨ref, found⟩ := Option.ne_none_iff_exists'.mp present
  have names := copyData_of_topicCluster fold found
  rw [clustered] at names
  change Option.map _ _ = _ at names
  rw [← nodes]
  cases type : ConsumerMapperService.brokerType fold (some cluster.serverType) with
  | some brokerType =>
    rw [type] at names
    obtain ⟨data, built, named⟩ := Option.map_eq_some_iff.mp names
    exact iff_of_true ⟨data, all.registered result member registered data built, named⟩ (.inl rfl)
  | none =>
    rw [type] at names
    have unwritten := Option.map_eq_none_iff.mp names
    obtain same | ⟨other, listed, atEnv, atName, data, built, -⟩ :=
      all.nodes result.envId result.consumer.name
    · rw [same]
      simp
    · rw [oneForName copied.selected other listed _ among atEnv atName] at built
      cases built.symm.trans unwritten

theorem Copied.reportsCopy_of_copiesWell {consumers : List CopiedConsumer}
    (copied : Copied fold envIds consumerIds s t results consumers)
    (well : CopiesWell fold envIds consumerIds s results) :
    ReportsCopy envIds consumerIds s t results environmentName where
  pairs envId asked id requested := by
    obtain ⟨row, got⟩ := Option.isSome_iff_exists.mp (well.known envId asked id requested)
    obtain ⟨isRow, rfl⟩ := Table.get_eq_some_iff.mp got
    have selected : s.db.copied row ∈ consumers := by
      refine (mem_selectCopiedConsumers copied.selected _).mpr ⟨row, isRow, ?_, rfl⟩
      rintro ids rfl
      exact requested
    obtain ⟨q, -, all⟩ := copied.loop
    have listed : (envId, s.db.copied row) ∈
        envIds.flatMap fun envId => consumers.map fun consumer => (envId, consumer) :=
      List.mem_flatMap.mpr ⟨envId, asked, List.mem_map_of_mem selected⟩
    rw [← all.pairs] at listed
    obtain ⟨result, member, same⟩ := List.mem_map.mp listed
    obtain ⟨sameEnv, sameConsumer⟩ := Prod.mk.inj same
    exact ⟨result, member, sameEnv, by rw [sameConsumer]; rfl⟩
  failed result member unregistered := by
    constructor
    · obtain ⟨other, among, sameEnv, text, error, named⟩ := well.named result member unregistered
      refine ⟨⟨environmentName other.envId, text⟩, ?_, congrArg environmentName sameEnv, named⟩
      exact List.mem_filterMap.mpr ⟨other, among, by rw [CopyResult.message, error]; rfl⟩
    · rw [copied.get_refs member]
      obtain ⟨q, -, all⟩ := copied.loop
      obtain ⟨empty, -⟩ | ⟨joined, found, -, -⟩ := copiedRef_cases
        (topicEnvsOf (s.db.listByTopicId (consumers.map fun consumer => consumer.topicId)) result.consumer) result.envId
        result.consumer.toConsumerInEnvs
      · rw [empty, List.head?_nil, Option.or_none]
      · have failed : result.outcome = .failed := by
          have present := (all.refused result member).not.mp (by rw [found]; exact Option.some_ne_none joined)
          cases outcome : result.outcome with
          | topicMissing => exact absurd (.inl outcome) present
          | clusterMissing => exact absurd (.inr outcome) present
          | failed => rfl
          | registered => exact absurd outcome unregistered
        obtain ⟨ref, got⟩ := Option.isSome_iff_exists.mp (well.kept result member failed)
        rw [got]
        rfl
  registered result member registered := by
    constructor
    · apply existsUnique_row
      rw [copied.get_refs member]
      obtain ⟨row, -, asked, -⟩ := copied.row_of_mem member
      obtain ⟨q, -, all⟩ := copied.loop
      obtain ⟨-, missing | present⟩ | ⟨joined, -, -, single⟩ := copiedRef_cases
        (topicEnvsOf (s.db.listByTopicId (consumers.map fun consumer => consumer.topicId)) result.consumer) result.envId
        result.consumer.toConsumerInEnvs
      · rcases (all.refused result member).mp missing with refused | refused <;> cases registered.symm.trans refused
      · rw [← asked] at present ⊢
        rw [Option.isSome_or, Bool.or_eq_true]
        exact .inl (mem_envs_iff.mp present)
      · rw [single, List.head?_cons, Option.isSome_or, Bool.or_eq_true]
        exact .inr rfl
    · obtain ⟨cluster, clustered, written⟩ := well.live result member registered
      obtain ⟨data, node, named⟩ := (copied.node_of_registered member registered clustered).mpr written
      exact ⟨cluster, data, clustered, node, named⟩

theorem Copied.copiesWell_of_reportsCopy {consumers : List CopiedConsumer}
    (copied : Copied fold envIds consumerIds s t results consumers)
    (reports : ReportsCopy envIds consumerIds s t results environmentName) :
    CopiesWell fold envIds consumerIds s results where
  known envId asked id requested := by
    obtain ⟨result, member, -, sameId⟩ := reports.pairs envId asked id requested
    obtain ⟨row, isRow, copiedRow, -⟩ := copied.row_of_mem member
    refine Table.isSome_get_iff.mpr ⟨row, isRow, ?_⟩
    rw [← sameId, ← copiedRow]
    rfl
  named result member unregistered := by
    obtain ⟨⟨message, told, sameEnv, named⟩, -⟩ := reports.failed result member unregistered
    obtain ⟨other, among, isMessage⟩ := List.mem_filterMap.mp told
    obtain ⟨text, error, rfl⟩ := Option.map_eq_some_iff.mp isMessage
    exact ⟨other, among, environmentName.injective sameEnv, text, error, named⟩
  kept result member failed := by
    have unregistered : result.outcome ≠ .registered := by
      rw [failed]
      intro impossible
      cases impossible
    have same := (reports.failed result member unregistered).2
    rw [copied.get_refs member] at same
    obtain ⟨row, -, asked, -⟩ := copied.row_of_mem member
    obtain ⟨q, -, all⟩ := copied.loop
    obtain ⟨-, missing | present⟩ | ⟨joined, -, -, single⟩ := copiedRef_cases
      (topicEnvsOf (s.db.listByTopicId (consumers.map fun consumer => consumer.topicId)) result.consumer) result.envId
      result.consumer.toConsumerInEnvs
    · rcases (all.refused result member).mp missing with refused | refused <;> cases failed.symm.trans refused
    · rw [← asked] at present ⊢
      exact mem_envs_iff.mp present
    · rw [single] at same
      rw [← same, List.head?_cons, Option.isSome_or, Bool.or_eq_true]
      exact .inr rfl
  live result member registered := by
    obtain ⟨-, cluster, data, clustered, node, named⟩ := reports.registered result member registered
    exact ⟨cluster, clustered, (copied.node_of_registered member registered clustered).mp ⟨data, node, named⟩⟩

/-- The references are queued before the registrations, and a message names its environment only. -/
theorem reportsCopy_iff (returns : copyResults fold envIds consumerIds s = (some results, t)) :
    copyConsumersReporting fold environmentName envIds consumerIds s =
        (some (results.filterMap (CopyResult.message environmentName)), t) ∧
      (ReportsCopy envIds consumerIds s t results environmentName ↔ CopiesWell fold envIds consumerIds s results) := by
  have copied : Ends (copyResults fold envIds consumerIds) s fun answer t => ∀ results, answer = some results →
      ∃ consumers, Copied fold envIds consumerIds s t results consumers := ends_copyResults s
  have done := copied.holds
  rw [returns] at done
  obtain ⟨consumers, copied⟩ := done results rfl
  refine ⟨bind_of_returns returns, ?_, ?_⟩
  · exact copied.copiesWell_of_reportsCopy environmentName
  · exact copied.reportsCopy_of_copiesWell environmentName

end Call

/-- A group in the first of the two environments of its topic; the request `failing` gets no answer. -/
def oneGroup (failing : Nat) : State where
  db :=
    { environments := [1, 2]
      services := .ofList [⟨⟨10, 1, "main", "ROCKETMQ", false⟩, "ENABLE"⟩,
        ⟨⟨20, 2, "second", "ROCKETMQ", false⟩, "ENABLE"⟩]
      topics := .ofList [⟨⟨1, "orders", CREATE_APPROVED⟩, "owner", some 4⟩]
      consumers := .ofList [⟨⟨1, "billing", 1, CREATE_APPROVED, false, false, 0, 0⟩, "owner"⟩]
      refs
        | .TOPIC => .ofList [.plain 1 1 (some 10), .plain 1 2 (some 20)]
        | .CONSUMER_GRUOP => .ofList [.plain 1 1 (some 10)] }
  nodes _ _ _ := none
  clusters _ name := some ⟨name, none, some .ROCKETMQ, none⟩
  answers n := n ≠ failing

/-- Names of environments that are told apart by their lengths. -/
def lengthNames : EnvId ↪ String where
  toFun env := String.ofList (List.replicate (Equiv.intEquivNat env) 'e')
  inj' env env' same := by
    have lengths := congrArg List.length (String.ofList_injective same)
    rw [List.length_replicate, List.length_replicate] at lengths
    exact Equiv.intEquivNat.injective lengths

def billing : CopiedConsumer :=
  ⟨⟨⟨⟨1, "billing", 1, CREATE_APPROVED, false, false, 0, 0⟩, "owner"⟩, some "orders", [1]⟩, some "main"⟩

theorem oneGroup_returns (failing : Nat) (outcome : CopyOutcome)
    (ends : (copyResults Char.toLower [2] (some [1]) (oneGroup failing)).1 = some [⟨2, billing, outcome⟩]) :
    copyResults Char.toLower [2] (some [1]) (oneGroup failing) =
      (some [⟨2, billing, outcome⟩], (copyResults Char.toLower [2] (some [1]) (oneGroup failing)).2) :=
  Prod.ext ends rfl

/-- The node is not written, and the group has a reference all the same. -/
theorem copies_unregistered : ∃ results t, copyResults Char.toLower [2] (some [1]) (oneGroup 3) = (some results, t) ∧
    ¬ReportsCopy [2] (some [1]) (oneGroup 3) t results lengthNames := by
  refine ⟨_, _, oneGroup_returns 3 .failed (by decide), fun reports => ?_⟩
  have unchanged := (reports.failed _ (List.mem_singleton_self _) (by decide)).2
  exact absurd unchanged (by decide)

theorem reportsCopy_iff_oneGroup :
    copyConsumersReporting Char.toLower lengthNames [2] (some [1]) (oneGroup 3) =
        (some [⟨lengthNames 2, "注册消费组失败"⟩], (copyResults Char.toLower [2] (some [1]) (oneGroup 3)).2) ∧
      (ReportsCopy [2] (some [1]) (oneGroup 3) (copyResults Char.toLower [2] (some [1]) (oneGroup 3)).2
          [⟨2, billing, .failed⟩] lengthNames ↔
        CopiesWell Char.toLower [2] (some [1]) (oneGroup 3) [⟨2, billing, .failed⟩]) :=
  reportsCopy_iff lengthNames (oneGroup_returns 3 .failed (by decide))

end Zms.Portal.Resources
