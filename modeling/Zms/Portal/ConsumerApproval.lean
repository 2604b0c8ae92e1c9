import Mathlib
import Zms.Portal.ConsumerMapperService

/-! The nodes and the references of a consumer after its approval. Nodes are written
in the environments of the topic and never deleted.
-/

set_option autoImplicit false

namespace Zms.Portal.ConsumerMapperService

open Zms.Registry

/-- The binding topic and the cluster of a node are those of the topic in the
environment. -/
def Fits (db : Database) (topicId : Int) (env : EnvId) (properties : Properties) : Prop :=
  ∃ ref ∈ db.selectTopicAndCluster topicId, ref.environmentId = env ∧
    properties.bindingTopic = some (valueOf ref.topicName) ∧ ref.clusterName = some properties.clusterName

/-- Database and ZooKeeper agree for a consumer. -/
structure Agrees (s : State) (consumer : Consumer) : Prop where
  envs : ∀ env, (s.nodes env consumer.name).isSome ↔ (s.db.consumerRefs.get (consumer.id, env)).isSome
  data : ∀ env properties, s.nodes env consumer.name = some properties →
    Fits s.db consumer.topicId env properties

/-- The owner or the approval has changed what a node tells. -/
def Changed (dto : ConsumerDTO) (orig : Consumer) : Prop :=
  0 < orig.needUpdateZk ∨ orig.topicId ≠ dto.topicId ∨ dto.broadcast ≠ orig.broadcast ∨
    dto.consumerFrom ≠ orig.consumerFrom

instance (dto : ConsumerDTO) (orig : Consumer) : Decidable (Changed dto orig) :=
  inferInstanceAs (Decidable (_ ∨ _))

/-- Whether the approval writes nodes. -/
def Rewrites (dto : ConsumerDTO) (orig : Consumer) : Prop := orig.status = CREATE_NEW ∨ Changed dto orig

instance (dto : ConsumerDTO) (orig : Consumer) : Decidable (Rewrites dto orig) :=
  inferInstanceAs (Decidable (_ ∨ _))

/-- The data written for an environment of the topic; `none` where its cluster is
deleted or no broker. -/
def written (fold : Char → Char) (dto : ConsumerDTO) (ref : TopicEnvironmentRef) : Option Properties :=
  (brokerType fold ref.clusterType).bind fun type => buildConsumerGroupData (toMetadata (dto.inEnvironment ref) type)

def put (nodes : Nodes) (env : EnvId) (name : String) : Option Properties → Nodes
  | none => nodes
  | some properties => Function.update nodes env (Function.update (nodes env) name (some properties))

section Nodes
variable {fold : Char → Char} {writes registers : EnvId → Bool} {dto : ConsumerDTO} {orig : Consumer}
  {nodes after : Nodes} {ref : TopicEnvironmentRef} {refs : List TopicEnvironmentRef} {env : EnvId} {name : String}
  {properties : Properties}

theorem put_self : put nodes env name (some properties) env name = some properties := by
  simp only [put, Function.update_self]

theorem put_of_ne {other : EnvId} {name' : String} {data : Option Properties}
    (untouched : data = none ∨ other ≠ env ∨ name' ≠ name) : put nodes env name data other name' = nodes other name' := by
  cases data with
  | none => rfl
  | some properties =>
      dsimp only [put]
      by_cases same : other = env
      · subst same
        have untouched := (untouched.resolve_left (by simp)).resolve_left (not_not.mpr rfl)
        rw [Function.update_self, Function.update_of_ne untouched]
      · rw [Function.update_of_ne same]

theorem put_put (data : Option Properties) : put (put nodes env name data) env name data = put nodes env name data := by
  cases data with
  | none => rfl
  | some properties => simp only [put, Function.update_idem, Function.update_self]

theorem registerConsumerToZk_eq
    (done : registerConsumerToZk fold writes nodes ref.environmentId ref.clusterType (dto.inEnvironment ref) = some after) :
    after = put nodes ref.environmentId dto.name (written fold dto ref) := by
  unfold registerConsumerToZk at done
  unfold written
  cases found : brokerType fold ref.clusterType with
  | none =>
      rw [found] at done
      exact (Option.some.inj done).symm
  | some type =>
      rw [found] at done
      dsimp only at done
      split at done
      · exact (Option.some.inj done).symm
      · cases done

theorem approveNew_eq (done : approveNew fold writes registers dto orig nodes ref = some after) :
    after = if orig.status = CREATE_NEW then put nodes ref.environmentId dto.name (written fold dto ref) else nodes := by
  unfold approveNew at done
  split at done
  · next isNew =>
      obtain ⟨registered, first, rest⟩ := Option.bind_eq_some_iff.mp done
      obtain ⟨-, -, same⟩ := Option.bind_eq_some_iff.mp rest
      rw [if_pos isNew, ← Option.some.inj same, registerConsumerToZk_eq first]
  · next isOld => rw [if_neg isOld, Option.some.inj done]

theorem approveChanged_eq (done : approveChanged fold writes dto orig nodes ref = some after) :
    after = if Changed dto orig then put nodes ref.environmentId dto.name (written fold dto ref) else nodes := by
  unfold approveChanged at done
  by_cases changed : Changed dto orig
  · rw [if_pos changed]
    exact registerConsumerToZk_eq ((if_pos changed).symm.trans done)
  · rw [if_neg changed]
    exact (Option.some.inj ((if_neg changed).symm.trans done)).symm

/-- An environment gets its node once or twice, with the same data. -/
theorem approveNext_eq (done : approveNext fold writes registers dto orig nodes ref = some after) :
    after = if Rewrites dto orig then put nodes ref.environmentId dto.name (written fold dto ref) else nodes := by
  unfold approveNext at done
  obtain ⟨created, creates, done⟩ := Option.bind_eq_some_iff.mp done
  obtain ⟨updated, updates, done⟩ := Option.bind_eq_some_iff.mp done
  obtain ⟨-, -, same⟩ := Option.bind_eq_some_iff.mp done
  obtain rfl := Option.some.inj same
  rw [approveChanged_eq updates, approveNew_eq creates]
  unfold Rewrites
  by_cases isNew : orig.status = CREATE_NEW
  · by_cases changed : Changed dto orig
    · simp only [isNew, changed, or_self, if_true, put_put]
    · simp only [isNew, changed, or_false, if_true, if_false]
  · simp only [isNew, false_or, if_false]

theorem approveAll_of_unwritten (done : refs.foldlM (approveNext fold writes registers dto orig) nodes = some after)
    (unwritten : Rewrites dto orig → name = dto.name → ∀ ref ∈ refs, ref.environmentId = env →
      written fold dto ref = none) :
    after env name = nodes env name := by
  induction refs generalizing nodes with
  | nil =>
      obtain rfl := Option.some.inj done
      rfl
  | cons ref rest ih =>
      rw [List.foldlM_cons] at done
      obtain ⟨next, first, done⟩ := Option.bind_eq_some_iff.mp done
      rw [ih done fun rewrites same ref member => unwritten rewrites same ref (List.mem_cons_of_mem _ member)]
      rw [approveNext_eq first]
      split
      · next rewrites =>
          apply put_of_ne
          by_cases same : env = ref.environmentId ∧ name = dto.name
          · exact Or.inl (unwritten rewrites same.2 ref List.mem_cons_self same.1.symm)
          · exact Or.inr (not_and_or.mp same)
      · rfl

theorem approveAll_of_written (done : refs.foldlM (approveNext fold writes registers dto orig) nodes = some after)
    (distinct : (refs.map (·.environmentId)).Nodup) (rewrites : Rewrites dto orig) (member : ref ∈ refs)
    (data : written fold dto ref = some properties) :
    after ref.environmentId dto.name = some properties := by
  induction refs generalizing nodes with
  | nil => cases member
  | cons first rest ih =>
      rw [List.map_cons, List.nodup_cons] at distinct
      rw [List.foldlM_cons] at done
      obtain ⟨next, started, others⟩ := Option.bind_eq_some_iff.mp done
      obtain rfl | member := List.mem_cons.mp member
      · rw [approveAll_of_unwritten others, approveNext_eq started, if_pos rewrites, data, put_self]
        intro _ _ other member same
        exact absurd (same ▸ List.mem_map_of_mem member) distinct.1
      · exact ih others distinct.2 member

end Nodes

section Topics
variable {db : Database} {topicId : Int} {ref : TopicEnvironmentRef} {fold : Char → Char} {dto : ConsumerDTO}
  {properties : Properties}

theorem envs_selectTopicAndCluster (db : Database) (topicId : Int) :
    ((db.selectTopicAndCluster topicId).map (·.environmentId)).Nodup := by
  unfold Database.selectTopicAndCluster
  rw [List.map_map]
  have keys := List.Nodup.sublist ((List.filter_sublist (p := fun ref => ref.resourceId = topicId)).map _)
    db.topicRefs.keys
  apply List.Nodup.map_on _ (List.Nodup.of_map _ keys)
  intro first member second member' same
  apply List.inj_on_of_nodup_map keys member member'
  have ofTopic := of_decide_eq_true (List.mem_filter.mp member).2
  have ofTopic' := of_decide_eq_true (List.mem_filter.mp member').2
  exact Prod.ext (ofTopic.trans ofTopic'.symm) same

theorem eq_of_environmentId {first second : TopicEnvironmentRef} (member : first ∈ db.selectTopicAndCluster topicId)
    (member' : second ∈ db.selectTopicAndCluster topicId) (same : first.environmentId = second.environmentId) :
    first = second :=
  List.inj_on_of_nodup_map (envs_selectTopicAndCluster db topicId) member member' same

theorem topicName_of_mem (member : ref ∈ db.selectTopicAndCluster topicId) :
    ∃ topic ∈ db.topics.rows, topic.id = topicId ∧ ref.topicName = some topic.name := by
  obtain ⟨row, selected, rfl⟩ := List.mem_map.mp member
  obtain ⟨stored, ofTopic⟩ := List.mem_filter.mp selected
  obtain ⟨topic, known, own⟩ := db.known row stored
  have own := own.trans (of_decide_eq_true ofTopic)
  refine ⟨topic, known, own, ?_⟩
  rw [← own, Table.get_key known]
  rfl

theorem topicId_of_topicName {topicId' : Int} {ref' : TopicEnvironmentRef}
    (member : ref ∈ db.selectTopicAndCluster topicId) (member' : ref' ∈ db.selectTopicAndCluster topicId')
    (same : valueOf ref.topicName = valueOf ref'.topicName) : topicId = topicId' := by
  obtain ⟨topic, known, own, name⟩ := topicName_of_mem member
  obtain ⟨topic', known', own', name'⟩ := topicName_of_mem member'
  rw [name, name', valueOf_some, valueOf_some] at same
  rw [← own, ← own', ResourceTable.eq_of_name known known' same]

theorem isSome_written_iff : (written fold dto ref).isSome ↔ (brokerType fold ref.clusterType).isSome := by
  unfold written
  cases brokerType fold ref.clusterType with
  | none => rfl
  | some type => exact iff_of_true rfl rfl

theorem fits_of_written (member : ref ∈ db.selectTopicAndCluster topicId)
    (data : written fold dto ref = some properties) : Fits db topicId ref.environmentId properties := by
  obtain ⟨type, found, built⟩ := Option.bind_eq_some_iff.mp data
  obtain rfl := Option.some.inj built
  refine ⟨ref, member, rfl, rfl, ?_⟩
  obtain ⟨row, -, rfl⟩ := List.mem_map.mp member
  cases cluster : db.cluster row.serviceId with
  | none =>
      rw [cluster] at found
      cases found
  | some service =>
      dsimp only [toMetadata, ConsumerDTO.inEnvironment]
      rfl

end Topics

section Approval
variable {fold : Char → Char} {writes registers : EnvId → Bool} {s after : State} {dto : ConsumerDTO}
  {orig : Consumer}

def approved (dto : ConsumerDTO) (orig : Consumer) : Consumer where
  id := dto.id
  name := dto.name
  topicId := dto.topicId
  status := if orig.status = CREATE_NEW then CREATE_APPROVED else UPDATE_APPROVED
  broadcast := dto.broadcast
  consumerFrom := dto.consumerFrom
  needUpdateServer := 0
  needUpdateZk := 0

/-- What an approval that returns has done. -/
structure Approves (fold : Char → Char) (writes registers : EnvId → Bool) (s after : State) (dto : ConsumerDTO)
    (orig : Consumer) : Prop where
  nodes : (s.db.selectTopicAndCluster dto.topicId).foldlM (approveNext fold writes registers dto orig) s.nodes =
    some after.nodes
  consumer : after.db.consumers.get dto.id = some (approved dto orig)
  topics : ∀ topicId, after.db.selectTopicAndCluster topicId = s.db.selectTopicAndCluster topicId
  moved : orig.topicId ≠ dto.topicId → ∀ env, (after.db.consumerRefs.get (dto.id, env)).isSome ↔
    ∃ ref ∈ s.db.selectTopicAndCluster dto.topicId, ref.environmentId = env
  kept : orig.topicId = dto.topicId → after.db.consumerRefs = s.db.consumerRefs

theorem get_updateByPrimaryKeySelective {db : Database} {consumer : Consumer} {table : ConsumerTable}
    (known : (db.consumers.get consumer.id).isSome)
    (done : db.updateByPrimaryKeySelective consumer = some table) : table.get consumer.id = some consumer := by
  unfold Database.updateByPrimaryKeySelective at done
  dsimp only at done
  split at done
  · obtain rfl := Option.some.inj done
    obtain ⟨row, found⟩ := Option.isSome_iff_exists.mp known
    have own := (Table.get_eq_some_iff.mp found).2
    dsimp only
    rw [Table.get_update, found, Option.map_some, if_pos own]
  · cases done

theorem isSome_get_rebuilt {db : Database} {id : Int} {refs : List TopicEnvironmentRef}
    {table : Table ResourceEnvironmentRef.key}
    (done : (db.deleteByConsumerId id).insertList (consumerEnvs id refs) = some table) (env : EnvId) :
    (table.get (id, env)).isSome ↔ ∃ ref ∈ refs, ref.environmentId = env := by
  rw [Table.isSome_get_iff, Table.rows_of_insertList done]
  constructor
  · intro ⟨row, member, same⟩
    obtain ⟨own, inEnv⟩ := Prod.mk.inj same
    obtain old | new := List.mem_append.mp member
    · have other := of_decide_eq_true (List.mem_filter.mp old).2
      exact absurd own other
    · obtain ⟨ref, selected, rfl⟩ := List.mem_map.mp new
      exact ⟨ref, selected, inEnv⟩
  · intro ⟨ref, selected, inEnv⟩
    exact ⟨⟨id, ref.environmentId, ref.serviceId⟩, List.mem_append_right _ (List.mem_map_of_mem selected),
      congrArg (Prod.mk id) inEnv⟩

theorem approves_of_returns (found : s.db.consumers.get dto.id = some orig)
    (returns : approveConsumer fold writes registers s dto = some after) :
    Approves fold writes registers s after dto orig := by
  have own : orig.id = dto.id := (Table.get_eq_some_iff.mp found).2
  unfold approveConsumer at returns
  dsimp only at returns
  split at returns
  · cases returns
  · obtain ⟨consumer, found', returns⟩ := Option.bind_eq_some_iff.mp returns
    obtain rfl := Option.some.inj (found.symm.trans found')
    obtain ⟨nodes, looped, returns⟩ := Option.bind_eq_some_iff.mp returns
    obtain ⟨consumerRefs, rebuilt, returns⟩ := Option.bind_eq_some_iff.mp returns
    obtain ⟨consumers, updated, returns⟩ := Option.bind_eq_some_iff.mp returns
    obtain rfl := Option.some.inj returns
    unfold replaceRefs at rebuilt
    rw [own] at rebuilt
    constructor
    · exact looped
    · exact get_updateByPrimaryKeySelective (Option.isSome_iff_exists.mpr ⟨orig, found⟩) updated
    · intro topicId
      rfl
    · intro changed env
      rw [if_pos changed] at rebuilt
      exact isSome_get_rebuilt rebuilt env
    · intro same
      rw [if_neg (not_not.mpr same)] at rebuilt
      exact (Option.some.inj rebuilt).symm

/-- The environments in which the approval writes the node. -/
def WrittenIn (fold : Char → Char) (s : State) (dto : ConsumerDTO) (orig : Consumer) (env : EnvId) : Prop :=
  Rewrites dto orig ∧ ∃ ref ∈ s.db.selectTopicAndCluster dto.topicId,
    ref.environmentId = env ∧ (brokerType fold ref.clusterType).isSome

/-- The environments of the references that the approval leaves. -/
def ReferencedIn (s : State) (dto : ConsumerDTO) (orig : Consumer) (env : EnvId) : Prop :=
  (orig.topicId ≠ dto.topicId → ∃ ref ∈ s.db.selectTopicAndCluster dto.topicId, ref.environmentId = env) ∧
    (orig.topicId = dto.topicId → (s.db.consumerRefs.get (dto.id, env)).isSome)

theorem Approves.node_written (approves : Approves fold writes registers s after dto orig) {env : EnvId}
    (written : WrittenIn fold s dto orig env) :
    ∃ properties, after.nodes env dto.name = some properties ∧ Fits s.db dto.topicId env properties := by
  obtain ⟨rewrites, ref, member, rfl, broker⟩ := written
  obtain ⟨properties, data⟩ := Option.isSome_iff_exists.mp (isSome_written_iff.mpr broker)
  refine ⟨properties, ?_, fits_of_written member data⟩
  exact approveAll_of_written approves.nodes (envs_selectTopicAndCluster s.db dto.topicId) rewrites member data

theorem Approves.node_unwritten (approves : Approves fold writes registers s after dto orig) {env : EnvId}
    (unwritten : ¬WrittenIn fold s dto orig env) : after.nodes env dto.name = s.nodes env dto.name := by
  apply approveAll_of_unwritten approves.nodes
  intro rewrites _ ref member same
  by_contra data
  have broker := isSome_written_iff.mp (Option.isSome_iff_ne_none.mpr data)
  exact unwritten ⟨rewrites, ref, member, same, broker⟩

theorem Approves.referenced_iff (approves : Approves fold writes registers s after dto orig) (env : EnvId) :
    (after.db.consumerRefs.get (dto.id, env)).isSome ↔ ReferencedIn s dto orig env := by
  unfold ReferencedIn
  by_cases same : orig.topicId = dto.topicId
  · rw [approves.kept same]
    simp only [same, ne_eq, not_true_eq_false, false_implies, true_and, forall_const]
  · rw [approves.moved same]
    simp only [same, ne_eq, not_false_eq_true, forall_const, false_implies, and_true]

/-- The agreement after an approval, in terms of the state before it. -/
theorem Approves.agreement_iff (approves : Approves fold writes registers s after dto orig) :
    Agrees after (approved dto orig) ↔
      (∀ env, WrittenIn fold s dto orig env ∨ (s.nodes env dto.name).isSome ↔ ReferencedIn s dto orig env) ∧
        ∀ env properties, ¬WrittenIn fold s dto orig env → s.nodes env dto.name = some properties →
          Fits s.db dto.topicId env properties := by
  have held (env : EnvId) : (after.nodes env dto.name).isSome ↔
      WrittenIn fold s dto orig env ∨ (s.nodes env dto.name).isSome := by
    by_cases written : WrittenIn fold s dto orig env
    · obtain ⟨properties, found, -⟩ := approves.node_written written
      exact iff_of_true (Option.isSome_iff_exists.mpr ⟨properties, found⟩) (Or.inl written)
    · rw [approves.node_unwritten written, or_iff_right written]
  have fits (env : EnvId) (properties : Properties) :
      Fits after.db dto.topicId env properties ↔ Fits s.db dto.topicId env properties := by
    unfold Fits
    rw [approves.topics]
  constructor
  · intro agrees
    constructor
    · intro env
      rw [← held, ← approves.referenced_iff]
      exact agrees.envs env
    · intro env properties unwritten found
      rw [← fits]
      exact agrees.data env properties ((approves.node_unwritten unwritten).trans found)
  · intro ⟨envs, data⟩
    constructor
    · intro env
      exact (held env).trans ((envs env).trans (approves.referenced_iff env).symm)
    · intro env properties found
      apply (fits env properties).mpr
      by_cases written : WrittenIn fold s dto orig env
      · obtain ⟨properties', found', right⟩ := approves.node_written written
        obtain rfl := Option.some.inj (found.symm.trans found')
        exact right
      · exact data env properties written ((approves.node_unwritten written).symm.trans found)

/-- When the agreement outlasts the approval. With a new topic, every environment of
the old references is one of the new topic, and a node can be written for each of
these; with the same topic, nodes are only written where there is a reference; and
with a new name, its nodes come as they should be. -/
structure Covered (fold : Char → Char) (s : State) (dto : ConsumerDTO) (orig : Consumer) : Prop where
  rebound : dto.name = orig.name → orig.topicId ≠ dto.topicId →
    (∀ ref ∈ s.db.selectTopicAndCluster dto.topicId, (brokerType fold ref.clusterType).isSome) ∧
      ∀ env, (s.db.consumerRefs.get (orig.id, env)).isSome →
        ∃ ref ∈ s.db.selectTopicAndCluster dto.topicId, ref.environmentId = env
  kept : dto.name = orig.name → orig.topicId = dto.topicId → Rewrites dto orig →
    ∀ ref ∈ s.db.selectTopicAndCluster dto.topicId, (brokerType fold ref.clusterType).isSome →
      (s.db.consumerRefs.get (orig.id, ref.environmentId)).isSome
  renamed : dto.name ≠ orig.name →
    (∀ env, WrittenIn fold s dto orig env ∨ (s.nodes env dto.name).isSome ↔ ReferencedIn s dto orig env) ∧
      ∀ env properties, ¬WrittenIn fold s dto orig env → s.nodes env dto.name = some properties →
        Fits s.db dto.topicId env properties

theorem Agrees.not_fits (start : Agrees s orig) (changed : orig.topicId ≠ dto.topicId) {env : EnvId}
    {properties : Properties} (found : s.nodes env orig.name = some properties) :
    ¬Fits s.db dto.topicId env properties := by
  intro ⟨ref, member, _, binding, _⟩
  obtain ⟨old, known, -, oldBinding, -⟩ := start.data env properties found
  have same := Option.some.inj (oldBinding.symm.trans binding)
  exact changed (topicId_of_topicName known member same)

theorem Approves.agrees_of_rebound (approves : Approves fold writes registers s after dto orig)
    (start : Agrees s orig) (name : dto.name = orig.name) (changed : orig.topicId ≠ dto.topicId) :
    Agrees after (approved dto orig) ↔
      (∀ ref ∈ s.db.selectTopicAndCluster dto.topicId, (brokerType fold ref.clusterType).isSome) ∧
        ∀ env, (s.db.consumerRefs.get (orig.id, env)).isSome →
          ∃ ref ∈ s.db.selectTopicAndCluster dto.topicId, ref.environmentId = env := by
  have rewrites : Rewrites dto orig := Or.inr (Or.inr (Or.inl changed))
  have referenced (env : EnvId) : ReferencedIn s dto orig env ↔
      ∃ ref ∈ s.db.selectTopicAndCluster dto.topicId, ref.environmentId = env := by
    simp only [ReferencedIn, changed, ne_eq, not_false_eq_true, forall_const, false_implies, and_true]
  rw [approves.agreement_iff, name]
  simp only [referenced]
  constructor
  · intro agreement
    obtain ⟨envs, data⟩ := agreement
    have overwritten (env : EnvId) (old : (s.db.consumerRefs.get (orig.id, env)).isSome) :
        WrittenIn fold s dto orig env := by
      by_contra unwritten
      obtain ⟨properties, found⟩ := Option.isSome_iff_exists.mp ((start.envs env).mpr old)
      exact start.not_fits changed found (data env properties unwritten found)
    constructor
    · intro ref member
      have written : WrittenIn fold s dto orig ref.environmentId := by
        obtain written | node := (envs ref.environmentId).mpr ⟨ref, member, rfl⟩
        · exact written
        · exact overwritten ref.environmentId ((start.envs ref.environmentId).mp node)
      obtain ⟨-, other, member', same, broker⟩ := written
      rw [eq_of_environmentId member member' same.symm]
      exact broker
    · intro env old
      exact (envs env).mp (Or.inl (overwritten env old))
  · intro condition
    obtain ⟨brokers, included⟩ := condition
    have written (env : EnvId) (inTopic : ∃ ref ∈ s.db.selectTopicAndCluster dto.topicId, ref.environmentId = env) :
        WrittenIn fold s dto orig env := by
      obtain ⟨ref, member, same⟩ := inTopic
      exact ⟨rewrites, ref, member, same, brokers ref member⟩
    constructor
    · intro env
      constructor
      · rintro (⟨-, ref, member, same, -⟩ | node)
        · exact ⟨ref, member, same⟩
        · exact included env ((start.envs env).mp node)
      · intro inTopic
        exact Or.inl (written env inTopic)
    · intro env properties unwritten found
      have old := (start.envs env).mp (Option.isSome_iff_exists.mpr ⟨properties, found⟩)
      exact absurd (written env (included env old)) unwritten

theorem Approves.agrees_of_kept (approves : Approves fold writes registers s after dto orig)
    (start : Agrees s orig) (own : orig.id = dto.id) (name : dto.name = orig.name) (same : orig.topicId = dto.topicId) :
    Agrees after (approved dto orig) ↔
      (Rewrites dto orig → ∀ ref ∈ s.db.selectTopicAndCluster dto.topicId, (brokerType fold ref.clusterType).isSome →
        (s.db.consumerRefs.get (orig.id, ref.environmentId)).isSome) := by
  have referenced (env : EnvId) : ReferencedIn s dto orig env ↔ (s.db.consumerRefs.get (orig.id, env)).isSome := by
    simp only [ReferencedIn, same, own, ne_eq, not_true_eq_false, false_implies, true_and, forall_const]
  rw [approves.agreement_iff, name]
  simp only [referenced]
  constructor
  · intro agreement rewrites ref member broker
    exact (agreement.1 ref.environmentId).mp (Or.inl ⟨rewrites, ref, member, rfl, broker⟩)
  · intro included
    constructor
    · intro env
      constructor
      · rintro (⟨rewrites, ref, member, rfl, broker⟩ | node)
        · exact included rewrites ref member broker
        · exact (start.envs env).mp node
      · intro old
        exact Or.inr ((start.envs env).mpr old)
    · intro env properties _ found
      rw [← same]
      exact start.data env properties found

/-- The approval of a consumer whose nodes and references agree leaves them in
agreement exactly in the covered cases. -/
theorem agrees_after_iff (fold : Char → Char) (writes registers : EnvId → Bool) (s after : State) (dto : ConsumerDTO)
    (orig : Consumer) (found : s.db.consumers.get dto.id = some orig) (start : Agrees s orig)
    (returns : approveConsumer fold writes registers s dto = some after) :
    (∀ consumer, after.db.consumers.get dto.id = some consumer → Agrees after consumer) ↔
      Covered fold s dto orig := by
  have own : orig.id = dto.id := (Table.get_eq_some_iff.mp found).2
  have approves := approves_of_returns found returns
  have only : (∀ consumer, after.db.consumers.get dto.id = some consumer → Agrees after consumer) ↔
      Agrees after (approved dto orig) := by
    rw [approves.consumer]
    simp only [Option.some.injEq, forall_eq']
  rw [only]
  by_cases name : dto.name = orig.name
  · by_cases same : orig.topicId = dto.topicId
    · rw [approves.agrees_of_kept start own name same]
      constructor
      · intro included
        exact ⟨fun _ changed => absurd same changed, fun _ _ => included, fun renamed => absurd name renamed⟩
      · intro covered
        exact covered.kept name same
    · rw [approves.agrees_of_rebound start name same]
      constructor
      · intro included
        exact ⟨fun _ _ => included, fun _ kept => absurd kept same, fun renamed => absurd name renamed⟩
      · intro covered
        exact covered.rebound name same
  · rw [approves.agreement_iff]
    constructor
    · intro right
      exact ⟨fun kept => absurd kept name, fun kept => absurd kept name, fun _ => right⟩
    · intro covered
      exact covered.renamed name

end Approval

section Example

def nodeOf (bindingTopic clusterName : String) : Properties where
  clusterName := clusterName
  gatedIps := some ""
  gatedCluster := some ""
  statisticsLogger := none
  bindingTopic := some bindingTopic
  broadcast := some "false"
  consumeFrom := some "latest"
  suspend := some "null"

/-- A topic of one environment, a topic of two, and a consumer of each. -/
def twoTopics : State where
  db :=
    { services := ⟨[⟨1, 1, "a", "KAFKA", false⟩, ⟨2, 2, "b", "KAFKA", false⟩], by decide⟩
      topics := ⟨⟨[⟨1, "narrow", 1⟩, ⟨2, "wide", 1⟩], by decide⟩, by decide⟩
      topicRefs := ⟨[⟨1, 1, some 1⟩, ⟨2, 1, some 1⟩, ⟨2, 2, some 2⟩], by decide⟩
      consumers := ⟨⟨[⟨1, "first", 1, 1, false, false, 0, 0⟩, ⟨2, "second", 2, 1, false, false, 0, 0⟩], by decide⟩,
        by decide⟩
      consumerRefs := ⟨[⟨1, 1, some 1⟩, ⟨2, 1, some 1⟩, ⟨2, 2, some 2⟩], by decide⟩
      known := by decide }
  nodes := fun env name =>
    if name = "first" then if env = 1 then some (nodeOf "narrow" "a") else none
    else if name = "second" then
      if env = 1 then some (nodeOf "wide" "a") else if env = 2 then some (nodeOf "wide" "b") else none
    else none

theorem agrees_first : Agrees twoTopics ⟨1, "first", 1, 1, false, false, 0, 0⟩ := by
  constructor
  · intro env
    rw [Table.isSome_get_iff]
    by_cases one : env = 1
    · subst one
      exact iff_of_true rfl ⟨⟨1, 1, some 1⟩, by decide, rfl⟩
    · simp [twoTopics, ResourceEnvironmentRef.key, one, Ne.symm one]
  · intro env properties found
    by_cases one : env = 1
    · subst one
      obtain rfl := Option.some.inj found
      exact ⟨⟨1, some 1, 1, some "a", some "KAFKA", some "narrow"⟩, by decide, rfl, rfl, rfl⟩
    · simp [twoTopics, one] at found

theorem agrees_second : Agrees twoTopics ⟨2, "second", 2, 1, false, false, 0, 0⟩ := by
  constructor
  · intro env
    rw [Table.isSome_get_iff]
    by_cases one : env = 1
    · subst one
      exact iff_of_true rfl ⟨⟨2, 1, some 1⟩, by decide, rfl⟩
    · by_cases two : env = 2
      · subst two
        exact iff_of_true rfl ⟨⟨2, 2, some 2⟩, by decide, rfl⟩
      · simp [twoTopics, ResourceEnvironmentRef.key, one, two, Ne.symm one, Ne.symm two]
  · intro env properties found
    by_cases one : env = 1
    · subst one
      obtain rfl := Option.some.inj found
      exact ⟨⟨1, some 1, 1, some "a", some "KAFKA", some "wide"⟩, by decide, rfl, rfl, rfl⟩
    · by_cases two : env = 2
      · subst two
        obtain rfl := Option.some.inj found
        exact ⟨⟨2, some 2, 2, some "b", some "KAFKA", some "wide"⟩, by decide, rfl, rfl, rfl⟩
      · simp [twoTopics, one, two] at found

/-- The request to bind a consumer to a topic. -/
def bindTo (id : Int) (name : String) (topicId : Int) : ConsumerDTO where
  id := id
  name := name
  topicId := topicId
  topicName := none
  clusterId := 0
  clusterName := none
  broadcast := false
  consumerFrom := false

/-- The first consumer moves to the topic with more environments. -/
theorem agrees_after_widening : ∃ after : State,
    approveConsumer Char.toLower (fun _ => true) (fun _ => true) twoTopics (bindTo 1 "first" 2) = some after ∧
      ∀ consumer, after.db.consumers.get 1 = some consumer → Agrees after consumer := by
  obtain ⟨after, returns⟩ := Option.isSome_iff_exists.mp (by decide : (approveConsumer Char.toLower (fun _ => true)
    (fun _ => true) twoTopics (bindTo 1 "first" 2)).isSome)
  have covered : Covered Char.toLower twoTopics (bindTo 1 "first" 2) ⟨1, "first", 1, 1, false, false, 0, 0⟩ := by
    constructor
    · intro _ _
      refine ⟨by decide, ?_⟩
      intro env old
      have only : ∀ row ∈ twoTopics.db.consumerRefs.rows, row.resourceId = 1 → row.environmentId = 1 := by decide
      obtain ⟨row, member, same⟩ := Table.isSome_get_iff.mp old
      obtain ⟨own, inEnv⟩ := Prod.mk.inj same
      rw [← inEnv, only row member own]
      decide
    · intro _ same
      cases same
    · intro renamed
      exact absurd rfl renamed
  exact ⟨after, returns, (agrees_after_iff _ _ _ twoTopics after (bindTo 1 "first" 2) _ (by decide) agrees_first
    returns).mpr covered⟩

/-- The second consumer moves to the topic with fewer environments and keeps its node
in the other one. -/
theorem not_agrees_after :
    ¬∀ (fold : Char → Char) (writes registers : EnvId → Bool) (s after : State) (dto : ConsumerDTO) (orig : Consumer),
      s.db.consumers.get dto.id = some orig → Agrees s orig →
      approveConsumer fold writes registers s dto = some after →
      ∀ consumer, after.db.consumers.get dto.id = some consumer → Agrees after consumer := by
  intro always
  obtain ⟨after, returns⟩ := Option.isSome_iff_exists.mp (by decide : (approveConsumer Char.toLower (fun _ => true)
    (fun _ => true) twoTopics (bindTo 2 "second" 1)).isSome)
  have found : twoTopics.db.consumers.get (bindTo 2 "second" 1).id =
      some ⟨2, "second", 2, 1, false, false, 0, 0⟩ := by decide
  have approves := approves_of_returns found returns
  have agrees := always _ _ _ twoTopics after (bindTo 2 "second" 1) _ found agrees_second returns _ approves.consumer
  obtain ⟨-, left⟩ := (approves.agrees_of_rebound agrees_second rfl (by decide)).mp agrees
  obtain ⟨ref, member, same⟩ := left 2 (by decide)
  have only : ∀ ref ∈ twoTopics.db.selectTopicAndCluster (bindTo 2 "second" 1).topicId, ref.environmentId = 1 := by
    decide
  rw [only ref member] at same
  cases same

end Example

end Zms.Portal.ConsumerMapperService
