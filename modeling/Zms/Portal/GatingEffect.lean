import Mathlib
import Zms.Portal.Gating
import Zms.Portal.ResourceFrames

/-! When `updateGated` does what it is asked to do, and when it refuses: both over
every node, reference and request, with no request failing.
-/

set_option autoImplicit false

namespace Zms.Portal.Resources

open Zms.Registry Zms.Transition Zms.Transition.Throwing

/-- The data of a node once it is written with a gated cluster and its ips. -/
def Properties.withGated (type : ZmsType) (gatedIps gateClusterName : Option String) (data : Properties) :
    Properties where
  clusterName := data.clusterName
  gatedIps := some (gatedIps.getD "")
  gatedCluster := some (if isNotBlank gateClusterName then gateClusterName.getD "" else "")
  statisticsLogger := none
  bindingTopic := if type = .TOPIC then none else some (valueOf data.bindingTopic)
  broadcast := if type = .TOPIC then none else some (valueOf data.broadcast)
  consumeFrom := if type = .TOPIC then none else some (valueOf data.consumeFrom)
  suspend := if type = .TOPIC then none else some (valueOf data.suspend)

/-- The node is skipped. -/
structure IsSet (gatedIps gateClusterName : Option String) (data : Properties) : Prop where
  gatedCluster : data.gated.isSome
  name : data.gated = gateClusterName
  gatedIps : data.gatedIps = gatedIps

instance (gatedIps gateClusterName : Option String) (data : Properties) :
    Decidable (IsSet gatedIps gateClusterName data) :=
  decidable_of_iff (data.gated.isSome ∧ data.gated = gateClusterName ∧ data.gatedIps = gatedIps)
    ⟨fun h => ⟨h.1, h.2.1, h.2.2⟩, fun h => ⟨h.gatedCluster, h.name, h.gatedIps⟩⟩

/-- The data of a node after a step that does not throw. -/
def configured (type : ZmsType) (gatedIps gateClusterName : Option String) (data : Properties) : Properties :=
  if IsSet gatedIps gateClusterName data then data else Properties.withGated type gatedIps gateClusterName data

/-- The data is read, and a group is gated already. -/
structure Configurable (clusters : String → Option ClusterMetadata) (type : ZmsType) (data : Properties) : Prop where
  readable : Readable clusters data
  gated : type = .CONSUMER_GRUOP → data.gated.isSome

section Step
variable {clusters : String → Option ClusterMetadata} {name : String} {data : Properties} {metadata : ConsumerGroupMetadata}

theorem gatedClusterName_gatedClusterOf (metadata : ZmsMetadata) (gatedIps gateClusterName : Option String) :
    gatedClusterName { metadata with gatedCluster := gatedClusterOf gateClusterName, gatedIps := gatedIps } =
      if isNotBlank gateClusterName then gateClusterName.getD "" else "" := by
  cases gateClusterName <;> rfl

theorem buildTopicData_gated (read : readZkInfo clusters .TOPIC name (some data) = some metadata)
    (gatedIps gateClusterName : Option String) :
    buildTopicData { metadata.toZmsMetadata with gatedCluster := gatedClusterOf gateClusterName, gatedIps := gatedIps } =
      some (Properties.withGated .TOPIC gatedIps gateClusterName data) := by
  obtain ⟨cluster, isCluster, named⟩ := Option.map_eq_some_iff.mp (clusterName_of_readZkInfo read)
  unfold buildTopicData
  rw [gatedClusterName_gatedClusterOf]
  simp only [isCluster, Option.map_some, named]
  rfl

theorem buildConsumerGroupData_gated (read : readZkInfo clusters .CONSUMER_GRUOP name (some data) = some metadata)
    (gatedIps gateClusterName : Option String) :
    buildConsumerGroupData { metadata with gatedCluster := gatedClusterOf gateClusterName, gatedIps := gatedIps } =
      some (Properties.withGated .CONSUMER_GRUOP gatedIps gateClusterName data) := by
  obtain ⟨cluster, isCluster, named⟩ := Option.map_eq_some_iff.mp (clusterName_of_readZkInfo read)
  obtain ⟨bindingTopic, broadcast, consumeFrom, suspend⟩ := (readAs_of_readZkInfo read).group rfl
  unfold buildConsumerGroupData
  rw [gatedClusterName_gatedClusterOf]
  simp only [isCluster, Option.map_some, named, bindingTopic, broadcast, consumeFrom, suspend]
  rfl

theorem isSet_iff_topic (read : readZkInfo clusters .TOPIC name (some data) = some metadata)
    (gatedIps gateClusterName : Option String) :
    (metadata.gatedCluster.any fun cluster => some cluster.clusterName = gateClusterName) = true ∧
      metadata.gatedIps = gatedIps ↔ IsSet gatedIps gateClusterName data := by
  have named := gatedCluster_of_readZkInfo read
  rw [(readAs_of_readZkInfo read).gatedIps]
  cases isGated : metadata.gatedCluster with
  | none =>
      rw [isGated] at named
      constructor
      · intro impossible
        cases impossible.1
      · intro isSet
        have isSome := isSet.gatedCluster
        rw [← named] at isSome
        cases isSome
  | some cluster =>
      rw [isGated] at named
      constructor
      · intro ⟨same, ips⟩
        exact ⟨named ▸ rfl, named.symm.trans (of_decide_eq_true same), ips⟩
      · intro isSet
        exact ⟨decide_eq_true (named.trans isSet.name), isSet.gatedIps⟩

theorem isSet_iff_consumer {cluster : ClusterMetadata}
    (read : readZkInfo clusters .CONSUMER_GRUOP name (some data) = some metadata)
    (isGated : metadata.gatedCluster = some cluster) (gatedIps gateClusterName : Option String) :
    some cluster.clusterName = gateClusterName ∧ metadata.gatedIps = gatedIps ↔
      IsSet gatedIps gateClusterName data := by
  have named := gatedCluster_of_readZkInfo read
  rw [isGated] at named
  rw [(readAs_of_readZkInfo read).gatedIps]
  constructor
  · intro ⟨same, ips⟩
    exact ⟨named ▸ rfl, named.symm.trans same, ips⟩
  · intro isSet
    exact ⟨named.trans isSet.name, isSet.gatedIps⟩

end Step

theorem put_same (nodes : Nodes) (env : EnvId) (type : ZmsType) (name : String) :
    nodes.put env type name (nodes env type name) = nodes := by
  unfold Nodes.put
  rw [Function.update_eq_self, Function.update_eq_self, Function.update_eq_self]

section Calls
variable {s : State} {env : EnvId} {name : String} {data : Properties} {gatedIps gateClusterName : Option String}

theorem updateTopicGateCluster_of_configurable (answering : Answering s)
    (is : s.nodes env .TOPIC name = some data) (configurable : Configurable (s.clusters env) .TOPIC data) :
    updateTopicGateCluster env name gatedIps gateClusterName s = (some (), { s with
      nodes := s.nodes.put env .TOPIC name (some (configured .TOPIC gatedIps gateClusterName data)) }) := by
  obtain ⟨metadata, read⟩ := Option.isSome_iff_exists.mp (isSome_readZkInfo_iff.mpr configurable.readable)
  unfold updateTopicGateCluster
  rw [bind_of_returns (readInfo_of_answering answering env .TOPIC name |>.trans (by rw [is, read]))]
  unfold configured Throwing.when
  by_cases isSet : IsSet gatedIps gateClusterName data
  · rw [if_pos isSet, if_neg (not_not_intro ((isSet_iff_topic read gatedIps gateClusterName).mpr isSet)), ← is, put_same]
    rfl
  · rw [if_neg isSet, if_pos (fun same => isSet ((isSet_iff_topic read gatedIps gateClusterName).mp same))]
    unfold writeTopicInfo
    rw [buildTopicData_gated read, writeInfo_of_answering answering]
    dsimp only
    rw [(readAs_of_readZkInfo read).name]

theorem updateTopicGateCluster_of_not (answering : Answering s) (is : s.nodes env .TOPIC name = some data)
    (not : ¬Configurable (s.clusters env) .TOPIC data) :
    updateTopicGateCluster env name gatedIps gateClusterName s = (none, s) := by
  have unread : readZkInfo (s.clusters env) .TOPIC name (some data) = none := by
    rw [← Option.not_isSome_iff_eq_none, isSome_readZkInfo_iff]
    intro readable
    refine not ⟨readable, fun impossible => ?_⟩
    cases impossible
  apply bind_of_throws
  rw [readInfo_of_answering answering, is, unread]

theorem updateConsumerGateCluster_of_configurable (answering : Answering s)
    (is : s.nodes env .CONSUMER_GRUOP name = some data)
    (configurable : Configurable (s.clusters env) .CONSUMER_GRUOP data) :
    updateConsumerGateCluster env name gatedIps gateClusterName s = (some (), { s with
      nodes := s.nodes.put env .CONSUMER_GRUOP name
        (some (configured .CONSUMER_GRUOP gatedIps gateClusterName data)) }) := by
  obtain ⟨metadata, read⟩ := Option.isSome_iff_exists.mp (isSome_readZkInfo_iff.mpr configurable.readable)
  have isSome : metadata.gatedCluster.isSome := by
    rw [← Option.isSome_map, gatedCluster_of_readZkInfo read]
    exact configurable.gated rfl
  obtain ⟨cluster, isGated⟩ := Option.isSome_iff_exists.mp isSome
  have sets := isSet_iff_consumer read isGated gatedIps gateClusterName
  unfold updateConsumerGateCluster
  rw [bind_of_returns (readInfo_of_answering answering env .CONSUMER_GRUOP name |>.trans (by rw [is, read])), isGated]
  change Throwing.when _ _ s = _
  unfold configured Throwing.when
  by_cases isSet : IsSet gatedIps gateClusterName data
  · rw [if_pos isSet, if_neg (not_not_intro (sets.mpr isSet)), ← is, put_same]
    rfl
  · rw [if_neg isSet, if_pos (fun same => isSet (sets.mp same))]
    unfold writerConsumerInfo
    rw [buildConsumerGroupData_gated read, writeInfo_of_answering answering]
    dsimp only
    rw [(readAs_of_readZkInfo read).name]

theorem updateConsumerGateCluster_of_not (answering : Answering s)
    (is : s.nodes env .CONSUMER_GRUOP name = some data) (not : ¬Configurable (s.clusters env) .CONSUMER_GRUOP data) :
    updateConsumerGateCluster env name gatedIps gateClusterName s = (none, s) := by
  cases read : readZkInfo (s.clusters env) .CONSUMER_GRUOP name (some data) with
  | none =>
      apply bind_of_throws
      rw [readInfo_of_answering answering, is, read]
  | some metadata =>
      unfold updateConsumerGateCluster
      rw [bind_of_returns (readInfo_of_answering answering env .CONSUMER_GRUOP name |>.trans (by rw [is, read]))]
      apply bind_of_throws
      cases isGated : metadata.gatedCluster with
      | none => rfl
      | some cluster =>
          refine absurd ⟨(readAs_of_readZkInfo read).readable, fun _ => ?_⟩ not
          rw [← gatedCluster_of_readZkInfo read, isGated]
          rfl

end Calls

section Loop

/-- The state after the step of one environment. -/
def State.configure (s : State) (type : ZmsType) (id : Int) (name : String)
    (gateName : EnvironmentInfoVo → Option String) (info : EnvironmentInfoVo) : State :=
  { s with
    db := s.db.updateGateCluster type id info
    nodes := s.nodes.put info.environmentId type name
      ((s.nodes info.environmentId type name).map (configured type info.gatedIps (gateName info))) }

def ConfigurableAt (s : State) (type : ZmsType) (name : String) (info : EnvironmentInfoVo) : Prop :=
  ∃ data, s.nodes info.environmentId type name = some data ∧ Configurable (s.clusters info.environmentId) type data

/-- What the body of the loop does for the environments of a request. -/
structure Configures (body : EnvironmentInfoVo → Call Unit) (type : ZmsType) (id : Int) (name : String)
    (gateName : EnvironmentInfoVo → Option String) (infos : List EnvironmentInfoVo) : Prop where
  returns : ∀ s info, info ∈ infos → Answering s → ConfigurableAt s type name info →
    body info s = (some (), s.configure type id name gateName info)
  throws : ∀ s info, info ∈ infos → Answering s → (s.nodes info.environmentId type name).isSome →
    ¬ConfigurableAt s type name info → body info s = (none, s)

variable {body : EnvironmentInfoVo → Call Unit} {type : ZmsType} {id : Int} {name : String}
  {gateName : EnvironmentInfoVo → Option String} {infos : List EnvironmentInfoVo} {s : State}

theorem configure_nodes_of_ne {info : EnvironmentInfoVo} {env : EnvId} (other : env ≠ info.environmentId) :
    (s.configure type id name gateName info).nodes env type name = s.nodes env type name :=
  put_of_ne s.nodes _ fun same => other same.1

theorem configurableAt_configure {info other : EnvironmentInfoVo}
    (distinct : other.environmentId ≠ info.environmentId) :
    ConfigurableAt (s.configure type id name gateName info) type name other ↔ ConfigurableAt s type name other := by
  unfold ConfigurableAt
  rw [configure_nodes_of_ne distinct]
  rfl

theorem get_updateGateCluster (db : Database) (info : EnvironmentInfoVo) (key : Int × EnvId) :
    ((db.updateGateCluster type id info).refs type).get key = ((db.refs type).get key).map fun ref =>
      if ref.key = (id, info.environmentId) then
        { ref with gatedServiceId := info.gatedServiceId, gatedIps := info.gatedIps } else ref := by
  unfold Database.updateGateCluster Database.updateRef Database.setRefs
  dsimp only
  rw [Function.update_self, Table.get_update]

theorem get_updateGateCluster_of_ne (db : Database) (info : EnvironmentInfoVo) {env : EnvId}
    (other : env ≠ info.environmentId) :
    ((db.updateGateCluster type id info).refs type).get (id, env) = (db.refs type).get (id, env) := by
  rw [get_updateGateCluster]
  cases found : (db.refs type).get (id, env) with
  | none => rfl
  | some ref =>
      have key : ref.key = (id, env) := (Table.get_eq_some_iff.mp found).2
      rw [Option.map_some, if_neg]
      rw [key]
      intro same
      exact other (Prod.ext_iff.mp same).2

theorem Configures.tail {info : EnvironmentInfoVo} (configures : Configures body type id name gateName (info :: infos)) :
    Configures body type id name gateName infos :=
  ⟨fun s other member => configures.returns s other (List.mem_cons_of_mem info member),
    fun s other member => configures.throws s other (List.mem_cons_of_mem info member)⟩

theorem forEach_of_configures (pre post : List EnvironmentInfoVo)
    (configures : Configures body type id name gateName (pre ++ post)) (answering : Answering s)
    (distinct : ((pre ++ post).map (·.environmentId)).Nodup) (each : ∀ info ∈ pre, ConfigurableAt s type name info) :
    forEach body (pre ++ post) s = forEach body post (pre.foldl (State.configure · type id name gateName) s) := by
  induction pre generalizing s with
  | nil => rfl
  | cons info rest ih =>
      rw [List.cons_append, List.map_cons, List.nodup_cons] at distinct
      rw [List.cons_append, forEach_cons, bind_of_returns
        (configures.returns s info List.mem_cons_self answering (each info List.mem_cons_self))]
      have kept : Answering (s.configure type id name gateName info) := answering
      apply ih configures.tail kept distinct.2
      intro other member
      refine (configurableAt_configure fun same => distinct.1 ?_).mpr (each other (List.mem_cons_of_mem info member))
      rw [← same]
      exact List.mem_map_of_mem (List.mem_append_left post member)

theorem foldl_frame (infos : List EnvironmentInfoVo) (s : State) :
    (infos.foldl (State.configure · type id name gateName) s).clusters = s.clusters ∧
      (infos.foldl (State.configure · type id name gateName) s).answers = s.answers := by
  induction infos generalizing s with
  | nil => exact ⟨rfl, rfl⟩
  | cons first rest ih => exact ih _

theorem foldl_nodes_of_notMem {env : EnvId} (notMem : env ∉ infos.map (·.environmentId)) :
    (infos.foldl (State.configure · type id name gateName) s).nodes env type name = s.nodes env type name := by
  induction infos generalizing s with
  | nil => rfl
  | cons info rest ih =>
      rw [List.map_cons, List.mem_cons, not_or] at notMem
      rw [List.foldl_cons, ih notMem.2, configure_nodes_of_ne notMem.1]

theorem foldl_refs_of_notMem {env : EnvId} (notMem : env ∉ infos.map (·.environmentId)) :
    ((infos.foldl (State.configure · type id name gateName) s).db.refs type).get (id, env) =
      (s.db.refs type).get (id, env) := by
  induction infos generalizing s with
  | nil => rfl
  | cons info rest ih =>
      rw [List.map_cons, List.mem_cons, not_or] at notMem
      rw [List.foldl_cons, ih notMem.2]
      exact get_updateGateCluster_of_ne s.db info notMem.1

theorem foldl_nodes (distinct : (infos.map (·.environmentId)).Nodup) {info : EnvironmentInfoVo} (member : info ∈ infos) :
    (infos.foldl (State.configure · type id name gateName) s).nodes info.environmentId type name =
      (s.nodes info.environmentId type name).map (configured type info.gatedIps (gateName info)) := by
  induction infos generalizing s with
  | nil => cases member
  | cons first rest ih =>
      rw [List.map_cons, List.nodup_cons] at distinct
      rw [List.foldl_cons]
      obtain rfl | member := List.mem_cons.mp member
      · rw [foldl_nodes_of_notMem distinct.1]
        exact put_self _ _ _ _ _
      · rw [ih distinct.2 member, configure_nodes_of_ne]
        intro same
        exact distinct.1 (same ▸ List.mem_map_of_mem member)

theorem foldl_refs (distinct : (infos.map (·.environmentId)).Nodup) {info : EnvironmentInfoVo} (member : info ∈ infos)
    {ref : EnvironmentRef} (found : (s.db.refs type).get (id, info.environmentId) = some ref) :
    ((infos.foldl (State.configure · type id name gateName) s).db.refs type).get (id, info.environmentId) =
      some { ref with gatedServiceId := info.gatedServiceId, gatedIps := info.gatedIps } := by
  induction infos generalizing s with
  | nil => cases member
  | cons first rest ih =>
      rw [List.map_cons, List.nodup_cons] at distinct
      rw [List.foldl_cons]
      obtain rfl | member := List.mem_cons.mp member
      · rw [foldl_refs_of_notMem distinct.1]
        unfold State.configure
        dsimp only
        rw [get_updateGateCluster, found, Option.map_some, if_pos (Table.get_eq_some_iff.mp found).2]
      · apply ih distinct.2 member
        rw [← found]
        apply get_updateGateCluster_of_ne
        intro same
        exact distinct.1 (same ▸ List.mem_map_of_mem member)

end Loop

section Lists
variable {db : Database} {serviceIds : List (Option Int)} {serviceList : List ZmsService}

/-- A cluster of the brokers that is enabled. -/
def ZmsService.Enabled (service : ZmsService) : Prop :=
  service.serverStatus = "ENABLE" ∧ (Database.brokerTypeOf service.serverType).isSome

theorem mem_of_listed (listed : db.listClustersByServiceIds serviceIds = some serviceList) {service : ZmsService} :
    service ∈ serviceList ↔ service ∈ db.services.rows ∧ some service.id ∈ serviceIds ∧ service.Enabled := by
  unfold Database.listClustersByServiceIds at listed
  split at listed
  · cases listed
  · obtain rfl := Option.some.inj listed
    simp only [List.mem_filter, Bool.and_eq_true, List.contains_iff_mem, decide_eq_true_eq, ZmsService.Enabled,
      and_assoc]

theorem sublist_of_listed (listed : db.listClustersByServiceIds serviceIds = some serviceList) :
    serviceList.Sublist db.services.rows := by
  unfold Database.listClustersByServiceIds at listed
  split at listed
  · cases listed
  · obtain rfl := Option.some.inj listed
    exact List.filter_sublist

theorem nodup_of_listed (listed : db.listClustersByServiceIds serviceIds = some serviceList) :
    (serviceList.map fun service => some service.id).Nodup := by
  have keys := (db.services.keys.sublist ((sublist_of_listed listed).map _)).map (Option.some_injective Int)
  rwa [List.map_map] at keys

theorem length_listed_iff (listed : db.listClustersByServiceIds serviceIds = some serviceList) :
    serviceList.length = serviceIds.length ↔ serviceIds.Nodup ∧
      ∀ id ∈ serviceIds, ∃ service ∈ db.services.rows, some service.id = id ∧ service.Enabled := by
  have sub : serviceList.map (fun service => some service.id) ⊆ serviceIds := by
    intro id member
    obtain ⟨service, isListed, rfl⟩ := List.mem_map.mp member
    exact ((mem_of_listed listed).mp isListed).2.1
  have subperm := (nodup_of_listed listed).subperm sub
  constructor
  · intro same
    have perm := subperm.perm_of_length_le (by rw [List.length_map, same])
    refine ⟨perm.nodup_iff.mp (nodup_of_listed listed), fun id member => ?_⟩
    obtain ⟨service, isListed, is⟩ := List.mem_map.mp (perm.mem_iff.mpr member)
    obtain ⟨row, -, enabled⟩ := (mem_of_listed listed).mp isListed
    exact ⟨service, row, is, enabled⟩
  · intro ⟨distinct, each⟩
    have super : serviceIds ⊆ serviceList.map (fun service => some service.id) := by
      intro id member
      obtain ⟨service, row, rfl, enabled⟩ := each id member
      exact List.mem_map_of_mem ((mem_of_listed listed).mpr ⟨row, member, enabled⟩)
    have lengths : (serviceList.map fun service => some service.id).length = serviceList.length := List.length_map _
    exact lengths.symm.trans (Nat.le_antisymm subperm.length_le (distinct.subperm super).length_le)

theorem serviceOf_eq_some_iff (listed : db.listClustersByServiceIds serviceIds = some serviceList) {id : Option Int}
    {service : ZmsService} : serviceOf serviceList id = some service ↔ service ∈ serviceList ∧ some service.id = id := by
  unfold serviceOf
  constructor
  · intro found
    have same := List.find?_some found
    exact ⟨List.mem_of_find?_eq_some found, of_decide_eq_true same⟩
  · intro ⟨member, is⟩
    subst is
    obtain ⟨other, found⟩ := Option.isSome_iff_exists.mp
      (List.find?_isSome (p := fun other : ZmsService => some other.id = some service.id) |>.mpr
        ⟨service, member, decide_eq_true rfl⟩)
    have same := List.find?_some found
    obtain rfl : other = service := List.inj_on_of_nodup_map (nodup_of_listed listed)
      (List.mem_of_find?_eq_some found) member (of_decide_eq_true same)
    exact found

end Lists

def Database.resourceName (db : Database) (type : ZmsType) (id : Int) : Option String :=
  match type with
  | .TOPIC => (db.topics.get id).map (·.name)
  | .CONSUMER_GRUOP => (db.consumers.get id).map (·.name)

/-- The resource of the request is in every environment that the request lists, and
none is listed twice. -/
structure Registered (s : State) (type : ZmsType) (dto : GatedDTO) (name : String) : Prop where
  resource : s.db.resourceName type dto.id = some name
  named : type = .CONSUMER_GRUOP → dto.name = name
  distinct : (dto.environments.map (·.environmentId)).Nodup
  placed : ∀ info ∈ dto.environments, ∃ ref service,
    (s.db.refs type).get (dto.id, info.environmentId) = some ref ∧ s.db.cluster ref.serviceId = some service
  present : ∀ info ∈ dto.environments, (s.nodes info.environmentId type name).isSome

/-- The ids for which services are listed. -/
def listedIds : ZmsType → GatedDTO → List (Option Int)
  | .TOPIC, dto => dto.environments.map (·.serviceId)
  | .CONSUMER_GRUOP, dto => dto.environments.map (·.gatedServiceId)

/-- The name of the gated cluster, where it is among what is listed. -/
def gateClusterName (type : ZmsType) (db : Database) (dto : GatedDTO) (info : EnvironmentInfoVo) : Option String :=
  ((db.listClustersByServiceIds (listedIds type dto)).bind (serviceOf · info.gatedServiceId)).map (·.serverName)

/-- What is checked before the first node: for a topic, the other services of the
request, and that they are of the type of the topic's first cluster. -/
def Checked : ZmsType → Database → GatedDTO → Prop
  | .TOPIC, db, dto => dto.environments ≠ [] ∧ (dto.environments.map (·.serviceId)).Nodup ∧
      ∃ clusterType, (db.listByTopicId [dto.id]).head?.bind (·.clusterType) = some clusterType ∧
        ∀ info ∈ dto.environments, ∃ service ∈ db.services.rows,
          some service.id = info.serviceId ∧ service.Enabled ∧ service.serverType = clusterType
  | .CONSUMER_GRUOP, _, dto => dto.environments ≠ []

section Run
variable {s : State} {dto : GatedDTO} {name : String}

theorem find?_isSome_topic (registered : Registered s .TOPIC dto name) {info : EnvironmentInfoVo}
    (member : info ∈ dto.environments) : ∃ ref,
      (s.db.listByTopicId [dto.id]).find? (fun ref => ref.environmentId = info.environmentId) = some ref ∧
        ref.resourceId = dto.id := by
  obtain ⟨ref, service, found, -⟩ := registered.placed info member
  obtain ⟨row, key⟩ := Table.get_eq_some_iff.mp found
  have listed : s.db.join ref ∈ s.db.listByTopicId [dto.id] := by
    unfold Database.listByTopicId
    rw [List.mem_insertionSort]
    apply List.mem_map_of_mem
    rw [List.mem_filter]
    have resource : ref.resourceId = dto.id := (Prod.ext_iff.mp key).1
    refine ⟨row, ?_⟩
    rw [resource]
    exact List.contains_iff_mem.mpr List.mem_cons_self
  obtain ⟨other, isFound⟩ := Option.isSome_iff_exists.mp
    (List.find?_isSome (p := fun ref : JoinedRef => ref.environmentId = info.environmentId) |>.mpr
      ⟨s.db.join ref, listed, decide_eq_true (Prod.ext_iff.mp key).2⟩)
  refine ⟨other, isFound, ?_⟩
  have isListed := List.mem_of_find?_eq_some isFound
  unfold Database.listByTopicId at isListed
  rw [List.mem_insertionSort] at isListed
  obtain ⟨otherRef, kept, rfl⟩ := List.mem_map.mp isListed
  exact List.mem_singleton.mp (List.contains_iff_mem.mp (List.mem_filter.mp kept).2)

theorem find?_isSome_consumer (registered : Registered s .CONSUMER_GRUOP dto name) {info : EnvironmentInfoVo}
    (member : info ∈ dto.environments) : ∃ ref,
      (s.db.listByConsumerId dto.id).find? (fun ref => ref.environmentId = info.environmentId) = some ref ∧
        ref.resourceId = dto.id := by
  obtain ⟨ref, service, found, -⟩ := registered.placed info member
  obtain ⟨row, key⟩ := Table.get_eq_some_iff.mp found
  have listed : ref ∈ s.db.listByConsumerId dto.id :=
    List.mem_filter.mpr ⟨row, decide_eq_true (Prod.ext_iff.mp key).1⟩
  obtain ⟨other, isFound⟩ := Option.isSome_iff_exists.mp
    (List.find?_isSome (p := fun ref : EnvironmentRef => ref.environmentId = info.environmentId) |>.mpr
      ⟨ref, listed, decide_eq_true (Prod.ext_iff.mp key).2⟩)
  exact ⟨other, isFound, of_decide_eq_true (List.mem_filter.mp (List.mem_of_find?_eq_some isFound)).2⟩

theorem configures_topic (registered : Registered s .TOPIC dto name) {serviceList : List ZmsService}
    (listed : s.db.listClustersByServiceIds (listedIds .TOPIC dto) = some serviceList) :
    Configures (updateTopicGatedNext name (s.db.listByTopicId [dto.id]) serviceList) .TOPIC dto.id name
      (gateClusterName .TOPIC s.db dto) dto.environments := by
  have looked (info : EnvironmentInfoVo) : (serviceOf serviceList info.gatedServiceId).map (·.serverName) =
      gateClusterName .TOPIC s.db dto info := by
    unfold gateClusterName
    rw [listed]
    rfl
  constructor
  · intro t info member answering ⟨data, is, configurable⟩
    obtain ⟨ref, found, resource⟩ := find?_isSome_topic registered member
    unfold updateTopicGatedNext State.configure
    rw [found, ofOption_bind, looked,
      bind_of_returns (updateTopicGateCluster_of_configurable answering is configurable), resource, is]
    refine (execute_of_answering ?_ _).trans rfl
    exact answering
  · intro t info member answering present not
    obtain ⟨data, is⟩ := Option.isSome_iff_exists.mp present
    obtain ⟨ref, found, -⟩ := find?_isSome_topic registered member
    unfold updateTopicGatedNext
    rw [found, ofOption_bind]
    apply bind_of_throws
    exact updateTopicGateCluster_of_not answering is fun configurable => not ⟨data, is, configurable⟩

theorem configures_consumer (registered : Registered s .CONSUMER_GRUOP dto name) {serviceList : List ZmsService}
    (listed : s.db.listClustersByServiceIds (listedIds .CONSUMER_GRUOP dto) = some serviceList) :
    Configures (updateConsumerGatedNext name (s.db.listByConsumerId dto.id) serviceList) .CONSUMER_GRUOP dto.id name
      (gateClusterName .CONSUMER_GRUOP s.db dto) dto.environments := by
  have looked (info : EnvironmentInfoVo) : (serviceOf serviceList info.gatedServiceId).map (·.serverName) =
      gateClusterName .CONSUMER_GRUOP s.db dto info := by
    unfold gateClusterName
    rw [listed]
    rfl
  constructor
  · intro t info member answering ⟨data, is, configurable⟩
    obtain ⟨ref, found, resource⟩ := find?_isSome_consumer registered member
    unfold updateConsumerGatedNext State.configure
    rw [found, ofOption_bind, looked,
      bind_of_returns (updateConsumerGateCluster_of_configurable answering is configurable), resource, is]
    refine (execute_of_answering ?_ _).trans rfl
    exact answering
  · intro t info member answering present not
    obtain ⟨data, is⟩ := Option.isSome_iff_exists.mp present
    obtain ⟨ref, found, -⟩ := find?_isSome_consumer registered member
    unfold updateConsumerGatedNext
    rw [found, ofOption_bind]
    apply bind_of_throws
    exact updateConsumerGateCluster_of_not answering is fun configurable => not ⟨data, is, configurable⟩

theorem selectByPrimaryKey_of_answering (answering : Answering s) (id : Int) :
    selectByPrimaryKey id s = (s.db.topics.get id, s) := by
  unfold selectByPrimaryKey
  rw [bind_of_returns (query_of_answering answering _)]
  rfl

theorem listZmsServiceEntities_of_answering (answering : Answering s) (serviceIds : List (Option Int)) :
    listZmsServiceEntities serviceIds s =
      ((s.db.listClustersByServiceIds serviceIds).filter fun serviceList => serviceList.length = serviceIds.length, s) := by
  unfold listZmsServiceEntities
  rw [bind_of_returns (query_of_answering answering _)]
  cases s.db.listClustersByServiceIds serviceIds with
  | none => exact bind_of_throws rfl
  | some serviceList =>
      rw [ofOption_bind, Option.filter_some]
      by_cases lengths : serviceList.length = serviceIds.length
      · rw [ensure_bind lengths, decide_eq_true lengths]
        rfl
      · rw [ensure_bind_of_not lengths, decide_eq_false lengths]
        rfl

theorem listed_of_ne (type : ZmsType) (nonempty : dto.environments ≠ []) :
    ∃ serviceList, s.db.listClustersByServiceIds (listedIds type dto) = some serviceList := by
  unfold Database.listClustersByServiceIds
  rw [if_neg]
  · exact ⟨_, rfl⟩
  · intro empty
    cases type <;> exact nonempty (List.map_eq_nil_iff.mp empty)

theorem listed_of_nil (type : ZmsType) (empty : dto.environments = []) :
    s.db.listClustersByServiceIds (listedIds type dto) = none := by
  have noIds : listedIds type dto = [] := by cases type <;> exact List.map_eq_nil_iff.mpr empty
  unfold Database.listClustersByServiceIds
  rw [if_pos noIds]

theorem nonempty_of_checked {type : ZmsType} {db : Database} (checked : Checked type db dto) :
    dto.environments ≠ [] := by
  cases type with
  | TOPIC => exact checked.1
  | CONSUMER_GRUOP => exact checked

/-- The two comparisons of lengths hold exactly where the request is checked. -/
theorem checked_topic_iff {db : Database} {serviceList : List ZmsService} {clusterType : String}
    (listed : db.listClustersByServiceIds (listedIds .TOPIC dto) = some serviceList)
    (first : (db.listByTopicId [dto.id]).head?.bind (·.clusterType) = some clusterType) :
    Checked .TOPIC db dto ↔ serviceList.length = (listedIds .TOPIC dto).length ∧
      (serviceList.filter fun service => service.serverType = clusterType).length = dto.environments.length := by
  rw [length_listed_iff listed]
  constructor
  · intro ⟨nonempty, distinct, other, isFirst, each⟩
    obtain rfl := Option.some.inj (first.symm.trans isFirst)
    have all : ∀ id ∈ listedIds .TOPIC dto, ∃ service ∈ db.services.rows, some service.id = id ∧ service.Enabled := by
      intro id member
      obtain ⟨info, isInfo, rfl⟩ := List.mem_map.mp member
      obtain ⟨service, row, is, enabled, -⟩ := each info isInfo
      exact ⟨service, row, is, enabled⟩
    refine ⟨⟨distinct, all⟩, ?_⟩
    rw [List.filter_eq_self.mpr, (length_listed_iff listed).mpr ⟨distinct, all⟩]
    · exact List.length_map _
    · intro service isListed
      obtain ⟨row, named, -⟩ := (mem_of_listed listed).mp isListed
      obtain ⟨info, isInfo, is⟩ := List.mem_map.mp named
      obtain ⟨other, otherRow, otherIs, -, typed⟩ := each info isInfo
      have same : other.id = service.id := Option.some.inj (otherIs.trans is)
      have equal := (Table.get_key otherRow).symm.trans (same ▸ Table.get_key row)
      rw [← Option.some.inj equal]
      exact decide_eq_true typed
  · intro ⟨⟨distinct, all⟩, count⟩
    have lengths := (length_listed_iff listed).mpr ⟨distinct, all⟩
    have typed : ∀ service ∈ serviceList, service.serverType = clusterType := by
      have ids : (listedIds .TOPIC dto).length = dto.environments.length := List.length_map _
      have isAll := List.length_filter_eq_length_iff.mp (count.trans (ids.symm.trans lengths.symm))
      intro service isListed
      exact of_decide_eq_true (isAll service isListed)
    refine ⟨?_, distinct, clusterType, first, ?_⟩
    · intro empty
      have unlisted : db.listClustersByServiceIds (listedIds .TOPIC dto) = none :=
        listed_of_nil (s := ⟨db, fun _ _ _ => none, fun _ _ => none, fun _ => true⟩) .TOPIC empty
      cases unlisted.symm.trans listed
    · intro info isInfo
      have member : info.serviceId ∈ listedIds .TOPIC dto := List.mem_map_of_mem isInfo
      obtain ⟨service, row, is, enabled⟩ := all _ member
      exact ⟨service, row, is, enabled, typed service ((mem_of_listed listed).mpr ⟨row, is ▸ member, enabled⟩)⟩

theorem updateGated_of_checked {type : ZmsType} (registered : Registered s type dto name) (answering : Answering s)
    (checked : Checked type s.db dto) : ∃ body,
      Configures body type dto.id name (gateClusterName type s.db dto) dto.environments ∧
        updateGated type dto s = forEach body dto.environments s := by
  obtain ⟨serviceList, listed⟩ := listed_of_ne (s := s) type (nonempty_of_checked checked)
  cases type with
  | TOPIC =>
      refine ⟨_, configures_topic registered listed, ?_⟩
      obtain ⟨topic, found, named⟩ := Option.map_eq_some_iff.mp registered.resource
      have ⟨_, _, clusterType, first, _⟩ := checked
      obtain ⟨lengths, count⟩ := (checked_topic_iff listed first).mp checked
      have selected := selectByPrimaryKey_of_answering answering dto.id
      rw [found] at selected
      have entities := listZmsServiceEntities_of_answering answering (listedIds .TOPIC dto)
      rw [listed, Option.filter_some, if_pos (decide_eq_true lengths)] at entities
      unfold updateGated updateTopicGated
      dsimp only
      rw [bind_of_returns selected, bind_of_returns (query_of_answering answering _), first,
        ofOption_bind, named]
      exact (bind_of_returns entities).trans (ensure_bind count _ _)
  | CONSUMER_GRUOP =>
      refine ⟨_, configures_consumer registered listed, ?_⟩
      unfold updateGated updateConsumerGated
      dsimp only
      rw [bind_of_returns (query_of_answering answering _), bind_of_returns (query_of_answering answering _)]
      change (ofOption (s.db.listClustersByServiceIds (listedIds .CONSUMER_GRUOP dto)) >>= _) s = _
      rw [listed, ofOption_bind, registered.named rfl]

theorem updateGated_of_unchecked {type : ZmsType} (registered : Registered s type dto name) (answering : Answering s)
    (unchecked : ¬Checked type s.db dto) : updateGated type dto s = (none, s) := by
  cases type with
  | TOPIC =>
      obtain ⟨topic, found, named⟩ := Option.map_eq_some_iff.mp registered.resource
      have selected := selectByPrimaryKey_of_answering answering dto.id
      rw [found] at selected
      have entities := listZmsServiceEntities_of_answering answering (listedIds .TOPIC dto)
      unfold updateGated updateTopicGated
      dsimp only
      rw [bind_of_returns selected, bind_of_returns (query_of_answering answering _)]
      cases first : (s.db.listByTopicId [dto.id]).head?.bind (·.clusterType) with
      | none => exact bind_of_throws rfl
      | some clusterType =>
          rw [ofOption_bind]
          cases listed : s.db.listClustersByServiceIds (listedIds .TOPIC dto) with
          | none =>
              rw [listed] at entities
              exact bind_of_throws entities
          | some serviceList =>
              rw [checked_topic_iff listed first, not_and] at unchecked
              by_cases lengths : serviceList.length = (listedIds .TOPIC dto).length
              · rw [listed, Option.filter_some, if_pos (decide_eq_true lengths)] at entities
                exact (bind_of_returns entities).trans (ensure_bind_of_not (unchecked lengths) _ _)
              · rw [listed, Option.filter_some, if_neg (fun same => lengths (of_decide_eq_true same))] at entities
                exact bind_of_throws entities
  | CONSUMER_GRUOP =>
      have empty : dto.environments = [] := not_not.mp unchecked
      unfold updateGated updateConsumerGated
      dsimp only
      rw [bind_of_returns (query_of_answering answering _), bind_of_returns (query_of_answering answering _)]
      change (ofOption (s.db.listClustersByServiceIds (listedIds .CONSUMER_GRUOP dto)) >>= _) s = _
      rw [listed_of_nil .CONSUMER_GRUOP empty]
      exact bind_of_throws rfl

end Run

/-- The fields beside the gated cluster and its ips. -/
structure OthersKept (before after : Properties) : Prop where
  clusterName : after.clusterName = before.clusterName
  statisticsLogger : after.statisticsLogger = before.statisticsLogger
  bindingTopic : after.bindingTopic = before.bindingTopic
  broadcast : after.broadcast = before.broadcast
  consumeFrom : after.consumeFrom = before.consumeFrom
  suspend : after.suspend = before.suspend

/-- Data whose other fields a rewrite leaves as they are. -/
structure Lasting (type : ZmsType) (data : Properties) : Prop where
  statisticsLogger : data.statisticsLogger = none
  bindingTopic : data.bindingTopic.isSome ↔ type = .CONSUMER_GRUOP
  broadcast : data.broadcast.isSome ↔ type = .CONSUMER_GRUOP
  consumeFrom : data.consumeFrom.isSome ↔ type = .CONSUMER_GRUOP
  suspend : data.suspend.isSome ↔ type = .CONSUMER_GRUOP

section Data
variable {type : ZmsType} {gatedIps gateClusterName : Option String} {data : Properties}

/-- A field of a group is rewritten as it is, if it is there, one of a topic is lost. -/
theorem rewritten_eq_iff (field : Option String) :
    (if type = .TOPIC then none else some (valueOf field)) = field ↔ (field.isSome ↔ type = .CONSUMER_GRUOP) := by
  cases type <;> cases field <;> simp [valueOf]

theorem othersKept_withGated_iff :
    OthersKept data (Properties.withGated type gatedIps gateClusterName data) ↔ Lasting type data := by
  constructor
  · intro kept
    exact ⟨kept.statisticsLogger.symm, (rewritten_eq_iff _).mp kept.bindingTopic, (rewritten_eq_iff _).mp kept.broadcast,
      (rewritten_eq_iff _).mp kept.consumeFrom, (rewritten_eq_iff _).mp kept.suspend⟩
  · intro lasting
    exact ⟨rfl, lasting.statisticsLogger.symm, (rewritten_eq_iff _).mpr lasting.bindingTopic,
      (rewritten_eq_iff _).mpr lasting.broadcast, (rewritten_eq_iff _).mpr lasting.consumeFrom,
      (rewritten_eq_iff _).mpr lasting.suspend⟩

theorem gated_withGated : (Properties.withGated type gatedIps gateClusterName data).gated =
    if isNotBlank gateClusterName then gateClusterName else none := by
  unfold Properties.gated Properties.withGated
  cases gateClusterName with
  | none => rfl
  | some name =>
      by_cases notBlank : isNotBlank (some name) = true
      · simp only [notBlank, if_true, Option.getD_some]
      · simp only [notBlank]
        rfl

def Stays (type : ZmsType) (gatedIps gateClusterName : Option String) (data : Properties) : Prop :=
  IsSet gatedIps gateClusterName data ∨
    data.gatedIps = some (gatedIps.getD "") ∧
      data.gatedCluster = some (if isNotBlank gateClusterName then gateClusterName.getD "" else "") ∧ Lasting type data

theorem configured_eq_iff : configured type gatedIps gateClusterName data = data ↔
    Stays type gatedIps gateClusterName data := by
  unfold configured
  split
  · next isSet => exact iff_of_true rfl (.inl isSet)
  · next notSet =>
      constructor
      · intro same
        have kept : OthersKept data (Properties.withGated type gatedIps gateClusterName data) := by
          rw [same]
          exact ⟨rfl, rfl, rfl, rfl, rfl, rfl⟩
        exact .inr ⟨(congrArg Properties.gatedIps same).symm, (congrArg Properties.gatedCluster same).symm,
          othersKept_withGated_iff.mp kept⟩
      · intro stays
        obtain isSet | ⟨ips, cluster, lasting⟩ := stays
        · exact absurd isSet notSet
        · have kept : OthersKept data (Properties.withGated type gatedIps gateClusterName data) :=
            othersKept_withGated_iff.mpr lasting
          cases data
          exact Properties.mk.injEq .. |>.mpr ⟨rfl, ips.symm, cluster.symm, kept.statisticsLogger, kept.bindingTopic,
            kept.broadcast, kept.consumeFrom, kept.suspend⟩

end Data

/-- The reference of the request's environment has the gated cluster and the ips. -/
def SaysSo (db : Database) (type : ZmsType) (id : Int) (info : EnvironmentInfoVo) : Prop :=
  ∃ ref, (db.refs type).get (id, info.environmentId) = some ref ∧ ref.gatedServiceId = info.gatedServiceId ∧
    ref.gatedIps = info.gatedIps

/-- The cluster is enabled and of the broker type of the resource's cluster in the environment. -/
def Fits (db : Database) (type : ZmsType) (id : Int) (info : EnvironmentInfoVo) (gated : ZmsService) : Prop :=
  gated.serverStatus = "ENABLE" ∧ ∃ ref service brokerType,
    (db.refs type).get (id, info.environmentId) = some ref ∧ db.cluster ref.serviceId = some service ∧
      Database.brokerTypeOf service.serverType = some brokerType ∧
      Database.brokerTypeOf gated.serverType = some brokerType

/-- In its environment the node has the requested gated cluster and ips and all its
other fields, and the reference says the same. -/
structure TakesEffectIn (s t : State) (type : ZmsType) (id : Int) (name : String) (info : EnvironmentInfoVo) : Prop where
  node : ∃ before after gated, s.nodes info.environmentId type name = some before ∧
    t.nodes info.environmentId type name = some after ∧ s.db.cluster info.gatedServiceId = some gated ∧
    after.gated = some gated.serverName ∧ after.gatedIps.getD "" = info.gatedIps.getD "" ∧ OthersKept before after
  reference : SaysSo t.db type id info

/-- The law of `updateGated`: requests for fitting clusters take effect, others are refused. -/
structure Meets (s : State) (type : ZmsType) (dto : GatedDTO) (name : String) : Prop where
  succeeds : (∀ info ∈ dto.environments, ∃ gated, s.db.cluster info.gatedServiceId = some gated ∧
      gated.environmentId = info.environmentId ∧ Fits s.db type dto.id info gated) →
    (updateGated type dto s).1 = some () ∧
      ∀ info ∈ dto.environments, TakesEffectIn s (updateGated type dto s).2 type dto.id name info
  refuses : (∃ info ∈ dto.environments, ∀ gated, s.db.cluster info.gatedServiceId = some gated →
      ¬Fits s.db type dto.id info gated) →
    (updateGated type dto s).1 = none ∧ (updateGated type dto s).2.nodes = s.nodes ∧
      (updateGated type dto s).2.db = s.db

/-- What lets a request for fitting clusters take effect. -/
structure Works (s : State) (type : ZmsType) (dto : GatedDTO) (name : String) : Prop where
  checked : Checked type s.db dto
  listed : ∀ info ∈ dto.environments, info.gatedServiceId ∈ listedIds type dto
  each : ∀ info ∈ dto.environments, ∃ data gated, s.nodes info.environmentId type name = some data ∧
    s.db.cluster info.gatedServiceId = some gated ∧ Configurable (s.clusters info.environmentId) type data ∧
    isNotBlank (some gated.serverName) ∧ (IsSet info.gatedIps (some gated.serverName) data ∨ Lasting type data)

/-- What lets a request be refused: the checks before the loop, or that the loop ends
before it has changed anything. -/
def Refuses (s : State) (type : ZmsType) (dto : GatedDTO) (name : String) : Prop :=
  ¬Checked type s.db dto ∨ ∃ pre info post, dto.environments = pre ++ info :: post ∧
    ¬ConfigurableAt s type name info ∧ ∀ other ∈ pre, ConfigurableAt s type name other ∧
      (∀ data, s.nodes other.environmentId type name = some data →
        Stays type other.gatedIps (gateClusterName type s.db dto other) data) ∧ SaysSo s.db type dto.id other

theorem all_or_first {α : Type} (P : α → Prop) (items : List α) :
    (∀ a ∈ items, P a) ∨ ∃ pre a post, items = pre ++ a :: post ∧ (∀ b ∈ pre, P b) ∧ ¬P a := by
  induction items with
  | nil => exact .inl fun a member => absurd member List.not_mem_nil
  | cons first rest ih =>
      by_cases holds : P first
      · obtain all | ⟨pre, a, post, rfl, before, not⟩ := ih
        · exact .inl (List.forall_mem_cons.mpr ⟨holds, all⟩)
        · exact .inr ⟨first :: pre, a, post, rfl, List.forall_mem_cons.mpr ⟨holds, before⟩, not⟩
      · exact .inr ⟨[], first, rest, rfl, fun b member => absurd member List.not_mem_nil, holds⟩

theorem first_unique {α : Type} {P : α → Prop} {pre pre' post post' : List α} {a a' : α}
    (same : pre ++ a :: post = pre' ++ a' :: post') (before : ∀ b ∈ pre, P b) (not : ¬P a)
    (before' : ∀ b ∈ pre', P b) (not' : ¬P a') : pre = pre' := by
  induction pre generalizing pre' with
  | nil =>
      cases pre' with
      | nil => rfl
      | cons first rest =>
          obtain ⟨rfl, -⟩ := List.cons.inj same
          exact absurd (before' a List.mem_cons_self) not
  | cons first rest ih =>
      cases pre' with
      | nil =>
          obtain ⟨rfl, -⟩ := List.cons.inj same
          exact absurd (before first List.mem_cons_self) not'
      | cons first' rest' =>
          obtain ⟨rfl, tails⟩ := List.cons.inj same
          rw [ih tails (List.forall_mem_cons.mp before).2 (List.forall_mem_cons.mp before').2]

section Law
variable {s : State} {type : ZmsType} {dto : GatedDTO} {name : String}

theorem updateGated_ends (registered : Registered s type dto name) (answering : Answering s)
    (checked : Checked type s.db dto) :
    (∀ info ∈ dto.environments, ConfigurableAt s type name info) ∧ updateGated type dto s =
      (some (), dto.environments.foldl (State.configure · type dto.id name (gateClusterName type s.db dto)) s) ∨
    ∃ pre info post, dto.environments = pre ++ info :: post ∧ (∀ other ∈ pre, ConfigurableAt s type name other) ∧
      ¬ConfigurableAt s type name info ∧ updateGated type dto s =
        (none, pre.foldl (State.configure · type dto.id name (gateClusterName type s.db dto)) s) := by
  obtain ⟨body, configures, runs⟩ := updateGated_of_checked registered answering checked
  rw [runs]
  obtain all | ⟨pre, info, post, split, before, not⟩ := all_or_first (ConfigurableAt s type name) dto.environments
  · have looped := forEach_of_configures dto.environments [] (by rwa [List.append_nil]) answering
      (by rw [List.append_nil]; exact registered.distinct) all
    rw [List.append_nil] at looped
    exact .inl ⟨all, looped⟩
  · refine .inr ⟨pre, info, post, split, before, not, ?_⟩
    have distinct := registered.distinct
    have present := registered.present info (split ▸ List.mem_append_right pre List.mem_cons_self)
    rw [split] at configures distinct ⊢
    have apart : info.environmentId ∉ pre.map (·.environmentId) := by
      rw [List.map_append, List.map_cons] at distinct
      intro member
      exact (List.nodup_append.mp distinct).2.2 _ member _ List.mem_cons_self rfl
    have same : (pre.foldl (State.configure · type dto.id name (gateClusterName type s.db dto)) s).nodes
        info.environmentId type name = s.nodes info.environmentId type name := foldl_nodes_of_notMem apart
    rw [forEach_of_configures _ _ configures answering distinct before, forEach_cons]
    apply bind_of_throws
    apply configures.throws _ _ (List.mem_append_right pre List.mem_cons_self)
    · intro n
      rw [(foldl_frame pre s).2]
      exact answering n
    · rw [same]
      exact present
    · unfold ConfigurableAt at not ⊢
      rw [same, (foldl_frame pre s).1]
      exact not

theorem configured_iff {gatedIps gateClusterName : Option String} {data : Properties} {gated : String} :
    (configured type gatedIps gateClusterName data).gated = some gated ∧
        OthersKept data (configured type gatedIps gateClusterName data) ↔
      gateClusterName = some gated ∧ isNotBlank (some gated) ∧
        (IsSet gatedIps (some gated) data ∨ Lasting type data) := by
  unfold configured
  split
  · next isSet =>
      constructor
      · intro gates
        obtain ⟨isGated, -⟩ := gates
        have named : gateClusterName = some gated := isSet.name.symm.trans isGated
        exact ⟨named, isNotBlank_of_gated isGated, .inl (named ▸ isSet)⟩
      · intro sets
        obtain ⟨named, -, -⟩ := sets
        exact ⟨isSet.name.trans named, rfl, rfl, rfl, rfl, rfl, rfl⟩
  · next notSet =>
      rw [gated_withGated, othersKept_withGated_iff]
      constructor
      · intro ⟨isGated, lasting⟩
        split at isGated
        · next notBlank => exact ⟨isGated, isGated ▸ notBlank, .inr lasting⟩
        · cases isGated
      · intro ⟨named, notBlank, setOrLasting⟩
        subst named
        obtain isSet | lasting := setOrLasting
        · exact absurd isSet notSet
        · exact ⟨if_pos notBlank, lasting⟩

theorem configured_gatedIps (gatedIps gateClusterName : Option String) (data : Properties) :
    (configured type gatedIps gateClusterName data).gatedIps.getD "" = gatedIps.getD "" := by
  unfold configured
  split
  · next isSet => rw [isSet.gatedIps]
  · rfl

theorem enabled_of_fits {db : Database} {id : Int} {info : EnvironmentInfoVo} {gated : ZmsService}
    (fits : Fits db type id info gated) : gated.Enabled := by
  obtain ⟨enabled, ref, service, brokerType, -, -, -, typed⟩ := fits
  exact ⟨enabled, typed ▸ rfl⟩

theorem gateClusterName_eq_some_iff {db : Database} {info : EnvironmentInfoVo} {gated : ZmsService}
    (nonempty : dto.environments ≠ []) (is : db.cluster info.gatedServiceId = some gated) (enabled : gated.Enabled) :
    gateClusterName type db dto info = some gated.serverName ↔ info.gatedServiceId ∈ listedIds type dto := by
  obtain ⟨serviceList, listed⟩ := listed_of_ne (s := ⟨db, fun _ _ _ => none, fun _ _ => none, fun _ => true⟩) type nonempty
  obtain ⟨id, isId, found⟩ := Option.bind_eq_some_iff.mp (Option.filter_eq_some_iff.mp is).1
  obtain ⟨row, key⟩ := Table.get_eq_some_iff.mp found
  have looked : gateClusterName type db dto info = (serviceOf serviceList info.gatedServiceId).map (·.serverName) := by
    unfold gateClusterName
    rw [listed]
    rfl
  rw [looked]
  constructor
  · intro named
    obtain ⟨service, isService, -⟩ := Option.map_eq_some_iff.mp named
    obtain ⟨member, same⟩ := (serviceOf_eq_some_iff listed).mp isService
    exact same ▸ ((mem_of_listed listed).mp member).2.1
  · intro member
    have isService : serviceOf serviceList info.gatedServiceId = some gated := by
      rw [serviceOf_eq_some_iff listed, isId, ← key]
      refine ⟨(mem_of_listed listed).mpr ⟨row, ?_, enabled⟩, rfl⟩
      rw [key, ← isId]
      exact member
    rw [isService]
    rfl

/-- A request that names fitting clusters takes effect exactly where it works. -/
theorem takesEffect_iff (registered : Registered s type dto name) (answering : Answering s)
    (fitting : ∀ info ∈ dto.environments, ∃ gated, s.db.cluster info.gatedServiceId = some gated ∧
      Fits s.db type dto.id info gated) :
    ((updateGated type dto s).1 = some () ∧
        ∀ info ∈ dto.environments, TakesEffectIn s (updateGated type dto s).2 type dto.id name info) ↔
      Works s type dto name := by
  by_cases checked : Checked type s.db dto
  · obtain ⟨all, ends⟩ | ⟨pre, info, post, split, before, not, ends⟩ := updateGated_ends registered answering checked
    · rw [ends]
      constructor
      · intro effect
        obtain ⟨-, effect⟩ := effect
        have each : ∀ info ∈ dto.environments, ∃ data gated, s.nodes info.environmentId type name = some data ∧
            s.db.cluster info.gatedServiceId = some gated ∧ Configurable (s.clusters info.environmentId) type data ∧
            gateClusterName type s.db dto info = some gated.serverName ∧ isNotBlank (some gated.serverName) ∧
            (IsSet info.gatedIps (some gated.serverName) data ∨ Lasting type data) := by
          intro info member
          obtain ⟨data, is, configurable⟩ := all info member
          obtain ⟨before, after, gated, was, becomes, isCluster, isGated, -, kept⟩ := (effect info member).node
          obtain rfl := Option.some.inj (is.symm.trans was)
          rw [foldl_nodes registered.distinct member, is] at becomes
          obtain rfl := Option.some.inj becomes
          exact ⟨data, gated, is, isCluster, configurable, configured_iff.mp ⟨isGated, kept⟩⟩
        refine ⟨checked, fun info member => ?_, fun info member => ?_⟩
        · obtain ⟨data, gated, -, isCluster, -, named, -⟩ := each info member
          obtain ⟨other, isOther, fits⟩ := fitting info member
          obtain rfl := Option.some.inj (isCluster.symm.trans isOther)
          exact (gateClusterName_eq_some_iff (nonempty_of_checked checked) isCluster (enabled_of_fits fits)).mp named
        · obtain ⟨data, gated, is, isCluster, configurable, -, rest⟩ := each info member
          exact ⟨data, gated, is, isCluster, configurable, rest⟩
      · intro works
        refine ⟨rfl, fun info member => ?_⟩
        obtain ⟨data, gated, is, isCluster, configurable, rest⟩ := works.each info member
        obtain ⟨other, isOther, fits⟩ := fitting info member
        obtain rfl := Option.some.inj (isCluster.symm.trans isOther)
        have named := (gateClusterName_eq_some_iff (nonempty_of_checked checked) isCluster (enabled_of_fits fits)).mpr
          (works.listed info member)
        obtain ⟨isGated, kept⟩ := configured_iff.mpr ⟨named, rest⟩
        obtain ⟨ref, service, found, -⟩ := registered.placed info member
        refine ⟨⟨data, _, gated, is, ?_, isCluster, isGated, configured_gatedIps _ _ _, kept⟩, ?_⟩
        · rw [foldl_nodes registered.distinct member, is]
          rfl
        · exact ⟨_, foldl_refs registered.distinct member found, rfl, rfl⟩
    · rw [ends]
      refine iff_of_false (fun impossible => nomatch impossible.1) fun works => not ?_
      obtain ⟨data, gated, is, -, configurable, -⟩ :=
        works.each info (split ▸ List.mem_append_right pre List.mem_cons_self)
      exact ⟨data, is, configurable⟩
  · rw [updateGated_of_unchecked registered answering checked]
    exact iff_of_false (fun impossible => nomatch impossible.1) fun works => checked works.checked

theorem configure_eq_self {info : EnvironmentInfoVo} {id : Int} {gateName : EnvironmentInfoVo → Option String}
    (stays : ∀ data, s.nodes info.environmentId type name = some data →
      Stays type info.gatedIps (gateName info) data) (saysSo : SaysSo s.db type id info) :
    s.configure type id name gateName info = s := by
  have nodes : s.nodes.put info.environmentId type name
      ((s.nodes info.environmentId type name).map (configured type info.gatedIps (gateName info))) = s.nodes := by
    cases is : s.nodes info.environmentId type name with
    | none => rw [Option.map_none, ← is, put_same]
    | some data => rw [Option.map_some, configured_eq_iff.mpr (stays data is), ← is, put_same]
  have db : s.db.updateGateCluster type id info = s.db := by
    obtain ⟨ref, found, serviceId, ips⟩ := saysSo
    unfold Database.updateGateCluster Database.updateRef
    rw [Table.update_eq_self]
    · unfold Database.setRefs
      rw [Function.update_eq_self]
    · intro other row
      split
      · next key =>
          have same : some other = some ref := (key ▸ Table.get_key row).symm.trans found
          obtain rfl := Option.some.inj same
          rw [← serviceId, ← ips]
      · rfl
  unfold State.configure
  rw [nodes, db]

theorem foldl_eq_self {infos : List EnvironmentInfoVo} {id : Int} {gateName : EnvironmentInfoVo → Option String}
    (each : ∀ info ∈ infos, (∀ data, s.nodes info.environmentId type name = some data →
      Stays type info.gatedIps (gateName info) data) ∧ SaysSo s.db type id info) :
    infos.foldl (State.configure · type id name gateName) s = s := by
  induction infos with
  | nil => rfl
  | cons info rest ih =>
      obtain ⟨first, others⟩ := List.forall_mem_cons.mp each
      rw [List.foldl_cons, configure_eq_self first.1 first.2]
      exact ih others

/-- A request is refused, with nothing changed, exactly where a check or a node in
time stops it. -/
theorem refused_iff (registered : Registered s type dto name) (answering : Answering s) :
    ((updateGated type dto s).1 = none ∧ (updateGated type dto s).2.nodes = s.nodes ∧
        (updateGated type dto s).2.db = s.db) ↔ Refuses s type dto name := by
  by_cases checked : Checked type s.db dto
  · obtain ⟨all, ends⟩ | ⟨pre, info, post, split, before, not, ends⟩ := updateGated_ends registered answering checked
    · rw [ends]
      refine iff_of_false (fun impossible => nomatch impossible.1) fun refuses => ?_
      obtain unchecked | ⟨pre, info, post, split, not, -⟩ := refuses
      · exact unchecked checked
      · exact not (all info (split ▸ List.mem_append_right pre List.mem_cons_self))
    · rw [ends]
      constructor
      · intro refused
        obtain ⟨-, nodes, db⟩ := refused
        have distinct : (pre.map (·.environmentId)).Nodup := by
          have all := registered.distinct
          rw [split, List.map_append] at all
          exact (List.nodup_append.mp all).1
        refine .inr ⟨pre, info, post, split, not, fun other member => ⟨before other member, ?_, ?_⟩⟩
        · intro data is
          have becomes := congrFun (congrFun (congrFun nodes other.environmentId) type) name
          rw [foldl_nodes distinct member, is] at becomes
          exact configured_eq_iff.mp (Option.some.inj becomes)
        · obtain ⟨ref, service, found, -⟩ := registered.placed other (split ▸ List.mem_append_left _ member)
          refine ⟨{ ref with gatedServiceId := other.gatedServiceId, gatedIps := other.gatedIps }, ?_, rfl, rfl⟩
          exact (congrArg (fun db : Database => (db.refs type).get (dto.id, other.environmentId)) db).symm.trans
            (foldl_refs distinct member found)
      · intro refuses
        obtain unchecked | ⟨pre', info', post', split', not', stays⟩ := refuses
        · exact absurd checked unchecked
        · obtain rfl := first_unique (split.symm.trans split') before not (fun other member => (stays other member).1) not'
          rw [foldl_eq_self fun other member => (stays other member).2]
          exact ⟨rfl, rfl, rfl⟩
  · rw [updateGated_of_unchecked registered answering checked]
    exact iff_of_true ⟨rfl, rfl, rfl⟩ (.inl checked)

end Law

/-- `updateGated` obeys its law exactly where a request for fitting clusters works and
one for others is refused in time. -/
theorem meets_iff {s : State} {type : ZmsType} {dto : GatedDTO} {name : String}
    (registered : Registered s type dto name) (answering : Answering s) :
    Meets s type dto name ↔
      ((∀ info ∈ dto.environments, ∃ gated, s.db.cluster info.gatedServiceId = some gated ∧
          gated.environmentId = info.environmentId ∧ Fits s.db type dto.id info gated) → Works s type dto name) ∧
      ((∃ info ∈ dto.environments, ∀ gated, s.db.cluster info.gatedServiceId = some gated →
          ¬Fits s.db type dto.id info gated) → Refuses s type dto name) := by
  have effect (fitting : ∀ info ∈ dto.environments, ∃ gated, s.db.cluster info.gatedServiceId = some gated ∧
      gated.environmentId = info.environmentId ∧ Fits s.db type dto.id info gated) :=
    takesEffect_iff registered answering fun info member => by
      obtain ⟨gated, isCluster, -, fits⟩ := fitting info member
      exact ⟨gated, isCluster, fits⟩
  have refused := refused_iff registered answering
  constructor
  · intro meets
    exact ⟨fun fitting => (effect fitting).mp (meets.succeeds fitting), fun bad => refused.mp (meets.refuses bad)⟩
  · intro conditions
    exact ⟨fun fitting => (effect fitting).mpr (conditions.1 fitting), fun bad => refused.mpr (conditions.2 bad)⟩

/-- A topic and its group on the cluster 10, with 11 for a gated launch. -/
def gateable : State where
  db := {
    environments := [1]
    services := .ofList [⟨⟨10, 1, "main", "ROCKETMQ", false⟩, "ENABLE"⟩, ⟨⟨11, 1, "gated", "ROCKETMQ", false⟩, "ENABLE"⟩]
    topics := .ofList [⟨⟨1, "orders", CREATE_APPROVED⟩, "owner", some 4⟩]
    consumers := .ofList [⟨⟨1, "billing", 1, CREATE_APPROVED, false, false, 0, 0⟩, "owner"⟩]
    refs _ := .ofList [.plain 1 1 (some 10)] }
  nodes _ type _ := match type with
    | .TOPIC => some ⟨"main", some "", some "", none, none, none, none, none⟩
    | .CONSUMER_GRUOP => some ⟨"main", some "", some "", none, some "orders", some "false", some "latest", some "null"⟩
  clusters _ name := some ⟨name, none, some .ROCKETMQ, none⟩
  answers _ := true

/-- A request for the gated cluster of its environment. -/
def gateRequest (name : String) : GatedDTO := ⟨1, name, none, none, none, [⟨1, some 10, some "10.0.0.1", some 11⟩]⟩

theorem registered_gateRequest (type : ZmsType) (name : String)
    (named : gateable.db.resourceName type 1 = some name) : Registered gateable type (gateRequest name) name where
  resource := named
  named _ := rfl
  distinct := List.nodup_singleton _
  placed info member := by
    obtain rfl := List.mem_singleton.mp member
    cases type <;> exact ⟨.plain 1 1 (some 10), ⟨⟨10, 1, "main", "ROCKETMQ", false⟩, "ENABLE"⟩, rfl, by decide⟩
  present info _ := by cases type <;> rfl

theorem fits_gateRequest (type : ZmsType) (name : String) : ∀ info ∈ (gateRequest name).environments, ∃ gated,
    gateable.db.cluster info.gatedServiceId = some gated ∧ gated.environmentId = info.environmentId ∧
      Fits gateable.db type (gateRequest name).id info gated := by
  intro info member
  obtain rfl := List.mem_singleton.mp member
  refine ⟨⟨⟨11, 1, "gated", "ROCKETMQ", false⟩, "ENABLE"⟩, by decide, rfl, rfl, ?_⟩
  cases type <;>
    exact ⟨.plain 1 1 (some 10), ⟨⟨10, 1, "main", "ROCKETMQ", false⟩, "ENABLE"⟩, .ROCKETMQ, rfl, by decide, rfl, rfl⟩

/-- The node of the topic is written without the gated cluster, and that of the group is not
written at all. -/
theorem not_meets_gateRequest :
    ¬Meets gateable .TOPIC (gateRequest "orders") "orders" ∧
      ¬Meets gateable .CONSUMER_GRUOP (gateRequest "billing") "billing" := by
  constructor
  · intro meets
    have effect := (meets.succeeds (fits_gateRequest .TOPIC "orders")).2 _ List.mem_cons_self
    obtain ⟨before, after, gated, -, becomes, -, isGated, -⟩ := effect.node
    have written : (updateGated .TOPIC (gateRequest "orders") gateable).2.nodes 1 .TOPIC "orders" =
        some ⟨"main", some "10.0.0.1", some "", none, none, none, none, none⟩ := by decide
    obtain rfl := Option.some.inj (written.symm.trans becomes)
    cases isGated
  · intro meets
    have succeeds := (meets.succeeds (fits_gateRequest .CONSUMER_GRUOP "billing")).1
    have throws : (updateGated .CONSUMER_GRUOP (gateRequest "billing") gateable).1 = none := by decide
    cases throws.symm.trans succeeds

theorem meets_iff_gateRequest : Meets gateable .CONSUMER_GRUOP (gateRequest "billing") "billing" ↔
    ((∀ info ∈ (gateRequest "billing").environments, ∃ gated, gateable.db.cluster info.gatedServiceId = some gated ∧
        gated.environmentId = info.environmentId ∧ Fits gateable.db .CONSUMER_GRUOP 1 info gated) →
      Works gateable .CONSUMER_GRUOP (gateRequest "billing") "billing") ∧
    ((∃ info ∈ (gateRequest "billing").environments, ∀ gated, gateable.db.cluster info.gatedServiceId = some gated →
        ¬Fits gateable.db .CONSUMER_GRUOP 1 info gated) →
      Refuses gateable .CONSUMER_GRUOP (gateRequest "billing") "billing") :=
  meets_iff (registered_gateRequest .CONSUMER_GRUOP "billing" (by decide)) fun _ => rfl

end Zms.Portal.Resources
