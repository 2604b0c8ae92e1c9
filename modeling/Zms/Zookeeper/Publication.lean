import Zms.Registry.Writes
import Zms.Transition.Guarded
import Zms.Zookeeper.RoundTrip

/-! Calls that write and read metadata beside each other, each in its several round trips to
ZooKeeper: a node is created without data and written afterwards, and a reader asks for the node, its
data, the cluster and the gated cluster in turn.

Creating a node that is there already does nothing, as `createPersistent` with parents has it. A node
without data is one with the empty text, which the client takes the same way.
-/

set_option autoImplicit false

namespace Zms.Zookeeper

open Zms.Transition
open Zms.Registry.Writes (update_eq_some_iff)

inductive Path where
  | cluster (clusterName : String)
  | node (type : ZmsType) (name : String)
  deriving DecidableEq, Repr

section Stores

def Nodes.at (nodes : Nodes) : Path → Option String
  | .cluster clusterName => nodes.clusters clusterName
  | .node type name => nodes.data type name

def Nodes.set (nodes : Nodes) (text : Option String) : Path → Nodes
  | .cluster clusterName => { nodes with clusters := Function.update nodes.clusters clusterName text }
  | .node .TOPIC name => { nodes with topics := Function.update nodes.topics name text }
  | .node .CONSUMER_GRUOP name => { nodes with consumergroups := Function.update nodes.consumergroups name text }

theorem at_set (nodes : Nodes) (text : Option String) (path other : Path) :
    (nodes.set text path).at other = if other = path then text else nodes.at other := by
  cases path with
  | cluster clusterName =>
    cases other with
    | cluster otherName => simp [Nodes.at, Nodes.set, Function.update_apply]
    | node type name => cases type <;> rfl
  | node type name =>
    cases other with
    | cluster otherName => cases type <;> rfl
    | node otherType otherName =>
      cases type <;> cases otherType <;> simp [Nodes.at, Nodes.set, Nodes.data, Function.update_apply]

/-- What is made of the data of a cluster. -/
def clusterOf (clusterName text : String) : Option ClusterMetadata :=
  readClusterMetadata ⟨fun _ => some text, fun _ => none, fun _ => none⟩ clusterName

theorem readClusterMetadata_eq (nodes : Nodes) (clusterName : String) :
    readClusterMetadata nodes clusterName = (nodes.at (.cluster clusterName)).bind (clusterOf clusterName) := by
  unfold clusterOf readClusterMetadata
  cases found : nodes.clusters clusterName <;> simp [Nodes.at, found]

end Stores

/-! ### The calls -/

inductive Outcome where
  | null
  | exception
  | metadata (metadata : ConsumerGroupMetadata)
  deriving DecidableEq

/-- What a call does next, or how it ended. -/
inductive Phase where
  | checking (path : Path) (text : String)
  | creating (path : Path) (text : String)
  | writing (path : Path) (text : String)
  | written (path : Path) (text : String)
  /-- The node was deleted before it was written. -/
  | failed (path : Path) (text : String)
  | asking (type : ZmsType) (name : String)
  | reading (type : ZmsType) (name : String)
  | readingCluster (type : ZmsType) (name : String) (properties : Properties)
  | readingGated (type : ZmsType) (name : String) (properties : Properties) (cluster : ClusterMetadata)
      (gated : String)
  | ended (type : ZmsType) (name : String) (outcome : Outcome)
  | crashed
  deriving DecidableEq

/-- The metadata that `readZkInfo` puts together. -/
def assemble (type : ZmsType) (name : String) (properties : Properties) (cluster : ClusterMetadata)
    (gated : Option ClusterMetadata) : ConsumerGroupMetadata where
  type := type.getName
  name := name
  clusterMetadata := some cluster
  domain := none
  gatedIps := properties.gatedIps
  gatedCluster := gated
  statisticsLogger := properties.statisticsLogger
  bindingTopic := if type = .TOPIC then none else properties.bindingTopic
  consumeFrom := if type = .TOPIC then none else properties.consumeFrom
  broadcast := if type = .TOPIC then none else properties.broadcast
  suspend := if type = .TOPIC then none else properties.suspend

def Phase.next (nodes : Nodes) : Phase → Phase
  | .checking path text => if (nodes.at path).isSome then .writing path text else .creating path text
  | .creating path text => .writing path text
  | .writing path text => if (nodes.at path).isSome then .written path text else .failed path text
  | .asking type name =>
      if (nodes.at (.node type name)).isSome then .reading type name else .ended type name .null
  | .reading type name =>
      match (nodes.at (.node type name)).bind parseProperties with
      | some properties => .readingCluster type name (propertiesOf properties)
      | none => .ended type name .exception
  | .readingCluster type name properties =>
      match readClusterMetadata nodes properties.clusterName with
      | some cluster =>
          match properties.gated with
          | some gated => .readingGated type name properties cluster gated
          | none => .ended type name (.metadata (assemble type name properties cluster none))
      | none => .ended type name .exception
  | .readingGated type name properties cluster gated =>
      match readClusterMetadata nodes gated with
      | some gated => .ended type name (.metadata (assemble type name properties cluster (some gated)))
      | none => .ended type name .exception
  | phase => phase

def Phase.change (nodes : Nodes) : Phase → Nodes
  | .creating path _ => if (nodes.at path).isSome then nodes else nodes.set (some "") path
  | .writing path text => if (nodes.at path).isSome then nodes.set (some text) path else nodes
  | _ => nodes

/-- The text that a step makes public. -/
def Phase.publishes (nodes : Nodes) : Phase → List (Path × String)
  | .writing path text => if (nodes.at path).isSome then [(path, text)] else []
  | _ => []

def Phase.isOver : Phase → Bool
  | .written _ _ => true
  | .failed _ _ => true
  | .ended _ _ _ => true
  | .crashed => true
  | _ => false

/-- Metadata that one of the three methods writes. -/
inductive Written where
  | topic (metadata : TopicMetadata)
  | consumerGroup (metadata : ConsumerGroupMetadata)
  | cluster (metadata : ClusterMetadata)

def Written.path : Written → Path
  | .topic metadata => .node .TOPIC metadata.name
  | .consumerGroup metadata => .node .CONSUMER_GRUOP metadata.name
  | .cluster metadata => .cluster metadata.clusterName

def Written.data : Written → Option String
  | .topic metadata => buildTopicData metadata
  | .consumerGroup metadata => buildConsumerGroupData metadata
  | .cluster metadata => buildClusterData metadata

structure Call where
  phase : Phase
  /-- Whether the node had been written when the call began. -/
  known : Bool
  deriving DecidableEq

structure State (C : Type) where
  nodes : Nodes
  calls : C → Option Call
  /-- All texts that were written so far. -/
  published : List (Path × String)

inductive Action (C : Type) where
  | write (c : C) (written : Written)
  | read (c : C) (type : ZmsType) (name : String)
  | step (c : C)
  | crash (c : C)
  | delete (path : Path)

def isPublished (published : List (Path × String)) (path : Path) : Bool :=
  published.any fun entry => decide (entry.1 = path)

section Steps
variable {C : Type} [DecidableEq C]

def State.setCall (s : State C) (c : C) (call : Call) : State C :=
  { s with calls := Function.update s.calls c (some call) }

def State.step (s : State C) (c : C) (call : Call) : State C where
  nodes := call.phase.change s.nodes
  calls := Function.update s.calls c (some { call with phase := call.phase.next s.nodes })
  published := call.phase.publishes s.nodes ++ s.published

def effect (s : State C) : Action C → State C
  | .write c written =>
      s.setCall c ⟨.checking written.path (written.data.getD ""), isPublished s.published written.path⟩
  | .read c type name => s.setCall c ⟨.asking type name, isPublished s.published (.node type name)⟩
  | .step c => (s.calls c).elim s fun call => s.step c call
  | .crash c => (s.calls c).elim s fun call => s.setCall c { call with phase := .crashed }
  | .delete path => { s with nodes := s.nodes.set none path }

def guard (s : State C) : Action C → Prop
  | .write c written => s.calls c = none ∧ written.data.isSome = true
  | .read c _ _ => s.calls c = none
  | .step c => (s.calls c).any (fun call => !call.phase.isOver) = true
  | .crash c => (s.calls c).any (fun call => !call.phase.isOver) = true
  | .delete _ => True

instance guardDecidable (s : State C) (a : Action C) : Decidable (guard s a) :=
  Action.casesOn (motive := fun a => Decidable (guard s a)) a
    (fun c written => inferInstanceAs (Decidable (s.calls c = none ∧ written.data.isSome = true)))
    (fun c _ _ => inferInstanceAs (Decidable (s.calls c = none)))
    (fun c => inferInstanceAs (Decidable ((s.calls c).any (fun call => !call.phase.isOver) = true)))
    (fun c => inferInstanceAs (Decidable ((s.calls c).any (fun call => !call.phase.isOver) = true)))
    (fun _ => inferInstanceAs (Decidable True))

def start : State C where
  nodes := ⟨fun _ => none, fun _ => none, fun _ => none⟩
  calls _ := none
  published := []

def system (C : Type) [DecidableEq C] : Guarded (State C) (Action C) where
  init s := s = start
  guard := guard
  effect := effect

instance (s : State C) (a : Action C) : Decidable ((system C).guard s a) := guardDecidable s a

end Steps

/-! ### A read that is alone -/

section Alone
variable {nodes : Nodes} {type : ZmsType} {name : String} {metadata : ConsumerGroupMetadata}

theorem clusterName_of_clusterOf {clusterName text : String} {cluster : ClusterMetadata}
    (made : clusterOf clusterName text = some cluster) : cluster.clusterName = clusterName := by
  unfold clusterOf readClusterMetadata at made
  simp only [Option.bind_eq_bind, Option.bind_some] at made
  split at made
  · cases made
  · obtain ⟨properties, -, made⟩ := Option.bind_eq_some_iff.mp made
    obtain ⟨brokerType, -, made⟩ := Option.bind_eq_some_iff.mp made
    cases made
    rfl

theorem clusterName_of_read {clusterName : String} {cluster : ClusterMetadata}
    (read : readClusterMetadata nodes clusterName = some cluster) : cluster.clusterName = clusterName := by
  rw [readClusterMetadata_eq] at read
  obtain ⟨text, -, made⟩ := Option.bind_eq_some_iff.mp read
  exact clusterName_of_clusterOf made

theorem named_readClusterMetadata (clusterName : String) :
    Zms.readClusterMetadata (readClusterMetadata nodes) clusterName = readClusterMetadata nodes clusterName := by
  unfold Zms.readClusterMetadata
  cases read : readClusterMetadata nodes clusterName with
  | none => rfl
  | some cluster =>
    have named := clusterName_of_read read
    rw [Option.map_some, ← named]

/-- Between the same nodes, the round trips of a read give what `readZkInfo` gives at once. -/
theorem next_iterate (nodes : Nodes) (type : ZmsType) (name : String) (metadata : ConsumerGroupMetadata) :
    (Phase.next nodes)^[4] (.asking type name) = .ended type name (.metadata metadata) ↔
      readZkInfo nodes type name = some metadata := by
  simp only [Function.iterate_succ, Function.iterate_zero, Function.comp_apply, id]
  unfold readZkInfo
  have same : nodes.at (.node type name) = nodes.data type name := rfl
  cases found : nodes.data type name with
  | none => simp [Phase.next, same, found]
  | some text =>
    simp only [Phase.next, same, found, Option.isSome_some, if_true, Option.bind_some, Option.bind_eq_bind]
    cases parsed : parseProperties text with
    | none => simp
    | some properties =>
      simp only [Option.bind_some, Zms.readZkInfo, Option.bind_eq_bind, named_readClusterMetadata]
      cases main : readClusterMetadata nodes (propertiesOf properties).clusterName with
      | none => simp
      | some cluster =>
        by_cases notBlank : isNotBlank (propertiesOf properties).gatedCluster = true
        · have named : (propertiesOf properties).gated = (propertiesOf properties).gatedCluster := if_pos notBlank
          cases gated : (propertiesOf properties).gatedCluster with
          | none =>
            rw [gated] at notBlank
            cases notBlank
          | some gatedName =>
            rw [gated] at notBlank named
            cases other : readClusterMetadata nodes gatedName with
            | none => simp [named, notBlank, other]
            | some gatedCluster => simp [named, notBlank, other, assemble]
        · have named : (propertiesOf properties).gated = none := if_neg notBlank
          simp [named, notBlank, assemble]

end Alone

/-! ### What a read is made of -/

section Origins
variable {published : List (Path × String)} {source : ZmsType → String → String → Prop} {type : ZmsType} {name : String}
  {nodes : Nodes} {phase : Phase} {cluster : ClusterMetadata} {path : Path} {text : String}

/-- A cluster made of a text that was written as a whole. -/
def FromCluster (published : List (Path × String)) (cluster : ClusterMetadata) : Prop :=
  ∃ text, (.cluster cluster.clusterName, text) ∈ published ∧ clusterOf cluster.clusterName text = some cluster

/-- Properties of one text of the node, which `source` tells. -/
def FromNode (source : ZmsType → String → String → Prop) (type : ZmsType) (name : String) (properties : Properties) :
    Prop :=
  ∃ text entries, source type name text ∧ parseProperties text = some entries ∧ propertiesOf entries = properties

/-- Metadata of one text of the node, and of one text of each cluster that this text names. -/
def Composed (published : List (Path × String)) (source : ZmsType → String → String → Prop) (type : ZmsType)
    (name : String) (metadata : ConsumerGroupMetadata) : Prop :=
  ∃ properties cluster gated, FromNode source type name properties ∧
    cluster.clusterName = properties.clusterName ∧ FromCluster published cluster ∧
    gated.map ClusterMetadata.clusterName = properties.gated ∧ (∀ other ∈ gated, FromCluster published other) ∧
    metadata = assemble type name properties cluster gated

def Phase.Sound (published : List (Path × String)) (source : ZmsType → String → String → Prop) : Phase → Prop
  | .readingCluster type name properties => FromNode source type name properties
  | .readingGated type name properties cluster gated => FromNode source type name properties ∧
      cluster.clusterName = properties.clusterName ∧ FromCluster published cluster ∧ properties.gated = some gated
  | .ended type name (.metadata metadata) => Composed published source type name metadata
  | _ => True

/-- The nodes have nothing but what was written, or nothing yet. -/
def Stored (published : List (Path × String)) (nodes : Nodes) : Prop :=
  ∀ path text, nodes.at path = some text → text = "" ∨ (path, text) ∈ published

theorem Phase.Sound.mono {more : List (Path × String)} (sound : phase.Sound published source)
    (grown : ∀ entry ∈ published, entry ∈ more) {wider : ZmsType → String → String → Prop}
    (weaker : ∀ type name text, source type name text → wider type name text) : phase.Sound more wider := by
  have cluster : ∀ cluster, FromCluster published cluster → FromCluster more cluster := by
    rintro cluster ⟨text, member, made⟩
    exact ⟨text, grown _ member, made⟩
  have node : ∀ type name properties, FromNode source type name properties → FromNode wider type name properties := by
    rintro type name properties ⟨text, entries, known, parsed, same⟩
    exact ⟨text, entries, weaker _ _ _ known, parsed, same⟩
  cases phase with
  | readingCluster type name properties => exact node _ _ _ sound
  | readingGated type name properties first gated =>
    obtain ⟨origin, named, main, isGated⟩ := sound
    exact ⟨node _ _ _ origin, named, cluster _ main, isGated⟩
  | ended type name outcome =>
    cases outcome with
    | metadata metadata =>
      obtain ⟨properties, main, gated, origin, named, whole, isGated, others, made⟩ := sound
      exact ⟨properties, main, gated, node _ _ _ origin, named, cluster _ whole, isGated,
        fun other known => cluster _ (others other known), made⟩
    | null => trivial
    | exception => trivial
  | _ => trivial

/-- A text that a cluster can be made of is not the empty one. -/
theorem fromCluster_of_read (stored : Stored published nodes) {clusterName : String}
    (read : readClusterMetadata nodes clusterName = some cluster) : FromCluster published cluster := by
  have named := clusterName_of_read read
  rw [readClusterMetadata_eq] at read
  obtain ⟨text, found, made⟩ := Option.bind_eq_some_iff.mp read
  rcases stored _ text found with rfl | member
  · cases made
  · exact ⟨text, named ▸ member, named ▸ made⟩

theorem Phase.Sound.next (sound : phase.Sound published source) (stored : Stored published nodes)
    (known : ∀ type name, phase = .reading type name → ∀ text, nodes.at (.node type name) = some text →
      source type name text) : (phase.next nodes).Sound published source := by
  cases phase with
  | checking path text => simp only [Phase.next]; split <;> trivial
  | writing path text => simp only [Phase.next]; split <;> trivial
  | asking type name => simp only [Phase.next]; split <;> trivial
  | reading type name =>
    simp only [Phase.next]
    split
    · next entries parsed =>
      obtain ⟨text, found, parsed⟩ := Option.bind_eq_some_iff.mp parsed
      exact ⟨text, entries, known type name rfl text found, parsed, rfl⟩
    · trivial
  | readingCluster type name properties =>
    simp only [Phase.next]
    split
    · next cluster read =>
      have named := clusterName_of_read read
      have whole := fromCluster_of_read stored read
      split
      · next gated isGated => exact ⟨sound, named, whole, isGated⟩
      · next noGated =>
        exact ⟨properties, cluster, none, sound, named, whole, noGated.symm, by rintro _ ⟨⟩, rfl⟩
    · trivial
  | readingGated type name properties cluster gated =>
    obtain ⟨origin, named, whole, isGated⟩ := sound
    simp only [Phase.next]
    split
    · next other read =>
      refine ⟨properties, cluster, some other, origin, named, whole, ?_, ?_, rfl⟩
      · rw [isGated, Option.map_some, clusterName_of_read read]
      · rintro _ ⟨⟩
        exact fromCluster_of_read stored read
    · trivial
  | ended type name outcome => exact sound
  | _ => trivial

theorem Stored.change (stored : Stored published nodes) :
    Stored (phase.publishes nodes ++ published) (phase.change nodes) := by
  intro path text found
  cases phase with
  | creating created other =>
    simp only [Phase.change] at found
    split at found
    · exact stored path text found
    · rw [at_set] at found
      split at found
      · exact .inl (Option.some.inj found).symm
      · exact stored path text found
  | writing written other =>
    by_cases there : (nodes.at written).isSome = true
    · simp only [Phase.change, Phase.publishes, there, if_true, at_set] at found ⊢
      split at found
      · next own =>
        cases found
        exact .inr (own ▸ List.mem_cons_self)
      · exact (stored path text found).imp_right (List.mem_cons_of_mem _)
    · simp only [Phase.change, Phase.publishes, there] at found ⊢
      exact stored path text found
  | _ => exact stored path text found

end Origins

section Runs
variable {C : Type} [DecidableEq C] {s : State C}

/-- A text that was written, or that of a node without data. -/
def Anything (published : List (Path × String)) (type : ZmsType) (name text : String) : Prop :=
  text = "" ∨ (.node type name, text) ∈ published

structure Sound (s : State C) : Prop where
  stored : Stored s.published s.nodes
  calls : ∀ c call, s.calls c = some call → call.phase.Sound s.published (Anything s.published)

theorem Sound.setCall (sound : Sound s) (c : C) {call : Call}
    (known : call.phase.Sound s.published (Anything s.published)) : Sound (s.setCall c call) := by
  refine ⟨sound.stored, fun other later found => ?_⟩
  rcases update_eq_some_iff.mp found with ⟨-, same⟩ | ⟨-, found⟩
  · cases same
    exact known
  · exact sound.calls other later found

theorem Sound.step (sound : Sound s) {c : C} {call : Call} (held : s.calls c = some call) : Sound (s.step c call) := by
  have grown : ∀ entry ∈ s.published, entry ∈ call.phase.publishes s.nodes ++ s.published :=
    fun entry member => List.mem_append_right _ member
  have wider : ∀ type name text, Anything s.published type name text →
      Anything (call.phase.publishes s.nodes ++ s.published) type name text :=
    fun type name text known => known.imp_right (grown _)
  refine ⟨sound.stored.change, fun other later found => ?_⟩
  rcases update_eq_some_iff.mp found with ⟨-, same⟩ | ⟨-, found⟩
  · cases same
    have next := (sound.calls c call held).next sound.stored fun type name _ text present =>
      sound.stored (.node type name) text present
    exact next.mono grown wider
  · exact (sound.calls other later found).mono grown wider

theorem sound_effect (sound : Sound s) (a : Action C) : Sound (effect s a) := by
  cases a with
  | write c written => exact sound.setCall c trivial
  | read c type name => exact sound.setCall c trivial
  | step c =>
    cases held : s.calls c with
    | none => simpa [effect, held] using sound
    | some call =>
      simp only [effect, held, Option.elim_some]
      exact sound.step held
  | crash c =>
    cases held : s.calls c with
    | none => simpa [effect, held] using sound
    | some call =>
      simp only [effect, held, Option.elim_some]
      exact sound.setCall c trivial
  | delete path =>
    refine ⟨fun other text found => ?_, sound.calls⟩
    change (s.nodes.set none path).at other = some text at found
    rw [at_set] at found
    split at found
    · cases found
    · exact sound.stored other text found

theorem sound_of_reachable (reached : (system C).Reachable s) : Sound s := by
  refine reached.invariant Sound ?_ ?_
  · rintro _ rfl
    refine ⟨fun path text found => ?_, by rintro _ _ ⟨⟩⟩
    cases path with
    | cluster clusterName => cases found
    | node type name => cases type <;> cases found
  · intro s a sound _
    exact sound_effect sound a

/-- Whatever is written, deleted and broken off meanwhile, no read makes metadata of parts of texts:
one text of the node, and one of each cluster that it names. -/
theorem composed_of_reachable (reached : (system C).Reachable s) {c : C} {call : Call} (found : s.calls c = some call)
    {type : ZmsType} {name : String} {metadata : ConsumerGroupMetadata}
    (ended : call.phase = .ended type name (.metadata metadata)) :
    Composed s.published (Anything s.published) type name metadata := by
  have sound := (sound_of_reachable reached).calls c call found
  rwa [ended] at sound

def kafkaCluster : ClusterMetadata := ⟨"c", some "h", some .KAFKA, some "h"⟩

def orders : TopicMetadata where
  type := "topic"
  name := "orders"
  clusterMetadata := some kafkaCluster
  domain := none
  gatedIps := none
  gatedCluster := none
  statisticsLogger := none

/-- A cluster, two first writes of a topic beside each other, and a read that starts between them. -/
def firstWrites : List (Action Nat) :=
  [.write 0 (.cluster kafkaCluster), .step 0, .step 0, .step 0, .write 1 (.topic orders), .write 2 (.topic orders),
    .step 1, .step 2, .step 1, .step 2, .step 1, .read 3 .TOPIC "orders", .step 3, .step 2, .step 3, .step 3]

def ordersRead : ConsumerGroupMetadata :=
  assemble .TOPIC "orders" ⟨"c", some "", some "", none, none, none, none, none⟩ kafkaCluster none

theorem composed_of_firstWrites : ∃ s : State Nat, (system Nat).Reachable s ∧
    (s.calls 3).map Call.phase = some (.ended .TOPIC "orders" (.metadata ordersRead)) ∧
      Composed s.published (Anything s.published) .TOPIC "orders" ordersRead := by
  have run : ∃ s : State Nat, (system Nat).Reachable s ∧
      (s.calls 3).map Call.phase = some (.ended .TOPIC "orders" (.metadata ordersRead)) :=
    Guarded.exists_reachable firstWrites rfl (by decide +kernel)
  obtain ⟨s, reached, facts⟩ := run
  obtain ⟨call, found, ended⟩ := Option.map_eq_some_iff.mp facts
  exact ⟨s, reached, facts, composed_of_reachable reached found ended⟩

end Runs

/-! ### Clusters before the nodes that name them -/

section Ordered
variable {C : Type} {published : List (Path × String)} {nodes after : Nodes} {phase : Phase} {path : Path}
  {text : String}

/-- What is written can be read between the nodes. -/
def Ready (nodes : Nodes) (path : Path) (text : String) : Prop :=
  match path with
  | .cluster clusterName => (clusterOf clusterName text).isSome = true
  | .node type name => (readData nodes type name text).isSome = true

instance readyDecidable (nodes : Nodes) (path : Path) (text : String) : Decidable (Ready nodes path text) :=
  Path.casesOn (motive := fun path => Decidable (Ready nodes path text)) path
    (fun clusterName => inferInstanceAs (Decidable ((clusterOf clusterName text).isSome = true)))
    (fun type name => inferInstanceAs (Decidable ((readData nodes type name text).isSome = true)))

/-- Nothing is deleted, and the clusters that a text names were written before. -/
def Ordered (s : State C) : Action C → Prop
  | .write _ written => Ready s.nodes written.path (written.data.getD "")
  | .delete _ => False
  | _ => True

theorem readData_isSome_iff {type : ZmsType} {name : String} : (readData nodes type name text).isSome = true ↔
    ∃ entries, parseProperties text = some entries ∧ Readable (readClusterMetadata nodes) (propertiesOf entries) := by
  unfold readData
  cases parsed : parseProperties text with
  | none => simp
  | some entries =>
    rw [Option.bind_eq_bind, Option.bind_some, isSome_readZkInfo_iff]
    simp

structure Grows (nodes after : Nodes) : Prop where
  there : ∀ path, (nodes.at path).isSome = true → (after.at path).isSome = true
  clusters : ∀ clusterName, (readClusterMetadata nodes clusterName).isSome = true →
    (readClusterMetadata after clusterName).isSome = true

theorem Ready.mono (ready : Ready nodes path text) (grows : Grows nodes after) : Ready after path text := by
  cases path with
  | cluster clusterName => exact ready
  | node type name =>
    obtain ⟨entries, parsed, main, gated⟩ := readData_isSome_iff.mp ready
    exact readData_isSome_iff.mpr
      ⟨entries, parsed, grows.clusters _ main, fun other named => grows.clusters _ (gated other named)⟩

theorem grows_set (ready : Ready nodes path text) : Grows nodes (nodes.set (some text) path) := by
  refine ⟨fun other there => ?_, fun clusterName read => ?_⟩
  · rw [at_set]
    split
    · rfl
    · exact there
  · rw [readClusterMetadata_eq] at read ⊢
    rw [at_set]
    split
    · next own =>
      subst own
      exact ready
    · exact read

theorem grows_create (absent : nodes.at path = none) (text : String) : Grows nodes (nodes.set (some text) path) := by
  refine ⟨fun other there => ?_, fun clusterName read => ?_⟩
  · rw [at_set]
    split
    · rfl
    · exact there
  · rw [readClusterMetadata_eq] at read ⊢
    rw [at_set]
    split
    · next own =>
      rw [own, absent] at read
      cases read
    · exact read

/-- What is known of a call; `known` tells that the name had been written when it began. -/
def Phase.Live (nodes : Nodes) (published : List (Path × String)) (known : Bool) : Phase → Prop
  | .checking path text => Ready nodes path text
  | .creating path text => Ready nodes path text
  | .writing path text => Ready nodes path text ∧ (nodes.at path).isSome = true
  | .failed _ _ => False
  | .asking type name => known = true → ∃ text, (.node type name, text) ∈ published
  | .reading type name => known = true → ∃ text, (.node type name, text) ∈ published
  | .ended _ _ outcome => known = true → ∃ metadata, outcome = .metadata metadata
  | _ => True

/-- What was written can be read, and is still there or replaced. -/
structure Lasts (nodes : Nodes) (published : List (Path × String)) : Prop where
  ready : ∀ path text, (path, text) ∈ published → Ready nodes path text
  filled : ∀ path text, (path, text) ∈ published → ∃ now, nodes.at path = some now ∧ (path, now) ∈ published

theorem Phase.Live.mono {known : Bool} (live : phase.Live nodes published known) (grows : Grows nodes after)
    {more : List (Path × String)} (grown : ∀ entry ∈ published, entry ∈ more) : phase.Live after more known := by
  cases phase with
  | checking path text => exact Ready.mono live grows
  | creating path text => exact Ready.mono live grows
  | writing path text => exact ⟨live.1.mono grows, grows.there path live.2⟩
  | asking type name => exact fun isKnown => (live isKnown).imp fun text member => grown _ member
  | reading type name => exact fun isKnown => (live isKnown).imp fun text member => grown _ member
  | _ => exact live

theorem grows_change {known : Bool} (live : phase.Live nodes published known) : Grows nodes (phase.change nodes) := by
  have same : Grows nodes nodes := ⟨fun _ there => there, fun _ read => read⟩
  cases phase with
  | creating path text =>
    simp only [Phase.change]
    split
    · exact same
    · next absent => exact grows_create (Option.not_isSome_iff_eq_none.mp absent) ""
  | writing path text =>
    simp only [Phase.change]
    split
    · exact grows_set live.1
    · exact same
  | _ => exact same

theorem Lasts.change (lasts : Lasts nodes published) {known : Bool} (live : phase.Live nodes published known) :
    Lasts (phase.change nodes) (phase.publishes nodes ++ published) := by
  have grows := grows_change live
  cases phase with
  | creating path text =>
    refine ⟨fun other text member => (lasts.ready other text member).mono grows, fun other text member => ?_⟩
    obtain ⟨now, found, known⟩ := lasts.filled other text member
    refine ⟨now, ?_, known⟩
    simp only [Phase.change]
    split
    · exact found
    · next absent =>
      rw [at_set, if_neg, found]
      rintro rfl
      simp [found] at absent
  | writing path text =>
    obtain ⟨ready, there⟩ := live
    simp only [Phase.change, Phase.publishes, there, if_true] at grows ⊢
    refine ⟨fun other now member => ?_, fun other old member => ?_⟩
    · rcases List.mem_cons.mp member with same | earlier
      · cases same
        exact ready.mono grows
      · exact (lasts.ready other now earlier).mono grows
    · by_cases own : other = path
      · exact ⟨text, by rw [at_set, if_pos own], own ▸ List.mem_cons_self⟩
      · rcases List.mem_cons.mp member with same | earlier
        · cases same
          exact absurd rfl own
        · obtain ⟨now, found, known⟩ := lasts.filled other old earlier
          exact ⟨now, by rw [at_set, if_neg own, found], List.mem_cons_of_mem _ known⟩
  | _ => exact lasts

def Published (published : List (Path × String)) (type : ZmsType) (name text : String) : Prop :=
  (.node type name, text) ∈ published

/-- Once a name is written, no round trip of a read fails. -/
theorem Phase.Live.next {known : Bool} (live : phase.Live nodes published known) (lasts : Lasts nodes published)
    (sound : known = true → phase.Sound published (Published published)) :
    (phase.next nodes).Live (phase.change nodes) (phase.publishes nodes ++ published) known := by
  have grows := grows_change live
  have readable : known = true → ∀ type name properties, FromNode (Published published) type name properties →
      Readable (readClusterMetadata nodes) properties := by
    rintro - type name _ ⟨text, entries, member, parsed, rfl⟩
    obtain ⟨others, also, readable⟩ := readData_isSome_iff.mp (lasts.ready _ _ member)
    cases parsed.symm.trans also
    exact readable
  cases phase with
  | checking path text =>
    simp only [Phase.next]
    split
    · next there => exact ⟨live, there⟩
    · exact live
  | creating path text =>
    refine ⟨Ready.mono live grows, ?_⟩
    simp only [Phase.change]
    split
    · next there => exact there
    · rw [at_set, if_pos rfl]
      rfl
  | writing path text =>
    rw [Phase.next, if_pos live.2]
    trivial
  | asking type name =>
    simp only [Phase.next]
    split
    · exact live
    · next absent =>
      intro isKnown
      obtain ⟨text, member⟩ := live isKnown
      obtain ⟨now, found, -⟩ := lasts.filled _ text member
      rw [found] at absent
      exact absurd rfl absent
  | reading type name =>
    simp only [Phase.next]
    split
    · trivial
    · next unparsed =>
      intro isKnown
      obtain ⟨text, member⟩ := live isKnown
      obtain ⟨now, found, written⟩ := lasts.filled _ text member
      obtain ⟨entries, parsed, -⟩ := readData_isSome_iff.mp (lasts.ready _ now written)
      rw [found, Option.bind_some, parsed] at unparsed
      cases unparsed
  | readingCluster type name properties =>
    simp only [Phase.next]
    split
    · split
      · trivial
      · exact fun _ => ⟨_, rfl⟩
    · next unread =>
      intro isKnown
      have found := (readable isKnown type name properties (sound isKnown)).cluster
      rw [unread] at found
      cases found
  | readingGated type name properties cluster gated =>
    simp only [Phase.next]
    split
    · exact fun _ => ⟨_, rfl⟩
    · next unread =>
      intro isKnown
      obtain ⟨origin, -, -, isGated⟩ := sound isKnown
      have found := (readable isKnown type name properties origin).gated gated isGated
      rw [unread] at found
      cases found
  | failed path text => exact live
  | ended type name outcome => exact live
  | _ => trivial

structure Safe (s : State C) : Prop where
  stored : Stored s.published s.nodes
  lasts : Lasts s.nodes s.published
  live : ∀ c call, s.calls c = some call → call.phase.Live s.nodes s.published call.known
  sound : ∀ c call, s.calls c = some call → call.known = true →
    call.phase.Sound s.published (Published s.published)

variable [DecidableEq C] {s : State C}

theorem Safe.setCall (safe : Safe s) (c : C) {call : Call} (live : call.phase.Live s.nodes s.published call.known)
    (sound : call.phase.Sound s.published (Published s.published)) : Safe (s.setCall c call) := by
  refine ⟨safe.stored, safe.lasts, fun other later found => ?_, fun other later found => ?_⟩
  · rcases update_eq_some_iff.mp found with ⟨-, same⟩ | ⟨-, found⟩
    · cases same
      exact live
    · exact safe.live other later found
  · rcases update_eq_some_iff.mp found with ⟨-, same⟩ | ⟨-, found⟩
    · cases same
      exact fun _ => sound
    · exact safe.sound other later found

theorem Safe.step (safe : Safe s) {c : C} {call : Call} (held : s.calls c = some call) : Safe (s.step c call) := by
  have own := safe.live c call held
  have grows := grows_change own
  have grown : ∀ entry ∈ s.published, entry ∈ call.phase.publishes s.nodes ++ s.published :=
    fun entry member => List.mem_append_right _ member
  refine ⟨safe.stored.change, safe.lasts.change own, fun other later found => ?_, fun other later found isKnown => ?_⟩
  · rcases update_eq_some_iff.mp found with ⟨-, same⟩ | ⟨-, found⟩
    · cases same
      exact own.next safe.lasts (safe.sound c call held)
    · exact (safe.live other later found).mono grows grown
  · rcases update_eq_some_iff.mp found with ⟨-, same⟩ | ⟨-, found⟩
    · cases same
      refine Phase.Sound.mono ((safe.sound c call held isKnown).next safe.stored ?_) grown
        fun type name text member => grown _ member
      intro type name reading text found
      have live := own
      rw [reading] at live
      obtain ⟨before, member⟩ := live isKnown
      obtain ⟨now, there, written⟩ := safe.lasts.filled _ before member
      cases there.symm.trans found
      exact written
    · exact (safe.sound other later found isKnown).mono grown fun type name text member => grown _ member

theorem exists_of_isPublished (known : isPublished published path = true) : ∃ text, (path, text) ∈ published := by
  obtain ⟨⟨other, text⟩, member, same⟩ := List.any_eq_true.mp known
  obtain rfl : other = path := of_decide_eq_true same
  exact ⟨text, member⟩

theorem safe_effect (safe : Safe s) (a : Action C) (ordered : Ordered s a) : Safe (effect s a) := by
  cases a with
  | write c written => exact safe.setCall c ordered trivial
  | read c type name => exact safe.setCall c exists_of_isPublished trivial
  | step c =>
    cases held : s.calls c with
    | none => simpa [effect, held] using safe
    | some call =>
      simp only [effect, held, Option.elim_some]
      exact safe.step held
  | crash c =>
    cases held : s.calls c with
    | none => simpa [effect, held] using safe
    | some call =>
      simp only [effect, held, Option.elim_some]
      exact safe.setCall c trivial trivial
  | delete path => exact ordered.elim

theorem safe_of_reachable (reached : ((system C).restrict Ordered).Reachable s) : Safe s := by
  refine reached.invariant Safe ?_ ?_
  · rintro _ rfl
    exact ⟨(sound_of_reachable (.start rfl)).stored, ⟨by rintro _ _ ⟨⟩, by rintro _ _ ⟨⟩⟩, by rintro _ _ ⟨⟩,
      by rintro _ _ ⟨⟩⟩
  · rintro s a safe ⟨-, ordered⟩
    exact safe_effect safe a ordered

/-- No write fails, not even two first ones beside each other, and a read that begins when its name
was written gives metadata, of texts written as a whole. -/
theorem read_of_ordered (reached : ((system C).restrict Ordered).Reachable s) {c : C} {call : Call}
    (found : s.calls c = some call) : (∀ path text, call.phase ≠ .failed path text) ∧
      ∀ type name outcome, call.phase = .ended type name outcome → call.known = true →
        ∃ metadata, outcome = .metadata metadata ∧
          Composed s.published (Published s.published) type name metadata := by
  have safe := safe_of_reachable reached
  have live := safe.live c call found
  refine ⟨fun path text failed => ?_, fun type name outcome ended isKnown => ?_⟩
  · rw [failed] at live
    exact live
  · rw [ended] at live
    obtain ⟨metadata, rfl⟩ := live isKnown
    have sound := safe.sound c call found isKnown
    rw [ended] at sound
    exact ⟨metadata, rfl, sound⟩

instance (s : State C) (a : Action C) : Decidable (Ordered s a) :=
  Action.casesOn (motive := fun a => Decidable (Ordered s a)) a
    (fun _ written => readyDecidable s.nodes written.path (written.data.getD ""))
    (fun _ _ _ => inferInstanceAs (Decidable True)) (fun _ => inferInstanceAs (Decidable True))
    (fun _ => inferInstanceAs (Decidable True)) (fun _ => inferInstanceAs (Decidable False))

theorem read_of_firstWrites : ∃ (s : State Nat) (call : Call), ((system Nat).restrict Ordered).Reachable s ∧
    s.calls 3 = some call ∧ call = ⟨.ended .TOPIC "orders" (.metadata ordersRead), true⟩ ∧
      (∀ path text, call.phase ≠ .failed path text) ∧
      ∀ type name outcome, call.phase = .ended type name outcome → call.known = true →
        ∃ metadata, outcome = .metadata metadata ∧
          Composed s.published (Published s.published) type name metadata := by
  have run : ∃ s : State Nat, ((system Nat).restrict Ordered).Reachable s ∧
      s.calls 3 = some ⟨.ended .TOPIC "orders" (.metadata ordersRead), true⟩ :=
    Guarded.exists_reachable firstWrites rfl (by decide +kernel)
  obtain ⟨s, reached, found⟩ := run
  exact ⟨s, _, reached, found, rfl, read_of_ordered reached found⟩

end Ordered

end Zms.Zookeeper
