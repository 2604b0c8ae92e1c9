import Mathlib
import Zms.Registry.Holds
import Zms.Transition.Guarded
import Zms.Zookeeper

/-! The backup of the origin environment's resources: what the service lists and
compares when it starts, and what it does with the child events that follow.

Creators make a node and write its data in two steps. The watch on the children
of a path fires once and is set again when the event is handled.
-/

set_option autoImplicit false

namespace Zms.Backup

open Zms.Registry Zms.Transition

/-- The clusters of the origin environment, the mapping of the configuration and
the names listed in the current environment. -/
structure Config where
  clusters : String → Option ClusterMetadata
  backupClusterMapper : Entries String String
  current : ZmsType → List String

/-- The listener whose `backup` is called, without the two environments. -/
inductive MetadataListener where
  | topic (clusterName name : String)
  | consumer (clusterName : String) (bindingTopic : Option String) (name : String)
  deriving DecidableEq, Repr

/-- Where the starting thread stands. `nodes` is what the subscription returned. -/
inductive Stage where
  | ready
  | reading (remaining : List String) (listed : List ConsumerGroupMetadata)
  | assigning (nodes : Option (List String)) (listed : List ConsumerGroupMetadata)
  | comparing (todo : List MetadataListener)
  | started
  deriving DecidableEq, Repr

namespace Stage

def isReading : Stage → Bool
  | .reading (_ :: _) _ => true
  | _ => false

def isListed : Stage → Bool
  | .reading [] _ => true
  | _ => false

def isAssigning : Stage → Bool
  | .assigning _ _ => true
  | _ => false

def isComparing : Stage → Bool
  | .comparing _ => true
  | _ => false

end Stage

/-- A call of the listener: the names it still looks at, and all of the event. -/
structure Handling where
  todo : List String
  currentChilds : List String
  deriving DecidableEq, Repr

/-- One kind of resources: the nodes of the origin environment, the watch on
their parent, the starting thread, the listener and the calls of `backup`. -/
structure Side where
  root : Bool
  children : List String
  data : String → Option Properties
  watch : Bool
  events : Nat
  stage : Stage
  currentNodes : Option (List String)
  handling : Option Handling
  backups : List MetadataListener

inductive Act where
  | createRoot
  | create (name : String)
  | write (name : String) (properties : Properties)
  | getChildren
  | readNext
  | subscribe
  | assign
  | compareNext
  | handle
  | handleNext
  deriving DecidableEq

def readZkInfo (config : Config) (type : ZmsType) (s : Side) (name : String) : Option ConsumerGroupMetadata :=
  Zms.readZkInfo config.clusters type name (s.data name)

def Metadata.getClusterName (metadata : ConsumerGroupMetadata) : Option String :=
  metadata.clusterMetadata.map (·.clusterName)

def Metadata.toListener (type : ZmsType) (currentCluster : String) (metadata : ConsumerGroupMetadata) :
    MetadataListener :=
  match type with
  | .TOPIC => .topic currentCluster metadata.name
  | .CONSUMER_GRUOP => .consumer currentCluster metadata.bindingTopic metadata.name

/-- The listed resources on a mapped cluster that the current environment lacks. -/
def compare (config : Config) (type : ZmsType) (listed : List ConsumerGroupMetadata) : List MetadataListener :=
  config.backupClusterMapper.entries.flatMap fun entry =>
    ((listed.filter fun metadata => Metadata.getClusterName metadata = some entry.1).filter fun metadata =>
      !(config.current type).contains metadata.name).map (Metadata.toListener type entry.2)

/-- What the listener does with a new name: the call of `backup`, if any. -/
def added (config : Config) (type : ZmsType) (s : Side) (name : String) : Option MetadataListener := do
  let metadata ← readZkInfo config type s name
  let currentCluster ← config.backupClusterMapper.lookup (← Metadata.getClusterName metadata)
  return Metadata.toListener type currentCluster metadata

/-- A call of `backup`, which catches its own exceptions. -/
def Side.backup (s : Side) (listener : MetadataListener) : Side := { s with backups := listener :: s.backups }

def Side.fire (s : Side) : Side :=
  if s.watch then { s with watch := false, events := s.events + 1 } else s

namespace Side

def guard (s : Side) : Act → Prop
  | .createRoot => s.root = false
  | .create name => s.root = true ∧ name ∉ s.children
  | .write name _ => name ∈ s.children ∧ s.data name = none
  | .getChildren => s.stage = .ready
  | .readNext => s.stage.isReading = true
  | .subscribe => s.stage.isListed = true
  | .assign => s.stage.isAssigning = true
  | .compareNext => s.stage.isComparing = true
  | .handle => 0 < s.events ∧ s.handling = none
  | .handleNext => s.handling ≠ none

def effect (config : Config) (type : ZmsType) (s : Side) : Act → Side
  | .createRoot => { s with root := true }.fire
  | .create name => { s with children := s.children ++ [name] }.fire
  | .write name properties => { s with data := Function.update s.data name (some properties) }
  | .getChildren => { s with stage := .reading (if s.root then s.children else []) [] }
  | .readNext => match s.stage with
    | .reading (name :: remaining) listed =>
        { s with stage := .reading remaining (listed ++ (readZkInfo config type s name).toList) }
    | _ => s
  | .subscribe => match s.stage with
    | .reading [] listed =>
        { s with watch := true, stage := .assigning (if s.root then some s.children else none) listed }
    | _ => s
  | .assign => match s.stage with
    | .assigning nodes listed => { s with currentNodes := nodes, stage := .comparing (compare config type listed) }
    | _ => s
  | .compareNext => match s.stage with
    | .comparing (listener :: todo) => { s with stage := .comparing todo }.backup listener
    | .comparing [] => { s with stage := .started }
    | _ => s
  | .handle =>
      let read := { s with watch := true, events := s.events - 1 }
      match s.currentNodes with
      -- without a remembered list the first name is a `NullPointerException`
      | none => if s.children = [] then { read with currentNodes := some [] } else read
      | some nodes => { read with handling := some ⟨s.children.filter (!nodes.contains ·), s.children⟩ }
  | .handleNext => match s.handling with
    | none => s
    | some ⟨[], currentChilds⟩ => { s with currentNodes := some currentChilds, handling := none }
    | some ⟨name :: todo, currentChilds⟩ =>
        let next := { s with handling := some ⟨todo, currentChilds⟩ }
        match added config type s name with
        | none => next
        | some listener => next.backup listener

end Side

/-- Both kinds, topics first in the starting thread; one event thread for both. -/
abbrev State := ZmsType → Side

structure Action where
  type : ZmsType
  act : Act
  deriving DecidableEq

def Action.turn (s : State) (a : Action) : Prop :=
  match a.act with
  | .getChildren => a.type = .CONSUMER_GRUOP → (s .TOPIC).stage = .started
  | .handle => (s a.type.other).handling = none
  | _ => True

instance (s : Side) (act : Act) : Decidable (s.guard act) := by
  apply Act.casesOn (motive := fun act => Decidable (s.guard act)) act <;> intros <;>
    dsimp only [Side.guard] <;> infer_instance

instance (s : State) (a : Action) : Decidable (a.turn s) := by
  apply Act.casesOn (motive := fun act => Decidable (Action.turn s ⟨a.type, act⟩)) a.act <;> intros <;>
    dsimp only [Action.turn] <;> infer_instance

/-- Before the start: nodes with data exist, and names are unique. -/
structure Side.Init (s : Side) : Prop where
  stage : s.stage = .ready
  watch : s.watch = false
  events : s.events = 0
  currentNodes : s.currentNodes = none
  handling : s.handling = none
  backups : s.backups = []
  written : ∀ name, (s.data name).isSome → name ∈ s.children
  root : s.root = false → s.children = []

def machine (config : Config) : Guarded State Action where
  init s := ∀ type, (s type).Init
  guard s a := (s a.type).guard a.act ∧ a.turn s
  effect s a := Function.update s a.type ((s a.type).effect config a.type a.act)

instance (config : Config) (s : State) (a : Action) : Decidable ((machine config).guard s a) :=
  inferInstanceAs (Decidable ((s a.type).guard a.act ∧ a.turn s))

end Zms.Backup
