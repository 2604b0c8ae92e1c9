import Mathlib
import Zms.Transition.Guarded

/-! `MessageAdminManagerAdapt`: the admin clients of the clusters, one for each
environment and cluster. Every manager listens to its cluster's node for good, and its
handler closes the client and then has the adapt remove what it holds for the cluster.
-/

set_option autoImplicit false

namespace Zms.Service.MessageAdminManagerAdapt

open Zms.Transition

/-- `generateKey`: the environment of the thread and the cluster. -/
abbrev Key := Option Int × String

/-- A `AbstractMessageMiddlewareManager`. It is `destroyed` once its client is closed; the
rest is what has happened to it: its node has `changed` since it was created, it has been
`cached` in the map, a `remove` or `reload` has `released` it. -/
structure Manager where
  key : Key
  destroyed : Bool
  changed : Bool
  cached : Bool
  released : Bool
  deriving DecidableEq, Repr

/-- How far the call of a thread is. From `creating` to `putting` and from `renewing` to
`replacing` it holds the lock. -/
inductive Progress where
  | idle
  | checking (key : Key)
  | entering (key : Key)
  | creating (key : Key)
  | putting (key : Key) (manager : Nat)
  /-- `getOrCreateAdmin` is out of the lock, before it reads the map for its result. -/
  | getting (key : Key)
  | reloading (key : Key)
  | renewing (key : Key)
  | replacing (key : Key) (manager : Nat)
  | removing (key : Key)
  deriving DecidableEq, Repr

/-- The next step of the call begins with the lock. -/
def Progress.enters : Progress → Bool
  | .entering _ | .reloading _ | .removing _ => true
  | _ => false

/-- What `getOrCreateAdmin` has returned for `key`: whether the cluster existed and the
manager, `none` for null, both as they were then. -/
structure Answer where
  key : Key
  existing : Bool
  manager : Option Manager
  deriving DecidableEq, Repr

/-- `pending` are the notifications on their way, `rollingBack` the handlers that have
closed their manager and not yet come to the adapt. `present` are the nodes of clusters. -/
structure State where
  managers : Nat → Option Manager
  created : Nat
  middlewareManagerMap : Key → Option Nat
  calls : Nat → Progress
  lock : Option Nat
  pending : List Nat
  rollingBack : List Nat
  present : Key → Bool
  returned : List Answer

inductive Action where
  | getOrCreateAdmin (thread : Nat) (key : Key)
  | reload (thread : Nat) (key : Key)
  | remove (thread : Nat) (key : Key)
  /-- A step of a call; a client that is to be created may fail to start. -/
  | advance (thread : Nat) (starts : Bool)
  /-- The node is written or deleted. -/
  | change (key : Key) (present : Bool)
  /-- `handleDataChange` or `handleDataDeleted`, up to its roll-back. -/
  | notify (manager : Nat)
  | rollBack (manager : Nat)
  deriving DecidableEq, Repr

namespace State
variable (s : State)

def goes (thread : Nat) (progress : Progress) : State := { s with calls := Function.update s.calls thread progress }

def alter (manager : Nat) (change : Manager → Manager) : State :=
  { s with managers := Function.update s.managers manager ((s.managers manager).map change) }

/-- `createAdmin`, with the subscription. -/
def createAdmin (key : Key) : State :=
  { s with
    managers := Function.update s.managers s.created (some ⟨key, false, false, false, false⟩)
    created := s.created + 1 }

def put (key : Key) (manager : Nat) : State :=
  { s.alter manager (fun m => { m with cached := true }) with
    middlewareManagerMap := Function.update s.middlewareManagerMap key (some manager) }

/-- `remove`, in the lock: the manager that is removed is destroyed, and its own roll-back
finds nothing any more. -/
def removeKey (key : Key) (releases : Bool) : State :=
  match s.middlewareManagerMap key with
  | none => s
  | some manager =>
      { s.alter manager (fun m => { m with destroyed := true, released := m.released || releases }) with
        middlewareManagerMap := Function.update s.middlewareManagerMap key none }

def locked (lock : Option Nat) : State := { s with lock }

def advance (thread : Nat) (starts : Bool) : State :=
  match s.calls thread with
  | .idle => s
  | .checking key => s.goes thread (if (s.middlewareManagerMap key).isSome then .getting key else .entering key)
  | .entering key =>
      if (s.middlewareManagerMap key).isSome then s.goes thread (.getting key)
      else (s.goes thread (.creating key)).locked (some thread)
  | .creating key =>
      if s.present key && starts then (s.createAdmin key).goes thread (.putting key s.created)
      else (s.goes thread .idle).locked none
  | .putting key manager => ((s.put key manager).goes thread (.getting key)).locked none
  | .getting key =>
      { s.goes thread .idle with
        returned := ⟨key, s.present key, (s.middlewareManagerMap key).bind s.managers⟩ :: s.returned }
  | .reloading key => ((s.removeKey key true).goes thread (.renewing key)).locked (some thread)
  | .renewing key =>
      if s.present key && starts then (s.createAdmin key).goes thread (.replacing key s.created)
      else (s.goes thread .idle).locked none
  | .replacing key manager => ((s.put key manager).goes thread .idle).locked none
  | .removing key => (s.removeKey key true).goes thread .idle

/-- All managers of the cluster are notified. -/
def change (key : Key) (present : Bool) : State :=
  { s with
    present := Function.update s.present key present
    managers := fun manager => (s.managers manager).map fun m => { m with changed := m.changed || m.key = key }
    pending := s.pending ++ (List.range s.created).filter fun manager => (s.managers manager).any fun m => m.key = key }

def notify (manager : Nat) : State :=
  { s.alter manager (fun m => { m with destroyed := true }) with
    pending := s.pending.erase manager, rollingBack := manager :: s.rollingBack }

def rollBack (manager : Nat) : State :=
  match s.managers manager with
  | none => s
  | some m => { s.removeKey m.key false with rollingBack := s.rollingBack.erase manager }

end State

def adapt : Guarded State Action where
  init s := (∀ manager, s.managers manager = none) ∧ (∀ key, s.middlewareManagerMap key = none) ∧
    (∀ thread, s.calls thread = .idle) ∧ s.lock = none ∧ s.pending = [] ∧ s.rollingBack = [] ∧ s.returned = []
  guard s
    | .getOrCreateAdmin thread _ | .reload thread _ | .remove thread _ => s.calls thread = .idle
    | .advance thread _ => s.calls thread ≠ .idle ∧ ((s.calls thread).enters = true → s.lock = none)
    | .change _ _ => True
    | .notify manager => manager ∈ s.pending
    | .rollBack manager => manager ∈ s.rollingBack ∧ s.lock = none
  effect s
    | .getOrCreateAdmin thread key => s.goes thread (.checking key)
    | .reload thread key => s.goes thread (.reloading key)
    | .remove thread key => s.goes thread (.removing key)
    | .advance thread starts => s.advance thread starts
    | .change key present => s.change key present
    | .notify manager => s.notify manager
    | .rollBack manager => s.rollBack manager

instance (s : State) (action : Action) : Decidable (adapt.guard s action) := by
  cases action <;> dsimp only [adapt] <;> infer_instance

end Zms.Service.MessageAdminManagerAdapt
