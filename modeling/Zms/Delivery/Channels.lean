import Zms.Transition.Guarded

/-! Bounded channels with one reader, which takes the oldest element and has it in hand until it is
done with it. -/

set_option autoImplicit false

namespace Zms.Delivery

open Zms.Transition

structure Channel (α : Type) where
  finished : List α
  hand : Option α
  queue : List α

namespace Channel

variable {α : Type}

def empty : Channel α := ⟨[], none, []⟩

/-- What has ever been accepted, in this order. -/
def accepted (channel : Channel α) : List α := channel.finished ++ channel.hand.toList ++ channel.queue

inductive Move (α : Type) where
  | offer (x : α)
  | take
  | finish

def guard (capacity : Nat) (channel : Channel α) : Move α → Prop
  | .offer _ => channel.queue.length < capacity
  | .take => channel.hand = none ∧ channel.queue ≠ []
  | .finish => channel.hand.isSome = true

def effect (channel : Channel α) : Move α → Channel α
  | .offer x => { channel with queue := channel.queue ++ [x] }
  | .take => { channel with hand := channel.queue.head?, queue := channel.queue.tail }
  | .finish => { channel with finished := channel.finished ++ channel.hand.toList, hand := none }

def bounded (capacity : Nat) : Guarded (Channel α) (Move α) where
  init channel := channel = empty
  guard := guard capacity
  effect := effect

theorem accepted_offer (channel : Channel α) (x : α) :
    (channel.effect (.offer x)).accepted = channel.accepted ++ [x] := by
  simp [accepted, effect]

theorem accepted_take {channel : Channel α} (free : channel.hand = none) :
    (channel.effect .take).accepted = channel.accepted := by
  simp only [accepted, effect, free]
  cases channel.queue <;> simp

theorem accepted_finish (channel : Channel α) : (channel.effect .finish).accepted = channel.accepted := by
  simp [accepted, effect]

theorem length_queue_le {capacity : Nat} {channel : Channel α} (reached : (bounded capacity).Reachable channel) :
    channel.queue.length ≤ capacity := by
  refine reached.invariant (fun channel => channel.queue.length ≤ capacity) ?_ ?_
  · rintro _ rfl
    exact Nat.zero_le capacity
  · intro channel move below enabled
    cases move with
    | offer x =>
      have room : channel.queue.length < capacity := enabled
      simpa [bounded, effect] using room
    | take =>
      refine Nat.le_trans ?_ below
      simp [bounded, effect]
    | finish => exact below

end Channel

end Zms.Delivery
