import Mathlib
import Zms.Transition.Guarded

/-! The account a subscriber of a partitioned log keeps: which records were
delivered to it, which have been finished, which are acknowledged, and the
positions up to which it has told the log so.

A committed position covers every lower record of its partition, finished or
not. The careful ledger is the discipline under which that loses nothing.
-/

set_option autoImplicit false

namespace Zms.Delivery

open Zms.Transition

/-- Where a record stands: its partition and its place there. -/
structure Placement (R K O : Type) where
  key : R → K
  offset : R → O

structure Ledger (R K O : Type) where
  delivered : Set R
  finished : Set R
  acked : Set R
  /-- Partitions with the highest offset a commit covers. -/
  committed : Set (K × O)

inductive Entry (R K O : Type) where
  | deliver (records : Set R)
  | finish (records : Set R)
  | ack (records : Set R)
  | commit (points : Set (K × O))

variable {R K O : Type} (place : Placement R K O)

namespace Ledger

def empty : Ledger R K O := ⟨∅, ∅, ∅, ∅⟩

def Admits (ledger : Ledger R K O) : Entry R K O → Prop
  | .deliver _ => True
  | .finish records => records ⊆ ledger.delivered
  | .ack records => records ⊆ ledger.finished
  | .commit points => ∀ point ∈ points, ∃ r ∈ ledger.acked, (place.key r, place.offset r) = point

def enter (ledger : Ledger R K O) : Entry R K O → Ledger R K O
  | .deliver records => { ledger with delivered := ledger.delivered ∪ records }
  | .finish records => { ledger with finished := ledger.finished ∪ records }
  | .ack records => { ledger with acked := ledger.acked ∪ records }
  | .commit points => { ledger with committed := ledger.committed ∪ points }

def book : Guarded (Ledger R K O) (Entry R K O) where
  init ledger := ledger = empty
  guard ledger entry := ledger.Admits place entry
  effect := enter

/-- What every run keeps, ordered or not. -/
structure Sound (ledger : Ledger R K O) : Prop where
  finished : ledger.finished ⊆ ledger.delivered
  acked : ledger.acked ⊆ ledger.finished
  committed : ∀ point ∈ ledger.committed, ∃ r ∈ ledger.acked, (place.key r, place.offset r) = point

variable {place}

theorem Sound.enter {ledger : Ledger R K O} {entry : Entry R K O} (sound : ledger.Sound place)
    (admitted : ledger.Admits place entry) : (ledger.enter entry).Sound place := by
  obtain ⟨finished, acked, committed⟩ := sound
  cases entry with
  | deliver records => exact ⟨fun r member => Or.inl (finished member), acked, committed⟩
  | finish records =>
    exact ⟨Set.union_subset finished admitted, fun r member => Or.inl (acked member), committed⟩
  | ack records =>
    refine ⟨finished, Set.union_subset acked admitted, fun point member => ?_⟩
    obtain ⟨r, known, same⟩ := committed point member
    exact ⟨r, Or.inl known, same⟩
  | commit points =>
    refine ⟨finished, acked, fun point member => ?_⟩
    rcases member with old | new
    · exact committed point old
    · exact admitted point new

theorem sound_empty : (empty : Ledger R K O).Sound place :=
  ⟨Set.empty_subset _, Set.empty_subset _, fun _ member => member.elim⟩

theorem sound_of_reachable {ledger : Ledger R K O} (reached : (book place).Reachable ledger) :
    ledger.Sound place := by
  refine reached.invariant (Sound place) ?_ fun ledger entry sound admitted => sound.enter admitted
  rintro _ rfl
  exact sound_empty

theorem finished_enter {ledger : Ledger R K O} (entry : Entry R K O) {r : R}
    (finished : r ∈ ledger.finished) : r ∈ (ledger.enter entry).finished := by
  cases entry with
  | finish records => exact Or.inl finished
  | _ => exact finished

theorem acked_enter {ledger : Ledger R K O} (entry : Entry R K O) {r : R} (acked : r ∈ ledger.acked) :
    r ∈ (ledger.enter entry).acked := by
  cases entry with
  | ack records => exact Or.inl acked
  | _ => exact acked

section Order
variable [LinearOrder O] (place)

/-- A commit covers the record. -/
def Covers (point : K × O) (r : R) : Prop := place.key r = point.1 ∧ place.offset r ≤ point.2

/-- New records of a partition lie above the delivered ones, and no commit
overtakes a delivered record that is still unfinished. -/
def Careful (ledger : Ledger R K O) : Entry R K O → Prop
  | .deliver records => ∀ r ∈ records, r ∈ ledger.delivered ∨
      ∀ s ∈ ledger.delivered, place.key s = place.key r → place.offset s < place.offset r
  | .finish _ | .ack _ => True
  | .commit points => ∀ point ∈ points, ∀ r ∈ ledger.delivered, Covers place point r →
      r ∈ ledger.finished

/-- Every delivered record that a commit covers is finished. -/
def AtLeastOnce (ledger : Ledger R K O) : Prop :=
  ∀ point ∈ ledger.committed, ∀ r ∈ ledger.delivered, Covers place point r → r ∈ ledger.finished

variable {place}

theorem AtLeastOnce.enter {ledger : Ledger R K O} {entry : Entry R K O}
    (kept : ledger.AtLeastOnce place) (sound : ledger.Sound place)
    (careful : ledger.Careful place entry) : (ledger.enter entry).AtLeastOnce place := by
  cases entry with
  | deliver records =>
    intro point committed r delivered covered
    rcases delivered with old | new
    · exact kept point committed r old covered
    · -- a new record lies above the acknowledged one that the commit stands for
      obtain ⟨s, acked, rfl⟩ := sound.committed point committed
      rcases careful r new with known | above
      · exact kept _ committed r known covered
      · have higher := above s (sound.finished (sound.acked acked)) covered.1.symm
        exact absurd higher (not_lt_of_ge covered.2)
  | finish records =>
    exact fun point committed r delivered covered => Or.inl (kept point committed r delivered covered)
  | ack records => exact kept
  | commit points =>
    intro point committed r delivered covered
    rcases committed with old | new
    · exact kept point old r delivered covered
    · exact careful point new r delivered covered

theorem atLeastOnce_of_careful {ledger : Ledger R K O}
    (reached : ((book place).restrict (Careful place)).Reachable ledger) :
    ledger.AtLeastOnce place := by
  have both : ledger.Sound place ∧ ledger.AtLeastOnce place := by
    apply reached.invariant (fun ledger => ledger.Sound place ∧ ledger.AtLeastOnce place)
    · rintro _ rfl
      exact ⟨sound_empty, fun _ member => member.elim⟩
    · rintro ledger entry ⟨sound, kept⟩ ⟨admitted, careful⟩
      exact ⟨sound.enter admitted, kept.enter sound careful⟩
  exact both.2

end Order

end Ledger

end Zms.Delivery
