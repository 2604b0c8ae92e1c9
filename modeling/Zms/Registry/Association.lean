import Mathlib

/-! Lists of keys and values in which no key stands twice. -/

set_option autoImplicit false

namespace Zms.Registry

variable {κ ν : Type} [DecidableEq κ] {entries : List (κ × ν)} {key : κ} {value : ν}

theorem mem_of_lookup (found : entries.lookup key = some value) : (key, value) ∈ entries := by
  obtain ⟨before, after, split, _⟩ := List.lookup_eq_some_iff.mp found
  rw [split]
  exact List.mem_append_right before List.mem_cons_self

theorem lookup_of_mem (distinct : (entries.map Prod.fst).Nodup) (member : (key, value) ∈ entries) :
    entries.lookup key = some value := by
  induction entries with
  | nil => cases member
  | cons first rest ih =>
      obtain ⟨fresh, distinctRest⟩ := List.nodup_cons.mp distinct
      cases List.mem_cons.mp member with
      | inl isFirst =>
          subst isFirst
          exact List.lookup_cons_self
      | inr later =>
          have other : (key == first.1) = false := by
            apply beq_false_of_ne
            intro same
            apply fresh
            rw [← same]
            exact List.mem_map_of_mem later
          rw [List.lookup_cons, other]
          exact ih distinctRest later

theorem lookup_eq_some_iff_mem (distinct : (entries.map Prod.fst).Nodup) :
    entries.lookup key = some value ↔ (key, value) ∈ entries := by
  constructor
  · exact mem_of_lookup
  · exact lookup_of_mem distinct

theorem lookup_mapValues {ω : Type} (f : ν → ω) (entries : List (κ × ν)) (key : κ) :
    (entries.map fun entry => (entry.1, f entry.2)).lookup key = (entries.lookup key).map f := by
  induction entries with
  | nil => rfl
  | cons entry rest ih =>
      rw [List.map_cons, List.lookup_cons, List.lookup_cons, ih]
      cases key == entry.1 <;> rfl

theorem lookup_of_values {f : κ → ν} {keys : List κ} (member : key ∈ keys) :
    (keys.map fun key => (key, f key)).lookup key = some (f key) := by
  induction keys with
  | nil => cases member
  | cons first rest ih =>
      rw [List.map_cons]
      by_cases same : key = first
      · rw [same]
        exact List.lookup_cons_self
      · rw [List.lookup_cons, beq_false_of_ne same]
        exact ih ((List.mem_cons.mp member).resolve_left same)

theorem find?_of_mem {α : Type} {keyOf : α → κ} {elements : List α} (distinct : (elements.map keyOf).Nodup) {element : α}
    (member : element ∈ elements) : elements.find? (fun other => keyOf other = keyOf element) = some element := by
  induction elements with
  | nil => cases member
  | cons first rest ih =>
      obtain ⟨fresh, distinctRest⟩ := List.nodup_cons.mp distinct
      cases List.mem_cons.mp member with
      | inl isFirst =>
          rw [isFirst]
          exact List.find?_cons_of_pos (decide_eq_true rfl)
      | inr later =>
          have other : ¬decide (keyOf first = keyOf element) = true := by
            intro same
            apply fresh
            rw [of_decide_eq_true same]
            exact List.mem_map_of_mem later
          have skipped := List.find?_cons_of_neg (p := fun other => keyOf other = keyOf element) (l := rest) other
          exact skipped.trans (ih distinctRest later)

end Zms.Registry
