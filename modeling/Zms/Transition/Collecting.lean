import Mathlib

/-! A function that may fail, applied to each element of a list in turn. -/

set_option autoImplicit false

namespace Zms.Transition

variable {α β : Type} {f : α → Option β}

theorem mapM_eq_some_iff {xs : List α} {ys : List β} :
    xs.mapM f = some ys ↔ List.Forall₂ (fun x y => f x = some y) xs ys := by
  induction xs generalizing ys with
  | nil =>
    rw [List.mapM_nil, List.forall₂_nil_left_iff]
    exact ⟨fun done => (Option.some.inj done).symm, fun empty => congrArg some empty.symm⟩
  | cons x rest ih =>
    rw [List.mapM_cons, List.forall₂_cons_left_iff]
    constructor
    · intro done
      obtain ⟨y, first, others⟩ := Option.bind_eq_some_iff.mp done
      obtain ⟨zs, tail, whole⟩ := Option.bind_eq_some_iff.mp others
      exact ⟨y, zs, first, ih.mp tail, (Option.some.inj whole).symm⟩
    · rintro ⟨y, zs, first, tail, rfl⟩
      rw [first, ih.mpr tail]
      rfl

theorem exists_of_mem_mapM {xs : List α} {ys : List β} (all : xs.mapM f = some ys) {y : β} (member : y ∈ ys) :
    ∃ x ∈ xs, f x = some y := by
  have pairs := mapM_eq_some_iff.mp all
  induction pairs with
  | nil => cases member
  | cons first _ ih =>
    rcases List.mem_cons.mp member with rfl | later
    · exact ⟨_, List.mem_cons_self, first⟩
    · obtain ⟨x, found, same⟩ := ih (mapM_eq_some_iff.mpr ‹_›) later
      exact ⟨x, List.mem_cons_of_mem _ found, same⟩

theorem exists_of_mem_of_mapM {xs : List α} {ys : List β} (all : xs.mapM f = some ys) {x : α} (member : x ∈ xs) :
    ∃ y ∈ ys, f x = some y := by
  have pairs := mapM_eq_some_iff.mp all
  clear all
  induction pairs with
  | nil => cases member
  | cons first _ ih =>
    rcases List.mem_cons.mp member with rfl | later
    · exact ⟨_, List.mem_cons_self, first⟩
    · obtain ⟨y, found, same⟩ := ih later
      exact ⟨y, List.mem_cons_of_mem _ found, same⟩

theorem map_eq_of_mapM {γ : Type} {read : β → γ} {source : α → γ} (reads : ∀ x y, f x = some y → read y = source x)
    {xs : List α} {ys : List β} (all : xs.mapM f = some ys) : ys.map read = xs.map source := by
  have pairs := mapM_eq_some_iff.mp all
  clear all
  induction pairs with
  | nil => rfl
  | cons first _ ih => rw [List.map_cons, List.map_cons, ih, reads _ _ first]

theorem mapM_congr {g : α → Option β} {xs : List α} (same : ∀ x ∈ xs, f x = g x) : xs.mapM f = xs.mapM g := by
  induction xs with
  | nil => rfl
  | cons x rest ih =>
    rw [List.mapM_cons, List.mapM_cons, same x List.mem_cons_self,
      ih fun y member => same y (List.mem_cons_of_mem _ member)]

theorem mapM_flatMap {γ : Type} (lists : γ → List α) (cs : List γ) :
    (cs.flatMap lists).mapM f = (cs.mapM fun c => (lists c).mapM f).map List.flatten := by
  induction cs with
  | nil => rfl
  | cons c rest ih =>
    rw [List.flatMap_cons, List.mapM_append, ih, List.mapM_cons]
    cases (lists c).mapM f with
    | none => rfl
    | some ys => cases rest.mapM (fun c => (lists c).mapM f) <;> rfl

theorem mapM_map {γ : Type} (g : α → Option β) (wrap : α → β → γ) (read : γ → β) (reads : ∀ x y, read (wrap x y) = y)
    (xs : List α) : (xs.mapM fun x => (g x).map (wrap x)).map (List.map read) = xs.mapM g := by
  induction xs with
  | nil => rfl
  | cons x rest ih =>
    rw [List.mapM_cons, List.mapM_cons, ← ih]
    cases g x with
    | none => rfl
    | some y =>
      cases rest.mapM fun x => (g x).map (wrap x) with
      | none => rfl
      | some zs => exact congrArg some (congrArg (· :: zs.map read) (reads x y))

theorem exists_mapM {R : α → β → Prop} {xs : List α} (each : ∀ x ∈ xs, ∃ y, f x = some y ∧ R x y) :
    ∃ ys, xs.mapM f = some ys ∧ List.Forall₂ R xs ys := by
  induction xs with
  | nil => exact ⟨[], rfl, .nil⟩
  | cons x rest ih =>
    obtain ⟨y, first, related⟩ := each x List.mem_cons_self
    obtain ⟨ys, others, relatedRest⟩ := ih fun z member => each z (List.mem_cons_of_mem _ member)
    exact ⟨y :: ys, mapM_eq_some_iff.mpr (.cons first (mapM_eq_some_iff.mp others)), .cons related relatedRest⟩

theorem exists_mem_iff_of_forall₂ {R : α → β → Prop} {P : α → Prop} {Q : β → Prop} {xs : List α} {ys : List β}
    (related : List.Forall₂ R xs ys) (same : ∀ x y, R x y → (P x ↔ Q y)) : (∃ x ∈ xs, P x) ↔ ∃ y ∈ ys, Q y := by
  induction related with
  | nil => simp
  | cons first _ ih => simp only [List.mem_cons, exists_eq_or_imp, same _ _ first, ih]

end Zms.Transition
