import Zms.Registry.Holds

/-! Maps that mirror a set of rows: each row under its own key and nothing else.

A map mirrors one set at most, so that whether it mirrors another is a question
about the two sets alone.
-/

set_option autoImplicit false

namespace Zms.Registry

variable {K V : Type} [DecidableEq K]

/-- The entries are exactly the rows, each under its own key. -/
def Mirrors (entries : Entries K V) (key : V → K) (rows : V → Prop) : Prop :=
  ∀ k v, entries.lookup k = some v ↔ rows v ∧ key v = k

namespace Mirrors

variable {entries : Entries K V} {key : V → K} {rows other : V → Prop}

theorem mem_iff (mirrors : Mirrors entries key rows) (v : V) : rows v ↔ entries.lookup (key v) = some v := by
  rw [mirrors (key v) v]
  exact (and_iff_left rfl).symm

theorem key_inj (mirrors : Mirrors entries key rows) {v w : V} (first : rows v) (second : rows w)
    (same : key v = key w) : v = w := by
  have found := (mirrors.mem_iff v).mp first
  rw [same, (mirrors.mem_iff w).mp second] at found
  exact (Option.some.inj found).symm

theorem rows_iff (mirrors : Mirrors entries key rows) : Mirrors entries key other ↔ ∀ v, rows v ↔ other v := by
  constructor
  · intro mirrors' v
    rw [mirrors.mem_iff, mirrors'.mem_iff]
  · intro same k v
    rw [mirrors k v, same v]

theorem empty : Mirrors (∅ : Entries K V) key fun _ => False := by
  intro k v
  rw [AList.lookup_empty]
  constructor
  · intro found
    cases found
  · intro absurdity
    exact absurdity.1.elim

theorem insert (mirrors : Mirrors entries key rows) (v : V) :
    Mirrors (entries.insert (key v) v) key fun w => w = v ∨ rows w ∧ key w ≠ key v := by
  intro k w
  by_cases same : k = key v
  · subst same
    rw [AList.lookup_insert]
    constructor
    · intro found
      obtain rfl := Option.some.inj found
      exact ⟨.inl rfl, rfl⟩
    · rintro ⟨rfl | ⟨_, differs⟩, equal⟩
      · rfl
      · exact absurd equal differs
  · rw [AList.lookup_insert_ne same, mirrors k w]
    constructor
    · rintro ⟨member, rfl⟩
      exact ⟨.inr ⟨member, same⟩, rfl⟩
    · rintro ⟨rfl | ⟨member, _⟩, rfl⟩
      · exact absurd rfl same
      · exact ⟨member, rfl⟩

theorem erase (mirrors : Mirrors entries key rows) (k : K) :
    Mirrors (entries.erase k) key fun w => rows w ∧ key w ≠ k := by
  intro l w
  by_cases same : l = k
  · subst same
    rw [AList.lookup_erase]
    constructor
    · intro found
      cases found
    · rintro ⟨⟨_, differs⟩, equal⟩
      exact absurd equal differs
  · rw [AList.lookup_erase_ne same, mirrors l w]
    constructor
    · rintro ⟨member, rfl⟩
      exact ⟨⟨member, same⟩, rfl⟩
    · rintro ⟨⟨member, _⟩, rfl⟩
      exact ⟨member, rfl⟩

theorem mem_values (mirrors : Mirrors entries key rows) (v : V) : v ∈ entries.values ↔ rows v := by
  constructor
  · intro member
    obtain ⟨k, found⟩ := Entries.exists_lookup_of_mem_values member
    exact ((mirrors k v).mp found).1
  · intro member
    exact Entries.mem_values_of_lookup ((mirrors.mem_iff v).mp member)

theorem eraseKeys (mirrors : Mirrors entries key rows) (gone : List V) :
    Mirrors (gone.foldl (fun entries v => entries.erase (key v)) entries) key
      fun w => rows w ∧ ∀ v ∈ gone, key w ≠ key v := by
  induction gone generalizing entries rows with
  | nil =>
    apply mirrors.rows_iff.mpr
    intro w
    simp only [List.not_mem_nil, false_implies, implies_true, and_true]
  | cons v rest ih =>
    apply (ih (mirrors.erase (key v))).rows_iff.mpr
    intro w
    simp only [List.forall_mem_cons, and_assoc]

theorem eraseWhere (mirrors : Mirrors entries key rows) (test : V → Bool) :
    Mirrors ((entries.values.filter test).foldl (fun entries v => entries.erase (key v)) entries) key
      fun w => rows w ∧ test w = false := by
  apply (mirrors.eraseKeys (entries.values.filter test)).rows_iff.mpr
  intro w
  constructor
  · rintro ⟨member, away⟩
    refine ⟨member, Bool.eq_false_iff.mpr fun tested => ?_⟩
    exact away w (List.mem_filter.mpr ⟨(mirrors.mem_values w).mpr member, tested⟩) rfl
  · rintro ⟨member, untested⟩
    refine ⟨member, fun v found same => ?_⟩
    obtain ⟨valued, tested⟩ := List.mem_filter.mp found
    obtain rfl := mirrors.key_inj member ((mirrors.mem_values v).mp valued) same
    rw [untested] at tested
    cases tested

end Mirrors

end Zms.Registry
