import Mathlib

/-! Registries: maps that hold every live object under its own key.

Objects are named by an index; `key` and `live` are what they are in one state.
-/

set_option autoImplicit false

namespace Zms.Registry

variable {K I : Type} [DecidableEq K]

abbrev Entries (K I : Type) := AList fun _ : K => I

namespace Entries

def putIfAbsent (entries : Entries K I) (k : K) (i : I) : Entries K I :=
  if (entries.lookup k).isSome then entries else entries.insert k i

def values (entries : Entries K I) : List I := entries.entries.map Sigma.snd

variable {entries : Entries K I} {k l : K} {i j : I}

theorem mem_values_of_lookup (found : entries.lookup k = some i) : i ∈ entries.values :=
  List.mem_map.mpr ⟨⟨k, i⟩, AList.mem_lookup_iff.mp found, rfl⟩

theorem lookup_putIfAbsent_of_some (found : entries.lookup k = some i) :
    (entries.putIfAbsent l j).lookup k = some i := by
  simp only [putIfAbsent]
  split
  · exact found
  · next free =>
    have other : k ≠ l := by
      rintro rfl
      exact free (Option.isSome_of_eq_some found)
    rw [AList.lookup_insert_ne other, found]

theorem lookup_putIfAbsent_of_none (free : entries.lookup k = none) :
    (entries.putIfAbsent k i).lookup k = some i := by
  rw [putIfAbsent, if_neg (by simp [free]), AList.lookup_insert]

theorem lookup_of_putIfAbsent (found : (entries.putIfAbsent l j).lookup k = some i) :
    entries.lookup k = some i ∨ k = l ∧ i = j := by
  simp only [putIfAbsent] at found
  split at found
  · exact .inl found
  · by_cases same : k = l
    · subst k
      rw [AList.lookup_insert] at found
      exact .inr ⟨rfl, (Option.some.inj found).symm⟩
    · rw [AList.lookup_insert_ne same] at found
      exact .inl found

theorem exists_lookup_of_mem_values (member : i ∈ entries.values) : ∃ k, entries.lookup k = some i := by
  obtain ⟨⟨k, _⟩, entry, rfl⟩ := List.mem_map.mp member
  exact ⟨k, AList.mem_lookup_iff.mpr entry⟩

theorem lookup_of_erase (found : (entries.erase l).lookup k = some i) : entries.lookup k = some i := by
  by_cases same : k = l
  · subst k
    rw [AList.lookup_erase] at found
    cases found
  · rwa [AList.lookup_erase_ne same] at found

end Entries

/-- Every live object is the value under its own key. -/
def Holds (entries : Entries K I) (key : I → K) (live : I → Prop) : Prop :=
  ∀ i, live i → entries.lookup (key i) = some i

namespace Holds

variable {entries : Entries K I} {key newKey : I → K} {live newLive : I → Prop}

theorem unique (held : Holds entries key live) {i j : I} (first : live i) (second : live j)
    (same : key i = key j) : i = j := by
  have found := held i first
  rw [same, held j second] at found
  exact (Option.some.inj found).symm

theorem mem_values (held : Holds entries key live) {i : I} (running : live i) : i ∈ entries.values :=
  Entries.mem_values_of_lookup (held i running)

theorem of_none_live (idle : ∀ i, ¬ live i) : Holds entries key live :=
  fun i running => absurd running (idle i)

theorem mono (held : Holds entries key live) (fewer : ∀ i, newLive i → live i)
    (keeps : ∀ i, newLive i → newKey i = key i) : Holds entries newKey newLive := by
  intro i running
  rw [keeps i running]
  exact held i (fewer i running)

theorem putIfAbsent (held : Holds entries key live) (k : K) (j : I) :
    Holds (entries.putIfAbsent k j) key live :=
  fun i running => Entries.lookup_putIfAbsent_of_some (held i running)

/-- Removing a key is safe exactly when its value is not live. -/
theorem erase_iff (held : Holds entries key live) (k : K) :
    Holds (entries.erase k) key live ↔ ∀ i, live i → key i ≠ k := by
  constructor
  · rintro kept i running rfl
    have gone := kept i running
    rw [AList.lookup_erase] at gone
    cases gone
  · intro spared i running
    rw [AList.lookup_erase_ne (spared i running)]
    exact held i running

end Holds

end Zms.Registry
