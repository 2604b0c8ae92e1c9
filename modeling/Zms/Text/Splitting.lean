import Mathlib

/-! Texts split at a separator, as Java splits them, and joined with it again. -/

set_option autoImplicit false

namespace Zms.Text

variable {α : Type}

theorem notMem_splitOn [BEq α] [LawfulBEq α] {c : α} {text word : List α} (member : word ∈ text.splitOn c) :
    c ∉ word := by
  induction text generalizing word with
  | nil =>
    rw [List.splitOn_nil, List.mem_singleton] at member
    rw [member]
    exact List.not_mem_nil
  | cons x rest ih =>
    rw [List.splitOn_cons_eq_if_modifyHead] at member
    split at member
    next same =>
      rcases List.mem_cons.mp member with rfl | later
      · exact List.not_mem_nil
      · exact ih later
    next differ =>
      cases parts : rest.splitOn c with
      | nil => exact absurd parts (List.splitOn_ne_nil c rest)
      | cons first more =>
        rw [parts, List.modifyHead_cons] at member
        rw [parts] at ih
        rcases List.mem_cons.mp member with rfl | later
        · refine fun inWord => (List.mem_cons.mp inWord).elim (fun same => differ (by simp [same])) ?_
          exact ih List.mem_cons_self
        · exact ih (List.mem_cons_of_mem _ later)

theorem intercalate_append (c : α) {front back : List (List α)} (someFront : front ≠ []) (someBack : back ≠ []) :
    [c].intercalate (front ++ back) = [c].intercalate front ++ [c] ++ [c].intercalate back := by
  induction front with
  | nil => exact absurd rfl someFront
  | cons word rest ih =>
    cases rest with
    | nil => rw [List.singleton_append, List.intercalate_cons_of_ne_nil someBack, List.intercalate_singleton]
    | cons next rest =>
      rw [List.cons_append, List.intercalate_cons_of_ne_nil (by simp), ih (by simp),
        List.intercalate_cons_of_ne_nil (List.cons_ne_nil next rest)]
      simp

/-- What stands between the separators. -/
def parts (c : Char) (text : String) : List String := (text.toList.splitOn c).map String.ofList

/-- Java's `split`: empty parts at the end are left out, but for a text without separator. -/
def split (c : Char) (text : String) : List String :=
  if c ∈ text.toList then (parts c text).rdropWhile (· = "") else [text]

def join (c : Char) (texts : List String) : String := (String.singleton c).intercalate texts

theorem toList_join (c : Char) (texts : List String) :
    (join c texts).toList = [c].intercalate (texts.map String.toList) := by
  rw [join, String.toList_intercalate, String.toList_singleton]

theorem parts_join {c : Char} {texts : List String} (free : ∀ text ∈ texts, c ∉ text.toList) (some : texts ≠ []) :
    parts c (join c texts) = texts := by
  have freeLists : ∀ list ∈ texts.map String.toList, c ∉ list := by
    intro list member
    obtain ⟨text, found, rfl⟩ := List.mem_map.mp member
    exact free text found
  rw [parts, toList_join, List.splitOn_intercalate c freeLists (by simpa using some), List.map_map]
  simp [Function.comp_def]

theorem split_eq_parts {c : Char} {text : String} (closed : text.toList.getLast? ≠ some c) :
    split c text = parts c text := by
  unfold split
  split
  next found =>
    rw [List.rdropWhile_eq_self_iff]
    intro some empty
    -- an empty last part would stand behind a separator at the end
    refine closed ?_
    obtain ⟨front, last, shape⟩ := List.eq_nil_or_concat (text.toList.splitOn c) |>.resolve_left
      (List.splitOn_ne_nil c _)
    rw [List.concat_eq_append] at shape
    have lastEmpty : last = [] := by
      simp only [parts, shape, List.map_append, List.map_cons, List.map_nil, List.getLast_append_singleton,
        decide_eq_true_eq] at empty
      simpa using congrArg String.toList empty
    have whole : [c].intercalate (text.toList.splitOn c) = text.toList := List.intercalate_splitOn c
    rw [shape, lastEmpty] at whole
    cases front with
    | nil =>
      rw [List.nil_append, List.intercalate_singleton] at whole
      rw [← whole] at found
      exact absurd found List.not_mem_nil
    | cons first rest =>
      rw [intercalate_append c (List.cons_ne_nil _ _) (List.cons_ne_nil _ _), List.intercalate_singleton] at whole
      rw [← whole]
      simp
  next missing => rw [parts, List.splitOn_eq_singleton missing, List.map_singleton, String.ofList_toList]

theorem getLast?_join {c : Char} {texts : List String} {last : String} (ends : texts.getLast? = some last)
    (nonempty : last ≠ "") : (join c texts).toList.getLast? = last.toList.getLast? := by
  obtain ⟨front, rfl⟩ := List.getLast?_eq_some_iff.mp ends
  have chars : last.toList ≠ [] := fun empty => nonempty (String.toList_injective empty)
  rw [toList_join, List.map_append]
  cases front with
  | nil => simp
  | cons first rest =>
    rw [intercalate_append c (by simp) (by simp), List.map_singleton, List.intercalate_singleton]
    exact List.getLast?_append_of_ne_nil _ chars

theorem split_join {c : Char} {texts : List String} (free : ∀ text ∈ texts, c ∉ text.toList) {last : String}
    (ends : texts.getLast? = some last) (nonempty : last ≠ "") : split c (join c texts) = texts := by
  have some : texts ≠ [] := by
    rintro rfl
    cases ends
  rw [split_eq_parts, parts_join free some]
  rw [getLast?_join ends nonempty]
  intro closes
  exact free last (List.mem_of_getLast? ends) (List.mem_of_getLast? closes)

end Zms.Text
