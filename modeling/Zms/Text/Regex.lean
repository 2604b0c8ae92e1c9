import Mathlib

/-! Regular expressions over classes of letters, what they match as a whole, and a matcher. -/

set_option autoImplicit false

namespace Zms.Text

inductive Regex (α : Type) where
  | fails
  | empty
  | one (accepts : α → Bool)
  | append (first rest : Regex α)
  | either (first second : Regex α)
  | many (body : Regex α)

namespace Regex

variable {α : Type}

inductive Matches : Regex α → List α → Prop where
  | empty : Matches empty []
  | one {accepts : α → Bool} {a : α} : accepts a = true → Matches (one accepts) [a]
  | append {first rest : Regex α} {l r : List α} : Matches first l → Matches rest r → Matches (append first rest) (l ++ r)
  | left {first second : Regex α} {l : List α} : Matches first l → Matches (either first second) l
  | right {first second : Regex α} {l : List α} : Matches second l → Matches (either first second) l
  | stop {body : Regex α} : Matches (many body) []
  | more {body : Regex α} {l r : List α} : Matches body l → Matches (many body) r → Matches (many body) (l ++ r)

def nullable : Regex α → Bool
  | fails | one _ => false
  | empty | many _ => true
  | append first rest => first.nullable && rest.nullable
  | either first second => first.nullable || second.nullable

/-- What is left to match after the letter. -/
def derivative (a : α) : Regex α → Regex α
  | fails | empty => fails
  | one accepts => if accepts a then empty else fails
  | append first rest =>
      if first.nullable then either (append (first.derivative a) rest) (rest.derivative a)
      else append (first.derivative a) rest
  | either first second => either (first.derivative a) (second.derivative a)
  | many body => append (body.derivative a) (many body)

def matchesAll : Regex α → List α → Bool
  | regex, [] => regex.nullable
  | regex, a :: rest => (regex.derivative a).matchesAll rest

theorem append_matches_iff {first rest : Regex α} {l : List α} :
    (append first rest).Matches l ↔ ∃ before after, l = before ++ after ∧ first.Matches before ∧ rest.Matches after := by
  constructor
  · rintro (_ | _ | ⟨left, right⟩)
    exact ⟨_, _, rfl, left, right⟩
  · rintro ⟨before, after, rfl, left, right⟩
    exact .append left right

theorem either_matches_iff {first second : Regex α} {l : List α} :
    (either first second).Matches l ↔ first.Matches l ∨ second.Matches l := by
  constructor
  · intro matched
    cases matched with
    | left left => exact .inl left
    | right right => exact .inr right
  · rintro (left | right)
    · exact .left left
    · exact .right right

theorem one_matches_iff {accepts : α → Bool} {l : List α} :
    (one accepts).Matches l ↔ ∃ a, accepts a = true ∧ l = [a] := by
  constructor
  · intro matched
    cases matched with
    | one accepted => exact ⟨_, accepted, rfl⟩
  · rintro ⟨a, accepted, rfl⟩
    exact .one accepted

theorem nullable_iff (regex : Regex α) : regex.nullable = true ↔ regex.Matches [] := by
  induction regex with
  | fails => exact iff_of_false nofun nofun
  | empty => exact iff_of_true rfl .empty
  | one accepts =>
    refine iff_of_false nofun fun matched => ?_
    obtain ⟨a, -, impossible⟩ := one_matches_iff.mp matched
    cases impossible
  | append first rest ihFirst ihRest =>
    simp only [nullable, Bool.and_eq_true, ihFirst, ihRest, append_matches_iff]
    constructor
    · rintro ⟨left, right⟩
      exact ⟨[], [], rfl, left, right⟩
    · rintro ⟨before, after, same, left, right⟩
      obtain ⟨rfl, rfl⟩ := List.append_eq_nil_iff.mp same.symm
      exact ⟨left, right⟩
  | either first second ihFirst ihSecond =>
    simp only [nullable, Bool.or_eq_true, ihFirst, ihSecond, either_matches_iff]
  | many body => exact iff_of_true rfl .stop

/-- A nonempty match of a repetition begins with a nonempty match of its body. -/
theorem many_matches_cons {body : Regex α} {a : α} {l : List α} (matched : (many body).Matches (a :: l)) :
    ∃ before after, l = before ++ after ∧ body.Matches (a :: before) ∧ (many body).Matches after := by
  generalize whole : a :: l = text at matched
  generalize shape : many body = regex at matched
  induction matched with
  | empty | one _ | append _ _ | left _ | right _ => cases shape
  | stop => cases whole
  | @more repeated before after first rest _ ih =>
    cases shape
    cases before with
    | nil => exact ih whole rfl
    | cons head tail =>
      obtain ⟨rfl, rfl⟩ := List.cons.inj whole
      exact ⟨tail, after, rfl, first, rest⟩

theorem derivative_iff (regex : Regex α) (a : α) (l : List α) :
    (regex.derivative a).Matches l ↔ regex.Matches (a :: l) := by
  induction regex generalizing l with
  | fails => exact iff_of_false nofun nofun
  | empty => exact iff_of_false nofun nofun
  | one accepts =>
    rw [one_matches_iff, derivative]
    split
    · next accepted =>
      constructor
      · rintro ⟨⟩
        exact ⟨a, accepted, rfl⟩
      · rintro ⟨b, -, same⟩
        obtain ⟨-, rfl⟩ := List.cons.inj same
        exact .empty
    · next refused =>
      refine iff_of_false nofun ?_
      rintro ⟨b, accepted, same⟩
      obtain ⟨rfl, -⟩ := List.cons.inj same
      exact refused accepted
  | append first rest ihFirst ihRest =>
    have through : (append (first.derivative a) rest).Matches l ↔
        ∃ before after, l = before ++ after ∧ first.Matches (a :: before) ∧ rest.Matches after := by
      simp only [append_matches_iff, ihFirst]
    -- the first part of the match is empty or begins with the letter
    have splits : (append first rest).Matches (a :: l) ↔
        (∃ before after, l = before ++ after ∧ first.Matches (a :: before) ∧ rest.Matches after) ∨
          first.Matches [] ∧ rest.Matches (a :: l) := by
      rw [append_matches_iff]
      constructor
      · rintro ⟨before, after, same, left, right⟩
        cases before with
        | nil => exact .inr ⟨left, same ▸ right⟩
        | cons head tail =>
          obtain ⟨rfl, rfl⟩ := List.cons.inj same
          exact .inl ⟨tail, after, rfl, left, right⟩
      · rintro (⟨before, after, rfl, left, right⟩ | ⟨left, right⟩)
        · exact ⟨a :: before, after, rfl, left, right⟩
        · exact ⟨[], a :: l, rfl, left, right⟩
    rw [splits, ← nullable_iff, derivative]
    split
    · next nothing => simp only [either_matches_iff, through, ihRest, nothing, true_and]
    · next something => simp only [through, something, Bool.false_eq_true, false_and, or_false]
  | either first second ihFirst ihSecond => simp only [derivative, either_matches_iff, ihFirst, ihSecond]
  | many body ih =>
    simp only [derivative, append_matches_iff, ih]
    constructor
    · rintro ⟨before, after, rfl, first, rest⟩
      exact .more first rest
    · exact many_matches_cons

theorem matchesAll_iff (regex : Regex α) (l : List α) : regex.matchesAll l = true ↔ regex.Matches l := by
  induction l generalizing regex with
  | nil => exact nullable_iff regex
  | cons a rest ih => exact (ih (regex.derivative a)).trans (derivative_iff regex a rest)

def literal [DecidableEq α] : List α → Regex α
  | [] => empty
  | a :: rest => append (one fun b => b = a) (literal rest)

theorem literal_matches_iff [DecidableEq α] (word l : List α) : (literal word).Matches l ↔ l = word := by
  induction word generalizing l with
  | nil =>
    constructor
    · rintro ⟨⟩
      rfl
    · rintro rfl
      exact .empty
  | cons a rest ih =>
    simp only [literal, append_matches_iff, one_matches_iff, ih, decide_eq_true_eq]
    constructor
    · rintro ⟨_, _, rfl, ⟨b, rfl, rfl⟩, rfl⟩
      rfl
    · rintro rfl
      exact ⟨[a], rest, rfl, ⟨a, rfl, rfl⟩, rfl⟩

end Regex

end Zms.Text
