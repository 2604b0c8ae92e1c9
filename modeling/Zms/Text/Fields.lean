import Mathlib.Data.List.Basic
import Mathlib.Data.List.Infix
import Mathlib.Data.List.Nodup

/-! Fields written one after the other, as words. The first word of a field is marked with its
key; a free field may have more words, which may look as if they were marked, too. -/

set_option autoImplicit false

namespace Zms.Text

variable {K W : Type}

structure Field (K W : Type) where
  key : K
  free : Bool
  first : W
  more : List W

variable (mark : K → W → W) (short : W → Prop)

def Field.words (field : Field K W) : List W := mark field.key field.first :: field.more

def wordsOf (fields : List (Field K W)) : List W := fields.flatMap (Field.words mark)

/-- A field that is not free is one word, of those that it may be. -/
def Field.Proper (field : Field K W) : Prop := field.free = false → field.more = [] ∧ short field.first

def SameHeader (x y : Field K W) : Prop := x.key = y.key ∧ x.free = y.free

/-- Words as fields that are not free would write them, from one free field to the next. -/
inductive Looks : List K → K → List W → Prop where
  | last (t : K) (u : W) : Looks [] t [mark t u]
  | cons {k t : K} {ks : List K} {u : W} {block : List W} (allowed : short u) (rest : Looks ks t block) :
    Looks (k :: ks) t (mark k u :: block)

/-- Of two free fields with none between them, no value looks like what is written between them. -/
def Clear (fields : List (Field K W)) : Prop :=
  ∀ before f between t after, fields = before ++ f :: (between ++ t :: after) → f.free = true → t.free = true →
    (∀ x ∈ between, x.free = false) → ∀ block, Looks mark short (between.map Field.key) t.key block →
      ¬block <:+: f.more ∧ ¬block <:+: t.more

variable {mark short}

theorem wordsOf_append (front back : List (Field K W)) :
    wordsOf mark (front ++ back) = wordsOf mark front ++ wordsOf mark back := List.flatMap_append

theorem wordsOf_cons (field : Field K W) (fields : List (Field K W)) :
    wordsOf mark (field :: fields) = mark field.key field.first :: (field.more ++ wordsOf mark fields) := rfl

theorem Clear.tail {f : Field K W} {fields : List (Field K W)} (clear : Clear mark short (f :: fields)) :
    Clear mark short fields := by
  intro before g between t after same
  exact clear (f :: before) g between t after (congrArg (f :: ·) same)

/-- The part of a block before its last word. -/
def Front (mark : K → W → W) (short : W → Prop) : List K → List W → Prop :=
  List.Forall₂ fun k word => ∃ u, short u ∧ word = mark k u

theorem Front.looks {ks : List K} {front : List W} (is : Front mark short ks front) (t : K) (u : W) :
    Looks mark short ks t (front ++ [mark t u]) := by
  induction is with
  | nil => exact .last t u
  | cons head _ ih =>
    obtain ⟨u, allowed, rfl⟩ := head
    exact .cons allowed ih

theorem Front.snoc {ks : List K} {front : List W} (is : Front mark short ks front) {u : W} (k : K) (allowed : short u) :
    Front mark short (ks ++ [k]) (front ++ [mark k u]) :=
  List.rel_append is (.cons ⟨u, allowed, rfl⟩ .nil)

section Reading
variable (marks : ∀ {k k' u u'}, mark k u = mark k' u' → k = k' ∧ u = u')
include marks

theorem not_earlier {fs gs : List (Field K W)} (headers : List.Forall₂ SameHeader fs gs)
    (proper : ∀ g ∈ gs, g.Proper short) (done : List (Field K W)) (distinct : ((done ++ fs).map Field.key).Nodup)
    {pre z : List W} (front : Front mark short (done.map Field.key) pre) (some : z = [] → done ≠ [])
    (same : wordsOf mark gs = z ++ (wordsOf mark done ++ wordsOf mark fs))
    (clear : ∀ between t after, fs = between ++ t :: after → t.free = true → (∀ x ∈ between, x.free = false) →
      ∀ block, Looks mark short ((done ++ between).map Field.key) t.key block → ¬block <:+: pre ++ z) : False := by
  induction headers generalizing done pre z with
  | nil =>
    obtain ⟨noMore, none⟩ := List.append_eq_nil_iff.mp same.symm
    cases done with
    | nil => exact some noMore rfl
    | cons d rest => cases (List.append_eq_nil_iff.mp none).1
  | @cons f g fs gs header _ ih =>
    obtain ⟨sameKey, sameFree⟩ := header
    rw [wordsOf_cons] at same
    cases z with
    | nil =>
      cases done with
      | nil => exact some rfl rfl
      | cons d rest =>
        obtain ⟨head, -⟩ := List.cons.inj same
        have isLater : f.key ∈ (rest ++ f :: fs).map Field.key :=
          List.mem_map_of_mem (List.mem_append_right _ List.mem_cons_self)
        exact (List.nodup_cons.mp distinct).1 ((marks head).1 ▸ sameKey ▸ isLater)
    | cons word z =>
      rw [List.cons_append] at same
      obtain ⟨head, tail⟩ := List.cons.inj same
      subst head
      cases free : f.free with
      | true =>
        have looks := front.looks f.key g.first
        refine clear [] f fs rfl free (fun x member => absurd member List.not_mem_nil) _ (by simpa using looks) ?_
        exact ⟨[], z, by rw [sameKey]; simp⟩
      | false =>
        obtain ⟨noMore, allowed⟩ := proper g List.mem_cons_self (sameFree ▸ free)
        have extended : Front mark short ((done ++ [f]).map Field.key) (pre ++ [mark g.key g.first]) := by
          rw [List.map_append, ← sameKey]
          exact front.snoc f.key allowed
        refine ih (fun g member => proper g (List.mem_cons_of_mem _ member)) (done ++ [f]) (by simpa using distinct)
          extended (z := z) (fun _ => by simp) ?_ ?_
        · rw [noMore, List.nil_append] at tail
          rw [wordsOf_append, List.append_assoc, ← wordsOf_append [f] fs]
          exact tail
        · intro between t after split tFree betweenNot block looks inside
          refine clear (f :: between) t after (congrArg (f :: ·) split) tFree ?_ block (by simpa using looks) ?_
          · exact List.forall_mem_cons.mpr ⟨free, betweenNot⟩
          · simpa using inside

theorem not_later {fs gs : List (Field K W)} (headers : List.Forall₂ SameHeader fs gs)
    (properF : ∀ f ∈ fs, f.Proper short) (properG : ∀ g ∈ gs, g.Proper short) (ks : List K)
    (distinct : (ks ++ fs.map Field.key).Nodup) {pre z : List W} (front : Front mark short ks pre)
    (some : z ++ pre ≠ [])
    (same : wordsOf mark fs = z ++ (pre ++ wordsOf mark gs))
    (next : ∀ between t after, fs = between ++ t :: after → t.free = true → (∀ x ∈ between, x.free = false) →
      ∀ block, Looks mark short (ks ++ between.map Field.key) t.key block → ¬block <:+: t.more)
    (clear : Clear mark short fs) : False := by
  induction headers generalizing ks pre z with
  | nil =>
    obtain ⟨noMore, none⟩ := List.append_eq_nil_iff.mp same.symm
    exact some (by rw [noMore, (List.append_eq_nil_iff.mp none).1]; rfl)
  | @cons f g fs gs header headers ih =>
    obtain ⟨sameKey, sameFree⟩ := header
    obtain ⟨properHead, properTail⟩ := List.forall_mem_cons.mp properF
    rw [wordsOf_cons, wordsOf_cons] at same
    cases z with
    | nil =>
      cases front with
      | nil => exact some rfl
      | @cons k word ks pre isMarked front =>
        obtain ⟨u, -, rfl⟩ := isMarked
        have head := (marks (List.cons.inj same).1).1
        have isLater : f.key ∈ ks ++ (f :: fs).map Field.key := List.mem_append_right _ List.mem_cons_self
        exact (List.nodup_cons.mp distinct).1 (head ▸ isLater)
    | cons word z =>
      rw [List.cons_append] at same
      obtain ⟨head, tail⟩ := List.cons.inj same
      subst head
      have later := ih properTail fun g member => properG g (List.mem_cons_of_mem _ member)
      cases free : f.free with
      | false =>
        obtain ⟨noMoreF, -⟩ := properHead free
        obtain ⟨noMoreG, allowed⟩ := properG g List.mem_cons_self (sameFree ▸ free)
        rw [noMoreF, noMoreG, List.nil_append, List.nil_append] at tail
        have extended : Front mark short (ks ++ [f.key]) (pre ++ [mark g.key g.first]) := by
          rw [← sameKey]
          exact front.snoc f.key allowed
        refine later (ks ++ [f.key]) (by simpa using distinct) extended (z := z) (by simp) ?_ ?_ clear.tail
        · rw [tail, List.append_assoc pre, List.singleton_append]
        · intro between t after split tFree betweenNot block looks
          refine next (f :: between) t after (congrArg (f :: ·) split) tFree ?_ block (by simpa using looks)
          exact List.forall_mem_cons.mpr ⟨free, betweenNot⟩
      | true =>
        have block : Looks mark short ks f.key (pre ++ [mark f.key g.first]) := front.looks f.key g.first
        have noBlock := next [] f fs rfl free (fun x member => absurd member List.not_mem_nil) _ (by simpa using block)
        have whole : f.more ++ wordsOf mark fs =
            (z ++ (pre ++ [mark f.key g.first])) ++ (g.more ++ wordsOf mark gs) := by
          rw [tail, ← sameKey]
          simp
        rcases List.append_eq_append_iff.mp whole with ⟨more, reaches, others⟩ | ⟨more, inside, -⟩
        · by_cases none : more = []
          · rw [none, List.append_nil] at reaches
            exact noBlock ⟨z, [], by rw [← reaches]; simp⟩
          · have distinctRest := (List.nodup_cons.mp (List.nodup_append.mp distinct).2.1).2
            refine later [] distinctRest .nil (z := more ++ g.more) (by simp [none]) (by simp [others]) ?_ clear.tail
            intro between t after split tFree betweenNot other looks
            exact (clear [] f between t after (congrArg (f :: ·) split) free tFree betweenNot other looks).2
        · exact noBlock ⟨z, more, inside.symm⟩

/-- Clear fields are read from their words in one way only. -/
theorem Clear.read {xs ys : List (Field K W)} (clear : Clear mark short xs) (distinct : (xs.map Field.key).Nodup)
    (properX : ∀ x ∈ xs, x.Proper short) (properY : ∀ y ∈ ys, y.Proper short) (headers : List.Forall₂ SameHeader xs ys)
    (same : wordsOf mark xs = wordsOf mark ys) : xs = ys := by
  induction headers with
  | nil => rfl
  | @cons x y xs ys header headers ih =>
    obtain ⟨sameKey, sameFree⟩ := header
    obtain ⟨fresh, distinctRest⟩ := List.nodup_cons.mp distinct
    obtain ⟨properHead, properXs⟩ := List.forall_mem_cons.mp properX
    obtain ⟨properHead', properYs⟩ := List.forall_mem_cons.mp properY
    rw [wordsOf_cons, wordsOf_cons] at same
    obtain ⟨head, tail⟩ := List.cons.inj same
    suffices sameMore : x.more = y.more by
      rw [sameMore] at tail
      have sameRest := ih clear.tail distinctRest properXs properYs (List.append_cancel_left tail)
      obtain ⟨key, free, first, more⟩ := x
      obtain ⟨key', free', first', more'⟩ := y
      obtain rfl := sameKey
      obtain rfl := sameFree
      obtain rfl := sameMore
      obtain rfl := (marks head).2
      rw [sameRest]
    cases free : x.free with
    | false => rw [(properHead free).1, (properHead' (sameFree ▸ free)).1]
    | true =>
      rcases List.append_eq_append_iff.mp tail with ⟨z, longer, others⟩ | ⟨z, longer, others⟩
      · by_cases none : z = []
        · rw [longer, none, List.append_nil]
        · refine (not_later marks headers properXs properYs [] distinctRest .nil (z := z) (by simpa using none) others
            ?_ clear.tail).elim
          intro between t after split tFree betweenNot block looks
          exact (clear [] x between t after (congrArg (x :: ·) split) free tFree betweenNot block looks).2
      · by_cases none : z = []
        · rw [longer, none, List.append_nil]
        · refine (not_earlier marks headers properYs [] distinctRest .nil (z := z) (fun empty => absurd empty none)
            others ?_).elim
          intro between t after split tFree betweenNot block looks inside
          refine (clear [] x between t after (congrArg (x :: ·) split) free tFree betweenNot block looks).1 ?_
          exact inside.trans ⟨y.more, [], by rw [longer]; simp⟩

end Reading

theorem Looks.exists_fields {between : List (Field K W)} {t : K} {block : List W}
    (looks : Looks mark short (between.map Field.key) t block) (notFree : ∀ x ∈ between, x.free = false) :
    ∃ (others : List (Field K W)) (u : W), List.Forall₂ SameHeader between others ∧ (∀ x ∈ others, x.Proper short) ∧
      block = wordsOf mark others ++ [mark t u] := by
  induction between generalizing block with
  | nil =>
    cases looks with
    | last _ u => exact ⟨[], u, .nil, fun x member => absurd member List.not_mem_nil, rfl⟩
  | cons x between ih =>
    obtain ⟨headNot, restNot⟩ := List.forall_mem_cons.mp notFree
    cases looks with
    | @cons _ _ _ u block allowed rest =>
      obtain ⟨others, last, headers, proper, rfl⟩ := ih rest restNot
      refine ⟨⟨x.key, false, u, []⟩ :: others, last, .cons ⟨rfl, headNot⟩ headers, ?_, rfl⟩
      exact List.forall_mem_cons.mpr ⟨fun _ => ⟨rfl, allowed⟩, proper⟩

/-- Where a value looks like what is written between two fields, there is another reading. -/
theorem exists_other_reading {xs : List (Field K W)} (proper : ∀ x ∈ xs, x.Proper short)
    (hidden : ¬Clear mark short xs) :
    ∃ ys, List.Forall₂ SameHeader xs ys ∧ (∀ y ∈ ys, y.Proper short) ∧ wordsOf mark ys = wordsOf mark xs ∧ ys ≠ xs := by
  unfold Clear at hidden
  push Not at hidden
  obtain ⟨before, f, between, t, after, rfl, fFree, tFree, betweenNot, block, looks, found⟩ := hidden
  obtain ⟨others, u, headers, properOthers, rfl⟩ := looks.exists_fields betweenNot
  -- another division of the same words into the value of `f`, the fields between, and `t`
  have divide : ∀ more more', more ++ (wordsOf mark others ++ mark t.key u :: more') =
      f.more ++ (wordsOf mark between ++ mark t.key t.first :: t.more) → more ≠ f.more →
      ∃ ys, List.Forall₂ SameHeader (before ++ f :: (between ++ t :: after)) ys ∧ (∀ y ∈ ys, y.Proper short) ∧
        wordsOf mark ys = wordsOf mark (before ++ f :: (between ++ t :: after)) ∧
        ys ≠ before ++ f :: (between ++ t :: after) := by
    intro more more' same differ
    have refl : ∀ fields : List (Field K W), List.Forall₂ SameHeader fields fields :=
      fun fields => List.forall₂_same.mpr fun _ _ => ⟨rfl, rfl⟩
    refine ⟨before ++ { f with more } :: (others ++ { t with first := u, more := more' } :: after), ?_, ?_, ?_, ?_⟩
    · exact List.rel_append (refl before) (.cons ⟨rfl, rfl⟩ (List.rel_append headers (.cons ⟨rfl, rfl⟩ (refl after))))
    · intro y member
      simp only [List.mem_append, List.mem_cons] at member proper
      rcases member with inBefore | rfl | inOthers | rfl | inAfter
      · exact proper y (.inl inBefore)
      · exact fun notFree => absurd (fFree.symm.trans notFree) (by decide)
      · exact properOthers y inOthers
      · exact fun notFree => absurd (tFree.symm.trans notFree) (by decide)
      · exact proper y (.inr (.inr (.inr (.inr inAfter))))
    · have division := congrArg (· ++ wordsOf mark after) same
      simp only [List.append_assoc, List.cons_append] at division
      simp only [wordsOf_append, wordsOf_cons, division]
    · intro equal
      have sameRest := List.append_cancel_left equal
      exact differ (congrArg Field.more (List.cons.inj sameRest).1)
  by_cases inFirst : (wordsOf mark others ++ [mark t.key u]) <:+: f.more
  · obtain ⟨front, back, split⟩ := inFirst
    refine divide front (back ++ (wordsOf mark between ++ mark t.key t.first :: t.more)) ?_ ?_
    · rw [← split]
      simp
    · intro equal
      have lengths := congrArg List.length (equal.trans split.symm)
      simp at lengths
  · obtain ⟨front, back, split⟩ := found inFirst
    refine divide (f.more ++ (wordsOf mark between ++ mark t.key t.first :: front)) back ?_ ?_
    · rw [← split]
      simp
    · intro equal
      have lengths := congrArg List.length equal
      simp at lengths

end Zms.Text
