import Zms.Text.Replacing

/-! Texts with literals between quotes, in which a backslash escapes the next character. -/

set_option autoImplicit false

namespace Zms.Text

/-- How literals are written. What stands for an escaped quote is the quote. -/
structure Quoting (α : Type) where
  quote : α
  backslash : α
  escape : α → Option α
  apart : backslash ≠ quote
  escape_quote : ∀ c, escape quote = some c → c = quote

inductive Token (α : Type) where
  | text (c : α)
  | literal (value : List α)

/-- Where a lexer stands: in no literal, in one whose value so far is known, or after a backslash. -/
inductive Mode (α : Type) where
  | outside
  | inside (value : List α)
  | escaped (value : List α)

namespace Quoting

variable {α : Type} (q : Quoting α)

/-- A name that stands in a literal as it is. -/
def Free (name : List α) : Prop := q.quote ∉ name ∧ q.backslash ∉ name

/-- What stands between two quotes is read as the value. -/
inductive Reads : List α → List α → Prop
  | nil : Reads [] []
  | plain {c : α} {raw value : List α} (quote : c ≠ q.quote) (backslash : c ≠ q.backslash) (rest : Reads raw value) :
      Reads (c :: raw) (c :: value)
  | escaped {c d : α} {raw value : List α} (escape : q.escape c = some d) (rest : Reads raw value) :
      Reads (q.backslash :: c :: raw) (d :: value)

variable {q} {raw value name text rest : List α}

theorem free_cons {c : α} : q.Free (c :: name) ↔ (c ≠ q.quote ∧ c ≠ q.backslash) ∧ q.Free name := by
  unfold Free
  rw [List.mem_cons, List.mem_cons, not_or, not_or, eq_comm, eq_comm (a := q.backslash)]
  tauto

theorem Reads.of_free (free : q.Free name) : q.Reads name name := by
  induction name with
  | nil => exact .nil
  | cons c name ih =>
    obtain ⟨⟨quote, backslash⟩, later⟩ := free_cons.mp free
    exact .plain quote backslash (ih later)

theorem Reads.length_le (reads : q.Reads raw value) : value.length ≤ raw.length := by
  induction reads with
  | nil => rfl
  | plain quote backslash rest ih => exact Nat.succ_le_succ ih
  | escaped escape rest ih => exact Nat.succ_le_succ (ih.trans (Nat.le_succ _))

theorem Reads.free (reads : q.Reads raw value) (same : raw.length ≤ value.length) : raw = value ∧ q.Free raw := by
  induction reads with
  | nil => exact ⟨rfl, by simp [Free]⟩
  | plain quote backslash rest ih =>
    obtain ⟨rfl, free⟩ := ih (Nat.le_of_succ_le_succ same)
    exact ⟨rfl, free_cons.mpr ⟨⟨quote, backslash⟩, free⟩⟩
  | escaped escape rest ih =>
    have shorter := rest.length_le
    simp only [List.length_cons] at same
    omega

/-- A quote that is written shows up in the value, further to the front. -/
theorem Reads.quote_moves (reads : q.Reads raw value) {before after : List α} (at_ : raw = before ++ q.quote :: after) :
    ∃ before' after', value = before' ++ q.quote :: after' ∧ before'.length < before.length := by
  induction reads generalizing before with
  | nil => simp at at_
  | @plain c raw value quote backslash rest ih =>
    cases before with
    | nil => exact absurd (List.cons.inj at_).1 quote
    | cons b before =>
      obtain ⟨before', after', shape, shorter⟩ := ih (List.cons.inj at_).2
      exact ⟨c :: before', after', by rw [shape]; rfl, Nat.succ_lt_succ shorter⟩
  | @escaped c d raw value escape rest ih =>
    cases before with
    | nil => exact absurd (List.cons.inj at_).1 q.apart
    | cons b before =>
      cases before with
      | nil =>
        have quote : c = q.quote := (List.cons.inj (List.cons.inj at_).2).1
        refine ⟨[], value, ?_, by simp⟩
        rw [q.escape_quote d (quote ▸ escape)]
        rfl
      | cons b' before =>
        obtain ⟨before', after', shape, shorter⟩ := ih (List.cons.inj (List.cons.inj at_).2).2
        exact ⟨d :: before', after', by rw [shape]; rfl, by simp only [List.length_cons]; omega⟩

theorem Reads.eq_of_append {after : List α} (reads : q.Reads raw name)
    (shape : raw ++ q.quote :: rest = name ++ q.quote :: after) : raw = name ∧ q.Free name := by
  rcases Nat.lt_or_ge name.length raw.length with longer | same
  · -- a quote of the name would stand further and further to the front
    exfalso
    have whole : ∃ later, raw = name ++ q.quote :: later := by
      rw [List.append_eq_append_iff] at shape
      rcases shape with ⟨between, shape, -⟩ | ⟨between, shape, later⟩
      · rw [shape, List.length_append] at longer
        omega
      · cases between with
        | nil =>
          rw [shape, List.append_nil] at longer
          omega
        | cons c between => exact ⟨between, by rw [shape, (List.cons.inj later).1]⟩
    obtain ⟨later, whole⟩ := whole
    have descent (n : Nat) : ∀ before after, before.length = n → raw ≠ before ++ q.quote :: after := by
      induction n using Nat.strong_induction_on with
      | _ n ih =>
        intro before after length at_
        obtain ⟨before', after', found, shorter⟩ := reads.quote_moves at_
        refine ih before'.length (length ▸ shorter) before' (after' ++ q.quote :: later) rfl ?_
        rw [whole, found, List.append_assoc, List.cons_append]
    exact descent name.length name later rfl whole
  · obtain ⟨rfl, free⟩ := reads.free same
    exact ⟨rfl, free⟩

/-! ### Texts made up of fixed parts and literals -/

/-- A part of a text that a program builds. -/
inductive Piece (α : Type) where
  | fixed (text : List α)
  | literal (value : List α)

/-- What a program writes that puts a value between quotes as it is. -/
def render (q : Quoting α) : List (Piece α) → List α
  | [] => []
  | .fixed text :: pieces => text ++ render q pieces
  | .literal value :: pieces => q.quote :: (value ++ q.quote :: render q pieces)

/-- What it is meant to say. -/
def tokens : List (Piece α) → List (Token α)
  | [] => []
  | .fixed text :: pieces => text.map .text ++ tokens pieces
  | .literal value :: pieces => .literal value :: tokens pieces

theorem render_append (front pieces : List (Piece α)) :
    render q (front ++ pieces) = render q front ++ render q pieces := by
  induction front with
  | nil => rfl
  | cons piece front ih => cases piece <;> simp [render, ih]

theorem mem_tokens_iff {c : α} {pieces : List (Piece α)} :
    .text c ∈ tokens pieces ↔ ∃ text, .fixed text ∈ pieces ∧ c ∈ text := by
  induction pieces with
  | nil => simp [tokens]
  | cons piece pieces ih => cases piece <;> simp [tokens, ih, or_and_right, exists_or]

/-! ### Reading a text -/

variable [DecidableEq α]

variable (q) in
def lexFrom : Mode α → List α → Option (List (Token α))
  | .outside, [] => some []
  | .outside, c :: rest =>
    if c = q.quote then lexFrom (.inside []) rest else (lexFrom .outside rest).map (.text c :: ·)
  | .inside _, [] => none
  | .inside value, c :: rest =>
    if c = q.quote then (lexFrom .outside rest).map (.literal value :: ·)
    else if c = q.backslash then lexFrom (.escaped value) rest
    else lexFrom (.inside (value ++ [c])) rest
  | .escaped _, [] => none
  | .escaped value, c :: rest =>
    match q.escape c with
    | some d => lexFrom (.inside (value ++ [d])) rest
    | none => none

variable (q) in
/-- The tokens of a text, where every literal ends. -/
def lex (text : List α) : Option (List (Token α)) := q.lexFrom .outside text

theorem lexFrom_reads (reads : q.Reads raw value) (start : List α) :
    q.lexFrom (.inside start) (raw ++ q.quote :: rest) = (q.lex rest).map (.literal (start ++ value) :: ·) := by
  induction reads generalizing start with
  | nil => simp [lexFrom, lex]
  | plain quote backslash rest ih =>
    rw [List.cons_append, lexFrom, if_neg quote, if_neg backslash, ih, List.append_assoc]
    rfl
  | escaped escape rest ih =>
    rw [List.cons_append, List.cons_append, lexFrom, if_neg q.apart, if_pos rfl, lexFrom, escape]
    simp only [ih, List.append_assoc]
    rfl

theorem reads_of_lexFrom {start : List α} {tokens : List (Token α)}
    (found : q.lexFrom (.inside start) text = some tokens) :
    ∃ raw value rest, text = raw ++ q.quote :: rest ∧ q.Reads raw value ∧
      ∃ later, q.lex rest = some later ∧ tokens = .literal (start ++ value) :: later := by
  induction length : text.length using Nat.strong_induction_on generalizing start text with
  | _ n ih =>
    cases text with
    | nil => cases found
    | cons c text =>
      rw [lexFrom] at found
      split_ifs at found with quote backslash
      · obtain ⟨later, lexed, rfl⟩ := Option.map_eq_some_iff.mp found
        exact ⟨[], [], text, by rw [quote]; rfl, .nil, later, lexed, by rw [List.append_nil]⟩
      · cases text with
        | nil => cases found
        | cons d text =>
          rw [lexFrom] at found
          cases escape : q.escape d with
          | none =>
            rw [escape] at found
            cases found
          | some e =>
            rw [escape] at found
            obtain ⟨raw, value, rest, rfl, reads, later, lexed, tokens⟩ :=
              ih text.length (by rw [← length]; simp) found rfl
            refine ⟨c :: d :: raw, e :: value, rest, rfl, ?_, later, lexed, by simpa using tokens⟩
            exact backslash ▸ .escaped escape reads
      · obtain ⟨raw, value, rest, rfl, reads, later, lexed, tokens⟩ :=
          ih text.length (by rw [← length]; simp) found rfl
        exact ⟨c :: raw, c :: value, rest, rfl, .plain quote backslash reads, later, lexed, by simpa using tokens⟩

theorem lex_fixed (quote : q.quote ∉ text) (rest : List α) :
    q.lex (text ++ rest) = (q.lex rest).map (text.map .text ++ ·) := by
  induction text with
  | nil => simp
  | cons c text ih =>
    obtain ⟨other, later⟩ := not_or.mp (List.mem_cons.not.mp quote)
    rw [List.cons_append, lex, lexFrom, if_neg (Ne.symm other)]
    change (q.lex (text ++ rest)).map _ = _
    rw [ih later, Option.map_map]
    rfl

theorem lex_render_iff {pieces : List (Piece α)} (quotes : ∀ text, .fixed text ∈ pieces → q.quote ∉ text) :
    q.lex (render q pieces) = some (tokens pieces) ↔ ∀ value, .literal value ∈ pieces → q.Free value := by
  induction pieces with
  | nil => simp [render, tokens, lex, lexFrom]
  | cons piece pieces ih =>
    have rest := ih fun text member => quotes text (List.mem_cons_of_mem _ member)
    cases piece with
    | fixed text =>
      rw [render, tokens, lex_fixed (quotes text List.mem_cons_self)]
      simp [rest]
    | literal value =>
      have opened : q.lex (q.quote :: (value ++ q.quote :: render q pieces)) =
          q.lexFrom (.inside []) (value ++ q.quote :: render q pieces) := if_pos rfl
      rw [render, tokens, opened]
      constructor
      · intro lexed
        obtain ⟨raw, read, after, shape, reads, later, lexedAfter, same⟩ := reads_of_lexFrom lexed
        obtain ⟨rfl, rfl⟩ : value = read ∧ tokens pieces = later := by simpa using same
        obtain ⟨rfl, free⟩ := reads.eq_of_append shape.symm
        obtain rfl : render q pieces = after := by simpa using shape
        intro other member
        rcases List.mem_cons.mp member with own | later
        · obtain rfl := (Piece.literal.injEq _ _).mp own
          exact free
        · exact rest.mp lexedAfter other later
      · intro free
        have later := rest.mpr fun other member => free other (List.mem_cons_of_mem _ member)
        rw [lexFrom_reads (.of_free (free value List.mem_cons_self)), later]
        rfl

/-! ### Replacing in them -/

def Piece.replaceAll (target replacement : List α) : Piece α → Piece α
  | .fixed text => .fixed (Text.replaceAll target replacement text)
  | .literal value => .literal (Text.replaceAll target replacement value)

/-- Fixed parts do not stand next to each other. -/
def Piece.Alternate : Piece α → Piece α → Prop
  | .fixed _, .fixed _ => False
  | _, _ => True

theorem replaceAll_render {target replacement : List α} (some : target ≠ []) (quote : q.quote ∉ target)
    {pieces : List (Piece α)} (alternate : pieces.IsChain Piece.Alternate) :
    replaceAll target replacement (render q pieces) = render q (pieces.map (Piece.replaceAll target replacement)) := by
  have opening (rest : List α) :
      replaceAll target replacement (q.quote :: rest) = q.quote :: replaceAll target replacement rest :=
    replaceAll_append_cons some quote [] rest
  induction pieces with
  | nil => rfl
  | cons piece pieces ih =>
    have rest := ih alternate.tail
    cases piece with
    | fixed text =>
      cases pieces with
      | nil => simp [render, Piece.replaceAll]
      | cons next pieces =>
        cases next with
        | fixed other => exact absurd (List.isChain_cons_cons.mp alternate).1 id
        | literal value =>
          rw [render, opening] at rest
          rw [List.map_cons, render, render, replaceAll_append_cons some quote, rest]
          rfl
    | literal value =>
      rw [render, opening, replaceAll_append_cons some quote, rest]
      rfl

end Quoting

end Zms.Text
