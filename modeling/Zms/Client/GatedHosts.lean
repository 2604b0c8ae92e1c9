import Mathlib
import Zms.Metadata
import Zms.Text.Separated

/-! The hosts that `gatedIps` names, a free text of addresses with separators, against
the search for the host's address in it. -/

set_option autoImplicit false

namespace Zms.Client

open Zms.Text

/-- An IPv4 address, written in dotted decimal. -/
structure Ipv4 where
  first : Fin 256
  second : Fin 256
  third : Fin 256
  fourth : Fin 256
  deriving DecidableEq, Repr

def octet (n : Fin 256) : List Char := (Nat.repr n.val).toList

namespace Ipv4

def text (ip : Ipv4) : List Char :=
  octet ip.first ++ '.' :: (octet ip.second ++ '.' :: (octet ip.third ++ '.' :: octet ip.fourth))

def toString (ip : Ipv4) : String := String.ofList ip.text

end Ipv4

/-- The characters of addresses; any other may separate them. -/
def IsAddressChar (c : Char) : Prop := c.isDigit = true ∨ c = '.'

/-- The text names exactly the addresses, in this order, with a separator between any two. -/
inductive Listing : List Char → List Ipv4 → Prop where
  | nil {separator : List Char} : (∀ c ∈ separator, ¬ IsAddressChar c) → Listing separator []
  | cons {separator rest : List Char} {ips : List Ipv4} (ip : Ipv4) : (∀ c ∈ separator, ¬ IsAddressChar c) →
      (∀ c ∈ rest.head?, ¬ IsAddressChar c) → Listing rest ips → Listing (separator ++ (ip.text ++ rest)) (ip :: ips)

/-- The address of the host is a part of the other: the middle octets are the same, the first octet
ends with the host's, and the last begins with the host's. -/
def PartOf (host ip : Ipv4) : Prop :=
  octet host.first <:+ octet ip.first ∧ host.second = ip.second ∧ host.third = ip.third ∧
    octet host.fourth <+: octet ip.fourth

instance (host ip : Ipv4) : Decidable (PartOf host ip) := by
  unfold PartOf
  infer_instance

section Octets
variable {m n : Fin 256} {c : Char}

theorem isDigit_of_mem_octet (member : c ∈ octet n) : c.isDigit = true := isDigit_of_mem_repr member

theorem dot_notMem_octet (n : Fin 256) : '.' ∉ octet n := by
  intro member
  have digit := isDigit_of_mem_octet member
  revert digit
  decide

theorem octet_inj : octet m = octet n ↔ m = n := by
  constructor
  · intro same
    exact Fin.ext (Nat.repr_injective (String.toList_injective same))
  · rintro rfl
    rfl

end Octets

theorem isAddressChar_of_mem_text {ip : Ipv4} {c : Char} (member : c ∈ ip.text) : IsAddressChar c := by
  simp only [Ipv4.text, List.mem_append, List.mem_cons] at member
  obtain digit | rfl | digit | rfl | digit | rfl | digit := member
  · exact .inl (isDigit_of_mem_octet digit)
  · exact .inr rfl
  · exact .inl (isDigit_of_mem_octet digit)
  · exact .inr rfl
  · exact .inl (isDigit_of_mem_octet digit)
  · exact .inr rfl
  · exact .inl (isDigit_of_mem_octet digit)

theorem count_dot_text (ip : Ipv4) : ip.text.count '.' = 3 := by
  simp [Ipv4.text, List.count_append, List.count_eq_zero.mpr (dot_notMem_octet _)]

/-- Both have three dots, so that nothing with a dot stands around the host's address. -/
theorem infix_text_iff (host ip : Ipv4) : host.text <:+: ip.text ↔ PartOf host ip := by
  constructor
  · rintro ⟨before, after, same⟩
    have dots := congrArg (List.count '.') same
    simp only [List.count_append, count_dot_text] at dots
    have freeBefore : '.' ∉ before := List.count_eq_zero.mp (by omega)
    have freeAfter : '.' ∉ after := List.count_eq_zero.mp (by omega)
    simp only [Ipv4.text, List.append_assoc, List.cons_append] at same
    rw [← List.append_assoc] at same
    have freeFirst : '.' ∉ before ++ octet host.first := by
      rw [List.mem_append, not_or]
      exact ⟨freeBefore, dot_notMem_octet _⟩
    obtain ⟨first, same⟩ := append_separator_inj freeFirst (dot_notMem_octet _) same
    obtain ⟨second, same⟩ := append_separator_inj (dot_notMem_octet _) (dot_notMem_octet _) same
    obtain ⟨third, fourth⟩ := append_separator_inj (dot_notMem_octet _) (dot_notMem_octet _) same
    exact ⟨⟨before, first⟩, octet_inj.mp second, octet_inj.mp third, ⟨after, fourth⟩⟩
  · rintro ⟨⟨before, first⟩, second, third, ⟨after, fourth⟩⟩
    refine ⟨before, after, ?_⟩
    simp only [Ipv4.text, List.append_assoc, List.cons_append, ← first, ← fourth, second, third]

section Parts
variable {part xs ys : List Char}

theorem infix_append_right (plain : ∀ c ∈ part, IsAddressChar c) (ends : ∀ c ∈ ys.head?, ¬ IsAddressChar c) :
    part <:+: xs ++ ys ↔ part <:+: xs ∨ part <:+: ys := by
  rw [List.infix_append_iff_ne_nil]
  constructor
  · rintro (left | right | ⟨l₁, l₂, -, some, rfl, -, start⟩)
    · exact .inl left
    · exact .inr right
    · obtain ⟨c, l, rfl⟩ := List.exists_cons_of_ne_nil some
      obtain ⟨rest, rfl⟩ := start
      exact absurd (plain c (by simp)) (ends c rfl)
  · rintro (left | right)
    · exact .inl left
    · exact .inr (.inl right)

theorem infix_append_left (plain : ∀ c ∈ part, IsAddressChar c) (nonempty : part ≠ [])
    (separates : ∀ c ∈ xs, ¬ IsAddressChar c) : part <:+: xs ++ ys ↔ part <:+: ys := by
  rw [List.infix_append_iff_ne_nil]
  constructor
  · rintro (left | right | ⟨l₁, l₂, some, -, rfl, last, -⟩)
    · obtain ⟨c, member⟩ := List.exists_mem_of_ne_nil part nonempty
      exact absurd (plain c member) (separates c (left.subset member))
    · exact right
    · obtain ⟨c, member⟩ := List.exists_mem_of_ne_nil l₁ some
      exact absurd (plain c (List.mem_append_left _ member)) (separates c (last.subset member))
  · exact fun right => .inr (.inl right)

theorem infix_listing_iff {text : List Char} {ips : List Ipv4} (listing : Listing text ips)
    (plain : ∀ c ∈ part, IsAddressChar c) (nonempty : part ≠ []) : part <:+: text ↔ ∃ ip ∈ ips, part <:+: ip.text := by
  induction listing with
  | nil separates =>
    simp only [List.not_mem_nil, false_and, exists_false, iff_false]
    intro found
    obtain ⟨c, member⟩ := List.exists_mem_of_ne_nil part nonempty
    exact separates c (found.subset member) (plain c member)
  | cons ip separates ends _ ih =>
    rw [infix_append_left plain nonempty separates, infix_append_right plain ends, ih]
    simp only [List.mem_cons, exists_eq_or_imp]

end Parts

theorem text_ne_nil (ip : Ipv4) : ip.text ≠ [] := by simp [Ipv4.text]

theorem isGatedLaunch_iff {metadata : ZmsMetadata} {gatedIps : String} (is : metadata.gatedIps = some gatedIps)
    (host : Ipv4) : metadata.isGatedLaunch host.toString = true ↔ host.text <:+: gatedIps.toList := by
  unfold ZmsMetadata.isGatedLaunch contains Ipv4.toString
  rw [is, Option.any_some, Bool.and_eq_true, decide_eq_true_eq, String.toList_ofList, and_iff_right_iff_imp]
  intro found
  unfold isNotBlank
  rw [List.any_eq_true]
  refine ⟨'.', found.subset (by simp [Ipv4.text]), by decide⟩

/-- The host is taken for listed although it is not exactly where its address is a part of a
listed one. -/
theorem isGatedLaunch_listed_iff {metadata : ZmsMetadata} {gatedIps : String} {ips : List Ipv4}
    (is : metadata.gatedIps = some gatedIps) (listing : Listing gatedIps.toList ips) (host : Ipv4) :
    (metadata.isGatedLaunch host.toString = true ↔ host ∈ ips) ↔ (host ∈ ips ∨ ∀ ip ∈ ips, ¬ PartOf host ip) := by
  rw [isGatedLaunch_iff is, infix_listing_iff listing (fun c => isAddressChar_of_mem_text) (text_ne_nil host)]
  simp only [infix_text_iff]
  by_cases listed : host ∈ ips
  · have own : PartOf host host := ⟨List.suffix_refl _, rfl, rfl, List.prefix_refl _⟩
    exact iff_of_true (iff_of_true ⟨host, listed, own⟩ listed) (.inl listed)
  · simp only [listed, iff_false, false_or, not_exists, not_and]

section Example

def gatedAt (gatedIps : String) : ZmsMetadata :=
  ⟨"topic", "t", none, none, some gatedIps, none, none⟩

def hostAt (last : Fin 256) : Ipv4 := ⟨10, 0, 0, last⟩

theorem listing_pair : Listing "10.0.0.12, 10.0.0.7".toList [hostAt 12, hostAt 7] := by
  have last : Listing ([',', ' '] ++ ((hostAt 7).text ++ [])) [hostAt 7] :=
    .cons (hostAt 7) (by simp [IsAddressChar]) (by simp) (.nil (by simp))
  have both : Listing ([] ++ ((hostAt 12).text ++ ([',', ' '] ++ ((hostAt 7).text ++ [])))) [hostAt 12, hostAt 7] :=
    .cons (hostAt 12) (by simp) (by simp [IsAddressChar]) last
  exact both

theorem isGatedLaunch_listed_seven :
    (gatedAt "10.0.0.12, 10.0.0.7").isGatedLaunch (hostAt 7).toString = true ↔ hostAt 7 ∈ [hostAt 12, hostAt 7] :=
  (isGatedLaunch_listed_iff rfl listing_pair (hostAt 7)).mpr (by decide)

/-- The address of the host is the beginning of the listed one. -/
theorem not_isGatedLaunch_listed : ¬ ∀ (metadata : ZmsMetadata) (gatedIps : String) (ips : List Ipv4) (host : Ipv4),
    metadata.gatedIps = some gatedIps → Listing gatedIps.toList ips →
      (metadata.isGatedLaunch host.toString = true ↔ host ∈ ips) := by
  intro always
  have claimed := always (gatedAt "10.0.0.12, 10.0.0.7") _ _ (hostAt 1) rfl listing_pair
  have found : (gatedAt "10.0.0.12, 10.0.0.7").isGatedLaunch (hostAt 1).toString = true := by decide
  have absent : hostAt 1 ∉ [hostAt 12, hostAt 7] := by decide
  exact absent (claimed.mp found)

end Example

end Zms.Client
