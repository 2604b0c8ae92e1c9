import Zms.Registry.Association

/-! What is added up under keys: the first value of a key makes its entry, and the others are
added to it. -/

set_option autoImplicit false

namespace Zms.Registry

variable {κ δ α : Type} [DecidableEq κ] (new : δ → α) (add : α → δ → α)

def gather (key : κ) (value : δ) : List (κ × α) → List (κ × α)
  | [] => [(key, new value)]
  | entry :: rest => if entry.1 = key then (entry.1, add entry.2 value) :: rest else entry :: gather key value rest

def gatherAll (values : List (κ × δ)) : List (κ × α) :=
  values.foldl (fun entries value => gather new add value.1 value.2 entries) []

def valuesOf (key : κ) (values : List (κ × δ)) : List δ :=
  (values.filter fun value => value.1 = key).map Prod.snd

def combine : List δ → Option α
  | [] => none
  | first :: rest => some (rest.foldl add (new first))

variable {new add}

theorem combine_concat (values : List δ) (value : δ) :
    combine new add (values ++ [value]) =
      some (match combine new add values with
        | none => new value
        | some sum => add sum value) := by
  cases values with
  | nil => rfl
  | cons first rest =>
      change some ((rest ++ [value]).foldl add (new first)) = _
      rw [List.foldl_append]
      rfl

theorem lookup_gather_self (key : κ) (value : δ) (entries : List (κ × α)) :
    (gather new add key value entries).lookup key =
      some (match entries.lookup key with
        | none => new value
        | some sum => add sum value) := by
  induction entries with
  | nil => exact List.lookup_cons_self
  | cons entry rest ih =>
      unfold gather
      by_cases same : entry.1 = key
      · rw [if_pos same, same, List.lookup_cons_self, List.lookup_cons, same, beq_self_eq_true]
      · have differs : (key == entry.1) = false := beq_false_of_ne fun equal => same equal.symm
        rw [if_neg same, List.lookup_cons, List.lookup_cons, differs]
        exact ih

theorem lookup_gather_other {key other : κ} (differs : other ≠ key) (value : δ) (entries : List (κ × α)) :
    (gather new add key value entries).lookup other = entries.lookup other := by
  induction entries with
  | nil =>
      change List.lookup other [(key, new value)] = _
      rw [List.lookup_cons, beq_false_of_ne differs]
  | cons entry rest ih =>
      unfold gather
      by_cases same : entry.1 = key
      · have otherEntry : (other == entry.1) = false := by
          rw [same]
          exact beq_false_of_ne differs
        rw [if_pos same, List.lookup_cons, List.lookup_cons, otherEntry]
      · rw [if_neg same, List.lookup_cons, List.lookup_cons, ih]

theorem keys_gather (key : κ) (value : δ) (entries : List (κ × α)) :
    (gather new add key value entries).map Prod.fst =
      if key ∈ entries.map Prod.fst then entries.map Prod.fst else entries.map Prod.fst ++ [key] := by
  induction entries with
  | nil => rfl
  | cons entry rest ih =>
      unfold gather
      rw [List.map_cons]
      by_cases same : entry.1 = key
      · rw [if_pos same, List.map_cons, same, if_pos List.mem_cons_self]
      · rw [if_neg same, List.map_cons, ih]
        by_cases member : key ∈ rest.map Prod.fst
        · rw [if_pos member, if_pos (List.mem_cons_of_mem entry.1 member)]
        · have fresh : key ∉ entry.1 :: rest.map Prod.fst := by
            rw [List.mem_cons]
            exact not_or.mpr ⟨fun equal => same equal.symm, member⟩
          rw [if_neg member, if_neg fresh, List.cons_append]

theorem nodup_gatherAll (values : List (κ × δ)) : ((gatherAll new add values).map Prod.fst).Nodup := by
  induction values using List.reverseRecOn with
  | nil => exact List.nodup_nil
  | append_singleton values value ih =>
      have last : gatherAll new add (values ++ [value]) = gather new add value.1 value.2 (gatherAll new add values) :=
        List.foldl_concat _ _ _ _
      rw [last, keys_gather]
      split
      · exact ih
      · next fresh => exact List.nodup_append.mpr ⟨ih, List.nodup_singleton _, by
          intro k member other isKey
          rw [List.mem_singleton.mp isKey]
          intro same
          rw [same] at member
          exact fresh member⟩

theorem lookup_gatherAll (values : List (κ × δ)) (key : κ) :
    (gatherAll new add values).lookup key = combine new add (valuesOf key values) := by
  induction values using List.reverseRecOn with
  | nil => rfl
  | append_singleton values value ih =>
      have last : gatherAll new add (values ++ [value]) = gather new add value.1 value.2 (gatherAll new add values) :=
        List.foldl_concat _ _ _ _
      rw [last]
      unfold valuesOf at *
      rw [List.filter_append, List.map_append]
      by_cases same : value.1 = key
      · have kept : [value].filter (fun value => value.1 = key) = [value] := by
          rw [List.filter_singleton, decide_eq_true same]
          rfl
        rw [kept, List.map_singleton, combine_concat, ← ih, ← same, lookup_gather_self]
      · have dropped : [value].filter (fun value => value.1 = key) = [] := by
          rw [List.filter_singleton, decide_eq_false same]
          rfl
        rw [dropped, List.map_nil, List.append_nil, ← ih, lookup_gather_other fun equal => same equal.symm]

theorem mem_gatherAll_iff (values : List (κ × δ)) {key : κ} {sum : α} :
    (key, sum) ∈ gatherAll new add values ↔ combine new add (valuesOf key values) = some sum := by
  rw [← lookup_gatherAll, lookup_eq_some_iff_mem (nodup_gatherAll values)]

theorem gather_of_absent {key : κ} {entries : List (κ × α)} (absent : key ∉ entries.map Prod.fst) (value : δ) :
    gather new add key value entries = entries ++ [(key, new value)] := by
  induction entries with
  | nil => rfl
  | cons entry rest ih =>
      rw [List.map_cons, List.mem_cons, not_or] at absent
      unfold gather
      rw [if_neg fun same => absent.1 same.symm, ih absent.2, List.cons_append]

theorem gatherAll_of_nodup {entries : List (κ × α)} {add : α → α → α} (distinct : (entries.map Prod.fst).Nodup) :
    gatherAll id add entries = entries := by
  induction entries using List.reverseRecOn with
  | nil => rfl
  | append_singleton entries entry ih =>
      rw [List.map_append, List.nodup_append] at distinct
      obtain ⟨distinctBefore, _, apart⟩ := distinct
      have absent : entry.1 ∉ entries.map Prod.fst := fun member =>
        apart entry.1 member entry.1 List.mem_cons_self rfl
      have last : gatherAll id add (entries ++ [entry]) = gather id add entry.1 entry.2 (gatherAll id add entries) :=
        List.foldl_concat _ _ _ _
      rw [last, ih distinctBefore, gather_of_absent absent]
      rfl

theorem mem_valuesOf {key : κ} {value : δ} {values : List (κ × δ)} :
    value ∈ valuesOf key values ↔ (key, value) ∈ values := by
  unfold valuesOf
  rw [List.mem_map]
  constructor
  · rintro ⟨entry, member, same⟩
    obtain ⟨inValues, isKey⟩ := List.mem_filter.mp member
    rw [← of_decide_eq_true isKey, ← same]
    exact inValues
  · intro member
    exact ⟨(key, value), List.mem_filter.mpr ⟨member, decide_eq_true rfl⟩, rfl⟩

theorem exists_combine (new : δ → α) (add : α → δ → α) {values : List δ} {value : δ} (member : value ∈ values) :
    ∃ sum, combine new add values = some sum := by
  cases values with
  | nil => cases member
  | cons first rest => exact ⟨_, rfl⟩

theorem combine_max_eq_some_iff {ν : Type} [LinearOrder ν] {values : List ν} {greatest : ν} :
    combine id max values = some greatest ↔ IsGreatest {value | value ∈ values} greatest := by
  induction values using List.reverseRecOn generalizing greatest with
  | nil =>
      constructor
      · intro impossible
        cases impossible
      · intro isGreatest
        cases isGreatest.1
  | append_singleton values value ih =>
      rw [combine_concat]
      have members : {v | v ∈ values ++ [value]} = insert value {v | v ∈ values} := by
        ext v
        simp [or_comm]
      rw [members]
      cases known : combine id max values with
      | none =>
          have empty : values = [] := by
            cases values with
            | nil => rfl
            | cons first rest => cases known
          subst empty
          constructor
          · intro same
            rw [← Option.some.inj same]
            exact ⟨Set.mem_insert _ _, by rintro v (rfl | impossible); exacts [le_refl _, by cases impossible]⟩
          · intro isGreatest
            rcases isGreatest.1 with same | impossible
            · rw [same]
              rfl
            · cases impossible
      | some before =>
          have isGreatest := (ih.mp known).insert value
          rw [max_comm] at isGreatest
          constructor
          · intro same
            rw [← Option.some.inj same]
            exact isGreatest
          · intro other
            exact congrArg some (isGreatest.unique other)

end Zms.Registry
