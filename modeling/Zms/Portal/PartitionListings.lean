import Zms.Sorting.Comparators
import Zms.Portal.ConsumerGroupLoader

/-! Which listings of partitions can be sorted with the comparator of the loaders. -/

set_option autoImplicit false

namespace Zms.Portal.Kafka

open Sorting

section Listings
variable {α : Type} {getPartition : α → Nat} {elements : List α}

/-- The comparator keeps its contract on the elements, and whatever the sort may do then orders
them by partition. -/
structure Sortable (getPartition : α → Nat) (elements : List α) : Prop where
  contract : Contract (comparePartition getPartition) elements
  ordered : ∀ outcome, Sorts (comparePartition getPartition) elements outcome →
    ∃ sorted, outcome = some sorted ∧ sorted.Perm elements ∧
      sorted.Pairwise fun x y => getPartition x ≤ getPartition y

theorem comparePartition_self (o : α) : comparePartition getPartition o o = -1 := if_neg (Nat.lt_irrefl _)

theorem comparePartition_nonpos {o1 o2 : α} (below : comparePartition getPartition o1 o2 ≤ 0) :
    getPartition o1 ≤ getPartition o2 := by
  by_contra above
  have one : comparePartition getPartition o1 o2 = 1 := if_pos (Nat.lt_of_not_le above)
  omega

theorem sortable_iff : Sortable getPartition elements ↔ elements = [] := by
  constructor
  · intro sortable
    cases elements with
    | nil => rfl
    | cons first rest =>
        have zero := sortable.contract.self (List.mem_cons_self (a := first) (l := rest))
        rw [comparePartition_self] at zero
        cases zero
  · intro empty
    subst empty
    constructor
    · exact contract_nil _
    · intro outcome sorts
      obtain ⟨sorted, returned, perm, ordered⟩ := sorts (contract_nil _)
      exact ⟨sorted, returned, perm, ordered.imp comparePartition_nonpos⟩

end Listings

/-! ### The listings of the loaders -/

def leading (topic : String) : KafkaConsumerInfo :=
  ⟨some "client-1", some "consumer-1", some "/10.0.0.1", 5, 8, topic, "billing", 0, 3⟩

end Zms.Portal.Kafka
