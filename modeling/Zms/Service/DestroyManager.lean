import Zms.Registry.Association

/-! `destroy` of a manager, its roll-back and `MessageAdminManagerAdapt.remove`, which call one
another. Closing a client returns.
-/

set_option autoImplicit false

namespace Zms.Service.DestroyManager

open Registry

/-! ### The calls -/

/-- What the roll-back of a manager knows. -/
structure Manager where
  envId : Option Int
  clusterName : String

def generateKey (envId : Option Int) (clusterName : String) : String :=
  match envId with
  | none => "&" ++ clusterName
  | some env => toString env ++ "&" ++ clusterName

structure State where
  /-- `ZmsContextManager` of the thread. -/
  env : Option Int
  middlewareManagerMap : List (String × Nat)
  /-- Whether the client of a manager is not null. -/
  hasClient : Nat → Bool
  /-- How often it has been closed (history). -/
  closings : Nat → Nat
  distinct : (middlewareManagerMap.map Prod.fst).Nodup
  /-- Only a `destroy` makes it null. -/
  accounted : ∀ manager, closings manager = if hasClient manager then 0 else 1

namespace State
variable (s : State)

def setEnv (envId : Option Int) : State where
  env := envId
  middlewareManagerMap := s.middlewareManagerMap
  hasClient := s.hasClient
  closings := s.closings
  distinct := s.distinct
  accounted := s.accounted

/-- Closes the client and makes it null, if it is not null. -/
def close (manager : Nat) : State where
  env := s.env
  middlewareManagerMap := s.middlewareManagerMap
  hasClient := Function.update s.hasClient manager false
  closings := Function.update s.closings manager
    (if s.hasClient manager then s.closings manager + 1 else s.closings manager)
  distinct := s.distinct
  accounted := by
    intro other
    by_cases same : other = manager
    · subst same
      rw [Function.update_self, Function.update_self, s.accounted other]
      cases s.hasClient other <;> rfl
    · rw [Function.update_of_ne same, Function.update_of_ne same]
      exact s.accounted other

/-- The map without the key. -/
def without (key : String) : State where
  env := s.env
  middlewareManagerMap := s.middlewareManagerMap.filter fun entry => entry.1 ≠ key
  hasClient := s.hasClient
  closings := s.closings
  distinct := s.distinct.sublist (List.filter_sublist.map Prod.fst)
  accounted := s.accounted

end State

inductive Call where
  | destroy (manager : Nat)
  | rollBack (manager : Nat)
  | remove (clusterName : String)
  /-- `reload`, as far as `createAdmin`. -/
  | reload (clusterName : String)
  /-- `handleDataChange` or `handleDataDeleted`. -/
  | handle (manager : Nat)

section Code
variable (managers : Nat → Manager)

/-- At most so many calls, one in another; `none` if they do not do. -/
def run : Nat → Call → State → Option State
  | 0, _, _ => none
  | depth + 1, .destroy manager, s => run depth (.rollBack manager) (s.close manager)
  | depth + 1, .rollBack manager, s =>
      run depth (.remove (managers manager).clusterName) (s.setEnv (managers manager).envId)
  | depth + 1, .remove clusterName, s =>
      match s.middlewareManagerMap.lookup (generateKey s.env clusterName) with
      | none => some s
      | some manager => run depth (.destroy manager) (s.without (generateKey s.env clusterName))
  | depth + 1, .reload clusterName, s =>
      match s.middlewareManagerMap.lookup (generateKey s.env clusterName) with
      | none => some s
      | some manager => run depth (.destroy manager) (s.without (generateKey s.env clusterName))
  | depth + 1, .handle manager, s => run depth (.destroy manager) s

end Code

/-! ### What a call leaves -/

/-- Nothing gets into the map, and whatever leaves it has been closed. -/
structure Leaves (s t : State) : Prop where
  sublist : t.middlewareManagerMap.Sublist s.middlewareManagerMap
  closed : ∀ manager, s.hasClient manager = false → t.hasClient manager = false
  released : ∀ entry ∈ s.middlewareManagerMap, entry ∉ t.middlewareManagerMap → t.hasClient entry.2 = false

def State.Unmapped (t : State) (envId : Option Int) (clusterName : String) : Prop :=
  generateKey envId clusterName ∉ t.middlewareManagerMap.map Prod.fst

/-- The key that a call asks for is unmapped, and the manager that it destroys is closed. -/
def Call.Done (managers : Nat → Manager) (s t : State) : Call → Prop
  | .destroy manager | .handle manager =>
      t.Unmapped (managers manager).envId (managers manager).clusterName ∧ t.closings manager = 1
  | .rollBack manager => t.Unmapped (managers manager).envId (managers manager).clusterName
  | .remove clusterName | .reload clusterName => t.Unmapped s.env clusterName

structure Destroys (managers : Nat → Manager) (call : Call) (s t : State) : Prop where
  done : call.Done managers s t
  /-- Each manager that has left the map, in all. -/
  once : ∀ entry ∈ s.middlewareManagerMap, entry ∉ t.middlewareManagerMap → t.closings entry.2 = 1
  never : ∀ manager, t.closings manager ≤ 1

/-- The calls end, and their depth is bounded by the map. -/
def Ends (managers : Nat → Manager) (call : Call) (s : State) : Prop :=
  ∃ t, run managers (3 * s.middlewareManagerMap.length + 4) call s = some t ∧ Destroys managers call s t

/-! ### The recursion ends -/

section Ends
variable {managers : Nat → Manager} {s t u : State}

theorem Leaves.refl (s : State) : Leaves s s where
  sublist := List.Sublist.refl _
  closed _ isClosed := isClosed
  released _ member gone := absurd member gone

theorem Leaves.trans (first : Leaves s t) (rest : Leaves t u) : Leaves s u where
  sublist := rest.sublist.trans first.sublist
  closed manager isClosed := rest.closed manager (first.closed manager isClosed)
  released := by
    intro entry member gone
    by_cases between : entry ∈ t.middlewareManagerMap
    · exact rest.released entry between gone
    · exact rest.closed entry.2 (first.released entry member between)

theorem hasClient_close (s : State) (manager : Nat) : (s.close manager).hasClient manager = false :=
  Function.update_self _ _ _

theorem leaves_close (s : State) (manager : Nat) : Leaves s (s.close manager) where
  sublist := List.Sublist.refl _
  closed := by
    intro other isClosed
    by_cases same : other = manager
    · rw [same]
      exact hasClient_close s manager
    · exact (Function.update_of_ne same false s.hasClient).trans isClosed
  released _ member gone := absurd member gone

theorem leaves_setEnv (s : State) (envId : Option Int) : Leaves s (s.setEnv envId) where
  sublist := List.Sublist.refl _
  closed _ isClosed := isClosed
  released _ member gone := absurd member gone

theorem leaves_released {key : String} {manager : Nat} (mapped : s.middlewareManagerMap.lookup key = some manager)
    (closed : t.hasClient manager = false) (rest : Leaves (s.without key) t) : Leaves s t where
  sublist := rest.sublist.trans List.filter_sublist
  closed := rest.closed
  released := by
    intro entry member gone
    by_cases own : entry.1 = key
    · rw [← own, lookup_of_mem s.distinct member] at mapped
      rw [Option.some.inj mapped]
      exact closed
    · exact rest.released entry (List.mem_filter.mpr ⟨member, decide_eq_true own⟩) gone

theorem length_without {key : String} {manager : Nat} (mapped : s.middlewareManagerMap.lookup key = some manager) :
    (s.without key).middlewareManagerMap.length < s.middlewareManagerMap.length := by
  apply List.length_filter_lt_length_iff_exists.mpr
  exact ⟨(key, manager), mem_of_lookup mapped, by simp⟩

theorem not_mem_keys_without (s : State) (key : String) :
    key ∉ (s.without key).middlewareManagerMap.map Prod.fst := by
  intro member
  obtain ⟨entry, inMap, own⟩ := List.mem_map.mp member
  exact of_decide_eq_true (List.mem_filter.mp inMap).2 own

theorem Leaves.notMem (leaves : Leaves s t) {key : String} (unmapped : key ∉ s.middlewareManagerMap.map Prod.fst) :
    key ∉ t.middlewareManagerMap.map Prod.fst :=
  fun member => unmapped ((leaves.sublist.map Prod.fst).subset member)

theorem run_remove_of_unmapped {depth : Nat} {clusterName : String}
    (unmapped : s.middlewareManagerMap.lookup (generateKey s.env clusterName) = none) :
    run managers (depth + 1) (.remove clusterName) s = some s := by
  rw [run, unmapped]

theorem run_remove_of_mapped {depth manager : Nat} {clusterName : String}
    (mapped : s.middlewareManagerMap.lookup (generateKey s.env clusterName) = some manager) :
    run managers (depth + 1) (.remove clusterName) s =
      run managers depth (.destroy manager) (s.without (generateKey s.env clusterName)) := by
  rw [run, mapped]

/-- What the roll-back of the manager gets to see. -/
def State.destroyed (s : State) (managers : Nat → Manager) (manager : Nat) : State :=
  (s.close manager).setEnv (managers manager).envId

theorem leaves_destroyed (s : State) (manager : Nat) : Leaves s (s.destroyed managers manager) :=
  (leaves_close s manager).trans (leaves_setEnv _ _)

theorem run_destroy (managers : Nat → Manager) (depth manager : Nat) (s : State) :
    run managers (depth + 2) (.destroy manager) s =
      run managers depth (.remove (managers manager).clusterName) (s.destroyed managers manager) := rfl

/-- By induction on the managers in the map: each roll-back finds one less. -/
theorem remove_ends (managers : Nat → Manager) (spare : Nat) {size : Nat} {s : State}
    (few : s.middlewareManagerMap.length ≤ size) (clusterName : String) :
    ∃ t, run managers (spare + 3 * size + 1) (.remove clusterName) s = some t ∧ Leaves s t ∧
      t.Unmapped s.env clusterName := by
  induction size generalizing s clusterName with
  | zero =>
      have empty : s.middlewareManagerMap = [] := List.length_eq_zero_iff.mp (Nat.le_zero.mp few)
      have unmapped : s.middlewareManagerMap.lookup (generateKey s.env clusterName) = none := by
        rw [empty]
        rfl
      refine ⟨s, run_remove_of_unmapped unmapped, Leaves.refl s, ?_⟩
      unfold State.Unmapped
      rw [empty]
      exact List.not_mem_nil
  | succ size ih =>
      cases mapped : s.middlewareManagerMap.lookup (generateKey s.env clusterName) with
      | none =>
          refine ⟨s, run_remove_of_unmapped mapped, Leaves.refl s, ?_⟩
          intro member
          obtain ⟨entry, inMap, own⟩ := List.mem_map.mp member
          rw [← own, lookup_of_mem s.distinct inMap] at mapped
          cases mapped
      | some manager =>
          have fewer : (s.without (generateKey s.env clusterName)).middlewareManagerMap.length ≤ size :=
            Nat.le_of_lt_succ (Nat.lt_of_lt_of_le (length_without mapped) few)
          obtain ⟨t, ends, leaves, _⟩ :=
            ih (s := (s.without (generateKey s.env clusterName)).destroyed managers manager) fewer
              (managers manager).clusterName
          have rest : Leaves (s.without (generateKey s.env clusterName)) t := (leaves_destroyed _ manager).trans leaves
          refine ⟨t, ?_, ?_, ?_⟩
          · rw [← ends, ← run_destroy]
            exact run_remove_of_mapped mapped
          · exact leaves_released mapped (leaves.closed manager (hasClient_close _ manager)) rest
          · exact rest.notMem (not_mem_keys_without s _)

theorem closings_of_closed {manager : Nat} (closed : t.hasClient manager = false) : t.closings manager = 1 := by
  rw [t.accounted manager, closed]
  rfl

theorem closings_le_one (t : State) (manager : Nat) : t.closings manager ≤ 1 := by
  rw [t.accounted manager]
  cases t.hasClient manager <;> decide

theorem destroys_of_leaves {call : Call} (leaves : Leaves s t) (done : call.Done managers s t) :
    Destroys managers call s t where
  done := done
  once entry member gone := closings_of_closed (leaves.released entry member gone)
  never := closings_le_one t

theorem destroy_ends (managers : Nat → Manager) (spare manager : Nat) (s : State) :
    ∃ t, run managers (spare + 3 * s.middlewareManagerMap.length + 3) (.destroy manager) s = some t ∧ Leaves s t ∧
      (Call.destroy manager).Done managers s t := by
  obtain ⟨t, ends, leaves, unmapped⟩ := remove_ends managers spare (s := s.destroyed managers manager) (Nat.le_refl _)
    (managers manager).clusterName
  refine ⟨t, ends, (leaves_destroyed s manager).trans leaves, unmapped, ?_⟩
  exact closings_of_closed (leaves.closed manager (hasClient_close s manager))

/-- Whatever the map holds and whichever call comes first. -/
theorem ends_of_any (managers : Nat → Manager) (call : Call) (s : State) : Ends managers call s := by
  cases call with
  | destroy manager =>
      obtain ⟨t, ends, leaves, done⟩ := destroy_ends managers 1 manager s
      rw [Nat.add_comm 1] at ends
      exact ⟨t, ends, destroys_of_leaves leaves done⟩
  | rollBack manager =>
      obtain ⟨t, ends, leaves, unmapped⟩ := remove_ends managers 2 (s := s.setEnv (managers manager).envId)
        (Nat.le_refl _) (managers manager).clusterName
      rw [Nat.add_comm 2] at ends
      exact ⟨t, ends, destroys_of_leaves ((leaves_setEnv s _).trans leaves) unmapped⟩
  | remove clusterName =>
      obtain ⟨t, ends, leaves, unmapped⟩ :=
        remove_ends managers 3 (Nat.le_refl s.middlewareManagerMap.length) clusterName
      rw [Nat.add_comm 3] at ends
      exact ⟨t, ends, destroys_of_leaves leaves unmapped⟩
  | reload clusterName =>
      obtain ⟨t, ends, leaves, unmapped⟩ :=
        remove_ends managers 3 (Nat.le_refl s.middlewareManagerMap.length) clusterName
      rw [Nat.add_comm 3] at ends
      exact ⟨t, ends, destroys_of_leaves leaves unmapped⟩
  | handle manager =>
      obtain ⟨t, ends, leaves, done⟩ := destroy_ends managers 0 manager s
      rw [Nat.zero_add] at ends
      exact ⟨t, ends, destroys_of_leaves leaves done⟩

end Ends

end Zms.Service.DestroyManager
