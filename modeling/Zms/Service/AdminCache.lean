import Mathlib
import Zms.Service.MessageAdminManagerAdapt

/-! The cache of `MessageAdminManagerAdapt` over whole runs: what is in the map or is
returned is usable, what left the map is closed. An entry may be taken out of the map
only where nobody is about to read it, and by a roll-back only after its own node changed.
-/

set_option autoImplicit false

namespace Zms.Service.MessageAdminManagerAdapt

open Zms.Transition

structure CacheSound (s : State) : Prop where
  cached : ∀ key id, s.middlewareManagerMap key = some id →
    ∃ manager, s.managers id = some manager ∧ manager.key = key ∧ (manager.destroyed → manager.changed)
  returned : ∀ answer ∈ s.returned, ∀ manager, answer.manager = some manager →
    manager.key = answer.key ∧ (manager.destroyed → manager.changed)
  /-- Later on, too, unless an administrator's `remove` or `reload` has released it. -/
  destroyed : ∀ id manager, s.managers id = some manager → manager.destroyed → manager.changed ∨ manager.released
  removed : ∀ id manager, s.managers id = some manager → manager.cached →
    s.middlewareManagerMap manager.key ≠ some id → manager.destroyed
  notNull : ∀ answer ∈ s.returned, answer.existing → answer.manager ≠ none

/-- A `getOrCreateAdmin` has seen the key in the map and not yet read its result. -/
def State.Awaited (s : State) (key : Key) : Prop := ∃ thread, s.calls thread = .getting key

/-- What is about to be taken out of the map is not awaited, and a roll-back takes out
only a manager whose own node has changed. -/
def Spares (s : State) : Action → Prop
  | .advance thread _ => ∀ key, s.calls thread = .reloading key ∨ s.calls thread = .removing key → ¬ s.Awaited key
  | .rollBack id => ∀ manager, s.managers id = some manager →
      ¬ s.Awaited manager.key ∧
      ∀ other, s.middlewareManagerMap manager.key = some other → (s.managers other).any Manager.changed
  | _ => True

/-- The call of the thread holds the lock. -/
def Progress.holds : Progress → Bool
  | .creating _ | .putting _ _ | .renewing _ | .replacing _ _ => true
  | _ => false

/-- The call found or left no manager in the map. -/
def Progress.clears (key : Key) : Progress → Bool
  | .creating k | .putting k _ | .renewing k | .replacing k _ => k = key
  | _ => false

def Progress.makes (key : Key) (id : Nat) : Progress → Bool
  | .putting k i | .replacing k i => k = key && i = id
  | _ => false

structure Consistent (s : State) : Prop where
  fresh : ∀ id, s.created ≤ id → s.managers id = none
  named : ∀ key id, s.middlewareManagerMap key = some id → ∃ manager, s.managers id = some manager ∧
    manager.key = key ∧ manager.cached = true ∧ manager.released = false
  explained : ∀ id manager, s.managers id = some manager → manager.destroyed → manager.changed ∨ manager.released
  removed : ∀ id manager, s.managers id = some manager → manager.cached →
    s.middlewareManagerMap manager.key ≠ some id → manager.destroyed
  notified : ∀ id, id ∈ s.pending ∨ id ∈ s.rollingBack →
    ∃ manager, s.managers id = some manager ∧ manager.changed = true
  locking : ∀ thread, (s.calls thread).holds → s.lock = some thread
  awaited : ∀ key, s.Awaited key → (s.middlewareManagerMap key).isSome
  cleared : ∀ thread key, (s.calls thread).clears key → s.middlewareManagerMap key = none
  made : ∀ thread key id, (s.calls thread).makes key id → ∃ manager, s.managers id = some manager ∧
    manager.key = key ∧ manager.cached = false ∧ manager.released = false
  answered : ∀ answer ∈ s.returned, ∃ manager, answer.manager = some manager ∧ manager.key = answer.key ∧
    (manager.destroyed → manager.changed)

theorem Consistent.sound {s : State} (consistent : Consistent s) : CacheSound s where
  cached key id entry := by
    obtain ⟨manager, found, sameKey, -, kept⟩ := consistent.named key id entry
    refine ⟨manager, found, sameKey, fun destroyed => ?_⟩
    simpa [kept] using consistent.explained id manager found destroyed
  returned answer answered manager found := by
    obtain ⟨_, same, usable⟩ := consistent.answered answer answered
    cases found.symm.trans same
    exact usable
  destroyed := consistent.explained
  removed := consistent.removed
  notNull answer answered _ isNull := by
    obtain ⟨_, same, -⟩ := consistent.answered answer answered
    cases isNull.symm.trans same

theorem consistent_init {s : State} (initial : adapt.init s) : Consistent s := by
  obtain ⟨noManager, noEntry, idle, unlocked, nonePending, noneRolling, noneReturned⟩ := initial
  constructor <;> simp [noManager, noEntry, idle, nonePending, noneRolling, noneReturned, State.Awaited,
    Progress.holds, Progress.clears, Progress.makes]

theorem Consistent.goes {s : State} (consistent : Consistent s) (thread : Nat) (progress : Progress)
    (lock : Option Nat)
    (locking : ∀ other, other ≠ thread → (s.calls other).holds → lock = some other)
    (holds : progress.holds → lock = some thread)
    (awaited : ∀ key, progress = .getting key → (s.middlewareManagerMap key).isSome)
    (cleared : ∀ key, progress.clears key → s.middlewareManagerMap key = none)
    (made : ∀ key id, progress.makes key id → ∃ manager, s.managers id = some manager ∧
      manager.key = key ∧ manager.cached = false ∧ manager.released = false) :
    Consistent ((s.goes thread progress).locked lock) := by
  obtain ⟨fresh, named, explained, removed, notified, locking', awaited', cleared', made', answered⟩ := consistent
  refine ⟨fresh, named, explained, removed, notified, ?_, ?_, ?_, ?_, answered⟩
  · intro other; by_cases same : other = thread <;> simp [State.goes, State.locked, same]
    · exact holds
    · exact locking other same
  · rintro key ⟨other, getting⟩
    by_cases same : other = thread
    · exact awaited key (by simpa [State.goes, State.locked, same] using getting)
    · exact awaited' key ⟨other, by simpa [State.goes, State.locked, same] using getting⟩
  · intro other key
    by_cases same : other = thread
    · simpa [State.goes, State.locked, same] using cleared key
    · simpa [State.goes, State.locked, same] using cleared' other key
  · intro other key id
    by_cases same : other = thread
    · simpa [State.goes, State.locked, same] using made key id
    · simpa [State.goes, State.locked, same] using made' other key id

theorem Progress.holds_of_clears {progress : Progress} {key : Key} (clears : progress.clears key) :
    progress.holds := by
  cases progress <;> simp_all [Progress.clears, Progress.holds]

theorem Progress.holds_of_makes {progress : Progress} {key : Key} {id : Nat} (makes : progress.makes key id) :
    progress.holds := by
  cases progress <;> simp_all [Progress.makes, Progress.holds]

theorem Consistent.createAdmin {s : State} (consistent : Consistent s) (key : Key) :
    Consistent (s.createAdmin key) := by
  obtain ⟨fresh, named, explained, removed, notified, locking, awaited, cleared, made, answered⟩ := consistent
  have unused := fresh s.created (Nat.le_refl _)
  have old : ∀ id manager, s.managers id = some manager → (s.createAdmin key).managers id = some manager := by
    intro id manager found
    have : id ≠ s.created := by intro same; rw [same, unused] at found; cases found
    simpa [State.createAdmin, this] using found
  have oldOrNew : ∀ id manager, (s.createAdmin key).managers id = some manager →
      s.managers id = some manager ∨ manager = ⟨key, false, false, false, false⟩ := by
    intro id manager found
    by_cases same : id = s.created
    · right; simpa [State.createAdmin, same, eq_comm] using found
    · left; simpa [State.createAdmin, same] using found
  refine ⟨?_, ?_, ?_, ?_, ?_, locking, awaited, cleared, ?_, answered⟩
  · intro id later
    have : id ≠ s.created := by simp only [State.createAdmin] at later; omega
    simpa [State.createAdmin, this] using fresh id (by simp only [State.createAdmin] at later; omega)
  · intro k id entry
    obtain ⟨manager, found, rest⟩ := named k id entry
    exact ⟨manager, old id manager found, rest⟩
  · intro id manager found destroyed
    rcases oldOrNew id manager found with before | rfl
    · exact explained id manager before destroyed
    · cases destroyed
  · intro id manager found cached away
    rcases oldOrNew id manager found with before | rfl
    · exact removed id manager before cached away
    · cases cached
  · intro id waits
    obtain ⟨manager, found, changed⟩ := notified id waits
    exact ⟨manager, old id manager found, changed⟩
  · intro thread k id makes
    obtain ⟨manager, found, rest⟩ := made thread k id makes
    exact ⟨manager, old id manager found, rest⟩

theorem Consistent.removeKey {s : State} (consistent : Consistent s) (key : Key) (releases : Bool)
    (spared : ¬ s.Awaited key)
    (allowed : ∀ id, s.middlewareManagerMap key = some id → releases ∨ (s.managers id).any Manager.changed) :
    Consistent (s.removeKey key releases) := by
  unfold State.removeKey
  cases entry : s.middlewareManagerMap key with
  | none => exact consistent
  | some current =>
    obtain ⟨fresh, named, explained, removed, notified, locking, awaited, cleared, made, answered⟩ := consistent
    obtain ⟨taken, isTaken, sameKey, isCached, kept⟩ := named key current entry
    have reason := allowed current entry
    simp only [isTaken, Option.any_some] at reason
    have others : ∀ id, id ≠ current → (s.alter current
        (fun m => { m with destroyed := true, released := m.released || releases })).managers id = s.managers id :=
      fun id other => Function.update_of_ne other _ _
    have itself : (s.alter current
        (fun m => { m with destroyed := true, released := m.released || releases })).managers current =
        some { taken with destroyed := true, released := taken.released || releases } := by
      simp [State.alter, isTaken]
    refine ⟨?_, ?_, ?_, ?_, ?_, locking, ?_, ?_, ?_, answered⟩
    · intro id later
      have other : id ≠ current := by
        intro same
        rw [same] at later
        cases (fresh current later).symm.trans isTaken
      exact (others id other).trans (fresh id later)
    · intro k id holds
      by_cases same : k = key
      · simp [same] at holds
      · simp only [ne_eq, same, not_false_eq_true, Function.update_of_ne] at holds
        obtain ⟨manager, found, atKey, rest⟩ := named k id holds
        have other : id ≠ current := by
          rintro rfl
          exact same (atKey.symm.trans ((Option.some.inj (found.symm.trans isTaken)) ▸ sameKey))
        exact ⟨manager, (others id other).trans found, atKey, rest⟩
    · intro id manager found destroyed
      by_cases same : id = current
      · rw [same] at found
        cases itself.symm.trans found
        rcases reason with byAdmin | changed
        · right; simp [byAdmin]
        · left; exact changed
      · exact explained id manager ((others id same).symm.trans found) destroyed
    · intro id manager found cached away
      by_cases same : id = current
      · rw [same] at found
        cases itself.symm.trans found
        rfl
      · have before := (others id same).symm.trans found
        apply removed id manager before cached
        intro holds
        by_cases atKey : manager.key = key
        · rw [atKey, entry] at holds; exact same (Option.some.inj holds).symm
        · exact away (by simpa [atKey] using holds)
    · intro id waits
      obtain ⟨manager, found, changed⟩ := notified id waits
      by_cases same : id = current
      · subst same
        cases isTaken.symm.trans found
        exact ⟨_, itself, changed⟩
      · exact ⟨manager, (others id same).trans found, changed⟩
    · intro k waits
      by_cases same : k = key
      · exact absurd (same ▸ waits) spared
      · simpa [same] using awaited k waits
    · intro thread k clears
      by_cases same : k = key
      · simp [same]
      · simpa [same] using cleared thread k clears
    · intro thread k id makes
      obtain ⟨manager, found, atKey, uncached, rest⟩ := made thread k id makes
      have other : id ≠ current := by
        rintro rfl
        cases isTaken.symm.trans found
        simp [isCached] at uncached
      exact ⟨manager, (others id other).trans found, atKey, uncached, rest⟩

theorem Consistent.put {s : State} (consistent : Consistent s) {thread : Nat} {key : Key} {id : Nat}
    {progress : Progress} (makes : (s.calls thread).makes key id) (clears : (s.calls thread).clears key)
    (after : progress = .idle ∨ progress = .getting key) :
    Consistent (((s.put key id).goes thread progress).locked none) := by
  obtain ⟨fresh, named, explained, removed, notified, locking, awaited, cleared, made, answered⟩ := consistent
  obtain ⟨manager, found, atKey, uncached, kept⟩ := made thread key id makes
  have noEntry := cleared thread key clears
  have alone : ∀ other, other ≠ thread → ¬ (s.calls other).holds := by
    intro other different holds
    have := locking thread (Progress.holds_of_makes makes)
    exact different (Option.some.inj ((locking other holds).symm.trans this))
  have others : ∀ other, other ≠ id → (s.alter id (fun m => { m with cached := true })).managers other =
      s.managers other := fun other different => Function.update_of_ne different _ _
  have itself : (s.alter id (fun m => { m with cached := true })).managers id =
      some { manager with cached := true } := by
    simp [State.alter, found]
  have quiet : ∀ other, other ≠ thread → ∀ k, ¬ (s.calls other).clears k :=
    fun other different k clears => alone other different (Progress.holds_of_clears clears)
  have afterIdle : ∀ k, ¬ progress.clears k := by
    intro k; rcases after with rfl | rfl <;> simp [Progress.clears]
  refine ⟨?_, ?_, ?_, ?_, ?_, ?_, ?_, ?_, ?_, answered⟩
  · intro other later
    have different : other ≠ id := by rintro rfl; rw [fresh other later] at found; cases found
    exact (others other different).trans (fresh other later)
  · intro k other entry
    by_cases same : k = key
    · simp [State.put, State.goes, State.locked, same] at entry
      subst entry same
      exact ⟨_, itself, atKey, rfl, kept⟩
    · simp [State.put, State.goes, State.locked, same] at entry
      obtain ⟨current, isCurrent, rest⟩ := named k other entry
      have different : other ≠ id := by
        rintro rfl
        cases found.symm.trans isCurrent
        exact same (rest.1.symm.trans atKey)
      exact ⟨current, (others other different).trans isCurrent, rest⟩
  · intro other current isCurrent destroyed
    by_cases same : other = id
    · subst same
      cases itself.symm.trans isCurrent
      exact explained other manager found destroyed
    · exact explained other current ((others other same).symm.trans isCurrent) destroyed
  · intro other current isCurrent cached away
    by_cases same : other = id
    · subst same
      cases itself.symm.trans isCurrent
      simp [State.put, State.goes, State.locked, atKey] at away
    · apply removed other current ((others other same).symm.trans isCurrent) cached
      intro entry
      by_cases sameKey : current.key = key
      · rw [sameKey, noEntry] at entry; cases entry
      · exact away (by simpa [State.put, State.goes, State.locked, sameKey] using entry)
  · intro other waits
    obtain ⟨current, isCurrent, changed⟩ := notified other waits
    by_cases same : other = id
    · subst same
      cases found.symm.trans isCurrent
      exact ⟨_, itself, changed⟩
    · exact ⟨current, (others other same).trans isCurrent, changed⟩
  · intro other holds
    by_cases same : other = thread
    · rcases after with rfl | rfl <;> simp [State.goes, State.locked, same, Progress.holds] at holds
    · exact absurd (by simpa [State.goes, State.locked, State.put, State.alter, same] using holds) (alone other same)
  · rintro k ⟨other, getting⟩
    by_cases sameKey : k = key
    · simp [State.goes, State.locked, State.put, sameKey]
    · by_cases same : other = thread
      · rcases after with rfl | rfl <;> simp [State.goes, State.locked, same] at getting
        exact absurd getting.symm sameKey
      · have already : s.calls other = .getting k := by
          simpa [State.goes, State.locked, State.put, State.alter, same] using getting
        have before := awaited k ⟨other, already⟩
        simpa [State.goes, State.locked, State.put, sameKey] using before
  · intro other k clears
    by_cases same : other = thread
    · exact absurd (by simpa [State.goes, State.locked, same] using clears) (afterIdle k)
    · refine absurd ?_ (quiet other same k)
      simpa [State.goes, State.locked, State.put, State.alter, same] using clears
  · intro other k i makes
    by_cases same : other = thread
    · rcases after with rfl | rfl <;> simp [State.goes, State.locked, same, Progress.makes] at makes
    · refine absurd (@Progress.holds_of_makes _ k i ?_) (alone other same)
      simpa [State.goes, State.locked, State.put, State.alter, same] using makes

theorem Consistent.touch {s : State} (consistent : Consistent s) (touched : Nat → Manager → Manager)
    (sameKey : ∀ id manager, (touched id manager).key = manager.key)
    (sameCached : ∀ id manager, (touched id manager).cached = manager.cached)
    (sameReleased : ∀ id manager, (touched id manager).released = manager.released)
    (changes : ∀ id manager, manager.changed → (touched id manager).changed)
    (destroys : ∀ id manager, manager.destroyed → (touched id manager).destroyed)
    (explains : ∀ id manager, s.managers id = some manager → (touched id manager).destroyed →
      manager.destroyed ∨ (touched id manager).changed) :
    Consistent { s with managers := fun id => (s.managers id).map (touched id) } := by
  obtain ⟨fresh, named, explained, removed, notified, locking, awaited, cleared, made, answered⟩ := consistent
  have now : ∀ id manager, s.managers id = some manager →
      (s.managers id).map (touched id) = some (touched id manager) := by
    intro id manager found; simp [found]
  refine ⟨?_, ?_, ?_, ?_, ?_, locking, awaited, cleared, ?_, answered⟩
  · intro id later
    simp [fresh id later]
  · intro key id entry
    obtain ⟨manager, found, atKey, cached, kept⟩ := named key id entry
    exact ⟨_, now id manager found, (sameKey id manager).trans atKey, (sameCached id manager).trans cached,
      (sameReleased id manager).trans kept⟩
  · intro id manager isManager destroyed
    obtain ⟨before, found, rfl⟩ := Option.map_eq_some_iff.mp isManager
    rcases explains id before found destroyed with was | changed
    · rcases explained id before found was with changed | released
      · exact .inl (changes id before changed)
      · exact .inr ((sameReleased id before).trans released)
    · exact .inl changed
  · intro id manager isManager cached away
    obtain ⟨before, found, rfl⟩ := Option.map_eq_some_iff.mp isManager
    rw [sameKey] at away
    rw [sameCached] at cached
    exact destroys id before (removed id before found cached away)
  · intro id waits
    obtain ⟨manager, found, changed⟩ := notified id waits
    exact ⟨_, now id manager found, changes id manager changed⟩
  · intro thread key id makes
    obtain ⟨manager, found, atKey, uncached, kept⟩ := made thread key id makes
    exact ⟨_, now id manager found, (sameKey id manager).trans atKey, (sameCached id manager).trans uncached,
      (sameReleased id manager).trans kept⟩

theorem Consistent.change {s : State} (consistent : Consistent s) (key : Key) (present : Bool) :
    Consistent (s.change key present) := by
  have touched := consistent.touch (fun _ m => { m with changed := m.changed || m.key = key })
    (fun _ _ => rfl) (fun _ _ => rfl) (fun _ _ => rfl) (fun _ _ changed => by simp [changed])
    (fun _ _ destroyed => destroyed) (fun _ _ _ destroyed => .inl destroyed)
  refine { touched with notified := ?_ }
  intro id waits
  by_cases before : id ∈ s.pending ∨ id ∈ s.rollingBack
  · exact touched.notified id before
  · simp only [State.change, List.mem_append, List.mem_filter, Option.any_eq_true, decide_eq_true_eq] at waits
    obtain ⟨-, manager, found, atKey⟩ : id ∈ List.range s.created ∧ ∃ m, s.managers id = some m ∧ m.key = key := by
      rcases waits with (queued | new) | rolling
      · exact absurd (.inl queued) before
      · exact new
      · exact absurd (.inr rolling) before
    exact ⟨{ manager with changed := manager.changed || manager.key = key }, by simp [State.change, found],
      by simp [atKey]⟩

theorem Consistent.notify {s : State} (consistent : Consistent s) {id : Nat} (waits : id ∈ s.pending) :
    Consistent (s.notify id) := by
  have touched := consistent.touch (fun other m => if other = id then { m with destroyed := true } else m)
    (fun other _ => by split <;> rfl) (fun other _ => by split <;> rfl) (fun other _ => by split <;> rfl)
    (fun other _ changed => by split <;> exact changed)
    (fun other _ destroyed => by split <;> [rfl; exact destroyed])
    (fun other manager found destroyed => by
      split at destroyed
      · next same =>
          subst same
          obtain ⟨_, isManager, changed⟩ := consistent.notified other (.inl waits)
          cases isManager.symm.trans found
          exact .inr (by simpa using changed)
      · exact .inl destroyed)
  have same : (s.notify id).managers = fun other => (s.managers other).map
      (fun m => if other = id then { m with destroyed := true } else m) := by
    funext other
    by_cases it : other = id <;> simp [State.notify, State.alter, it]
  have managersNow : Consistent { s with managers := (s.notify id).managers } := same ▸ touched
  refine { managersNow with notified := ?_ }
  intro other waiting
  apply managersNow.notified other
  simp only [State.notify, List.mem_cons] at waiting
  rcases waiting with queued | rfl | rolling
  · exact .inl (List.mem_of_mem_erase queued)
  · exact .inl waits
  · exact .inr rolling

theorem Consistent.answer {s : State} (consistent : Consistent s) {thread : Nat} {key : Key}
    (getting : s.calls thread = .getting key) :
    Consistent { s with
      returned := ⟨key, s.present key, (s.middlewareManagerMap key).bind s.managers⟩ :: s.returned } := by
  refine { consistent with answered := ?_ }
  rintro answer (- | ⟨-, earlier⟩)
  · obtain ⟨id, entry⟩ := Option.isSome_iff_exists.mp (consistent.awaited key ⟨thread, getting⟩)
    obtain ⟨manager, found, atKey, -, kept⟩ := consistent.named key id entry
    refine ⟨manager, by simp [entry, found], atKey, fun destroyed => ?_⟩
    simpa [kept] using consistent.explained id manager found destroyed
  · exact consistent.answered answer earlier

theorem Consistent.moves {s : State} (consistent : Consistent s) (thread : Nat) {progress : Progress}
    (free : progress.holds = false) (awaited : ∀ key, progress = .getting key → (s.middlewareManagerMap key).isSome) :
    Consistent (s.goes thread progress) := by
  have notHeld : ¬ progress.holds := by simp [free]
  apply consistent.goes thread progress s.lock
  · intro other _
    exact consistent.locking other
  · intro holds
    exact absurd holds notHeld
  · exact awaited
  · intro key clears
    exact absurd (Progress.holds_of_clears clears) notHeld
  · intro key id makes
    exact absurd (Progress.holds_of_makes makes) notHeld

theorem Consistent.enters {s : State} (consistent : Consistent s) (thread : Nat) {progress : Progress} {key : Key}
    (unlocked : s.lock = none) (absent : s.middlewareManagerMap key = none)
    (enters : progress = .creating key ∨ progress = .renewing key) :
    Consistent ((s.goes thread progress).locked (some thread)) := by
  apply consistent.goes thread progress (some thread)
  · intro other _ holds
    have held := consistent.locking other holds
    rw [unlocked] at held
    cases held
  · intro _
    rfl
  · intro other getting
    rcases enters with rfl | rfl <;> cases getting
  · intro other clears
    have same : key = other := by
      rcases enters with rfl | rfl <;> simpa [Progress.clears] using clears
    rw [← same, absent]
  · intro other id makes
    rcases enters with rfl | rfl <;> cases makes

theorem Consistent.creates {s : State} (consistent : Consistent s) {thread : Nat} {progress : Progress} {key : Key}
    (holds : (s.calls thread).holds) (clears : (s.calls thread).clears key)
    (puts : progress = .putting key s.created ∨ progress = .replacing key s.created) :
    Consistent ((s.createAdmin key).goes thread progress) := by
  have absent := consistent.cleared thread key clears
  apply (consistent.createAdmin key).goes thread progress s.lock
  · intro other _
    exact consistent.locking other
  · intro _
    exact consistent.locking thread holds
  · intro other getting
    rcases puts with rfl | rfl <;> cases getting
  · intro other same
    rcases puts with rfl | rfl <;> simp only [Progress.clears, decide_eq_true_eq] at same <;> exact same ▸ absent
  · intro other id makes
    refine ⟨⟨key, false, false, false, false⟩, ?_, ?_, rfl, rfl⟩
    · rcases puts with rfl | rfl <;> simp [Progress.makes] at makes <;> simp [State.createAdmin, makes.2.symm]
    · rcases puts with rfl | rfl <;> simp [Progress.makes] at makes <;> exact makes.1

theorem Consistent.leaves {s : State} (consistent : Consistent s) {thread : Nat} (holds : (s.calls thread).holds) :
    Consistent ((s.goes thread .idle).locked none) := by
  apply consistent.goes thread .idle none
  · intro other different otherHolds
    have held := consistent.locking thread holds
    rw [consistent.locking other otherHolds] at held
    exact absurd (Option.some.inj held) different
  all_goals simp [Progress.holds, Progress.clears, Progress.makes]

theorem lock_removeKey (s : State) (key : Key) (releases : Bool) : (s.removeKey key releases).lock = s.lock := by
  unfold State.removeKey; split <;> rfl

theorem waiting_removeKey (s : State) (key : Key) (releases : Bool) :
    (s.removeKey key releases).pending = s.pending ∧ (s.removeKey key releases).rollingBack = s.rollingBack := by
  unfold State.removeKey; split <;> exact ⟨rfl, rfl⟩

theorem map_removeKey (s : State) (key : Key) (releases : Bool) :
    (s.removeKey key releases).middlewareManagerMap key = none := by
  unfold State.removeKey
  split
  · assumption
  · exact Function.update_self _ _ _

theorem Consistent.advance {s : State} (consistent : Consistent s) {thread : Nat} {starts : Bool}
    (enabled : adapt.guard s (.advance thread starts)) (spares : Spares s (.advance thread starts)) :
    Consistent (s.advance thread starts) := by
  obtain ⟨-, free⟩ := enabled
  unfold State.advance
  cases call : s.calls thread with
  | idle => exact consistent
  | checking key =>
    apply consistent.moves thread
    · split <;> rfl
    · intro other getting
      split at getting <;> cases getting
      assumption
  | entering key =>
    dsimp only
    split
    · next cached => exact consistent.moves thread rfl (by rintro _ ⟨⟩; exact cached)
    · next absent =>
      apply consistent.enters thread (free (by rw [call]; rfl)) _ (.inl rfl)
      simpa using absent
  | creating key =>
    dsimp only
    split
    · exact consistent.creates (by simp [call, Progress.holds]) (by simp [call, Progress.clears]) (.inl rfl)
    · exact consistent.leaves (by simp [call, Progress.holds])
  | putting key id =>
    exact consistent.put (by simp [call, Progress.makes]) (by simp [call, Progress.clears]) (.inr rfl)
  | getting key => exact (consistent.answer call).moves thread rfl (by rintro _ ⟨⟩)
  | reloading key =>
    have removed := consistent.removeKey key true (spares key (.inl call)) (fun _ _ => .inl rfl)
    apply removed.enters thread _ (map_removeKey s key true) (.inr rfl)
    rw [lock_removeKey]
    exact free (by rw [call]; rfl)
  | renewing key =>
    dsimp only
    split
    · exact consistent.creates (by simp [call, Progress.holds]) (by simp [call, Progress.clears]) (.inr rfl)
    · exact consistent.leaves (by simp [call, Progress.holds])
  | replacing key id =>
    exact consistent.put (by simp [call, Progress.makes]) (by simp [call, Progress.clears]) (.inl rfl)
  | removing key =>
    have removed := consistent.removeKey key true (spares key (.inr call)) (fun _ _ => .inl rfl)
    exact removed.moves thread rfl (by rintro _ ⟨⟩)

theorem Consistent.rollBack {s : State} (consistent : Consistent s) {id : Nat}
    (spares : Spares s (.rollBack id)) : Consistent (s.rollBack id) := by
  unfold State.rollBack
  cases found : s.managers id with
  | none => exact consistent
  | some manager =>
    obtain ⟨unawaited, changed⟩ := spares manager found
    have removed := consistent.removeKey manager.key false unawaited (fun other entry => .inr (changed other entry))
    refine { removed with notified := ?_ }
    intro other waits
    apply removed.notified other
    rw [(waiting_removeKey s manager.key false).2]
    rcases waits with queued | rolling
    · exact .inl queued
    · exact .inr (List.mem_of_mem_erase rolling)

theorem consistent_of_spares {s : State} (reached : (adapt.restrict Spares).Reachable s) : Consistent s := by
  apply reached.invariant
  · intro s initial
    exact consistent_init initial
  · intro s action consistent
    rintro ⟨enabled, spares⟩
    cases action with
    | getOrCreateAdmin thread key => exact consistent.moves thread rfl (by rintro _ ⟨⟩)
    | reload thread key => exact consistent.moves thread rfl (by rintro _ ⟨⟩)
    | remove thread key => exact consistent.moves thread rfl (by rintro _ ⟨⟩)
    | advance thread starts => exact consistent.advance enabled spares
    | change key present => exact consistent.change key present
    | notify id => exact consistent.notify enabled
    | rollBack id => exact consistent.rollBack spares

theorem cacheSound_of_spares {s : State} (reached : (adapt.restrict Spares).Reachable s) : CacheSound s :=
  (consistent_of_spares reached).sound

/-- The cluster "main" of no environment, which exists from the start. -/
def main : Key := (none, "main")

def started : State where
  managers _ := none
  created := 0
  middlewareManagerMap _ := none
  calls _ := .idle
  lock := none
  pending := []
  rollingBack := []
  present key := key = main
  returned := []

theorem started_init : adapt.init started := ⟨fun _ => rfl, fun _ => rfl, fun _ => rfl, rfl, rfl, rfl, rfl⟩

def creates : List Action := .getOrCreateAdmin 0 main :: List.replicate 5 (.advance 0 true)

def Progress.takesOut : Progress → Bool
  | .reloading _ | .removing _ => true
  | _ => false

theorem spares_advance {s : State} {thread : Nat} {starts : Bool} (keeps : (s.calls thread).takesOut = false) :
    Spares s (.advance thread starts) := by
  rintro key (reloads | removes)
  · rw [reloads] at keeps; cases keeps
  · rw [removes] at keeps; cases keeps

theorem reachable_next {s : State} (reached : (adapt.restrict Spares).Reachable s) (action : Action)
    (enabled : adapt.guard s action) (spares : Spares s action) :
    (adapt.restrict Spares).Reachable (adapt.effect s action) :=
  reached.step ⟨enabled, spares⟩

theorem reachable_creates : (adapt.restrict Spares).Reachable (creates.foldl adapt.effect started) := by
  have begun := reachable_next (.start started_init) (.getOrCreateAdmin 0 main) rfl trivial
  have checked := reachable_next begun (.advance 0 true) (by decide) (spares_advance rfl)
  have entered := reachable_next checked (.advance 0 true) (by decide) (spares_advance rfl)
  have created := reachable_next entered (.advance 0 true) (by decide) (spares_advance rfl)
  have put := reachable_next created (.advance 0 true) (by decide) (spares_advance rfl)
  exact reachable_next put (.advance 0 true) (by decide) (spares_advance rfl)

theorem idle_creates (thread : Nat) : (creates.foldl adapt.effect started).calls thread = .idle := by
  simp [creates, adapt, State.advance, State.goes, State.locked, State.createAdmin, State.put, State.alter, started]

/-- Its node changes, and the manager is destroyed and removed. -/
theorem cacheSound_rolledBack :
    CacheSound ((creates ++ [Action.change main true, Action.notify 0, Action.rollBack 0]).foldl adapt.effect started) := by
  have changed := reachable_next reachable_creates (.change main true) trivial trivial
  have notified := reachable_next changed (.notify 0) (by decide) trivial
  refine cacheSound_of_spares (reachable_next notified (.rollBack 0) (by decide) ?_)
  intro manager found
  cases found
  constructor
  · rintro ⟨thread, getting⟩
    cases (idle_creates thread).symm.trans getting
  · intro other entry
    cases entry
    rfl

/-- Null for a cluster that always existed, and a manager that is destroyed for a change
before it was created. -/
theorem cache_unsound :
    (∃ s, adapt.Reachable s ∧ ⟨main, true, none⟩ ∈ s.returned ∧ ¬ CacheSound s) ∧
    (∃ s, adapt.Reachable s ∧ (∃ manager ∈ s.managers 1, manager.cached ∧ manager.destroyed ∧
      ¬ manager.changed ∧ ¬ manager.released) ∧ ¬ CacheSound s) := by
  constructor
  · obtain ⟨s, reached, isNull⟩ : ∃ s, adapt.Reachable s ∧ ⟨main, true, none⟩ ∈ s.returned :=
      Guarded.exists_reachable
        (creates ++ [.getOrCreateAdmin 1 main, .advance 1 true, .change main true, .notify 0, .rollBack 0,
          .advance 1 true])
        started_init (by decide)
    exact ⟨s, reached, isNull, fun sound => sound.notNull _ isNull rfl rfl⟩
  · obtain ⟨s, reached, manager, found, cached, destroyed, unchanged, kept⟩ : ∃ s, adapt.Reachable s ∧
        ∃ manager ∈ s.managers 1, manager.cached ∧ manager.destroyed ∧ ¬ manager.changed ∧ ¬ manager.released :=
      Guarded.exists_reachable
        (creates ++ [.change main true, .reload 1 main, .advance 1 true, .advance 1 true, .advance 1 true,
          .notify 0, .rollBack 0])
        started_init (by decide)
    refine ⟨s, reached, ⟨manager, found, cached, destroyed, unchanged, kept⟩, ?_⟩
    intro sound
    rcases sound.destroyed 1 manager found destroyed with changed | released
    · exact unchanged changed
    · exact kept released

end Zms.Service.MessageAdminManagerAdapt
