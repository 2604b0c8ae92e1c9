import Zms.Client.Producer.Factory

/-! Whether `ProducerFactory` knows every running producer.

A new producer is running before it is in the map. It never gets there when
`putIfAbsent` finds another producer of its topic; it is lost again when
`recycle` removes the key of a producer it has replaced, or when `clear`
empties the map after the loop has missed it.
-/

set_option autoImplicit false

namespace Zms.Client.ProducerFactory

open Zms.Transition Zms.Registry

def Pc.publishes : Pc → Bool
  | .publishing _ _ _ => true
  | _ => false

def Pc.over : Pc → Bool
  | .ended _ => true
  | _ => false

/-- The step changes the map, a producer or what is under publication. -/
def Action.changes : Action → Bool
  | .create _ _ _ | .publish _ _ _ _ | .disable _ _ _ | .recycle _ _ _ | .clear _ _ => true
  | _ => false

namespace State

def Running (s : State) (i : Nat) : Prop := (s.proxies i).running = true

instance (s : State) (i : Nat) : Decidable (s.Running i) := inferInstanceAs (Decidable (_ = true))

/-- The call that constructed the producer has yet to put it into the map. -/
def Publishing (s : State) (i : Nat) : Prop := ∃ t monitor topic, s.At t (.publishing monitor topic i)

def Quiescent (s : State) : Prop := ∀ pc ∈ s.calls, pc.over = true

instance (s : State) : Decidable s.Quiescent := inferInstanceAs (Decidable (∀ pc ∈ s.calls, _))

/-- Every running producer is the value under its key, and the only one of its topic. -/
def Registered (s : State) : Prop :=
  (∀ i, s.Running i → s.topicProducers.lookup (s.key i) = some i) ∧
    ∀ i j, s.Running i → s.Running j → (s.proxies i).name = (s.proxies j).name → i = j

/-- `Registered` while calls are in progress. -/
def Published (s : State) : Prop :=
  Holds s.topicProducers s.key fun i => s.Running i ∧ ¬ s.Publishing i

/-- The step loses no running producer: `putIfAbsent` finds the key of a running
producer free, `recycle` removes no running producer and neither does `clear`. -/
def Keeps (s : State) : Action → Prop
  | .publish _ _ topic i => s.Running i → s.topicProducers.lookup (cacheName topic) = none
  | .recycle _ _ i => ∀ j ∈ s.topicProducers.lookup (s.key i), ¬ s.Running j
  | .clear _ _ => ∀ j ∈ s.topicProducers.values, ¬ s.Running j
  | _ => True

instance (s : State) (a : Action) : Decidable (s.Keeps a) := by
  apply Action.casesOn (motive := fun a => Decidable (s.Keeps a)) a <;> intros <;>
    dsimp only [Keeps] <;> infer_instance

/-- What the entries of the map and the producers under publication are. -/
structure Tidy (s : State) : Prop where
  entry : ∀ {k i}, s.topicProducers.lookup k = some i → i < s.created ∧ s.key i = k
  publishing : ∀ {t monitor topic i}, s.At t (.publishing monitor topic i) →
    i < s.created ∧ (s.proxies i).name = topic ∧ s.topicProducers.lookup (s.key i) ≠ some i
  single : ∀ {t u monitor monitor' topic topic' i}, s.At t (.publishing monitor topic i) →
    s.At u (.publishing monitor' topic' i) → u = t

variable {s s' : State} {t u i : Nat} {pc pc' : Pc}

theorem at_setPc_self (standing : s.At t pc) : (s.setPc t pc').At t pc' := by
  obtain ⟨bound, -⟩ := List.getElem?_eq_some_iff.mp standing
  simp only [At, setPc, List.getElem?_set_self bound]

theorem at_setPc_of_ne (other : u ≠ t) : (s.setPc t pc').At u pc ↔ s.At u pc := by
  simp only [At, setPc, List.getElem?_set_ne other.symm]

theorem At.unique (standing : s.At t pc) (standing' : s.At t pc') : pc = pc' :=
  Option.some.inj (standing.symm.trans standing')

/-- Calls move on, in and out of the monitors, and nothing else changes. -/
structure Moves (s s' : State) : Prop where
  topicProducers : s'.topicProducers = s.topicProducers
  proxies : s'.proxies = s.proxies
  created : s'.created = s.created
  publishing : ∀ u monitor topic i,
    s'.At u (.publishing monitor topic i) ↔ s.At u (.publishing monitor topic i)

theorem publishing_setPc (standing : s.At t pc) (quiet : pc.publishes = false) (quiet' : pc'.publishes = false)
    (u : Nat) (monitor : Monitor) (topic : String) (i : Nat) :
    (s.setPc t pc').At u (.publishing monitor topic i) ↔ s.At u (.publishing monitor topic i) := by
  by_cases same : u = t
  · subst u
    constructor
    · intro publishing
      rw [(at_setPc_self standing).unique publishing] at quiet'
      cases quiet'
    · intro publishing
      rw [standing.unique publishing] at quiet
      cases quiet
  · exact at_setPc_of_ne same

theorem moves_setPc (standing : s.At t pc) (quiet : pc.publishes = false) (quiet' : pc'.publishes = false) :
    Moves s (s.setPc t pc') :=
  ⟨rfl, rfl, rfl, publishing_setPc standing quiet quiet'⟩

theorem moves_begin (quiet : pc.publishes = false) : Moves s (s.begin pc) := by
  refine ⟨rfl, rfl, rfl, fun u monitor topic i => ?_⟩
  have begun : pc ≠ .publishing monitor topic i := by
    rintro rfl
    cases quiet
  simp only [At, begin, List.getElem?_append]
  split
  · exact Iff.rfl
  · next beyond =>
    rw [List.getElem?_eq_none (Nat.le_of_not_lt beyond), List.getElem?_singleton]
    split <;> simp [begun]

theorem moves_back (standing : s.At t pc) (quiet : pc.publishes = false) (caller : Caller) :
    Moves s (s.back t caller) := by
  cases caller with
  | shutdownTopic => exact ⟨rfl, rfl, rfl, publishing_setPc standing quiet rfl⟩
  | shutdown pending | restart => exact moves_setPc standing quiet rfl

theorem moves_abort (standing : s.At t pc) (quiet : pc.publishes = false) (caller : Caller) :
    Moves s (s.abort t caller) := by
  cases caller with
  | shutdownTopic | shutdown => exact ⟨rfl, rfl, rfl, publishing_setPc standing quiet rfl⟩
  | restart => exact moves_setPc standing quiet rfl

theorem moves_effect {a : Action} (enabled : Enabled s a) (quiet : a.changes = false) :
    Moves s (effect s a) := by
  cases a with
  | create | publish | disable | recycle | clear => cases quiet
  | getProducer | shutdownTopic | shutdown | restart => exact moves_begin rfl
  | read t monitor topic =>
    simp only [effect]
    split <;> exact moves_setPc enabled rfl rfl
  | enter | enterTopic | enterAll => exact ⟨rfl, rfl, rfl, publishing_setPc enabled.1 rfl rfl⟩
  | createThrows => exact ⟨rfl, rfl, rfl, publishing_setPc enabled rfl rfl⟩
  | check | containsKey | fetch =>
    simp only [effect]
    split <;> exact ⟨rfl, rfl, rfl, publishing_setPc enabled rfl rfl⟩
  | reread | iterate => exact moves_setPc enabled rfl rfl
  | visit => exact moves_setPc enabled.1 rfl rfl
  | test t caller i =>
    simp only [effect]
    split
    · exact moves_setPc enabled rfl rfl
    · exact moves_back enabled rfl caller
  | shutdownThrows t caller i => exact moves_abort enabled rfl caller

theorem Tidy.moves (tidy : s.Tidy) (moves : Moves s s') : s'.Tidy where
  entry found := by
    rw [moves.topicProducers] at found
    rw [moves.created, key, moves.proxies]
    exact tidy.entry found
  publishing standing := by
    rw [moves.topicProducers, moves.created, key, moves.proxies]
    exact tidy.publishing ((moves.publishing _ _ _ _).mp standing)
  single standing standing' :=
    tidy.single ((moves.publishing _ _ _ _).mp standing) ((moves.publishing _ _ _ _).mp standing')

theorem Published.moves (published : s.Published) (moves : Moves s s') : s'.Published := by
  rw [Published, moves.topicProducers]
  refine Holds.mono published (fun i ⟨running, unpublished⟩ => ⟨?_, ?_⟩) fun i _ => ?_
  · rwa [Running, moves.proxies] at running
  · rintro ⟨t, monitor, topic, standing⟩
    exact unpublished ⟨t, monitor, topic, (moves.publishing _ _ _ _).mpr standing⟩
  · rw [key, moves.proxies]
    rfl

theorem proxies_construct (old : i < s.created) (topic : String) :
    (s.construct topic).proxies i = s.proxies i := Function.update_of_ne (Nat.ne_of_lt old) _ _

theorem publishing_setPc_publishing {monitor monitor' : Monitor} {topic topic' : String} {j : Nat}
    (standing : s.At t pc)
    (publishing : (s.setPc t (.publishing monitor topic j)).At u (.publishing monitor' topic' i)) :
    u = t ∧ i = j ∧ topic' = topic ∨ u ≠ t ∧ s.At u (.publishing monitor' topic' i) := by
  by_cases same : u = t
  · subst u
    cases (at_setPc_self standing).unique publishing
    exact .inl ⟨rfl, rfl, rfl⟩
  · exact .inr ⟨same, (at_setPc_of_ne same).mp publishing⟩

theorem Tidy.create {monitor : Monitor} {topic : String} (tidy : s.Tidy)
    (standing : s.At t (.creating monitor topic)) : (effect s (.create t monitor topic)).Tidy where
  entry found := by
    obtain ⟨old, keyed⟩ := tidy.entry found
    have unchanged : (effect s (.create t monitor topic)).proxies _ = _ := proxies_construct old topic
    rw [key, unchanged]
    exact ⟨Nat.lt_succ_of_lt old, keyed⟩
  publishing := by
    intro u monitor' topic' i publishing
    obtain ⟨-, rfl, rfl⟩ | ⟨-, publishing⟩ :=
      publishing_setPc_publishing (s := s.construct topic) standing publishing
    · -- its number is new, so the map cannot hold it
      have self : (effect s (.create t monitor topic')).proxies s.created = ⟨topic', true⟩ :=
        Function.update_self _ _ _
      refine ⟨Nat.lt_succ_self _, by rw [self], fun found => ?_⟩
      exact absurd (tidy.entry found).1 (Nat.lt_irrefl _)
    · obtain ⟨old, named, absent⟩ := tidy.publishing publishing
      have unchanged : (effect s (.create t monitor topic)).proxies _ = _ := proxies_construct old topic
      rw [key, unchanged]
      exact ⟨Nat.lt_succ_of_lt old, named, absent⟩
  single first second := by
    obtain ⟨rfl, rfl, -⟩ | ⟨-, first⟩ := publishing_setPc_publishing (s := s.construct topic) standing first
    · obtain ⟨rfl, -, -⟩ | ⟨-, second⟩ := publishing_setPc_publishing (s := s.construct topic) standing second
      · rfl
      · exact absurd (tidy.publishing second).1 (Nat.lt_irrefl _)
    · obtain ⟨-, rfl, -⟩ | ⟨-, second⟩ := publishing_setPc_publishing (s := s.construct topic) standing second
      · exact absurd (tidy.publishing first).1 (Nat.lt_irrefl _)
      · exact tidy.single first second

theorem Tidy.withProducers {entries : Entries String Nat} (tidy : s.Tidy)
    (fewer : ∀ {k i}, entries.lookup k = some i → s.topicProducers.lookup k = some i) :
    (s.withProducers entries).Tidy where
  entry found := tidy.entry (fewer found)
  publishing publishing := by
    obtain ⟨old, named, absent⟩ := tidy.publishing publishing
    exact ⟨old, named, fun found => absent (fewer found)⟩
  single := tidy.single

theorem name_setRunning (s : State) (i j : Nat) (running : Bool) :
    ((s.setRunning i running).proxies j).name = (s.proxies j).name := by
  simp only [setRunning, Function.update_apply]
  split
  · next same => rw [same]
  · rfl

theorem Tidy.setRunning (tidy : s.Tidy) (i : Nat) (running : Bool) : (s.setRunning i running).Tidy where
  entry found := by
    rw [key, name_setRunning]
    exact tidy.entry found
  publishing publishing := by
    rw [key, name_setRunning]
    exact tidy.publishing publishing
  single := tidy.single

theorem publishing_of_publish {monitor monitor' : Monitor} {topic topic' : String} {j : Nat} (tidy : s.Tidy)
    (standing : s.At t (.publishing monitor topic j))
    (publishing : (effect s (.publish t monitor topic j)).At u (.publishing monitor' topic' i)) :
    i ≠ j ∧ s.At u (.publishing monitor' topic' i) := by
  by_cases same : u = t
  · subst u
    cases (at_setPc_self (s := s) standing).unique publishing
  · have publishes := (at_setPc_of_ne (s := s) same).mp publishing
    refine ⟨?_, publishes⟩
    rintro rfl
    exact same (tidy.single standing publishes)

theorem Tidy.publish {monitor : Monitor} {topic : String} {j : Nat} (tidy : s.Tidy)
    (standing : s.At t (.publishing monitor topic j)) : (effect s (.publish t monitor topic j)).Tidy where
  entry found := by
    obtain already | ⟨rfl, rfl⟩ := Entries.lookup_of_putIfAbsent found
    · exact tidy.entry already
    · obtain ⟨old, rfl, -⟩ := tidy.publishing standing
      exact ⟨old, rfl⟩
  publishing publishing := by
    obtain ⟨other, publishing⟩ := publishing_of_publish tidy standing publishing
    obtain ⟨old, named, absent⟩ := tidy.publishing publishing
    refine ⟨old, named, fun found => ?_⟩
    obtain already | ⟨-, same⟩ := Entries.lookup_of_putIfAbsent found
    · exact absent already
    · exact other same
  single first second :=
    tidy.single (publishing_of_publish tidy standing first).2
      (publishing_of_publish tidy standing second).2

theorem moves_recycle {caller : Caller} (standing : s.At t (.recycling caller i)) :
    Moves (s.withProducers (s.topicProducers.erase (s.key i))) (effect s (.recycle t caller i)) :=
  moves_back (s := s.withProducers (s.topicProducers.erase (s.key i))) standing rfl caller

theorem moves_clear {pending : List Nat} (standing : s.At t (.visiting pending)) :
    Moves (s.withProducers ∅) (effect s (.clear t pending)) :=
  ⟨rfl, rfl, rfl, publishing_setPc (s := (s.withProducers ∅).unlock _) standing rfl rfl⟩

theorem moves_disable {caller : Caller} (standing : s.At t (.disabling caller i)) :
    Moves (s.setRunning i false) (effect s (.disable t caller i)) :=
  moves_setPc (s := s.setRunning i false) standing rfl rfl

theorem Tidy.effect {a : Action} (tidy : s.Tidy) (enabled : Enabled s a) : (effect s a).Tidy := by
  cases changes : a.changes with
  | false => exact tidy.moves (moves_effect enabled changes)
  | true =>
    cases a with
    | create => exact tidy.create enabled
    | publish => exact tidy.publish enabled
    | disable t caller i => exact (tidy.setRunning i false).moves (moves_disable enabled)
    | recycle => exact (tidy.withProducers Entries.lookup_of_erase).moves (moves_recycle enabled)
    | clear =>
      refine Tidy.moves (tidy.withProducers fun found => ?_) (moves_clear enabled.1)
      rw [AList.lookup_empty] at found
      cases found
    | _ => cases changes

theorem Moves.symm (moves : Moves s s') : Moves s' s :=
  ⟨moves.topicProducers.symm, moves.proxies.symm, moves.created.symm,
    fun _ _ _ _ => (moves.publishing _ _ _ _).symm⟩

theorem Published.moves_iff (moves : Moves s s') : s'.Published ↔ s.Published :=
  ⟨fun published => published.moves moves.symm, fun published => published.moves moves⟩

theorem Tidy.not_publishing {k : String} (tidy : s.Tidy) (found : s.topicProducers.lookup k = some i) :
    ¬ s.Publishing i := by
  rintro ⟨t, monitor, topic, standing⟩
  obtain ⟨-, rfl⟩ := tidy.entry found
  exact (tidy.publishing standing).2.2 found

theorem Published.recycle_iff {caller : Caller} (published : s.Published) (tidy : s.Tidy)
    (standing : s.At t (.recycling caller i)) :
    (effect s (.recycle t caller i)).Published ↔ s.Keeps (.recycle t caller i) := by
  rw [Published.moves_iff (moves_recycle standing)]
  apply Iff.trans (Holds.erase_iff published (s.key i))
  constructor
  · intro spared j found running
    exact spared j ⟨running, tidy.not_publishing found⟩ (tidy.entry found).2
  · rintro kept j live same
    exact kept j (same ▸ published j live) live.1

theorem Published.clear_iff {pending : List Nat} (published : s.Published) (tidy : s.Tidy)
    (standing : s.At t (.visiting pending)) :
    (effect s (.clear t pending)).Published ↔ s.Keeps (.clear t pending) := by
  rw [Published.moves_iff (moves_clear standing)]
  constructor
  · intro kept j member running
    obtain ⟨k, found⟩ := Entries.exists_lookup_of_mem_values member
    cases kept j ⟨running, tidy.not_publishing found⟩
  · intro idle
    apply Holds.of_none_live
    intro j live
    exact idle j (Holds.mem_values published live) live.1

theorem Published.create {monitor : Monitor} {topic : String} (published : s.Published)
    (standing : s.At t (.creating monitor topic)) : (effect s (.create t monitor topic)).Published := by
  have self : (effect s (.create t monitor topic)).At t (.publishing monitor topic s.created) :=
    at_setPc_self (s := s.construct topic) standing
  have old : ∀ {j}, ¬ (effect s (.create t monitor topic)).Publishing j →
      (effect s (.create t monitor topic)).proxies j = s.proxies j := by
    intro j unpublished
    refine Function.update_of_ne ?_ _ _
    rintro rfl
    exact unpublished ⟨t, monitor, topic, self⟩
  refine Holds.mono published (fun j ⟨running, unpublished⟩ => ⟨?_, ?_⟩) fun j live => ?_
  · rwa [Running, old unpublished] at running
  · rintro ⟨u, monitor', topic', publishing⟩
    have other : u ≠ t := by
      rintro rfl
      cases standing.unique publishing
    exact unpublished ⟨u, monitor', topic', (at_setPc_of_ne (s := s.construct topic) other).mpr publishing⟩
  · rw [key, old live.2]
    rfl

theorem Published.disable {caller : Caller} (published : s.Published)
    (standing : s.At t (.disabling caller i)) : (effect s (.disable t caller i)).Published := by
  rw [Published.moves_iff (moves_disable standing)]
  refine Holds.mono published (fun j ⟨running, unpublished⟩ => ⟨?_, unpublished⟩) fun j _ => ?_
  · simp only [Running, State.setRunning, Function.update_apply] at running
    split at running
    · cases running
    · exact running
  · rw [key, name_setRunning]
    rfl

theorem publishing_publish {monitor : Monitor} {topic : String} (tidy : s.Tidy)
    (standing : s.At t (.publishing monitor topic i)) (j : Nat) :
    (effect s (.publish t monitor topic i)).Publishing j ↔ j ≠ i ∧ s.Publishing j := by
  constructor
  · rintro ⟨u, monitor', topic', publishing⟩
    obtain ⟨other, publishes⟩ := publishing_of_publish tidy standing publishing
    exact ⟨other, u, monitor', topic', publishes⟩
  · rintro ⟨other, u, monitor', topic', publishing⟩
    refine ⟨u, monitor', topic', (at_setPc_of_ne ?_).mpr publishing⟩
    rintro rfl
    cases standing.unique publishing
    exact other rfl

theorem Published.publish_iff {monitor : Monitor} {topic : String} (published : s.Published) (tidy : s.Tidy)
    (standing : s.At t (.publishing monitor topic i)) :
    (effect s (.publish t monitor topic i)).Published ↔ s.Keeps (.publish t monitor topic i) := by
  obtain ⟨-, rfl, absent⟩ := tidy.publishing standing
  have under := publishing_publish tidy standing
  constructor
  · intro kept running
    have found := kept i ⟨running, fun publishing => ((under i).mp publishing).1 rfl⟩
    -- whoever is under the key has kept `i` out of the map
    cases taken : s.topicProducers.lookup (s.key i) with
    | none => exact taken
    | some j =>
      obtain rfl : j = i :=
        Option.some.inj ((Entries.lookup_putIfAbsent_of_some taken).symm.trans found)
      exact absurd taken absent
  · intro free j live
    by_cases same : j = i
    · subst j
      exact Entries.lookup_putIfAbsent_of_none (free live.1)
    · exact Entries.lookup_putIfAbsent_of_some
        (published j ⟨live.1, fun publishing => live.2 ((under j).mpr ⟨same, publishing⟩)⟩)

theorem Published.effect_iff {a : Action} (published : s.Published) (tidy : s.Tidy) (enabled : Enabled s a) :
    (effect s a).Published ↔ s.Keeps a := by
  cases changes : a.changes with
  | false =>
    apply iff_of_true (published.moves (moves_effect enabled changes))
    cases a <;> trivial
  | true =>
    cases a with
    | create => exact iff_of_true (published.create enabled) trivial
    | publish => exact published.publish_iff tidy enabled
    | disable => exact iff_of_true (published.disable enabled) trivial
    | recycle => exact published.recycle_iff tidy enabled
    | clear => exact published.clear_iff tidy enabled.1
    | _ => cases changes

theorem Published.registered (published : s.Published) (quiescent : s.Quiescent) : s.Registered := by
  have settled : ∀ i, ¬ s.Publishing i := by
    rintro i ⟨t, monitor, topic, standing⟩
    cases quiescent _ (List.mem_of_getElem? standing)
  refine ⟨fun i running => published i ⟨running, settled i⟩, fun i j first second same => ?_⟩
  exact Holds.unique published ⟨first, settled i⟩ ⟨second, settled j⟩ (congrArg cacheName same)

theorem tidy_initial : initial.Tidy where
  entry found := by
    rw [initial, AList.lookup_empty] at found
    cases found
  publishing standing := by cases standing
  single standing := by cases standing

theorem published_initial : initial.Published := by
  apply Holds.of_none_live
  rintro i ⟨running, -⟩
  cases running

end State

open State

theorem tidy_of_reachable {s : State} (reached : machine.Reachable s) : s.Tidy := by
  refine reached.invariant Tidy ?_ fun _ _ tidy enabled => tidy.effect enabled
  rintro _ rfl
  exact tidy_initial

theorem published_of_keeps {s : State} (reached : (machine.restrict Keeps).Reachable s) : s.Published := by
  have both : s.Tidy ∧ s.Published := by
    apply reached.invariant (fun s => s.Tidy ∧ s.Published)
    · rintro _ rfl
      exact ⟨tidy_initial, published_initial⟩
    · rintro s a ⟨tidy, published⟩ ⟨enabled, keeps⟩
      exact ⟨tidy.effect enabled, (published.effect_iff tidy enabled).mpr keeps⟩
  exact both.2

/-- In a run without losses every running producer is registered whenever no call is
in progress; and a step is a loss exactly when it leaves a running producer that is
neither in the map nor on its way there. -/
theorem producers_registered_of_keeps {s : State} (reached : (machine.restrict Keeps).Reachable s) :
    (s.Quiescent → s.Registered) ∧
      ∀ a, machine.guard s a → ((machine.effect s a).Published ↔ s.Keeps a) := by
  have published := published_of_keeps reached
  refine ⟨published.registered, fun a enabled => ?_⟩
  exact published.effect_iff (tidy_of_reachable reached.of_restrict) enabled

namespace Run

/-- The call `t` of `getProducer`, up to where it has entered its monitor. -/
def enter (t : Nat) (properties : Option Properties) : List Action :=
  [.getProducer "orders" properties, .read t (monitorOf properties) "orders",
    .enter t (monitorOf properties) "orders", .check t (monitorOf properties) "orders"]

/-- It finds no producer and makes `i`. -/
def create (t : Nat) (properties : Option Properties) (i : Nat) : List Action :=
  [.create t (monitorOf properties) "orders", .publish t (monitorOf properties) "orders" i]

def restart (t i : Nat) : List Action :=
  [.restart i, .test t .restart i, .disable t .restart i, .recycle t .restart i]

def customized : Option Properties := some [("retries", "3")]

end Run

open Run in
set_option maxRecDepth 4000 in
theorem producers_registered_of_keeps_restart :
    ∃ s : State, s.Quiescent ∧ ¬ s.Running 0 ∧ s.Running 1 ∧ s.Registered := by
  have run : ∃ s, (machine.restrict Keeps).Reachable s ∧ s.Quiescent ∧ ¬ s.Running 0 ∧ s.Running 1 :=
    Guarded.exists_reachable
      (enter 0 none ++ create 0 none 0 ++ restart 1 0 ++ enter 2 customized ++ create 2 customized 1)
      rfl (by decide)
  obtain ⟨s, reached, quiescent, stopped, running⟩ := run
  exact ⟨s, quiescent, stopped, running, (producers_registered_of_keeps reached).1 quiescent⟩

open Run in
set_option maxRecDepth 4000 in
/-- The two overloads create a producer each, and both are running at the end. -/
theorem producers_not_registered : ¬ ∀ s : State, machine.Reachable s → s.Quiescent → s.Registered := by
  intro always
  have run : ∃ s, machine.Reachable s ∧ s.Quiescent ∧ s.Running 0 ∧ s.Running 1 ∧
      (s.proxies 0).name = (s.proxies 1).name :=
    Guarded.exists_reachable (enter 0 none ++ enter 1 customized ++ create 0 none 0 ++ create 1 customized 1)
      rfl (by decide)
  obtain ⟨s, reached, quiescent, first, second, same⟩ := run
  exact absurd ((always s reached quiescent).2 0 1 first second same) nofun

end Zms.Client.ProducerFactory
