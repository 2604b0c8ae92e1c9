import Zms.Client.Producer.Registered

/-! The calls that lock the class lose no producer among themselves.

`getProducer(topic, properties)` and both `shutdown`s hold the monitor of
`ProducerFactory` wherever they change the map or a producer. What breaks the
registry is the overload that locks the map instead, and the restart, which
locks nothing.
-/

set_option autoImplicit false

namespace Zms.Client.ProducerFactory

open Zms.Transition Zms.Registry

def Action.locksClass : Action → Bool
  | .getProducer _ properties => monitorOf properties = .factoryClass
  | .restart _ => false
  | _ => true

def Pc.locksClass : Pc → Bool
  | .reading monitor _ | .entering monitor _ | .checking monitor _ | .creating monitor _
  | .publishing monitor _ _ => monitor = .factoryClass
  | .testing caller _ | .disabling caller _ | .recycling caller _ => caller ≠ .restart
  | _ => true

def Pc.inside : Pc → Bool
  | .reading _ _ | .entering _ _ | .rereading _ | .enteringTopic _ | .enteringAll | .ended _ => false
  | _ => true

namespace State

/-- No other producer has the key of `i`. -/
def Sole (s : State) (i : Nat) : Prop := ∀ j ∈ s.topicProducers.lookup (s.key i), j = i

/-- The loop of `shutdown()` has every running producer before it, but for the current one. -/
def Loop (s : State) (current : Option Nat) : Caller → Prop
  | .shutdown pending =>
      (∀ i ∈ pending, s.Sole i) ∧ ∀ j, s.Running j → j ∈ pending ∨ current = some j
  | .shutdownTopic | .restart => True

/-- What a call inside the monitor may rely on. -/
def Knows (s : State) : Pc → Prop
  | .creating _ topic | .publishing _ topic _ => s.topicProducers.lookup (cacheName topic) = none
  | .visiting pending => s.Loop none (.shutdown pending)
  | .testing caller i | .disabling caller i => s.Sole i ∧ s.Loop (some i) caller
  | .recycling caller i => s.Sole i ∧ ¬ s.Running i ∧ s.Loop none caller
  | _ => True

structure Serial (s : State) : Prop where
  locksClass : ∀ {t pc}, s.At t pc → pc.locksClass = true
  inside : ∀ {t pc}, s.At t pc → pc.inside = true → s.owner .factoryClass = some t ∧ s.Knows pc

variable {s s' : State} {t u i : Nat} {pc pc' : Pc} {a : Action}

theorem Serial.alone (serial : s.Serial) (standing : s.At t pc) (inside : pc.inside = true) (other : u ≠ t)
    (standing' : s.At u pc') : pc'.inside = false := by
  apply Bool.eq_false_iff.mpr
  intro inside'
  apply other
  have owns := (serial.inside standing inside).1
  rw [(serial.inside standing' inside').1] at owns
  exact Option.some.inj owns

theorem Serial.setPc (serial : s.Serial) (calls : s'.calls = s.calls.set t pc')
    (alone : ∀ u q, u ≠ t → s.At u q → q.inside = false) (locks : pc'.locksClass = true)
    (knows : pc'.inside = true → s'.owner .factoryClass = some t ∧ s'.Knows pc') : s'.Serial := by
  have moved : ∀ {u q}, s'.At u q → u = t ∧ q = pc' ∨ u ≠ t ∧ s.At u q := by
    intro u q standing
    rw [At, calls, List.getElem?_set] at standing
    split at standing
    · next same =>
      split at standing
      · exact .inl ⟨same.symm, (Option.some.inj standing).symm⟩
      · cases standing
    · next other => exact .inr ⟨Ne.symm other, standing⟩
  constructor
  · intro u q standing
    obtain ⟨-, rfl⟩ | ⟨-, before⟩ := moved standing
    · exact locks
    · exact serial.locksClass before
  · intro u q standing inside
    obtain ⟨rfl, rfl⟩ | ⟨other, before⟩ := moved standing
    · exact knows inside
    · rw [alone u q other before] at inside
      cases inside

theorem Serial.goes (serial : s.Serial) (outside : pc'.inside = false) (locks : pc'.locksClass = true) :
    (s.setPc t pc').Serial := by
  have moved : ∀ {u q}, (s.setPc t pc').At u q → q = pc' ∨ s.At u q := by
    intro u q standing
    rw [At, State.setPc, List.getElem?_set] at standing
    split at standing
    · split at standing
      · exact .inl (Option.some.inj standing).symm
      · cases standing
    · exact .inr standing
  constructor
  · intro u q standing
    obtain rfl | before := moved standing
    · exact locks
    · exact serial.locksClass before
  · intro u q standing inside
    obtain rfl | before := moved standing
    · rw [outside] at inside
      cases inside
    · exact serial.inside before inside

theorem Serial.begin (serial : s.Serial) (outside : pc.inside = false) (locks : pc.locksClass = true) :
    (s.begin pc).Serial := by
  have begun : ∀ {u q}, (s.begin pc).At u q → q = pc ∨ s.At u q := by
    intro u q standing
    rw [At, State.begin, List.getElem?_append] at standing
    split at standing
    · exact .inr standing
    · rw [List.getElem?_singleton] at standing
      split at standing
      · exact .inl (Option.some.inj standing).symm
      · cases standing
  constructor
  · intro u q standing
    obtain rfl | before := begun standing
    · exact locks
    · exact serial.locksClass before
  · intro u q standing inside
    obtain rfl | before := begun standing
    · rw [outside] at inside
      cases inside
    · exact serial.inside before inside

theorem Serial.goesInside (serial : s.Serial) (standing : s.At t pc) (inside : pc.inside = true)
    (calls : s'.calls = s.calls.set t pc') (locks : pc'.locksClass = true)
    (knows : pc'.inside = true → s'.owner .factoryClass = some t ∧ s'.Knows pc') : s'.Serial :=
  serial.setPc calls (fun _ _ other standing' => serial.alone standing inside other standing') locks knows

theorem Serial.leaves (serial : s.Serial) (standing : s.At t pc) (inside : pc.inside = true)
    (calls : s'.calls = s.calls.set t pc') (locks : pc'.locksClass = true) (outside : pc'.inside = false) :
    s'.Serial := by
  apply serial.goesInside standing inside calls locks
  intro stays
  rw [outside] at stays
  cases stays

theorem Serial.enters (serial : s.Serial) (free : s.owner .factoryClass = none)
    (locks : pc'.locksClass = true) (knows : s.Knows pc') :
    ((s.lock .factoryClass t).setPc t pc').Serial := by
  have owns : (s.lock .factoryClass t).owner .factoryClass = some t := by
    simp only [State.lock, Function.update_self]
  refine serial.setPc rfl (fun u q _ standing => ?_) locks fun _ => ⟨owns, knows⟩
  apply Bool.eq_false_iff.mpr
  intro inside
  rw [(serial.inside standing inside).1] at free
  cases free

/-- The `shutdown` of a stopped proxy goes back to its caller. -/
theorem Serial.back {caller : Caller} (serial : s.Serial) (standing : s.At t pc) (inside : pc.inside = true)
    (calls : s'.calls = s.calls) (owner : s'.owner = s.owner) (locks : caller ≠ .restart)
    (loop : s'.Loop none caller) : (s'.back t caller).Serial := by
  cases caller with
  | restart => exact absurd rfl locks
  | shutdownTopic =>
    have moved : (s'.back t .shutdownTopic).calls = s.calls.set t (.ended none) := by
      rw [← calls]
      rfl
    exact serial.leaves standing inside moved rfl rfl
  | shutdown pending =>
    have moved : (s'.back t (.shutdown pending)).calls = s.calls.set t (.visiting pending) := by
      rw [← calls]
      rfl
    have owns := (congrFun owner .factoryClass).trans (serial.inside standing inside).1
    exact serial.goesInside standing inside moved rfl fun _ => ⟨owns, loop⟩

theorem Loop.mem {pending : List Nat} (loop : s.Loop none (.shutdown pending)) (running : s.Running i) :
    i ∈ pending :=
  (loop.2 i running).resolve_right (by simp)

/-- The loop still covers what is running when fewer producers run and hold their keys. -/
theorem Loop.keep {current current' : Option Nat} {caller : Caller} (loop : s.Loop current caller)
    (sole : ∀ i, s.Sole i → s'.Sole i)
    (running : ∀ j, s'.Running j → s.Running j ∧ (current = some j → current' = some j)) :
    s'.Loop current' caller := by
  cases caller with
  | shutdownTopic | restart => trivial
  | shutdown pending =>
    obtain ⟨pendingSole, covered⟩ := loop
    refine ⟨fun i member => sole i (pendingSole i member), fun j runs => ?_⟩
    obtain ⟨ran, isCurrent⟩ := running j runs
    exact (covered j ran).imp id isCurrent

theorem Tidy.sole (tidy : s.Tidy) {k : String} (found : s.topicProducers.lookup k = some i) : s.Sole i := by
  obtain ⟨-, rfl⟩ := tidy.entry found
  intro j also
  exact Option.some.inj (also.symm.trans found)

theorem sole_setRunning (sole : s.Sole i) (j : Nat) (running : Bool) : (s.setRunning j running).Sole i := by
  rw [Sole, key, name_setRunning]
  exact sole

theorem sole_erase (sole : s.Sole i) (k : String) : (s.withProducers (s.topicProducers.erase k)).Sole i :=
  fun j found => sole j (Entries.lookup_of_erase found)

theorem Serial.effect (serial : s.Serial) (tidy : s.Tidy) (published : s.Published) (enabled : Enabled s a)
    (locks : a.locksClass = true) : (effect s a).Serial := by
  cases a with
  | getProducer topic properties => exact serial.begin rfl locks
  | shutdownTopic | shutdown => exact serial.begin rfl rfl
  | restart => cases locks
  | read t monitor topic =>
    have locked := serial.locksClass enabled
    simp only [ProducerFactory.effect]
    split
    · exact serial.goes rfl rfl
    · exact serial.goes rfl locked
  | reread => exact serial.goes rfl rfl
  | enter t monitor topic =>
    obtain rfl : monitor = .factoryClass := of_decide_eq_true (serial.locksClass enabled.1)
    exact serial.enters enabled.2 rfl trivial
  | enterTopic | enterAll => exact serial.enters enabled.2 rfl trivial
  | check t monitor topic =>
    have locked := serial.locksClass enabled
    obtain ⟨owns, -⟩ := serial.inside enabled rfl
    simp only [ProducerFactory.effect]
    split
    · exact serial.leaves enabled rfl rfl rfl rfl
    · next absent =>
      exact serial.goesInside enabled rfl rfl locked fun _ => ⟨owns, Option.not_isSome_iff_eq_none.mp absent⟩
  | create t monitor topic =>
    have locked := serial.locksClass enabled
    have knows := serial.inside enabled rfl
    exact serial.goesInside enabled rfl rfl locked fun _ => knows
  | createThrows => exact serial.leaves enabled rfl rfl rfl rfl
  | publish => exact serial.leaves enabled rfl rfl rfl rfl
  | containsKey t topic =>
    obtain ⟨owns, -⟩ := serial.inside enabled rfl
    simp only [ProducerFactory.effect]
    split
    · exact serial.goesInside enabled rfl rfl rfl fun _ => ⟨owns, trivial⟩
    · exact serial.leaves enabled rfl rfl rfl rfl
  | fetch t topic =>
    obtain ⟨owns, -⟩ := serial.inside enabled rfl
    simp only [ProducerFactory.effect]
    split
    · next found => exact serial.goesInside enabled rfl rfl rfl fun _ => ⟨owns, tidy.sole found, trivial⟩
    · exact serial.leaves enabled rfl rfl rfl rfl
  | iterate t =>
    obtain ⟨owns, -⟩ := serial.inside enabled rfl
    refine serial.goesInside enabled rfl rfl rfl fun _ => ⟨owns, fun i member => ?_, fun j running => .inl ?_⟩
    · obtain ⟨k, found⟩ := Entries.exists_lookup_of_mem_values member
      exact tidy.sole found
    · refine Holds.mem_values published ⟨running, ?_⟩
      -- a call about to publish would be inside the monitor too
      rintro ⟨u, monitor, topic, standing⟩
      by_cases same : u = t
      · subst u
        cases standing.unique enabled
      · cases serial.alone enabled rfl same standing
  | visit t pending i =>
    obtain ⟨owns, loop⟩ := serial.inside enabled.1 rfl
    refine serial.goesInside enabled.1 rfl rfl rfl fun _ => ⟨owns, ?_, fun j member => ?_, fun j running => ?_⟩
    · rcases enabled.2 with member | member
      · exact loop.1 i member
      · obtain ⟨k, found⟩ := Entries.exists_lookup_of_mem_values member
        exact tidy.sole found
    · exact loop.1 j (List.mem_of_mem_erase member)
    · by_cases same : j = i
      · exact .inr (congrArg some same.symm)
      · exact .inl ((List.mem_erase_of_ne same).mpr (loop.mem running))
  | clear => exact serial.leaves enabled.1 rfl rfl rfl rfl
  | test t caller i =>
    have locked := serial.locksClass enabled
    obtain ⟨owns, sole, loop⟩ := serial.inside enabled rfl
    simp only [ProducerFactory.effect]
    split
    · exact serial.goesInside enabled rfl rfl locked fun _ => ⟨owns, sole, loop⟩
    · next stopped =>
      refine serial.back enabled rfl rfl rfl (of_decide_eq_true locked)
        (loop.keep (fun _ => id) fun j running => ?_)
      refine ⟨running, fun same => absurd running ?_⟩
      rwa [← Option.some.inj same]
  | disable t caller i =>
    have locked := serial.locksClass enabled
    obtain ⟨owns, sole, loop⟩ := serial.inside enabled rfl
    have stops : ¬ (s.setRunning i false).Running i := by simp [State.setRunning, Running]
    refine serial.goesInside enabled rfl rfl locked fun _ =>
      ⟨owns, sole_setRunning sole i false, stops, loop.keep (fun _ sole => sole_setRunning sole i false) ?_⟩
    intro j running
    have other : j ≠ i := by
      rintro rfl
      exact stops running
    have unchanged : (effect s (.disable t caller i)).proxies j = s.proxies j := Function.update_of_ne other _ _
    rw [Running, unchanged] at running
    exact ⟨running, fun same => absurd (Option.some.inj same).symm other⟩
  | recycle t caller i =>
    have locked := serial.locksClass enabled
    obtain ⟨owns, sole, stopped, loop⟩ := serial.inside enabled rfl
    exact serial.back enabled rfl rfl rfl (of_decide_eq_true locked)
      (loop.keep (fun _ sole => sole_erase sole _) fun _ running => ⟨running, id⟩)
  | shutdownThrows t caller i =>
    have locked := serial.locksClass enabled
    cases caller with
    | shutdownTopic | shutdown => exact serial.leaves enabled rfl rfl rfl rfl
    | restart => cases locked

/-- A call inside the monitor removes no producer but the one it has stopped. -/
theorem Serial.keeps (serial : s.Serial) (enabled : Enabled s a) : s.Keeps a := by
  cases a with
  | publish t monitor topic i => exact fun _ => (serial.inside enabled rfl).2
  | recycle t caller i =>
    obtain ⟨-, sole, stopped, -⟩ := serial.inside enabled rfl
    intro j found
    rwa [sole j found]
  | clear t pending =>
    obtain ⟨-, loop⟩ := serial.inside enabled.1 rfl
    intro j member running
    exact enabled.2 j (loop.mem running) member
  | _ => trivial

theorem serial_initial : initial.Serial where
  locksClass standing := by cases standing
  inside standing := by cases standing

end State

open State

/-- Calls that lock the class, in any number and order, lose no producer. -/
theorem registered_of_locksClass {s : State}
    (reached : (machine.restrict fun _ a => a.locksClass = true).Reachable s) (quiescent : s.Quiescent) :
    s.Registered := by
  have all : s.Tidy ∧ s.Published ∧ s.Serial := by
    apply reached.invariant (fun s => s.Tidy ∧ s.Published ∧ s.Serial)
    · rintro _ rfl
      exact ⟨tidy_initial, published_initial, serial_initial⟩
    · rintro s a ⟨tidy, published, serial⟩ ⟨enabled, locks⟩
      exact ⟨tidy.effect enabled, (published.effect_iff tidy enabled).mpr (serial.keeps enabled),
        serial.effect tidy published enabled locks⟩
  exact all.2.1.registered quiescent

namespace Run

def shutdownTopic (t i : Nat) : List Action :=
  [.shutdownTopic "orders", .enterTopic t "orders", .containsKey t "orders", .fetch t "orders",
    .test t .shutdownTopic i, .disable t .shutdownTopic i, .recycle t .shutdownTopic i]

end Run

open Run in
set_option maxRecDepth 4000 in
/-- Two calls find no producer, the second waits for the monitor and finds the first one's, which is then
shut down and followed by another. -/
theorem registered_of_race : ∃ s : State, s.Quiescent ∧ ¬ s.Running 0 ∧ s.Running 1 ∧ s.Registered := by
  have run : ∃ s, (machine.restrict fun _ a => a.locksClass = true).Reachable s ∧ s.Quiescent ∧
      ¬ s.Running 0 ∧ s.Running 1 :=
    Guarded.exists_reachable
      ([.getProducer "orders" customized, .getProducer "orders" customized, .read 0 .factoryClass "orders",
          .read 1 .factoryClass "orders", .enter 0 .factoryClass "orders", .check 0 .factoryClass "orders"] ++
        create 0 customized 0 ++
        [.enter 1 .factoryClass "orders", .check 1 .factoryClass "orders", .reread 1 "orders"] ++
        shutdownTopic 2 0 ++ enter 3 customized ++ create 3 customized 1)
      rfl (by decide)
  obtain ⟨s, reached, quiescent, stopped, running⟩ := run
  exact ⟨s, quiescent, stopped, running, registered_of_locksClass reached quiescent⟩

end Zms.Client.ProducerFactory
