import Zms.Client.Consumer.StartPosition
import Zms.Client.Producer.Factory
import Zms.Transition.Throwing

/-! `ZmsStatsReporter`: the periodic runs that ask every producer and consumer for its statistics,
while other threads register and stop proxies.

A proxy is named by the number of its construction. What a call of `statistics()` comes upon is
chosen by the environment.
-/

set_option autoImplicit false

namespace Zms.Client.ZmsStatsReporter

open Transition Transition.Throwing Registry
open Portal (equalsIgnoreCase)
open Consumer.StartPosition (isEmpty)

/-- The names that `isStatistic` knows, with the one it looks at twice. -/
def statisticNames : List String :=
  ["statistic_ping_consumer", "statistic_ping_topic", "statistic_consumer_consumerInfo",
    "statistic_consumer_kafka_consumerinfo", "statistic_consumer_kafka_producerinfo",
    "statistic_consumer_kafka_producerinfo", "statistic_consumer_producerInfo", "statistic_topic_consumerinfo",
    "statistic_topic_kafka_consumerinfo", "statistic_topic_kafka_producerinfo", "statistic_topic_producerinfo"]

/-- What a call of `statistics()` comes upon. -/
structure Meets where
  /-- The proxy's own flag. -/
  running : Bool
  clientName : String
  statisticsLogger : Option String
  /-- The statistics are put together, and written to the log or turned into bytes. -/
  reports : Bool
  /-- The broker type in the metadata of the statistics topic; `none` where the reading throws, or
  the metadata or its cluster is missing. -/
  readTopicMetadata : Option (Option BrokerType)
  /-- The constructors return. -/
  rocketmqProducerProxy : Bool
  kafkaProducerProxy : Bool
  /-- Another thread takes the statistics producer out between the two looks at the map. -/
  gone : Bool
  /-- `oneway` of the statistics producer returns. -/
  oneway : Bool

/-- The constructor that is chosen by the broker type returns. -/
def Meets.constructs (meets : Meets) (brokerType : Option BrokerType) : Bool :=
  if brokerType = some .ROCKETMQ then meets.rocketmqProducerProxy else meets.kafkaProducerProxy

/-- A run of the reporter; `pending` is what its iterator has still to give. -/
structure Round where
  inConsumers : Bool
  pending : List Nat
  /-- The proxies that have been registered since the run began. -/
  producers : List Nat
  consumers : List Nat
  called : List Nat

structure State where
  topicProducers : Entries String Nat
  consumers : Entries String Nat
  created : Nat
  /-- `running` of `Zms`. -/
  zmsRunning : Bool
  running : Bool
  scheduled : Bool
  visiting : Option Round
  /-- The last run that came to an end, if one did. -/
  ended : Option Round

def isStatistic (fold : Char → Char) (name : String) : Bool := statisticNames.any (equalsIgnoreCase fold · name)

/-- By message, unless the logger is another. -/
def byMessage (fold : Char → Char) (statisticsLogger : Option String) : Bool :=
  isEmpty statisticsLogger || statisticsLogger.any (equalsIgnoreCase fold "message")

/-- The producer of the topic, null where it has gone. -/
def doGetProducer (topic : String) (meets : Meets) : Throwing State (Option Nat) := do
  let s ← get
  if (s.topicProducers.lookup (ProducerFactory.cacheName topic)).isSome then
    return if meets.gone then none else s.topicProducers.lookup (ProducerFactory.cacheName topic)
  else
    let brokerType ← ofOption meets.readTopicMetadata
    ensure (meets.constructs brokerType)
    modify fun s => { s with
      topicProducers := s.topicProducers.putIfAbsent (ProducerFactory.cacheName topic) s.created
      created := s.created + 1 }
    return some s.created

def doSendOneway (topic : String) (meets : Meets) : Throwing State Unit := do
  let s ← get
  when s.zmsRunning do
    let producer ← doGetProducer topic meets
    let _ ← ofOption producer
    ensure meets.oneway

def statistics (fold : Char → Char) (topic : String) (meets : Meets) : Throwing State Unit :=
  when (meets.running ∧ ¬ isStatistic fold meets.clientName) do
    ensure meets.reports
    when (byMessage fold meets.statisticsLogger) (doSendOneway topic meets)

/-- The topics that the proxies send their statistics to. -/
def statisticsTopic (round : Round) : String :=
  if round.inConsumers then "statistic_topic_consumerinfo" else "statistic_topic_producerinfo"

inductive Action where
  | registerProducer (key : String)
  | registerConsumer (key : String)
  | recycleProducer (key : String)
  | recycleConsumer (key : String)
  -- the beginning and the end of Zms.shutdown
  | shutdown
  | stopped
  -- a run
  | begin
  | call (proxy : Nat) (meets : Meets)
  | toConsumers
  | finish

/-- The proxies that are still registered after a change. -/
def Round.remaining (round : Round) (s : State) : Round :=
  { round with
    producers := round.producers.filter (· ∈ s.topicProducers.values)
    consumers := round.consumers.filter (· ∈ s.consumers.values) }

def State.changed (s : State) : State := { s with visiting := s.visiting.map fun round => round.remaining s }

def Round.call (round : Round) (proxy : Nat) : Round :=
  { round with pending := round.pending.erase proxy, called := proxy :: round.called }

/-- What the iterator goes over. -/
def Round.values (round : Round) (s : State) : List Nat :=
  if round.inConsumers then s.consumers.values else s.topicProducers.values

def guard (s : State) : Action → Prop
  | .registerProducer _ | .registerConsumer _ | .recycleProducer _ | .recycleConsumer _ => True
  | .shutdown => s.running
  | .stopped => ¬ s.running
  | .begin => s.scheduled ∧ s.running ∧ s.visiting = none
  -- the iterator may give entries that have come or gone since it was made, and misses none that stays
  | .call proxy _ => ∃ round, s.visiting = some round ∧ (proxy ∈ round.pending ∨ proxy ∈ round.values s)
  | .toConsumers => ∃ round, s.visiting = some round ∧ ¬ round.inConsumers ∧ ∀ i ∈ round.pending, i ∉ round.values s
  | .finish => ∃ round, s.visiting = some round ∧ round.inConsumers ∧ ∀ i ∈ round.pending, i ∉ round.values s

def effect (fold : Char → Char) (s : State) : Action → State
  | .registerProducer key =>
      { s with topicProducers := s.topicProducers.putIfAbsent key s.created, created := s.created + 1 }
  | .registerConsumer key =>
      { s with consumers := s.consumers.putIfAbsent key s.created, created := s.created + 1 }
  | .recycleProducer key => State.changed { s with topicProducers := s.topicProducers.erase key }
  | .recycleConsumer key => State.changed { s with consumers := s.consumers.erase key }
  | .shutdown => { s with running := false, scheduled := false }
  | .stopped => { s with zmsRunning := false }
  | .begin =>
      let round := ⟨false, s.topicProducers.values, s.topicProducers.values, s.consumers.values, []⟩
      { s with visiting := some round }
  | .call proxy meets =>
    match s.visiting with
    | none => s
    | some round =>
      match statistics fold (statisticsTopic round) meets s with
      | (some (), t) => { t with visiting := some (round.call proxy) }
      -- the exception goes through `run`, and the executor drops the task
      | (none, t) => { t with visiting := none, ended := some (round.call proxy), scheduled := false }
  | .toConsumers =>
      { s with visiting := s.visiting.map fun round =>
          { round with inConsumers := true, pending := s.consumers.values } }
  | .finish => { s with visiting := none, ended := s.visiting }

def initial : State where
  topicProducers := ∅
  consumers := ∅
  created := 0
  zmsRunning := true
  running := true
  scheduled := true
  visiting := none
  ended := none

def system (fold : Char → Char) : Guarded State Action where
  init s := s = initial
  guard := guard
  effect := effect fold

/-! ### What should survive -/

/-- Every proxy that was registered throughout the run was asked. -/
def Round.Complete (round : Round) : Prop :=
  (∀ i ∈ round.producers, i ∈ round.called) ∧ ∀ i ∈ round.consumers, i ∈ round.called

structure Survives (s : State) : Prop where
  scheduled : s.running → s.scheduled
  complete : s.running → ∀ round, s.ended = some round → round.Complete

def Fails (fold : Char → Char) (topic : String) (s : State) (meets : Meets) : Prop :=
  meets.running ∧ ¬ isStatistic fold meets.clientName ∧
    (¬ meets.reports ∨ byMessage fold meets.statisticsLogger ∧ s.zmsRunning ∧
      (¬ meets.oneway ∨
        if (s.topicProducers.lookup (ProducerFactory.cacheName topic)).isSome then meets.gone = true
        else ∀ brokerType, meets.readTopicMetadata = some brokerType → ¬ meets.constructs brokerType))

/-- While Zms runs, the statistics that a run asks for can be reported. -/
def Reported (fold : Char → Char) (s : State) : Action → Prop
  | .call _ meets => ∀ round, s.running → s.visiting = some round → ¬ Fails fold (statisticsTopic round) s meets
  | _ => True

/-! ### One call -/

/-- What a call leaves alone; the map only gets more. -/
structure Grows (s t : State) : Prop where
  consumers : t.consumers = s.consumers
  running : t.running = s.running
  scheduled : t.scheduled = s.scheduled
  visiting : t.visiting = s.visiting
  ended : t.ended = s.ended
  registered : ∀ i ∈ s.topicProducers.values, i ∈ t.topicProducers.values

instance : IsPreorder State Grows where
  refl _ := ⟨rfl, rfl, rfl, rfl, rfl, fun _ member => member⟩
  trans _ _ _ first second := ⟨second.consumers.trans first.consumers, second.running.trans first.running,
    second.scheduled.trans first.scheduled, second.visiting.trans first.visiting, second.ended.trans first.ended,
    fun i member => second.registered i (first.registered i member)⟩

theorem values_putIfAbsent {entries : Entries String Nat} {key : String} {i j : Nat} (member : i ∈ entries.values) :
    i ∈ (entries.putIfAbsent key j).values := by
  obtain ⟨k, found⟩ := Entries.exists_lookup_of_mem_values member
  exact Entries.mem_values_of_lookup (Entries.lookup_putIfAbsent_of_some found)

theorem grows_doGetProducer (topic : String) (meets : Meets) : Respects Grows (doGetProducer topic meets) := by
  unfold doGetProducer
  refine respects_get.bind fun _ => ?_
  split
  · exact respects_pure _
  · refine respects_ofOption_bind fun brokerType _ => respects_ensure_bind fun _ => Respects.bind ?_ fun _ =>
      respects_pure _
    exact ⟨fun _ => ⟨rfl, rfl, rfl, rfl, rfl, fun _ => values_putIfAbsent⟩⟩

theorem grows_statistics (fold : Char → Char) (topic : String) (meets : Meets) :
    Respects Grows (statistics fold topic meets) := by
  refine Respects.when fun _ => respects_ensure_bind fun _ => Respects.when fun _ => ?_
  refine respects_get.bind fun s => Respects.when fun _ => ?_
  exact (grows_doGetProducer topic meets).bind fun _ => respects_ofOption_bind fun _ _ => respects_ensure _

theorem doSendOneway_eq_none_iff (topic : String) (meets : Meets) (s : State) :
    (doSendOneway topic meets s).1 = none ↔ s.zmsRunning ∧ (¬ meets.oneway ∨
      if (s.topicProducers.lookup (ProducerFactory.cacheName topic)).isSome then meets.gone = true
      else ∀ brokerType, meets.readTopicMetadata = some brokerType → ¬ meets.constructs brokerType) := by
  have unfolded : doSendOneway topic meets s =
      when s.zmsRunning ((doGetProducer topic meets).bind fun producer => (ofOption producer).bind fun _ =>
        ensure meets.oneway) s := rfl
  rw [unfolded, when]
  by_cases running : s.zmsRunning
  · rw [if_pos running, Throwing.bind, doGetProducer]
    cases cached : s.topicProducers.lookup (ProducerFactory.cacheName topic) with
    | some producer =>
      cases meets.gone <;>
        simp [Bind.bind, Throwing.bind, Throwing.get, cached, pure, Throwing.pure, ofOption, ensure, running]
    | none =>
      cases meets.readTopicMetadata with
      | none => simp [Bind.bind, Throwing.bind, Throwing.get, cached, ofOption, running]
      | some brokerType =>
        by_cases constructs : meets.constructs brokerType
        · simp [Bind.bind, Throwing.bind, Throwing.get, cached, ofOption, ensure, running, constructs, pure,
            Throwing.pure, Throwing.modify]
        · simp [Bind.bind, Throwing.bind, Throwing.get, cached, ofOption, ensure, running, constructs]
  · simp [running, Throwing.pure]

/-- A call throws where the statistics cannot be reported, and only there. -/
theorem statistics_eq_none_iff (fold : Char → Char) (topic : String) (meets : Meets) (s : State) :
    (statistics fold topic meets s).1 = none ↔ Fails fold topic s meets := by
  have unfolded : statistics fold topic meets s =
      when (meets.running ∧ ¬ isStatistic fold meets.clientName) ((ensure meets.reports).bind fun _ =>
        when (byMessage fold meets.statisticsLogger) (doSendOneway topic meets)) s := rfl
  rw [unfolded, when, Fails, ← and_assoc]
  by_cases asked : meets.running ∧ ¬ isStatistic fold meets.clientName
  · rw [if_pos asked, Throwing.bind]
    by_cases reports : meets.reports
    · by_cases message : byMessage fold meets.statisticsLogger
      · simp only [ensure, reports, if_true, when, message, doSendOneway_eq_none_iff, asked, true_and, not_true,
          false_or]
        simp
      · simp [ensure, reports, when, message, Throwing.pure]
    · simp [ensure, reports, asked]
  · rw [if_neg asked]
    exact iff_of_false (Option.some_ne_none ()) fun fails => asked fails.1

/-! ### A run misses no proxy -/

/-- What is registered since the run began was asked or is still to come. -/
structure Fair (s : State) (round : Round) : Prop where
  producers : ∀ i ∈ round.producers, if round.inConsumers then i ∈ round.called
    else i ∈ s.topicProducers.values ∧ (i ∈ round.pending ∨ i ∈ round.called)
  consumers : ∀ i ∈ round.consumers,
    i ∈ s.consumers.values ∧ (round.inConsumers → i ∈ round.pending ∨ i ∈ round.called)

section Rounds
variable {s t : State} {round : Round}

theorem Fair.grows (fair : Fair s round) (producers : ∀ i ∈ s.topicProducers.values, i ∈ t.topicProducers.values)
    (consumers : ∀ i ∈ s.consumers.values, i ∈ t.consumers.values) : Fair t round where
  producers i member := by
    have before := fair.producers i member
    split
    · next inConsumers => rwa [if_pos inConsumers] at before
    · next inProducers =>
      rw [if_neg inProducers] at before
      exact ⟨producers i before.1, before.2⟩
  consumers i member := ⟨consumers i (fair.consumers i member).1, (fair.consumers i member).2⟩

theorem Fair.remaining (fair : Fair s round) : Fair t (round.remaining t) where
  producers i member := by
    obtain ⟨counted, still⟩ := List.mem_filter.mp member
    have before := fair.producers i counted
    change if round.inConsumers then _ else _
    split
    · next inConsumers => rwa [if_pos inConsumers] at before
    · next inProducers =>
      rw [if_neg inProducers] at before
      exact ⟨of_decide_eq_true still, before.2⟩
  consumers i member := by
    obtain ⟨counted, still⟩ := List.mem_filter.mp member
    exact ⟨of_decide_eq_true still, (fair.consumers i counted).2⟩

theorem asked_call {i : Nat} (proxy : Nat) (asked : i ∈ round.pending ∨ i ∈ round.called) :
    i ∈ (round.call proxy).pending ∨ i ∈ (round.call proxy).called := by
  rcases asked with pending | called
  · by_cases own : i = proxy
    · exact .inr (own ▸ List.mem_cons_self)
    · exact .inl ((List.mem_erase_of_ne own).mpr pending)
  · exact .inr (List.mem_cons_of_mem proxy called)

theorem Fair.call (fair : Fair s round) (proxy : Nat) : Fair s (round.call proxy) where
  producers i member := by
    have before := fair.producers i member
    change if round.inConsumers then _ else _
    split
    · next inConsumers =>
      rw [if_pos inConsumers] at before
      exact List.mem_cons_of_mem proxy before
    · next inProducers =>
      rw [if_neg inProducers] at before
      exact ⟨before.1, asked_call proxy before.2⟩
  consumers i member :=
    ⟨(fair.consumers i member).1, fun inConsumers => asked_call proxy ((fair.consumers i member).2 inConsumers)⟩

theorem fair_begin (s : State) :
    Fair s ⟨false, s.topicProducers.values, s.topicProducers.values, s.consumers.values, []⟩ where
  producers _ member := ⟨member, .inl member⟩
  consumers _ member := ⟨member, fun inConsumers => (Bool.false_ne_true inConsumers).elim⟩

/-- The iterator over the producers gave all that stayed. -/
theorem Fair.toConsumers (fair : Fair s round) (inProducers : ¬ round.inConsumers)
    (given : ∀ i ∈ round.pending, i ∉ round.values s) :
    Fair s { round with inConsumers := true, pending := s.consumers.values } where
  producers i member := by
    have before := fair.producers i member
    rw [if_neg inProducers] at before
    refine before.2.resolve_left fun pending => given i pending ?_
    rw [Round.values, if_neg inProducers]
    exact before.1
  consumers i member := ⟨(fair.consumers i member).1, fun _ => .inl (fair.consumers i member).1⟩

theorem Fair.complete (fair : Fair s round) (inConsumers : round.inConsumers)
    (given : ∀ i ∈ round.pending, i ∉ round.values s) : round.Complete := by
  refine ⟨fun i member => ?_, fun i member => ?_⟩
  · have before := fair.producers i member
    rwa [if_pos inConsumers] at before
  · have before := fair.consumers i member
    refine (before.2 inConsumers).resolve_left fun pending => given i pending ?_
    rw [Round.values, if_pos inConsumers]
    exact before.1

end Rounds

/-! ### Every reachable state -/

structure Healthy (s : State) : Prop where
  survives : Survives s
  fair : ∀ round, s.visiting = some round → Fair s round

variable {fold : Char → Char}

theorem healthy_initial : Healthy initial := by
  refine ⟨⟨fun _ => rfl, fun _ round ended => ?_⟩, fun round visited => ?_⟩
  · cases ended
  · cases visited

theorem healthy_effect {s : State} {a : Action} (healthy : Healthy s) (enabled : guard s a)
    (reported : Reported fold s a) : Healthy (effect fold s a) := by
  obtain ⟨survives, fair⟩ := healthy
  have changed (t : State) (visiting : t.visiting = s.visiting) : ∀ round, t.changed.visiting = some round →
      Fair t.changed round := by
    intro round found
    obtain ⟨before, visited, rfl⟩ := Option.map_eq_some_iff.mp found
    have kept := (fair before (visiting ▸ visited)).remaining (t := t)
    exact kept.grows (fun _ member => member) fun _ member => member
  cases a with
  | registerProducer key =>
    exact ⟨⟨survives.scheduled, survives.complete⟩, fun round visited =>
      (fair round visited).grows (fun _ => values_putIfAbsent) fun _ member => member⟩
  | registerConsumer key =>
    exact ⟨⟨survives.scheduled, survives.complete⟩, fun round visited =>
      (fair round visited).grows (fun _ member => member) fun _ => values_putIfAbsent⟩
  | recycleProducer key => exact ⟨⟨survives.scheduled, survives.complete⟩, changed _ rfl⟩
  | recycleConsumer key => exact ⟨⟨survives.scheduled, survives.complete⟩, changed _ rfl⟩
  | shutdown =>
    have ended : ¬ (effect fold s .shutdown).running := Bool.false_ne_true
    exact ⟨⟨fun running => absurd running ended, fun running => absurd running ended⟩, fun round visited =>
      (fair round visited).grows (fun _ member => member) fun _ member => member⟩
  | stopped =>
    exact ⟨⟨survives.scheduled, survives.complete⟩, fun round visited =>
      (fair round visited).grows (fun _ member => member) fun _ member => member⟩
  | begin =>
    refine ⟨⟨survives.scheduled, survives.complete⟩, fun round visited => ?_⟩
    obtain rfl := Option.some.inj visited
    exact (fair_begin s).grows (fun _ member => member) fun _ member => member
  | call proxy meets =>
    obtain ⟨round, visited, -⟩ := enabled
    have grows := (grows_statistics fold (statisticsTopic round) meets).related s
    simp only [effect, visited]
    cases result : statistics fold (statisticsTopic round) meets s with
    | mk answer t =>
      rw [result] at grows
      cases answer with
      | none =>
        have fails := (statistics_eq_none_iff fold (statisticsTopic round) meets s).mp (by rw [result])
        have stopped : t.running → False := fun running =>
          reported round (grows.running ▸ running) visited fails
        refine ⟨⟨fun running => (stopped running).elim, fun running => (stopped running).elim⟩, fun next found => ?_⟩
        cases found
      | some answer =>
        refine ⟨⟨fun running => ?_, fun running ended found => ?_⟩, fun next found => ?_⟩
        · exact grows.scheduled ▸ survives.scheduled (grows.running ▸ running)
        · exact survives.complete (grows.running ▸ running) ended (grows.ended ▸ found)
        · obtain rfl := Option.some.inj found
          exact ((fair round visited).call proxy).grows grows.registered fun i member => grows.consumers ▸ member
  | toConsumers =>
    obtain ⟨round, visited, inProducers, given⟩ := enabled
    refine ⟨⟨survives.scheduled, survives.complete⟩, fun next found => ?_⟩
    simp only [effect, visited] at found
    obtain rfl := Option.some.inj found
    exact ((fair round visited).toConsumers inProducers given).grows (fun _ member => member) fun _ member => member
  | finish =>
    obtain ⟨round, visited, inConsumers, given⟩ := enabled
    refine ⟨⟨survives.scheduled, fun _ ended found => ?_⟩, fun next found => ?_⟩
    · obtain rfl := Option.some.inj (visited.symm.trans found)
      exact (fair round visited).complete inConsumers given
    · cases found

/-- As long as no statistics that a run asks for fail, every run asks all and the reporter stays
scheduled. -/
theorem survives_of_reachable {s : State} (reached : ((system fold).restrict (Reported fold)).Reachable s) :
    Survives s := by
  have healthy : Healthy s := by
    refine reached.invariant Healthy (fun s started => ?_) fun s a healthy enabled => ?_
    · rw [show s = initial from started]
      exact healthy_initial
    · exact healthy_effect healthy enabled.1 enabled.2
  exact healthy.survives

/-! ### A statistics topic without metadata -/

section Missing

/-- An order producer that reports by message. -/
def orders (readTopicMetadata : Option (Option BrokerType)) : Meets where
  running := true
  clientName := "orders"
  statisticsLogger := none
  reports := true
  readTopicMetadata := readTopicMetadata
  rocketmqProducerProxy := true
  kafkaProducerProxy := true
  gone := false
  oneway := true

def asking : State := effect id (effect id initial (.registerProducer "orders_DEFAULT_PRODUCER")) .begin

/-- With metadata, the run creates the producer of the statistics topic. -/
theorem survives_created : Survives (effect id asking (.call 0 (orders (some (some .KAFKA))))) := by
  have started : ((system id).restrict (Reported id)).Reachable initial := .start rfl
  have registered := Guarded.Reachable.step (a := Action.registerProducer "orders_DEFAULT_PRODUCER") started
    ⟨trivial, trivial⟩
  have begun := Guarded.Reachable.step (a := Action.begin) registered ⟨⟨rfl, rfl, rfl⟩, trivial⟩
  refine @survives_of_reachable id _ (Guarded.Reachable.step
    (a := Action.call 0 (orders (some (some .KAFKA)))) begun ⟨⟨_, rfl, .inl (by decide)⟩, ?_⟩)
  rintro round - visited ⟨-, -, reports | ⟨-, -, oneway | created⟩⟩
  · exact reports rfl
  · exact oneway rfl
  · obtain rfl := Option.some.inj visited
    rw [if_neg (by decide)] at created
    exact created (some .KAFKA) rfl rfl

theorem not_always_survives : ¬ ∀ s : State, (system id).Reachable s → Survives s := by
  intro always
  have started : (system id).Reachable initial := .start rfl
  have registered := Guarded.Reachable.step (a := Action.registerProducer "orders_DEFAULT_PRODUCER") started trivial
  have begun := Guarded.Reachable.step (a := Action.begin) registered ⟨rfl, rfl, rfl⟩
  have called := always _ (Guarded.Reachable.step (a := Action.call 0 (orders none)) begun
    ⟨_, rfl, .inl (by decide)⟩)
  exact absurd (called.scheduled (by decide)) (by decide)

end Missing

end Zms.Client.ZmsStatsReporter
