import Zms.Client.Proxy
import Zms.Client.Consumer.StartPosition

/-! What a proxy holds of the metadata it has read, and whether its consumer follows `suspend`.

`equals` decides whether the value read replaces the one held, and `changeConfigAndRestart`
whether the consumer is stopped and started again; only a start looks at `suspend`.
-/

set_option autoImplicit false

namespace Zms.Client

open Zms.Client.Consumer.StartPosition.Rocketmq (needSuspend)

/-- The value read names a cluster of the broker type the proxy has. -/
def SameBroker (held read : ZmsMetadata) : Prop :=
  ∃ oldCluster ∈ held.clusterMetadata, ∃ newCluster ∈ read.clusterMetadata, oldCluster.brokerType = newCluster.brokerType

/-- Without a broker type the handler throws. -/
def Untyped (held : ZmsMetadata) : Prop := ∀ cluster ∈ held.clusterMetadata, cluster.brokerType = none

/-! ### The metadata held -/

section Held
variable {M : Type} (cls : ProxyClass M)

theorem reaction_eq (held read : M) (same : SameBroker (cls.zmsMetadata held) (cls.zmsMetadata read)) :
    (Untyped (cls.zmsMetadata held) ∨ cls.equals held read = true) ∧ cls.reaction held (some read) = .ignores ∨
      ¬ (Untyped (cls.zmsMetadata held) ∨ cls.equals held read = true) ∧ cls.reaction held (some read) =
        if cls.changeConfigAndRestart held read then .restarts read else .adopts read := by
  obtain ⟨oldCluster, isOld, newCluster, isNew, broker⟩ := same
  rw [Option.mem_def] at isOld isNew
  have untyped : Untyped (cls.zmsMetadata held) ↔ oldCluster.brokerType = none := by
    rw [Untyped, isOld]
    constructor
    · exact fun all => all oldCluster rfl
    · rintro missing cluster ⟨⟩
      exact missing
  simp only [ProxyClass.reaction, isOld, isNew, untyped]
  by_cases missing : oldCluster.brokerType = none
  · exact .inl ⟨.inl missing, if_pos missing⟩
  · rw [if_neg missing, if_neg (not_not.mpr broker)]
    by_cases equal : cls.equals held read = true
    · exact .inl ⟨.inr equal, if_pos equal⟩
    · exact .inr ⟨not_or.mpr ⟨missing, equal⟩, if_neg equal⟩

theorem start_metadata (proxy : Proxy M) (runs : Bool) : (cls.start proxy runs).metadata = proxy.metadata := by
  unfold ProxyClass.start
  split
  · rfl
  · split <;> rfl

theorem restart_metadata (proxy : Proxy M) (ending : Ending) :
    (cls.restart proxy ending).metadata = proxy.metadata := by
  simp only [ProxyClass.restart]
  split
  · rfl
  · split
    · exact start_metadata cls _ _
    · rfl

/-- The value read replaces the one held unless the handler throws or `equals` finds no change. -/
theorem handleDataChange_metadata (proxy : Proxy M) (read : M) (ending : Ending)
    (same : SameBroker (cls.zmsMetadata proxy.metadata) (cls.zmsMetadata read)) :
    (Untyped (cls.zmsMetadata proxy.metadata) ∨ cls.equals proxy.metadata read = true) ∧
        (cls.handleDataChange proxy (some read) ending).metadata = proxy.metadata ∨
      ¬ (Untyped (cls.zmsMetadata proxy.metadata) ∨ cls.equals proxy.metadata read = true) ∧
        (cls.handleDataChange proxy (some read) ending).metadata = read := by
  rcases reaction_eq cls proxy.metadata read same with ⟨discards, reacts⟩ | ⟨takes, reacts⟩
  · exact .inl ⟨discards, by rw [ProxyClass.handleDataChange, reacts]⟩
  · refine .inr ⟨takes, ?_⟩
    rw [ProxyClass.handleDataChange, reacts]
    split_ifs
    · exact restart_metadata cls _ _
    · rfl

end Held

/-- The fields that a proxy reads of the metadata it holds. -/
structure SameMetadata (held read : ZmsMetadata) : Prop where
  clusterMetadata : held.clusterMetadata = read.clusterMetadata
  gatedCluster : held.gatedCluster = read.gatedCluster
  gatedIps : held.gatedIps = read.gatedIps
  statisticsLogger : held.statisticsLogger = read.statisticsLogger

structure SameGroup (held read : ConsumerGroupMetadata) : Prop extends
    SameMetadata held.toZmsMetadata read.toZmsMetadata where
  bindingTopic : held.bindingTopic = read.bindingTopic
  consumeFrom : held.consumeFrom = read.consumeFrom
  broadcast : held.broadcast = read.broadcast
  suspend : held.suspend = read.suspend

theorem sameMetadata_of_equals {held read : ZmsMetadata} (equal : held.equals read = true) :
    SameMetadata held read ↔ held.statisticsLogger = read.statisticsLogger := by
  simp only [ZmsMetadata.equals, Bool.and_eq_true, decide_eq_true_eq] at equal
  obtain ⟨⟨⟨⟨⟨-, -⟩, cluster⟩, -⟩, ips⟩, gated⟩ := equal
  exact ⟨SameMetadata.statisticsLogger, fun logger => ⟨cluster, gated, ips, logger⟩⟩

/-- What a group's `equals` does not compare is the logger alone. -/
theorem sameGroup_of_equals {held read : ConsumerGroupMetadata} (equal : held.equals read = true) :
    SameGroup held read ↔ held.statisticsLogger = read.statisticsLogger := by
  simp only [ConsumerGroupMetadata.equals, Bool.and_eq_true, decide_eq_true_eq] at equal
  obtain ⟨⟨⟨⟨topic, consumeFrom⟩, broadcast⟩, suspend⟩, rest⟩ := equal
  constructor
  · exact fun same => same.statisticsLogger
  · intro logger
    exact ⟨(sameMetadata_of_equals rest).mpr logger, topic, consumeFrom, broadcast, suspend⟩

/-! ### Suspended and resumed consumers -/

inductive ConsumerClass where
  | KafkaConsumerProxy
  | RocketmqConsumerProxy
  deriving DecidableEq, Repr

def ConsumerClass.proxyClass (host : String) : ConsumerClass → ProxyClass ConsumerGroupMetadata
  | .KafkaConsumerProxy => Client.KafkaConsumerProxy host
  | .RocketmqConsumerProxy => Client.RocketmqConsumerProxy host

/-- `consuming` while a broker client of the proxy fetches messages for the listener. -/
structure ConsumerProxy where
  metadata : ConsumerGroupMetadata
  running : Bool
  consuming : Bool
  deriving DecidableEq

/-- Where the calls out of a consumer's `restart` fail. -/
inductive RestartEnding where
  /-- Unregistering from ZooKeeper, before the broker client is shut down. -/
  | unregisterThrows
  | consumerShutdownThrows (consumes : Bool)
  | consumerStartThrows
  /-- Registering with ZooKeeper, before `running` is set. -/
  | registerWatcherThrows
  | registerThrows
  /-- A Kafka poll thread of before resets `running` and closes the new consumer. -/
  | closedAgain
  | completes
  deriving DecidableEq, Repr

section Suspension
variable (fold : Char → Char) (host : String) (cls : ConsumerClass)

/-- The new state and whether `shutdown` returns. A Kafka poll thread stops by itself once `running` is reset. -/
def ConsumerProxy.shutdown (proxy : ConsumerProxy) (ending : RestartEnding) : ConsumerProxy × Bool :=
  if proxy.running then
    match ending with
    | .unregisterThrows =>
        ({ proxy with running := false, consuming := cls = .RocketmqConsumerProxy && proxy.consuming }, false)
    | .consumerShutdownThrows consumes =>
        ({ proxy with
            running := false
            consuming := cls = .RocketmqConsumerProxy && proxy.consuming && consumes }, false)
    | _ => ({ proxy with running := false, consuming := false }, true)
  else (proxy, true)

/-- Whether `consumerStart` passes its own checks. -/
def ConsumerClass.consumerStart (metadata : ConsumerGroupMetadata) : Bool :=
  ((cls.proxyClass host).bootAddress metadata).isSome &&
    match cls with
    | .KafkaConsumerProxy => true
    | .RocketmqConsumerProxy => !needSuspend fold metadata

def ConsumerProxy.start (proxy : ConsumerProxy) (ending : RestartEnding) : ConsumerProxy :=
  if proxy.running then proxy
  else if cls.consumerStart fold host proxy.metadata then
    match ending with
    | .consumerStartThrows | .registerWatcherThrows => proxy
    | .registerThrows => { proxy with running := cls = .RocketmqConsumerProxy }
    | .closedAgain => { proxy with
        running := cls = .RocketmqConsumerProxy
        consuming := proxy.consuming || cls = .RocketmqConsumerProxy }
    | _ => { proxy with running := true, consuming := true }
  else proxy

def ConsumerProxy.restart (proxy : ConsumerProxy) (ending : RestartEnding) : ConsumerProxy :=
  let stopped := proxy.shutdown cls ending
  if stopped.2 then stopped.1.start fold host cls ending else stopped.1

def ConsumerProxy.handleDataChange (proxy : ConsumerProxy) (read : ConsumerGroupMetadata) (ending : RestartEnding) :
    ConsumerProxy :=
  match (cls.proxyClass host).reaction proxy.metadata (some read) with
  | .ignores => proxy
  | .adopts newMetadata => { proxy with metadata := newMetadata }
  | .restarts newMetadata => { proxy with metadata := newMetadata }.restart fold host cls ending

/-- The broker client of before is never shut down: the proxy was not running, or the shutdown of
RocketMQ failed. -/
def ConsumerProxy.LeftOver (proxy : ConsumerProxy) (ending : RestartEnding) : Prop :=
  proxy.consuming = true ∧ (proxy.running = false ∨ cls = .RocketmqConsumerProxy ∧
    (ending = .unregisterThrows ∨ ending = .consumerShutdownThrows true))

/-- Nothing fails from the shutdown to the first messages of the new broker client. -/
def ConsumerProxy.ComesUp (proxy : ConsumerProxy) (read : ConsumerGroupMetadata) (ending : RestartEnding) : Prop :=
  (proxy.running = true → ending ≠ .unregisterThrows ∧ ∀ consumes, ending ≠ .consumerShutdownThrows consumes) ∧
    cls.consumerStart fold host read = true ∧
    ending ≠ .consumerStartThrows ∧ ending ≠ .registerWatcherThrows ∧ ending ≠ .registerThrows ∧
    (cls = .KafkaConsumerProxy → ending ≠ .closedAgain)

theorem restart_consuming_iff (proxy : ConsumerProxy) (ending : RestartEnding) :
    (proxy.restart fold host cls ending).consuming = true ↔
      proxy.LeftOver cls ending ∨ proxy.ComesUp fold host cls proxy.metadata ending := by
  simp only [ConsumerProxy.restart, ConsumerProxy.LeftOver, ConsumerProxy.ComesUp]
  cases running : proxy.running with
  | false =>
    simp only [ConsumerProxy.shutdown, ConsumerProxy.start, running, Bool.false_eq_true, if_false, if_true]
    cases starts : cls.consumerStart fold host proxy.metadata with
    | false => simp
    | true => cases cls <;> cases ending <;> simp
  | true =>
    cases starts : cls.consumerStart fold host proxy.metadata with
    | false => cases cls <;> cases ending <;> simp [ConsumerProxy.shutdown, ConsumerProxy.start, running, starts]
    | true => cases cls <;> cases ending <;> simp [ConsumerProxy.shutdown, ConsumerProxy.start, running, starts]

theorem not_comesUp_of_suspended {fold : Char → Char} {host : String} {proxy : ConsumerProxy}
    {read : ConsumerGroupMetadata} {ending : RestartEnding} (suspended : needSuspend fold read = true) :
    ¬ proxy.ComesUp fold host .RocketmqConsumerProxy read ending := by
  rintro ⟨-, starts, -⟩
  rw [ConsumerClass.consumerStart, suspended, Bool.not_true, Bool.and_false] at starts
  cases starts

theorem ConsumerProxy.start_metadata (proxy : ConsumerProxy) (ending : RestartEnding) :
    (proxy.start fold host cls ending).metadata = proxy.metadata := by
  unfold ConsumerProxy.start
  split_ifs
  · rfl
  · cases ending <;> rfl
  · rfl

theorem ConsumerProxy.shutdown_metadata (proxy : ConsumerProxy) (ending : RestartEnding) :
    (proxy.shutdown cls ending).1.metadata = proxy.metadata := by
  unfold ConsumerProxy.shutdown
  split_ifs
  · cases ending <;> rfl
  · rfl

theorem ConsumerProxy.restart_metadata (proxy : ConsumerProxy) (ending : RestartEnding) :
    (proxy.restart fold host cls ending).metadata = proxy.metadata := by
  simp only [ConsumerProxy.restart]
  split_ifs
  · exact (start_metadata fold host cls _ ending).trans (shutdown_metadata cls proxy ending)
  · exact shutdown_metadata cls proxy ending

theorem handleDataChange_consuming_iff {proxy : ConsumerProxy} {read : ConsumerGroupMetadata}
    (ending : RestartEnding)
    (takes : (cls.proxyClass host).reaction proxy.metadata (some read) =
      if (cls.proxyClass host).changeConfigAndRestart proxy.metadata read then .restarts read else .adopts read) :
    (proxy.handleDataChange fold host cls read ending).consuming = true ↔
      if (cls.proxyClass host).changeConfigAndRestart proxy.metadata read = true then
        proxy.LeftOver cls ending ∨ proxy.ComesUp fold host cls read ending
      else proxy.consuming = true := by
  simp only [ConsumerProxy.handleDataChange, takes]
  split_ifs
  · exact restart_consuming_iff fold host cls { proxy with metadata := read } ending
  · rfl

theorem handleDataChange_taken {proxy : ConsumerProxy} {read : ConsumerGroupMetadata} (ending : RestartEnding)
    (takes : (cls.proxyClass host).reaction proxy.metadata (some read) =
      if (cls.proxyClass host).changeConfigAndRestart proxy.metadata read then .restarts read else .adopts read) :
    (proxy.handleDataChange fold host cls read ending).metadata = read := by
  simp only [ConsumerProxy.handleDataChange, takes]
  split_ifs
  · exact ConsumerProxy.restart_metadata fold host cls { proxy with metadata := read } ending
  · rfl

theorem ConsumerProxy.shutdown_running (proxy : ConsumerProxy) (ending : RestartEnding) :
    (proxy.shutdown cls ending).1.running = false := by
  unfold ConsumerProxy.shutdown
  split_ifs with running
  · cases ending <;> rfl
  · exact Bool.eq_false_iff.mpr running

theorem ConsumerProxy.start_running {proxy : ConsumerProxy} {ending : RestartEnding}
    (stopped : proxy.running = false) (running : (proxy.start fold host cls ending).running = true) :
    cls.consumerStart fold host proxy.metadata = true := by
  by_contra fails
  unfold ConsumerProxy.start at running
  rw [if_neg (Bool.eq_false_iff.mp stopped), if_neg fails, stopped] at running
  cases running

theorem ConsumerProxy.restart_running {proxy : ConsumerProxy} {ending : RestartEnding}
    (running : (proxy.restart fold host cls ending).running = true) :
    cls.consumerStart fold host proxy.metadata = true := by
  have stopped := shutdown_running cls proxy ending
  simp only [ConsumerProxy.restart] at running
  split_ifs at running
  · exact shutdown_metadata cls proxy ending ▸ start_running fold host cls stopped running
  · rw [stopped] at running
    cases running

/-- The consumer as the general proxy has it, which says nothing of its broker client but the address. -/
def ConsumerProxy.toProxy (proxy : ConsumerProxy) (startedWith : Option (Option String)) :
    Proxy ConsumerGroupMetadata := ⟨proxy.metadata, proxy.running, startedWith⟩

/-- A restart is one of the general proxy. -/
theorem ConsumerProxy.restart_refines (proxy : ConsumerProxy) (ending : RestartEnding)
    (startedWith : Option (Option String)) : ∃ generalEnding startedAgain,
      (proxy.restart fold host cls ending).toProxy startedAgain =
        (cls.proxyClass host).restart (proxy.toProxy startedWith) generalEnding := by
  have startsAgain : (cls.proxyClass host).startsAgain = true := by cases cls <;> rfl
  have metadata := proxy.restart_metadata fold host cls ending
  cases running : (proxy.restart fold host cls ending).running with
  | false =>
    refine ⟨.shutdownThrows, startedWith, ?_⟩
    simp only [toProxy, metadata, running, ProxyClass.restart, ProxyClass.shutdown, if_true]
  | true =>
    have starts := restart_running fold host cls running
    unfold ConsumerClass.consumerStart at starts
    rw [Bool.and_eq_true] at starts
    obtain ⟨address, isAddress⟩ := Option.isSome_iff_exists.mp starts.1
    refine ⟨.completes, some address, ?_⟩
    simp only [toProxy, metadata, running, ProxyClass.restart, ProxyClass.shutdown, startsAgain, ProxyClass.start,
      isAddress, if_true]
    rfl

theorem ConsumerProxy.handleDataChange_refines (proxy : ConsumerProxy) (read : ConsumerGroupMetadata)
    (ending : RestartEnding) (startedWith : Option (Option String)) : ∃ generalEnding startedAgain,
      (proxy.handleDataChange fold host cls read ending).toProxy startedAgain =
        (cls.proxyClass host).handleDataChange (proxy.toProxy startedWith) (some read) generalEnding := by
  simp only [ConsumerProxy.handleDataChange, ProxyClass.handleDataChange, toProxy]
  cases (cls.proxyClass host).reaction proxy.metadata (some read) with
  | ignores => exact ⟨.completes, startedWith, rfl⟩
  | adopts newMetadata => exact ⟨.completes, startedWith, rfl⟩
  | restarts newMetadata => exact restart_refines fold host cls { proxy with metadata := newMetadata } ending startedWith

end Suspension

/-! ### When a change is followed -/

/-- The proxy holds the metadata read, and its consumer has stopped or begun to consume as it says. -/
structure Follows (fold : Char → Char) (proxy after : ConsumerProxy) (read : ConsumerGroupMetadata) : Prop where
  same : SameGroup after.metadata read
  suspended : needSuspend fold proxy.metadata = false → needSuspend fold read = true → after.consuming = false
  resumed : needSuspend fold proxy.metadata = true → needSuspend fold read = false → after.consuming = true

/-- The logger does not change alone; who is suspended is stopped by a restart, and who is resumed is
started by one. -/
structure Followed (fold : Char → Char) (host : String) (cls : ConsumerClass) (proxy : ConsumerProxy)
    (read : ConsumerGroupMetadata) (ending : RestartEnding) : Prop where
  typed : Untyped proxy.metadata.toZmsMetadata → SameGroup proxy.metadata read
  logger : proxy.metadata.equals read = true → proxy.metadata.statisticsLogger = read.statisticsLogger
  suspended : needSuspend fold proxy.metadata = false → needSuspend fold read = true →
    if (cls.proxyClass host).changeConfigAndRestart proxy.metadata read then
      ¬ proxy.LeftOver cls ending ∧ (cls = .KafkaConsumerProxy → ¬ proxy.ComesUp fold host cls read ending)
    else proxy.consuming = false
  resumed : needSuspend fold proxy.metadata = true → needSuspend fold read = false →
    if (cls.proxyClass host).changeConfigAndRestart proxy.metadata read then
      proxy.LeftOver cls ending ∨ proxy.ComesUp fold host cls read ending
    else proxy.consuming = true

theorem needSuspend_of_same {fold : Char → Char} {held read : ConsumerGroupMetadata} {before after : Bool}
    (same : SameGroup held read) (wasHeld : needSuspend fold held = before) (isRead : needSuspend fold read = after) :
    before = after := by
  rw [← wasHeld, ← isRead, needSuspend, needSuspend, same.suspend]

theorem proxyClass_equals (host : String) (cls : ConsumerClass) :
    (cls.proxyClass host).equals = ConsumerGroupMetadata.equals ∧
      (cls.proxyClass host).zmsMetadata = ConsumerGroupMetadata.toZmsMetadata := by
  cases cls <;> exact ⟨rfl, rfl⟩

theorem follows_consumer_iff {fold : Char → Char} {host : String} {cls : ConsumerClass} {proxy : ConsumerProxy}
    {read : ConsumerGroupMetadata} {ending : RestartEnding}
    (same : SameBroker proxy.metadata.toZmsMetadata read.toZmsMetadata) :
    Follows fold proxy (proxy.handleDataChange fold host cls read ending) read ↔
      Followed fold host cls proxy read ending := by
  obtain ⟨isEquals, isZms⟩ := proxyClass_equals host cls
  have reacts := reaction_eq (cls.proxyClass host) proxy.metadata read (by rw [isZms]; exact same)
  rw [isEquals, isZms] at reacts
  rcases reacts with ⟨discards, reacts⟩ | ⟨takes, reacts⟩
  · have unchanged : proxy.handleDataChange fold host cls read ending = proxy := by
      rw [ConsumerProxy.handleDataChange, reacts]
    rw [unchanged]
    constructor
    · rintro ⟨sameGroup, -, -⟩
      refine ⟨fun _ => sameGroup, fun _ => sameGroup.statisticsLogger, ?_, ?_⟩
      · intro active suspended
        cases needSuspend_of_same sameGroup active suspended
      · intro suspended active
        cases needSuspend_of_same sameGroup suspended active
    · intro followed
      have sameGroup : SameGroup proxy.metadata read := by
        rcases discards with untyped | equal
        · exact followed.typed untyped
        · exact (sameGroup_of_equals equal).mpr (followed.logger equal)
      refine ⟨sameGroup, ?_, ?_⟩
      · intro active suspended
        cases needSuspend_of_same sameGroup active suspended
      · intro suspended active
        cases needSuspend_of_same sameGroup suspended active
  · have consuming := handleDataChange_consuming_iff fold host cls ending reacts
    have taken := handleDataChange_taken fold host cls ending reacts
    have stopped : needSuspend fold read = true →
        ((proxy.handleDataChange fold host cls read ending).consuming = false ↔
          if (cls.proxyClass host).changeConfigAndRestart proxy.metadata read then
            ¬ proxy.LeftOver cls ending ∧ (cls = .KafkaConsumerProxy → ¬ proxy.ComesUp fold host cls read ending)
          else proxy.consuming = false) := by
      intro suspended
      have stays : ¬ proxy.ComesUp fold host .RocketmqConsumerProxy read ending := not_comesUp_of_suspended suspended
      rw [← Bool.not_eq_true, consuming]
      split_ifs
      · cases cls <;> simp [stays]
      · exact Bool.eq_false_iff.symm
    constructor
    · intro follows
      refine ⟨fun untyped => absurd (.inl untyped) takes, fun equal => absurd (.inr equal) takes, ?_, ?_⟩
      · intro active suspended
        exact (stopped suspended).mp (follows.suspended active suspended)
      · intro suspended active
        exact consuming.mp (follows.resumed suspended active)
    · intro followed
      refine ⟨?_, ?_, ?_⟩
      · rw [taken]
        exact ⟨⟨rfl, rfl, rfl, rfl⟩, rfl, rfl, rfl, rfl⟩
      · intro active suspended
        exact (stopped suspended).mpr (followed.suspended active suspended)
      · intro suspended active
        exact consuming.mpr (followed.resumed suspended active)

/-- The producers, whose metadata has no fields of its own. -/
def IsProducer (host : String) (cls : ProxyClass TopicMetadata) : Prop :=
  cls = RocketmqProducerProxy host ∨ ∃ customized, cls = KafkaProducerProxy host customized

theorem follows_producer_iff {host : String} {cls : ProxyClass TopicMetadata} (producer : IsProducer host cls)
    {proxy : Proxy TopicMetadata} {read : TopicMetadata} {ending : Ending} (same : SameBroker proxy.metadata read) :
    SameMetadata (cls.handleDataChange proxy (some read) ending).metadata read ↔
      (Untyped proxy.metadata → SameMetadata proxy.metadata read) ∧
        (proxy.metadata.equals read = true → proxy.metadata.statisticsLogger = read.statisticsLogger) := by
  have isEquals : cls.equals = ZmsMetadata.equals ∧ cls.zmsMetadata = id := by
    rcases producer with rfl | ⟨customized, rfl⟩ <;> exact ⟨rfl, rfl⟩
  have held := handleDataChange_metadata cls proxy read ending (by rw [isEquals.2]; exact same)
  rw [isEquals.1, isEquals.2] at held
  rcases held with ⟨discards, held⟩ | ⟨takes, held⟩
  · rw [held]
    constructor
    · exact fun sameFields => ⟨fun _ => sameFields, fun _ => sameFields.statisticsLogger⟩
    · rintro ⟨typed, logger⟩
      rcases discards with untyped | equal
      · exact typed untyped
      · exact (sameMetadata_of_equals equal).mpr (logger equal)
  · rw [held]
    exact ⟨fun _ => ⟨fun untyped => absurd (.inl untyped) takes, fun equal => absurd (.inr equal) takes⟩,
      fun _ => ⟨rfl, rfl, rfl, rfl⟩⟩

/-- When the producers and the consumers follow a data change. -/
theorem follows_iff (fold : Char → Char) (host : String) :
    (∀ cls, IsProducer host cls → ∀ proxy read ending, SameBroker proxy.metadata read →
      (SameMetadata (cls.handleDataChange proxy (some read) ending).metadata read ↔
        (Untyped proxy.metadata → SameMetadata proxy.metadata read) ∧
          (proxy.metadata.equals read = true → proxy.metadata.statisticsLogger = read.statisticsLogger))) ∧
    ∀ (cls : ConsumerClass) (proxy : ConsumerProxy) (read : ConsumerGroupMetadata) (ending : RestartEnding),
      SameBroker proxy.metadata.toZmsMetadata read.toZmsMetadata →
      (Follows fold proxy (proxy.handleDataChange fold host cls read ending) read ↔
        Followed fold host cls proxy read ending) :=
  ⟨fun _ producer _ _ _ same => follows_producer_iff producer same, fun _ _ _ _ same => follows_consumer_iff same⟩

def pausableGroup (suspend : String) (consumeFrom : String) : ConsumerGroupMetadata where
  type := "consumergroup"
  name := "orders"
  clusterMetadata := some ⟨"mq1", some "10.0.0.1:9876", some .ROCKETMQ, none⟩
  domain := none
  gatedIps := none
  gatedCluster := none
  statisticsLogger := none
  bindingTopic := some "orders"
  consumeFrom := some consumeFrom
  broadcast := none
  suspend := some suspend

theorem sameBroker_group (suspend suspend' consumeFrom consumeFrom' : String) :
    SameBroker (pausableGroup suspend consumeFrom).toZmsMetadata (pausableGroup suspend' consumeFrom').toZmsMetadata :=
  ⟨_, rfl, _, rfl, rfl⟩

/-- Suspended together with a change that restarts it, the consumer stops. -/
theorem follows_iff_suspended : needSuspend id (pausableGroup "true" "latest") = true ∧
    (Follows id ⟨pausableGroup "false" "earliest", true, true⟩
        (ConsumerProxy.handleDataChange id "10.0.0.9" .RocketmqConsumerProxy ⟨pausableGroup "false" "earliest", true, true⟩
          (pausableGroup "true" "latest") .completes) (pausableGroup "true" "latest") ↔
      Followed id "10.0.0.9" .RocketmqConsumerProxy ⟨pausableGroup "false" "earliest", true, true⟩ (pausableGroup "true" "latest")
        .completes) :=
  ⟨by decide, (follows_iff id "10.0.0.9").2 .RocketmqConsumerProxy ⟨pausableGroup "false" "earliest", true, true⟩
    (pausableGroup "true" "latest") .completes (sameBroker_group ..)⟩

/-- A consumer that is suspended and nothing else goes on consuming. -/
theorem not_follows : ¬ ∀ (fold : Char → Char) (host : String) (cls : ConsumerClass) (proxy : ConsumerProxy)
    (read : ConsumerGroupMetadata) (ending : RestartEnding),
    SameBroker proxy.metadata.toZmsMetadata read.toZmsMetadata →
    Follows fold proxy (proxy.handleDataChange fold host cls read ending) read := by
  intro claim
  have follows := claim id "10.0.0.9" .RocketmqConsumerProxy ⟨pausableGroup "false" "earliest", true, true⟩
    (pausableGroup "true" "earliest") .completes (sameBroker_group ..)
  have stopped := follows.suspended (by decide) (by decide)
  revert stopped
  decide

end Zms.Client
