import Zms.Arithmetic.Increments
import Zms.Arithmetic.Longs
import Zms.Transition.Collecting

/-! The daily offsets of the topics of one cluster, and what they say of the days in between.

The baseline of an increment is the last offset that has been recorded.
-/

set_option autoImplicit false

namespace Zms.Collector.DailyOffsets

open Arithmetic

/-- The topics of the cluster; no name is there twice. -/
structure Topics where
  names : List String
  distinct : names.Nodup

structure Entry where
  time : Nat
  incrementVal : Int
  maxOffset : Int
  deriving DecidableEq

/-- What the database holds of the cluster, newest first, and the offsets the reporter keeps. -/
structure Store where
  topics : String → List Entry
  cluster : List Entry
  topicMaxOffsets : String → Option Int

def Store.empty : Store := ⟨fun _ => [], [], fun _ => none⟩

/-- Whether the queries of one run return. -/
structure Calls where
  getLastTopicMaxOffset : String → Bool
  getLastClusterMaxOffset : Bool

/-- The offset with its increase over the last one. -/
def entryOf (time : Nat) (maxOffset : Int) (entries : List Entry) : Entry where
  time := time
  incrementVal := toDouble (match entries with
    | [] => 0
    | last :: _ => toLong (maxOffset - longValue last.maxOffset))
  maxOffset := toDouble maxOffset

def Store.addTopic (store : Store) (time : Nat) (topic : String) (maxTopicOffset : Int) : Store where
  topics := Function.update store.topics topic
    (entryOf time maxTopicOffset (store.topics topic) :: store.topics topic)
  cluster := store.cluster
  topicMaxOffsets := store.topicMaxOffsets

def Store.addCluster (store : Store) (time : Nat) (maxClusterOffset : Int) : Store where
  topics := store.topics
  cluster := entryOf time maxClusterOffset store.cluster :: store.cluster
  topicMaxOffsets := store.topicMaxOffsets

def Store.remember (store : Store) (topic : String) (maxTopicOffset : Int) : Store where
  topics := store.topics
  cluster := store.cluster
  topicMaxOffsets := Function.update store.topicMaxOffsets topic (some maxTopicOffset)

/-- `none` where the query throws; what is put into the buffer is written before the next run. -/
def saveStatisticTopicOffset (calls : Calls) (time : Nat) (topic : String) (maxTopicOffset : Int) (store : Store) :
    Option Store :=
  if calls.getLastTopicMaxOffset topic then some (store.addTopic time topic maxTopicOffset) else none

def saveStatisticClusterOffset (calls : Calls) (time : Nat) (maxClusterOffset : Int) (store : Store) : Option Store :=
  if calls.getLastClusterMaxOffset then some (store.addCluster time maxClusterOffset) else none

/-- What a reporter makes of a topic. -/
inductive Reading where
  | throws
  | skipped
  | total (maxTopicOffset : Int)

/-- One run: how the topics are read, how the database answers, and the true totals. -/
structure Day where
  read : String → Reading
  calls : Calls
  total : String → Int

/-- The loop over the topics, and the cluster's offset when it gets to the end. -/
def recordTopics (day : Day) (time : Nat) : List String → Int → Store → Store × Option Int
  | [], maxClusterOffset, store => (store, some maxClusterOffset)
  | topic :: rest, maxClusterOffset, store =>
    match day.read topic with
    | .throws => (store, none)
    | .skipped => recordTopics day time rest maxClusterOffset store
    | .total maxTopicOffset =>
      match saveStatisticTopicOffset day.calls time topic maxTopicOffset store with
      | none => (store, none)
      | some saved => recordTopics day time rest (toLong (maxClusterOffset + maxTopicOffset))
          (saved.remember topic maxTopicOffset)

/-- An exception ends the run, and is logged. -/
def recordMaxOffset (day : Day) (time : Nat) (topics : Topics) (store : Store) : Store :=
  match recordTopics day time topics.names 0 store with
  | (recorded, none) => recorded
  | (recorded, some maxClusterOffset) =>
    (saveStatisticClusterOffset day.calls time maxClusterOffset recorded).getD recorded

/-! ### Kafka -/

/-- How `endOffsets` ends for a partition. -/
inductive EndOffsets where
  | throws
  | empty
  | answers
  deriving DecidableEq

structure Partition where
  endOffset : Nat
  endOffsets : EndOffsets

structure KafkaDay where
  /-- Whether `describeTopics` returns, for all topics at once. -/
  describeTopics : Bool
  partitions : String → List Partition
  calls : Calls

def kafkaInternalTopic : List String := ["__consumer_offsets"]

namespace KafkaDay

def findTopicPartitions (day : KafkaDay) (topics : Topics) (topic : String) : Option (List Partition) :=
  if topic ∈ topics.names then
    if topic ∈ kafkaInternalTopic then some []
    else if day.describeTopics then some (day.partitions topic) else none
  else none

def getLogSize (partition : Partition) : Option Int :=
  match partition.endOffsets with
  | .throws => none
  | .empty => some 0
  | .answers => some partition.endOffset

/-- A topic without partitions is logged, and has the offset `0`. -/
def read (day : KafkaDay) (topics : Topics) (topic : String) : Reading :=
  match day.findTopicPartitions topics topic with
  | none => .total 0
  | some partitions =>
    match partitions.mapM getLogSize with
    | none => .throws
    | some sizes => .total (toLong sizes.sum)

def total (day : KafkaDay) (topic : String) : Int := ((day.partitions topic).map fun p => (p.endOffset : Int)).sum

def toDay (topics : Topics) (day : KafkaDay) : Day := ⟨day.read topics, day.calls, day.total⟩

end KafkaDay

/-- `KafkaReporter.recordMaxOffset`. -/
def KafkaReporter.recordMaxOffset (day : KafkaDay) (time : Nat) (topics : Topics) (store : Store) : Store :=
  DailyOffsets.recordMaxOffset (day.toDay topics) time topics store

/-- After the days, of which the newest comes first. -/
def KafkaReporter.afterDays (topics : Topics) : List KafkaDay → Store
  | [] => Store.empty
  | day :: earlier => recordMaxOffset day earlier.length topics (afterDays topics earlier)

/-! ### RocketMQ -/

structure RocketMqDay where
  /-- Whether `stats` returns. -/
  stats : String → Bool
  /-- The offset of each queue. -/
  maxOffsets : String → List Nat
  calls : Calls

def ignore (topic : String) : Bool := topic ≠ "" && (topic.startsWith "%DLQ%" || topic.startsWith "%RETRY%")

namespace RocketMqDay

def total (day : RocketMqDay) (topic : String) : Int := ((day.maxOffsets topic).map fun offset => (offset : Int)).sum

def read (day : RocketMqDay) (topic : String) : Reading :=
  if ignore topic then .skipped
  else if day.stats topic then .total (toLong (day.total topic)) else .skipped

def toDay (day : RocketMqDay) : Day := ⟨day.read, day.calls, day.total⟩

end RocketMqDay

/-- `RocketMQReporter.recordMaxOffset`. -/
def RocketMQReporter.recordMaxOffset (day : RocketMqDay) (time : Nat) (topics : Topics) (store : Store) : Store :=
  DailyOffsets.recordMaxOffset day.toDay time topics store

def RocketMQReporter.afterDays (topics : Topics) : List RocketMqDay → Store
  | [] => Store.empty
  | day :: earlier => recordMaxOffset day earlier.length topics (afterDays topics earlier)

/-! ### What is recorded -/

/-- The topics of which a run records an offset. -/
def recorded (day : Day) : List String → List String
  | [] => []
  | topic :: rest =>
    match day.read topic with
    | .throws => []
    | .skipped => recorded day rest
    | .total _ => if day.calls.getLastTopicMaxOffset topic then topic :: recorded day rest else []

def completes (day : Day) : List String → Bool
  | [] => true
  | topic :: rest =>
    match day.read topic with
    | .throws => false
    | .skipped => completes day rest
    | .total _ => day.calls.getLastTopicMaxOffset topic && completes day rest

def clusterTotal (day : Day) (topics : Topics) : Int := ((recorded day topics.names).map day.total).sum

/-- The total of the topic on the day of the entry. -/
def TrueAt (days : List Day) (topic : String) (entry : Entry) : Prop :=
  ∃ later day earlier, days = later ++ day :: earlier ∧ entry.time = earlier.length ∧ entry.maxOffset = day.total topic

def NeverDecrease (topics : Topics) (days : List Day) : Prop :=
  days.Pairwise fun later earlier => ∀ topic ∈ topics.names, earlier.total topic ≤ later.total topic

structure Sound (days : List Day) (store : Store) : Prop where
  maxOffset : ∀ topic, ∀ entry ∈ store.topics topic, TrueAt days topic entry
  increment : ∀ topic, ∀ entry ∈ store.topics topic, 0 ≤ entry.incrementVal
  clusterIncrement : ∀ entry ∈ store.cluster, 0 ≤ entry.incrementVal
  addUp : ∀ topic last first, (store.topics topic).head? = some last → (store.topics topic).getLast? = some first →
    ((store.topics topic).map Entry.incrementVal).sum = last.maxOffset - first.maxOffset

/-- A level that is held exactly, and its increase over the last entry. -/
def HeldAfter (level : Int) (entries : List Entry) : Prop :=
  Holds level ∧ ∀ last, entries.head? = some last → Holds (level - last.maxOffset)

/-- What a run of either reporter has to meet, given what has been recorded before. -/
structure Meets (topics : Topics) (day : Day) (store : Store) : Prop where
  read : ∀ topic ∈ recorded day topics.names, day.read topic = .total (day.total topic)
  held : ∀ topic ∈ recorded day topics.names, HeldAfter (day.total topic) (store.topics topic)
  cluster : completes day topics.names = true → day.calls.getLastClusterMaxOffset = true →
    HeldAfter (clusterTotal day topics) store.cluster ∧
      ∀ last, store.cluster.head? = some last → last.maxOffset ≤ clusterTotal day topics

/-! ### One entry -/

theorem entryOf_maxOffset {level : Int} {entries : List Entry} (held : HeldAfter level entries) (time : Nat) :
    (entryOf time level entries).maxOffset = level := held.1.double

theorem entryOf_first {level : Int} (time : Nat) : (entryOf time level []).incrementVal = 0 := by
  have zero : toDouble 0 = 0 := toDouble_of_small (by decide)
  exact zero

theorem entryOf_next {level : Int} {last : Entry} {earlier : List Entry} (held : HeldAfter level (last :: earlier))
    (before : Holds last.maxOffset) (time : Nat) :
    (entryOf time level (last :: earlier)).incrementVal = level - last.maxOffset := by
  have difference := held.2 last rfl
  change toDouble (toLong (level - longValue last.maxOffset)) = _
  rw [longValue_of_holds before, difference.long, difference.double]

/-- Entries that add up, and are held exactly. -/
structure Exact (entries : List Entry) : Prop where
  recorded : Recorded Entry.incrementVal Entry.maxOffset entries
  held : ∀ entry ∈ entries, Holds entry.maxOffset

theorem Exact.cons_entryOf {entries : List Entry} (exact : Exact entries) {level : Int} (held : HeldAfter level entries)
    (time : Nat) : Exact (entryOf time level entries :: entries) := by
  constructor
  · cases entries with
    | nil => exact Recorded.first (entryOf_first time)
    | cons last earlier =>
        apply Recorded.next exact.recorded
        rw [entryOf_next held (exact.held last List.mem_cons_self), entryOf_maxOffset held]
  · intro entry member
    cases List.mem_cons.mp member with
    | inl isNew =>
        rw [isNew, entryOf_maxOffset held]
        exact held.1
    | inr before => exact exact.held entry before

theorem entryOf_increases {entries : List Entry} (exact : Exact entries) {level : Int} (held : HeldAfter level entries)
    (grown : ∀ last, entries.head? = some last → last.maxOffset ≤ level) (time : Nat) :
    0 ≤ (entryOf time level entries).incrementVal := by
  cases entries with
  | nil =>
      rw [entryOf_first]
  | cons last earlier =>
      rw [entryOf_next held (exact.held last List.mem_cons_self)]
      exact Int.sub_nonneg_of_le (grown last rfl)

/-! ### One run -/

/-- What a day that meets its conditions keeps, on the way through the topics and over all days. -/
structure Keeps (days : List Day) (store : Store) : Prop where
  exact : ∀ topic, Exact (store.topics topic)
  cluster : Exact store.cluster
  truthful : ∀ topic, ∀ entry ∈ store.topics topic, TrueAt days topic entry
  increment : ∀ topic, ∀ entry ∈ store.topics topic, 0 ≤ entry.incrementVal
  clusterIncrement : ∀ entry ∈ store.cluster, 0 ≤ entry.incrementVal

theorem TrueAt.cons {days : List Day} {topic : String} {entry : Entry} (true' : TrueAt days topic entry) (day : Day) :
    TrueAt (day :: days) topic entry := by
  obtain ⟨later, onDay, earlier, split, time, level⟩ := true'
  exact ⟨day :: later, onDay, earlier, by rw [split, List.cons_append], time, level⟩

theorem Keeps.cons {days : List Day} {store : Store} (keeps : Keeps days store) (day : Day) :
    Keeps (day :: days) store :=
  ⟨keeps.exact, keeps.cluster, fun topic entry member => (keeps.truthful topic entry member).cons day,
    keeps.increment, keeps.clusterIncrement⟩

theorem recorded_subset (day : Day) (names : List String) : recorded day names ⊆ names := by
  induction names with
  | nil => exact List.Subset.refl []
  | cons topic rest ih =>
      unfold recorded
      cases day.read topic with
      | throws => exact List.nil_subset _
      | skipped => exact List.subset_cons_of_subset topic ih
      | total level =>
          cases query : day.calls.getLastTopicMaxOffset topic with
          | false => exact List.nil_subset _
          | true => exact List.cons_subset_cons topic ih

section Run
variable {topics : Topics} {day : Day} {earlier : List Day} {store : Store}

theorem le_total (never : NeverDecrease topics (day :: earlier)) {topic : String} (isTopic : topic ∈ topics.names)
    {entry : Entry} (true' : TrueAt (day :: earlier) topic entry) : entry.maxOffset ≤ day.total topic := by
  obtain ⟨later, onDay, before, split, _, level⟩ := true'
  rw [level]
  cases later with
  | nil =>
      rw [List.nil_append, List.cons.injEq] at split
      rw [split.1]
  | cons first later =>
      rw [List.cons_append, List.cons.injEq] at split
      apply (List.pairwise_cons.mp never).1 onDay _ topic isTopic
      rw [split.2]
      exact List.mem_append_right later List.mem_cons_self

theorem Keeps.addTopic (never : NeverDecrease topics (day :: earlier)) (keeps : Keeps (day :: earlier) store)
    {topic : String} (isTopic : topic ∈ topics.names) (held : HeldAfter (day.total topic) (store.topics topic)) :
    Keeps (day :: earlier) (store.addTopic earlier.length topic (day.total topic)) := by
  have added : (store.addTopic earlier.length topic (day.total topic)).topics topic =
      entryOf earlier.length (day.total topic) (store.topics topic) :: store.topics topic := Function.update_self _ _ _
  have others {other : String} (differs : other ≠ topic) :
      (store.addTopic earlier.length topic (day.total topic)).topics other = store.topics other :=
    Function.update_of_ne differs _ _
  constructor
  · intro other
    by_cases same : other = topic
    · rw [same, added]
      exact (keeps.exact topic).cons_entryOf held earlier.length
    · rw [others same]
      exact keeps.exact other
  · exact keeps.cluster
  · intro other entry member
    by_cases same : other = topic
    · rw [same, added] at member
      rw [same]
      cases List.mem_cons.mp member with
      | inl isNew =>
          rw [isNew]
          exact ⟨[], day, earlier, rfl, rfl, entryOf_maxOffset held earlier.length⟩
      | inr before => exact keeps.truthful topic entry before
    · rw [others same] at member
      exact keeps.truthful other entry member
  · intro other entry member
    by_cases same : other = topic
    · rw [same, added] at member
      cases List.mem_cons.mp member with
      | inl isNew =>
          rw [isNew]
          apply entryOf_increases (keeps.exact topic) held
          intro last isLast
          exact le_total never isTopic (keeps.truthful topic last (List.mem_of_head? isLast))
      | inr before => exact keeps.increment topic entry before
    · rw [others same] at member
      exact keeps.increment other entry member
  · exact keeps.clusterIncrement

theorem Keeps.addCluster {days : List Day} (keeps : Keeps days store) {level : Int}
    (held : HeldAfter level store.cluster) (grown : ∀ last, store.cluster.head? = some last → last.maxOffset ≤ level)
    (time : Nat) : Keeps days (store.addCluster time level) := by
  constructor
  · exact keeps.exact
  · exact keeps.cluster.cons_entryOf held time
  · exact keeps.truthful
  · exact keeps.increment
  · intro entry member
    cases List.mem_cons.mp member with
    | inl isNew =>
        rw [isNew]
        exact entryOf_increases keeps.cluster held grown time
    | inr before => exact keeps.clusterIncrement entry before

theorem Keeps.remember {days : List Day} (keeps : Keeps days store) (topic : String) (level : Int) :
    Keeps days (store.remember topic level) :=
  ⟨keeps.exact, keeps.cluster, keeps.truthful, keeps.increment, keeps.clusterIncrement⟩

theorem addTopic_other {time : Nat} {topic other : String} {level : Int} (differs : other ≠ topic) :
    ((store.addTopic time topic level).remember topic level).topics other = store.topics other :=
  Function.update_of_ne differs _ _

/-- Over the topics that are left; what has been recorded of them is still that of the start. -/
theorem keeps_recordTopics (never : NeverDecrease topics (day :: earlier)) {names : List String}
    (distinct : names.Nodup) (areTopics : ∀ topic ∈ names, topic ∈ topics.names) (keeps : Keeps (day :: earlier) store)
    (read : ∀ topic ∈ recorded day names, day.read topic = .total (day.total topic))
    (held : ∀ topic ∈ recorded day names, HeldAfter (day.total topic) (store.topics topic)) (sum : Int) :
    Keeps (day :: earlier) (recordTopics day earlier.length names sum store).1 ∧
      (recordTopics day earlier.length names sum store).1.cluster = store.cluster := by
  induction names generalizing store sum with
  | nil => exact ⟨keeps, rfl⟩
  | cons topic rest ih =>
      obtain ⟨fresh, distinctRest⟩ := List.nodup_cons.mp distinct
      have restTopics : ∀ other ∈ rest, other ∈ topics.names := fun other member =>
        areTopics other (List.mem_cons_of_mem topic member)
      unfold recordTopics
      unfold recorded at read held
      cases reading : day.read topic with
      | throws => exact ⟨keeps, rfl⟩
      | skipped =>
          rw [reading] at read held
          exact ih distinctRest restTopics keeps read held sum
      | total level =>
          rw [reading] at read held
          unfold saveStatisticTopicOffset
          cases query : day.calls.getLastTopicMaxOffset topic with
          | false => exact ⟨keeps, rfl⟩
          | true =>
              simp only [query, if_true] at read held ⊢
              have isTotal : level = day.total topic := by
                have same := read topic List.mem_cons_self
                rw [reading] at same
                exact Reading.total.inj same
              rw [isTotal]
              have heldTopic := held topic List.mem_cons_self
              have saved := (keeps.addTopic never (areTopics topic List.mem_cons_self) heldTopic).remember topic
                (day.total topic)
              apply ih distinctRest restTopics saved
              · intro other member
                exact read other (List.mem_cons_of_mem topic member)
              · intro other member
                have differs : other ≠ topic := by
                  intro same
                  rw [same] at member
                  exact fresh (recorded_subset day rest member)
                rw [addTopic_other differs]
                exact held other (List.mem_cons_of_mem topic member)

/-- The offset of the cluster is the sum of the totals that have been recorded. -/
theorem recordTopics_sum {names : List String} {time : Nat} {sum result : Int}
    (read : ∀ topic ∈ recorded day names, day.read topic = .total (day.total topic))
    (ends : (recordTopics day time names sum store).2 = some result) (isLong : toLong sum = sum) :
    completes day names = true ∧ result = toLong (sum + ((recorded day names).map day.total).sum) := by
  induction names generalizing store sum with
  | nil =>
      have same : sum = result := Option.some.inj ends
      refine ⟨rfl, ?_⟩
      change result = toLong (sum + 0)
      rw [Int.add_zero, isLong, same]
  | cons topic rest ih =>
      unfold recordTopics at ends
      unfold recorded completes
      unfold recorded at read
      cases reading : day.read topic with
      | throws =>
          rw [reading] at ends
          cases ends
      | skipped =>
          rw [reading] at read ends
          exact ih read ends isLong
      | total level =>
          rw [reading] at read ends
          unfold saveStatisticTopicOffset at ends
          cases query : day.calls.getLastTopicMaxOffset topic with
          | false =>
              simp only [query] at ends
              cases ends
          | true =>
              simp only [query, if_true] at read ends ⊢
              have isTotal : level = day.total topic := by
                have same := read topic List.mem_cons_self
                rw [reading] at same
                exact Reading.total.inj same
              have again : toLong (toLong (sum + level)) = toLong (sum + level) := Int.bmod_bmod
              obtain ⟨complete, same⟩ :=
                ih (fun other member => read other (List.mem_cons_of_mem topic member)) ends again
              refine ⟨complete, ?_⟩
              rw [same, toLong_add_toLong, isTotal, List.map_cons, List.sum_cons, Int.add_assoc]

theorem cluster_recordMaxOffset (never : NeverDecrease topics (day :: earlier)) (keeps : Keeps earlier store)
    (read : ∀ topic ∈ recorded day topics.names, day.read topic = .total (day.total topic))
    (held : ∀ topic ∈ recorded day topics.names, HeldAfter (day.total topic) (store.topics topic)) :
    (recordMaxOffset day earlier.length topics store).cluster = store.cluster ∨
      (completes day topics.names = true ∧ day.calls.getLastClusterMaxOffset = true ∧
        (recordMaxOffset day earlier.length topics store).cluster =
          entryOf earlier.length (toLong (clusterTotal day topics)) store.cluster :: store.cluster) := by
  have loop := keeps_recordTopics never topics.distinct (fun _ isTopic => isTopic) (keeps.cons day) read held 0
  unfold recordMaxOffset
  cases ends : recordTopics day earlier.length topics.names 0 store with
  | mk stored result =>
      rw [ends] at loop
      obtain ⟨_, sameCluster⟩ := loop
      cases result with
      | none => exact Or.inl sameCluster
      | some level =>
          have zero : toLong 0 = 0 := toLong_of_bounds (by decide) (by decide)
          have summed : (recordTopics day earlier.length topics.names 0 store).2 = some level :=
            congrArg Prod.snd ends
          obtain ⟨complete, isSum⟩ := recordTopics_sum read summed zero
          unfold saveStatisticClusterOffset
          cases query : day.calls.getLastClusterMaxOffset with
          | false => exact Or.inl sameCluster
          | true =>
              right
              refine ⟨complete, rfl, ?_⟩
              change entryOf earlier.length level stored.cluster :: stored.cluster = _
              rw [sameCluster, isSum, Int.zero_add]
              rfl

theorem keeps_recordMaxOffset (never : NeverDecrease topics (day :: earlier)) (keeps : Keeps earlier store)
    (meets : Meets topics day store) : Keeps (day :: earlier) (recordMaxOffset day earlier.length topics store) := by
  have loop := keeps_recordTopics never topics.distinct (fun _ isTopic => isTopic) (keeps.cons day) meets.read
    meets.held 0
  unfold recordMaxOffset
  cases ends : recordTopics day earlier.length topics.names 0 store with
  | mk stored result =>
      rw [ends] at loop
      obtain ⟨kept, sameCluster⟩ := loop
      cases result with
      | none => exact kept
      | some level =>
          have zero : toLong 0 = 0 := toLong_of_bounds (by decide) (by decide)
          have summed : (recordTopics day earlier.length topics.names 0 store).2 = some level :=
            congrArg Prod.snd ends
          obtain ⟨complete, isSum⟩ := recordTopics_sum meets.read summed zero
          change Keeps (day :: earlier) ((saveStatisticClusterOffset day.calls earlier.length level stored).getD stored)
          unfold saveStatisticClusterOffset
          cases query : day.calls.getLastClusterMaxOffset with
          | false => exact kept
          | true =>
              obtain ⟨held, grown⟩ := meets.cluster complete query
              have isTotal : level = clusterTotal day topics := by
                rw [isSum, Int.zero_add]
                exact held.1.long
              rw [isTotal]
              rw [← sameCluster] at held grown
              exact kept.addCluster held grown earlier.length

end Run

theorem keeps_empty : Keeps [] Store.empty := by
  constructor
  · exact fun _ => ⟨Recorded.nil, fun _ member => absurd member List.not_mem_nil⟩
  · exact ⟨Recorded.nil, fun _ member => absurd member List.not_mem_nil⟩
  · exact fun _ _ member => absurd member List.not_mem_nil
  · exact fun _ _ member => absurd member List.not_mem_nil
  · exact fun _ member => absurd member List.not_mem_nil

theorem Keeps.sound {days : List Day} {store : Store} (keeps : Keeps days store) : Sound days store :=
  ⟨keeps.truthful, keeps.increment, keeps.clusterIncrement,
    fun topic _ _ isLast isFirst => (keeps.exact topic).recorded.sum_increments isLast isFirst⟩

theorem reads_of_mem_recorded {day : Day} {names : List String} {topic : String} (member : topic ∈ recorded day names) :
    ∃ level, day.read topic = .total level := by
  induction names with
  | nil => cases member
  | cons first rest ih =>
      unfold recorded at member
      cases reading : day.read first with
      | throws =>
          rw [reading] at member
          cases member
      | skipped =>
          rw [reading] at member
          exact ih member
      | total level =>
          rw [reading] at member
          cases query : day.calls.getLastTopicMaxOffset first with
          | false =>
              simp only [query] at member
              cases member
          | true =>
              simp only [query, if_true] at member
              cases List.mem_cons.mp member with
              | inl same => exact ⟨level, same ▸ reading⟩
              | inr later => exact ih later

theorem recorded_of_completes {day : Day} {names : List String} (reads : ∀ topic, day.read topic ≠ .skipped)
    (complete : completes day names = true) : recorded day names = names := by
  induction names with
  | nil => rfl
  | cons topic rest ih =>
      unfold completes at complete
      unfold recorded
      cases reading : day.read topic with
      | throws =>
          rw [reading] at complete
          cases complete
      | skipped => exact absurd reading (reads topic)
      | total level =>
          rw [reading] at complete
          obtain ⟨query, completeRest⟩ := Bool.and_eq_true_iff.mp complete
          simp only [query, if_true]
          rw [ih completeRest]

/-! ### Kafka's runs -/

namespace KafkaDay

variable {topics : Topics} {day : KafkaDay} {topic : String}

/-- What is read of the topic is its total: it is described, and every partition answers, or
there is nothing to be read. -/
def Told (day : KafkaDay) (topic : String) : Prop :=
  if topic ∈ kafkaInternalTopic then day.total topic = 0
  else if day.describeTopics then ∀ p ∈ day.partitions topic, p.endOffsets = .empty → p.endOffset = 0
  else day.total topic = 0

structure Meets (topics : Topics) (day : KafkaDay) (store : Store) : Prop where
  told : ∀ topic ∈ recorded (day.toDay topics) topics.names, day.Told topic
  held : ∀ topic ∈ recorded (day.toDay topics) topics.names, HeldAfter (day.total topic) (store.topics topic)
  cluster : completes (day.toDay topics) topics.names = true → day.calls.getLastClusterMaxOffset = true →
    HeldAfter (clusterTotal (day.toDay topics) topics) store.cluster

theorem sum_sizes {partitions : List Partition} {sizes : List Int} (all : partitions.mapM getLogSize = some sizes)
    (answered : ∀ p ∈ partitions, p.endOffsets = .empty → p.endOffset = 0) :
    sizes.sum = (partitions.map fun p => (p.endOffset : Int)).sum := by
  have related := Transition.mapM_eq_some_iff.mp all
  clear all
  induction related with
  | nil => rfl
  | @cons p size rest others first _ ih =>
      have same : size = (p.endOffset : Int) := by
        unfold getLogSize at first
        cases ends : p.endOffsets with
        | throws =>
            rw [ends] at first
            cases first
        | empty =>
            rw [ends] at first
            rw [answered p List.mem_cons_self ends]
            exact (Option.some.inj first).symm
        | answers =>
            rw [ends] at first
            exact (Option.some.inj first).symm
      rw [List.sum_cons, List.map_cons, List.sum_cons, same,
        ih fun other member => answered other (List.mem_cons_of_mem p member)]

theorem read_eq (told : day.Told topic) (isTopic : topic ∈ topics.names) (held : Holds (day.total topic))
    {level : Int} (reads : day.read topics topic = .total level) :
    day.read topics topic = .total (day.total topic) := by
  unfold Told at told
  unfold read findTopicPartitions at *
  rw [if_pos isTopic] at *
  by_cases internal : topic ∈ kafkaInternalTopic
  · rw [if_pos internal] at told ⊢
    rw [told]
    rfl
  · rw [if_neg internal] at told reads ⊢
    cases described : day.describeTopics with
    | false =>
        rw [described] at told
        have zero : day.total topic = 0 := told
        rw [zero]
        rfl
    | true =>
        rw [described] at told reads
        change (match (day.partitions topic).mapM getLogSize with
          | none => Reading.throws
          | some sizes => .total (toLong sizes.sum)) = _ at reads
        change (match (day.partitions topic).mapM getLogSize with
          | none => Reading.throws
          | some sizes => .total (toLong sizes.sum)) = _
        cases all : (day.partitions topic).mapM getLogSize with
        | none =>
            rw [all] at reads
            cases reads
        | some sizes =>
            have isTotal : sizes.sum = day.total topic := sum_sizes all told
            change Reading.total (toLong sizes.sum) = _
            rw [isTotal, held.long]

theorem read_ne_skipped (day : KafkaDay) (topics : Topics) (topic : String) : day.read topics topic ≠ .skipped := by
  intro skipped
  unfold read at skipped
  split at skipped
  · cases skipped
  · split at skipped
    · cases skipped
    · cases skipped

theorem Meets.read {store : Store} (meets : Meets topics day store) :
    ∀ topic ∈ recorded (day.toDay topics) topics.names,
      (day.toDay topics).read topic = .total ((day.toDay topics).total topic) := by
  intro topic member
  obtain ⟨level, reads⟩ := reads_of_mem_recorded member
  exact read_eq (meets.told topic member) (recorded_subset _ _ member) (meets.held topic member).1 reads

/-- The total of all topics, which a run that gets to the end records. -/
def clusterTotal (day : KafkaDay) (topics : Topics) : Int := (topics.names.map day.total).sum

theorem clusterTotal_eq (complete : completes (day.toDay topics) topics.names = true) :
    DailyOffsets.clusterTotal (day.toDay topics) topics = day.clusterTotal topics := by
  unfold DailyOffsets.clusterTotal clusterTotal
  rw [recorded_of_completes (read_ne_skipped day topics) complete]
  rfl

end KafkaDay

/-- The entries of the cluster are totals of some days. -/
def ClusterTrue (topics : Topics) (days : List KafkaDay) (store : Store) : Prop :=
  ∀ entry ∈ store.cluster, ∃ day ∈ days, entry.maxOffset = day.clusterTotal topics

theorem clusterTotal_le {topics : Topics} {day before : KafkaDay}
    (grown : ∀ topic ∈ topics.names, before.total topic ≤ day.total topic) :
    before.clusterTotal topics ≤ day.clusterTotal topics := List.sum_le_sum grown

theorem keeps_kafka {topics : Topics} {day : KafkaDay} {earlier : List KafkaDay} {store : Store}
    (never : NeverDecrease topics ((day :: earlier).map (KafkaDay.toDay topics)))
    (keeps : Keeps (earlier.map (KafkaDay.toDay topics)) store) (clusterTrue : ClusterTrue topics earlier store)
    (meets : day.Meets topics store) :
    Keeps ((day :: earlier).map (KafkaDay.toDay topics))
        (KafkaReporter.recordMaxOffset day earlier.length topics store) ∧
      ClusterTrue topics (day :: earlier) (KafkaReporter.recordMaxOffset day earlier.length topics store) := by
  have length : (earlier.map (KafkaDay.toDay topics)).length = earlier.length := List.length_map _
  have grown : ∀ before ∈ earlier, ∀ topic ∈ topics.names, before.total topic ≤ day.total topic := by
    intro before member
    exact (List.pairwise_cons.mp never).1 (before.toDay topics) (List.mem_map_of_mem member)
  have generic : Meets topics (day.toDay topics) store := by
    refine ⟨meets.read, meets.held, ?_⟩
    intro complete query
    refine ⟨meets.cluster complete query, ?_⟩
    intro last isLast
    obtain ⟨before, member, level⟩ := clusterTrue last (List.mem_of_head? isLast)
    rw [level, KafkaDay.clusterTotal_eq complete]
    exact clusterTotal_le (grown before member)
  have kept := keeps_recordMaxOffset never keeps generic
  have cluster := cluster_recordMaxOffset never keeps meets.read meets.held
  rw [length] at kept cluster
  refine ⟨kept, ?_⟩
  intro entry member
  change entry ∈ (recordMaxOffset (day.toDay topics) earlier.length topics store).cluster at member
  cases cluster with
  | inl same =>
      rw [same] at member
      obtain ⟨before, isBefore, level⟩ := clusterTrue entry member
      exact ⟨before, List.mem_cons_of_mem day isBefore, level⟩
  | inr added =>
      obtain ⟨complete, query, added⟩ := added
      rw [added] at member
      have held := (meets.cluster complete query).1
      cases List.mem_cons.mp member with
      | inl isNew =>
          refine ⟨day, List.mem_cons_self, ?_⟩
          rw [isNew, held.long, ← KafkaDay.clusterTotal_eq complete]
          exact held.double
      | inr before =>
          obtain ⟨onDay, isBefore, level⟩ := clusterTrue entry before
          exact ⟨onDay, List.mem_cons_of_mem day isBefore, level⟩

theorem keeps_kafkaDays {topics : Topics} {days : List KafkaDay}
    (never : NeverDecrease topics (days.map (KafkaDay.toDay topics)))
    (meets : ∀ day earlier, (day :: earlier) <:+ days → day.Meets topics (KafkaReporter.afterDays topics earlier)) :
    Keeps (days.map (KafkaDay.toDay topics)) (KafkaReporter.afterDays topics days) ∧
      ClusterTrue topics days (KafkaReporter.afterDays topics days) := by
  induction days with
  | nil => exact ⟨keeps_empty, fun _ member => absurd member List.not_mem_nil⟩
  | cons day earlier ih =>
      have before := ih (List.pairwise_cons.mp never).2 fun other rest suffix =>
        meets other rest (suffix.trans (List.suffix_cons day earlier))
      exact keeps_kafka never before.1 before.2 (meets day earlier (List.suffix_refl _))

/-! ### RocketMQ's runs -/

structure RocketMqDay.Meets (topics : Topics) (day : RocketMqDay) (store : Store) : Prop where
  held : ∀ topic ∈ recorded day.toDay topics.names, HeldAfter (day.total topic) (store.topics topic)
  cluster : completes day.toDay topics.names = true → day.calls.getLastClusterMaxOffset = true →
    HeldAfter (clusterTotal day.toDay topics) store.cluster ∧
      ∀ last, store.cluster.head? = some last → last.maxOffset ≤ clusterTotal day.toDay topics

theorem RocketMqDay.read_eq {day : RocketMqDay} {topic : String} (held : Holds (day.total topic)) {level : Int}
    (reads : day.read topic = .total level) : day.read topic = .total (day.total topic) := by
  unfold RocketMqDay.read at *
  split at reads
  · cases reads
  · next listed =>
      split at reads
      · next returns => rw [if_neg listed, if_pos returns, held.long]
      · cases reads

theorem keeps_rocketMqDays {topics : Topics} {days : List RocketMqDay}
    (never : NeverDecrease topics (days.map RocketMqDay.toDay))
    (meets : ∀ day earlier, (day :: earlier) <:+ days → day.Meets topics (RocketMQReporter.afterDays topics earlier)) :
    Keeps (days.map RocketMqDay.toDay) (RocketMQReporter.afterDays topics days) := by
  induction days with
  | nil => exact keeps_empty
  | cons day earlier ih =>
      have before := ih (List.pairwise_cons.mp never).2 fun other rest suffix =>
        meets other rest (suffix.trans (List.suffix_cons day earlier))
      have today := meets day earlier (List.suffix_refl _)
      have generic : Meets topics day.toDay (RocketMQReporter.afterDays topics earlier) := by
        refine ⟨?_, today.held, today.cluster⟩
        intro topic member
        obtain ⟨level, reads⟩ := reads_of_mem_recorded member
        exact RocketMqDay.read_eq (today.held topic member).1 reads
      have kept := keeps_recordMaxOffset never before generic
      rw [List.length_map] at kept
      exact kept

def orders : Topics := ⟨["orders"], List.nodup_singleton "orders"⟩

/-- The topic has one partition, which answers. -/
def kafkaDay (describeTopics : Bool) (endOffset : Nat) : KafkaDay :=
  ⟨describeTopics, fun _ => [⟨endOffset, .answers⟩], fun _ => true, true⟩

def rocketMqDay (maxOffset : Nat) : RocketMqDay := ⟨fun _ => true, fun _ => [maxOffset], fun _ => true, true⟩

theorem heldAfter_nil {level : Int} (small : level.natAbs < 2 ^ 53) : HeldAfter level [] := by
  refine ⟨holds_of_small small, ?_⟩
  intro last impossible
  cases impossible

theorem heldTen : HeldAfter 10 [] := heldAfter_nil (by decide)

theorem first_of_suffix {α : Type} {day only : α} {earlier : List α} (suffix : (day :: earlier) <:+ [only]) :
    day = only ∧ earlier = [] := by
  cases List.suffix_cons_iff.mp suffix with
  | inl same => exact ⟨(List.cons.inj same).1, (List.cons.inj same).2⟩
  | inr shorter => cases List.suffix_nil.mp shorter

end Zms.Collector.DailyOffsets
