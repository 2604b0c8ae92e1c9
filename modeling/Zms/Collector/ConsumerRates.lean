import Mathlib
import Zms.Transition.Guarded

/-! `transformKafkaConsumerMetricsInfo`: the rate of a consumer group from its offset and the
one that was reported before it.

The samples of all clusters, topics and groups are in one map, under their joined names in lower
case. An absent name is the empty one.
-/

set_option autoImplicit false

namespace Zms.Collector.ConsumerRates

open Zms.Transition

/-- A `long`. -/
def toLong (n : Int) : Int := n.bmod (2 ^ 64)

def mathAbs (n : Int) : Int := if n < 0 then toLong (-n) else n

/-- `String.toLowerCase`, of which only this is used: a small letter stays at the end. -/
structure LowerCase where
  toLowerCase : String → String
  keepsLast : ∀ (text : String) (c : Char), c.isLower = true →
    ∃ rest : String, toLowerCase (text.push c) = rest.push c

structure ConsumerStatus where
  group : String
  topic : String
  brokerOffset : Int
  consumerOffset : Int
  lag : Int

structure KafkaConsumerMetricsInfo where
  clusterName : String
  kafkaLagInfos : Option (List ConsumerStatus)
  timestamp : Int

/-- The tags and the segments of a metric. -/
structure MetricsDo where
  clusterName : String
  topicName : String
  consumerGroup : String
  brokerOffset : Int
  consumerOffset : Int
  latency : Int
  tps : Int
  deriving DecidableEq

structure Triple where
  clusterName : String
  topic : String
  group : String
  deriving DecidableEq

def Triple.joined (triple : Triple) : String := triple.clusterName ++ "." ++ triple.topic ++ "." ++ triple.group

/-- One sample of a call. -/
structure Report where
  clusterName : String
  timestamp : Int
  status : ConsumerStatus

def Report.triple (report : Report) : Triple := ⟨report.clusterName, report.status.topic, report.status.group⟩

/-- What a call does not skip. -/
def KafkaConsumerMetricsInfo.reports (info : KafkaConsumerMetricsInfo) : List Report :=
  ((info.kafkaLagInfos.getD []).filter fun item => !(item.topic = "" || item.group = "")).map fun item =>
    ⟨info.clusterName, info.timestamp, item⟩

abbrev CacheMap := String → Option Int

section Source
variable (lower : LowerCase)

def offsetKey (triple : Triple) : String := lower.toLowerCase (triple.joined ++ ".consumerOffset")

def timeKey (triple : Triple) : String := lower.toLowerCase (triple.joined ++ ".timestamp")

def tpsOf (offsets time : Option Int) (report : Report) : Int :=
  match offsets, time with
  | some offsets, some time =>
      let t := (mathAbs (toLong (report.timestamp - time))).tdiv 1000
      let o := mathAbs (toLong (report.status.consumerOffset - offsets))
      if t ≠ 0 then toLong (o.tdiv t) else 0
  | _, _ => 0

def metricsOf (report : Report) (tps : Int) : MetricsDo where
  clusterName := report.clusterName
  topicName := report.status.topic
  consumerGroup := report.status.group
  brokerOffset := report.status.brokerOffset
  consumerOffset := report.status.consumerOffset
  latency := report.status.lag
  tps := tps

def remember (cacheMap : CacheMap) (report : Report) : CacheMap :=
  Function.update (Function.update cacheMap (offsetKey lower report.triple) (some report.status.consumerOffset))
    (timeKey lower report.triple) (some report.timestamp)

/-- The loop over the samples: the map after it and what it emits. -/
def reportEach : List Report → CacheMap → CacheMap × List MetricsDo
  | [], cacheMap => (cacheMap, [])
  | report :: rest, cacheMap =>
      let tps := tpsOf (cacheMap (offsetKey lower report.triple)) (cacheMap (timeKey lower report.triple)) report
      let emitted := reportEach rest (remember lower cacheMap report)
      (emitted.1, metricsOf report tps :: emitted.2)

def transformKafkaConsumerMetricsInfo (cacheMap : CacheMap) (info : KafkaConsumerMetricsInfo) :
    CacheMap × List MetricsDo :=
  reportEach lower info.reports cacheMap

end Source

/-- The map, and all samples so far with the latest one first. -/
structure State where
  cacheMap : CacheMap
  reported : List Report

def collector (lower : LowerCase) : Guarded State KafkaConsumerMetricsInfo where
  init s := s = ⟨fun _ => none, []⟩
  guard _ _ := True
  effect s info :=
    ⟨(transformKafkaConsumerMetricsInfo lower s.cacheMap info).1, info.reports.reverse ++ s.reported⟩

instance (lower : LowerCase) (s : State) (info : KafkaConsumerMetricsInfo) :
    Decidable ((collector lower).guard s info) :=
  .isTrue trivial

def lastReport (reported : List Report) (triple : Triple) : Option Report :=
  reported.find? fun report => report.triple = triple

/-- The rate between two samples, by the second. -/
def rate (report : Report) : Option Report → Int
  | none => 0
  | some last =>
      if |report.timestamp - last.timestamp| / 1000 = 0 then 0
      else |report.status.consumerOffset - last.status.consumerOffset| /
        (|report.timestamp - last.timestamp| / 1000)

def SameKey (lower : LowerCase) (first second : Triple) : Prop :=
  offsetKey lower first = offsetKey lower second ∨ timeKey lower first = timeKey lower second

instance (lower : LowerCase) (first second : Triple) : Decidable (SameKey lower first second) :=
  inferInstanceAs (Decidable (_ ∨ _))

def Fits (n : Int) : Prop := |n| < 2 ^ 63

instance (n : Int) : Decidable (Fits n) := inferInstanceAs (Decidable (_ < _))

/-- No sample shares a key with one of other names, none is given twice in the call, and the
differences to the samples before are `long`s. -/
structure Apart (lower : LowerCase) (reported reports : List Report) : Prop where
  once : (reports.map Report.triple).Nodup
  keys : ∀ report ∈ reports, ∀ other ∈ reported ++ reports,
    SameKey lower other.triple report.triple → other.triple = report.triple
  fits : ∀ report ∈ reports, ∀ last ∈ lastReport reported report.triple,
    Fits (report.timestamp - last.timestamp) ∧ Fits (report.status.consumerOffset - last.status.consumerOffset)

section Keys
variable {lower : LowerCase}

theorem offsetKey_ne_timeKey (first second : Triple) : offsetKey lower first ≠ timeKey lower second := by
  intro same
  have offset : first.joined ++ ".consumerOffset" = (first.joined ++ ".consumerOffse").push 't' := by
    rw [String.push_eq_append, String.append_assoc]
    rfl
  have time : second.joined ++ ".timestamp" = (second.joined ++ ".timestam").push 'p' := by
    rw [String.push_eq_append, String.append_assoc]
    rfl
  obtain ⟨before, first⟩ := lower.keepsLast (first.joined ++ ".consumerOffse") 't' (by decide)
  obtain ⟨before', second⟩ := lower.keepsLast (second.joined ++ ".timestam") 'p' (by decide)
  rw [offsetKey, timeKey, offset, time, first, second] at same
  have last := congrArg (fun text : String => text.toList.getLast?) same
  simp at last

end Keys

section Arithmetic

theorem toLong_of_fits {n : Int} (fits : Fits n) : toLong n = n := by
  have bounds := abs_lt.mp fits
  exact Int.bmod_eq_of_le_mul_two (by omega) (by omega)

theorem mathAbs_of_fits {n : Int} (fits : Fits n) : mathAbs n = |n| := by
  have negated : Fits (-n) := by rwa [Fits, abs_neg]
  unfold mathAbs
  split
  · next negative => rw [toLong_of_fits negated, abs_of_neg negative]
  · next nonneg => rw [abs_of_nonneg (not_lt.mp nonneg)]

theorem tpsOf_last {report : Report} {last : Option Report}
    (fits : ∀ before ∈ last, Fits (report.timestamp - before.timestamp) ∧
      Fits (report.status.consumerOffset - before.status.consumerOffset)) :
    tpsOf (last.map fun before => before.status.consumerOffset) (last.map Report.timestamp) report =
      rate report last := by
  cases last with
  | none => rfl
  | some before =>
    obtain ⟨time, offset⟩ := fits before rfl
    have seconds : |report.timestamp - before.timestamp|.tdiv 1000 =
        |report.timestamp - before.timestamp| / 1000 := Int.tdiv_eq_ediv_of_nonneg (abs_nonneg _)
    have quotient (t : Int) : |report.status.consumerOffset - before.status.consumerOffset|.tdiv t =
        |report.status.consumerOffset - before.status.consumerOffset| / t :=
      Int.tdiv_eq_ediv_of_nonneg (abs_nonneg _)
    simp only [Option.map_some, tpsOf, rate, toLong_of_fits time, mathAbs_of_fits time, toLong_of_fits offset,
      mathAbs_of_fits offset, seconds, quotient]
    by_cases short : |report.timestamp - before.timestamp| / 1000 = 0
    · rw [if_neg (not_not.mpr short), if_pos short]
    · rw [if_pos short, if_neg short]
      apply toLong_of_fits
      rw [Fits, abs_of_nonneg (Int.ediv_nonneg (abs_nonneg _) (Int.ediv_nonneg (abs_nonneg _) (by decide)))]
      exact lt_of_le_of_lt (Int.ediv_le_self _ (abs_nonneg _)) offset

end Arithmetic

section Runs
variable {lower : LowerCase} {cacheMap : CacheMap} {reported reports : List Report}

/-- The map has the latest sample of every triple that shares no key with another. -/
def Remembers (lower : LowerCase) (cacheMap : CacheMap) (reported : List Report) : Prop :=
  ∀ triple, (∀ other ∈ reported, SameKey lower other.triple triple → other.triple = triple) →
    cacheMap (offsetKey lower triple) = (lastReport reported triple).map (fun last => last.status.consumerOffset) ∧
      cacheMap (timeKey lower triple) = (lastReport reported triple).map Report.timestamp

theorem lastReport_self (reported : List Report) (report : Report) :
    lastReport (report :: reported) report.triple = some report := by
  simp [lastReport]

theorem lastReport_other {report : Report} {triple : Triple} (other : report.triple ≠ triple) :
    lastReport (report :: reported) triple = lastReport reported triple := by
  simp [lastReport, other]

theorem Remembers.remember (remembers : Remembers lower cacheMap reported) (report : Report) :
    Remembers lower (remember lower cacheMap report) (report :: reported) := by
  intro triple alone
  have apart := @offsetKey_ne_timeKey lower
  by_cases own : report.triple = triple
  · subst own
    simp only [ConsumerRates.remember, lastReport_self, Function.update_self, Option.map_some, and_true]
    rw [Function.update_of_ne (apart _ _), Function.update_self]
  · have keys : ¬ SameKey lower report.triple triple := fun same => own (alone report List.mem_cons_self same)
    obtain ⟨offset, time⟩ := not_or.mp keys
    rw [lastReport_other own]
    simp only [ConsumerRates.remember]
    rw [Function.update_of_ne (apart _ _), Function.update_of_ne (Ne.symm offset),
      Function.update_of_ne (Ne.symm time), Function.update_of_ne (Ne.symm (apart _ _))]
    exact remembers triple fun other member => alone other (List.mem_cons_of_mem _ member)

theorem Remembers.reportEach (remembers : Remembers lower cacheMap reported) (reports : List Report) :
    Remembers lower (reportEach lower reports cacheMap).1 (reports.reverse ++ reported) := by
  induction reports generalizing cacheMap reported with
  | nil => exact remembers
  | cons report rest ih =>
    rw [List.reverse_cons, List.append_assoc]
    exact ih (remembers.remember report)

theorem Apart.tail {report : Report} {rest : List Report} (apart : Apart lower reported (report :: rest)) :
    Apart lower (report :: reported) rest := by
  have once := apart.once
  rw [List.map_cons, List.nodup_cons] at once
  refine ⟨once.2, fun next member other among => ?_, fun next member => ?_⟩
  · apply apart.keys next (List.mem_cons_of_mem _ member) other
    simp only [List.cons_append, List.mem_cons, List.mem_append] at among ⊢
    tauto
  · rw [lastReport_other]
    · exact apart.fits next (List.mem_cons_of_mem _ member)
    · intro same
      exact once.1 (same ▸ List.mem_map_of_mem member)

/-- The samples of a call are read against those of the calls before. -/
theorem emitted_reportEach (remembers : Remembers lower cacheMap reported) (apart : Apart lower reported reports) :
    (reportEach lower reports cacheMap).2 =
      reports.map fun report => metricsOf report (rate report (lastReport reported report.triple)) := by
  induction reports generalizing cacheMap reported with
  | nil => rfl
  | cons report rest ih =>
    have once := apart.once
    rw [List.map_cons, List.nodup_cons] at once
    obtain ⟨offset, time⟩ := remembers report.triple fun other member =>
      apart.keys report List.mem_cons_self other (List.mem_append_left _ member)
    rw [ConsumerRates.reportEach, List.map_cons, offset, time, tpsOf_last (apart.fits report List.mem_cons_self),
      ih (remembers.remember report) apart.tail]
    apply congrArg (List.cons _)
    apply List.map_congr_left
    intro next member
    rw [lastReport_other]
    intro same
    exact once.1 (same ▸ List.mem_map_of_mem member)

theorem remembers_of_reachable {s : State} (reached : (collector lower).Reachable s) :
    Remembers lower s.cacheMap s.reported := by
  apply reached.invariant fun s => Remembers lower s.cacheMap s.reported
  · rintro _ rfl triple -
    exact ⟨rfl, rfl⟩
  · intro s info remembers _
    exact remembers.reportEach info.reports

/-- After any calls, a call whose samples are apart emits for each of them the rate since the
latest sample of the same names. -/
theorem transform_rates (lower : LowerCase) {s : State} (reached : (collector lower).Reachable s)
    (info : KafkaConsumerMetricsInfo) (apart : Apart lower s.reported info.reports) :
    (transformKafkaConsumerMetricsInfo lower s.cacheMap info).2 =
      info.reports.map fun report => metricsOf report (rate report (lastReport s.reported report.triple)) :=
  emitted_reportEach (remembers_of_reachable reached) apart

end Runs

namespace Run

theorem toLower_of_isLower {c : Char} (small : c.isLower = true) : c.toLower = c := by
  rw [Char.isLower, Bool.and_eq_true, decide_eq_true_eq] at small
  unfold Char.toLower
  rw [dif_neg]
  rintro ⟨-, capital⟩
  exact absurd (UInt32.le_trans small.1 capital) (by decide)

/-- The lower case of ASCII texts. -/
def ascii : LowerCase where
  toLowerCase text := String.ofList (text.toList.map Char.toLower)
  keepsLast text c small := by
    refine ⟨String.ofList (text.toList.map Char.toLower), ?_⟩
    rw [String.toList_push, List.map_append, List.map_singleton, toLower_of_isLower small]
    apply String.toList_injective
    simp

def status (topic group : String) (consumerOffset : Int) : ConsumerStatus := ⟨group, topic, 9000, consumerOffset, 0⟩

def call (timestamp : Int) (items : List ConsumerStatus) : KafkaConsumerMetricsInfo := ⟨"main", some items, timestamp⟩

def first : KafkaConsumerMetricsInfo := call 0 [status "orders" "billing" 1000, status "orders.eu" "audit" 500]

def second : KafkaConsumerMetricsInfo := call 3500 [status "orders" "billing" 4000, status "orders.eu" "audit" 500]

def capital : KafkaConsumerMetricsInfo := call 3500 [status "Orders" "billing" 4000]

end Run

open Run in
theorem transform_rates_second : ∃ s, (collector ascii).Reachable s ∧
    ((transformKafkaConsumerMetricsInfo ascii s.cacheMap second).2.map MetricsDo.tps) = [1000, 0] := by
  have reached := Guarded.Reachable.step (a := first) (@Guarded.Reachable.start _ _ (collector ascii) _ rfl) trivial
  refine ⟨_, reached, ?_⟩
  rw [transform_rates ascii reached second ⟨by decide, by decide, by decide⟩]
  decide

open Run in
theorem transform_not_rates : ¬ ∀ (lower : LowerCase) (s : State), (collector lower).Reachable s →
    ∀ info : KafkaConsumerMetricsInfo, (info.reports.map Report.triple).Nodup →
      (transformKafkaConsumerMetricsInfo lower s.cacheMap info).2 =
        info.reports.map fun report => metricsOf report (rate report (lastReport s.reported report.triple)) := by
  intro always
  have reached := Guarded.Reachable.step (a := first) (@Guarded.Reachable.start _ _ (collector ascii) _ rfl) trivial
  have same := congrArg (List.map MetricsDo.tps) (always ascii _ reached capital (by decide))
  exact absurd same (by decide +kernel)

end Zms.Collector.ConsumerRates
