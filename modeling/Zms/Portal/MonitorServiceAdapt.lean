import Zms.Metadata
import Zms.Portal.Assemble
import Zms.Registry.Association
import Zms.Registry.Pages
import Zms.Transition.Collecting

/-! `MonitorServiceAdapt.getConsumerSummariesByPage` without a name: the consumers of the
clusters by their latency, page by page.
-/

set_option autoImplicit false

namespace Zms.Portal.MonitorServiceAdapt

open Registry Transition
open Serve (toMap)

structure ConsumerInfo (Double : Type) where
  consumerGroup : String
  value : Double
  clusterName : String

def ConsumerInfo.key {Double : Type} (item : ConsumerInfo Double) : String × String :=
  (item.clusterName, item.consumerGroup)

/-- What the code does with a `Double` besides comparing it. -/
structure JavaDouble (Double : Type) where
  zero : Double
  positive : Double → Bool
  /-- `value > threshold`. -/
  exceeds : Double → Int → Bool
  /-- `setScale(1, ROUND_HALF_UP)`, or the value where that throws. -/
  setScale : Double → Double

structure Consumer where
  id : Option Int
  name : String
  applicant : Option String
  delayThreadhold : Option Int
  status : Option Int

structure ConsumerSummaryExt (Double : Type) where
  latency : Double
  tps : Double
  cluster : String
  consumer : String
  owner : Option String
  delayThreadhold : Option Int
  consumerId : Option Int

def ConsumerSummaryExt.key {Double : Type} (summary : ConsumerSummaryExt Double) : String × String :=
  (summary.cluster, summary.consumer)

structure PageResult (Double : Type) where
  currentPage : Int
  pageSize : Int
  total : Nat
  records : List (ConsumerSummaryExt Double)

inductive BrokerType where
  | KAFKA
  | ROCKETMQ

def BrokerType.getName : BrokerType → String
  | KAFKA => "kafka"
  | ROCKETMQ => "rocketmq"

def getBrokerTypes : List String := [BrokerType.KAFKA, BrokerType.ROCKETMQ].map BrokerType.getName

/-- What the queries of one broker type answer. -/
structure IMonitorService (Double : Type) where
  readLatencies : List (ConsumerInfo Double)
  readTpses : List (ConsumerInfo Double)
  /-- The rows of one cluster, whose name is set afterwards. -/
  latenciesOf : String → List (ConsumerInfo Double)
  tpsesOf : String → List (ConsumerInfo Double)

/-- `InfluxdbClient.read` of one cluster. -/
def read {Double : Type} (cluster : String) (rows : List (ConsumerInfo Double)) : List (ConsumerInfo Double) :=
  rows.map fun latency => { latency with clusterName := cluster }

structure Environment (Double : Type) where
  double : JavaDouble Double
  toLowerCase : String → String
  monitorService : BrokerType → IMonitorService Double
  /-- The type of the service. -/
  getByEnvIdAndName : Int → String → Option String
  /-- The table of the consumers, as the database orders it. -/
  consumers : List Consumer
  /-- How the database compares names. -/
  sameName : String → String → Bool
  sameName_self : ∀ name, sameName name name = true

structure Request where
  clusterType : Option String
  clusterName : Option String
  envId : Int
  allDelay : Option Bool

section Code
variable {Double : Type} (environment : Environment Double)

def currentMonitorService (clusterType : String) : Option (IMonitorService Double) :=
  let name := environment.toLowerCase clusterType
  if name = BrokerType.KAFKA.getName then some (environment.monitorService .KAFKA)
  else if name = BrokerType.ROCKETMQ.getName then some (environment.monitorService .ROCKETMQ)
  else none

/-- The latencies and the tpses that the page is made of. -/
def readings (request : Request) : Option (List (ConsumerInfo Double) × List (ConsumerInfo Double)) :=
  let clusterType := request.clusterType.getD ""
  if isNotBlank request.clusterName then
    let clusterName := request.clusterName.getD ""
    let known := if clusterType = "" then environment.getByEnvIdAndName request.envId clusterName else some clusterType
    (known.bind (currentMonitorService environment)).map fun service =>
      (read clusterName (service.latenciesOf clusterName), read clusterName (service.tpsesOf clusterName))
  else if clusterType = "" then
    (getBrokerTypes.mapM (currentMonitorService environment)).map fun services =>
      (services.flatMap IMonitorService.readLatencies, services.flatMap IMonitorService.readTpses)
  else (currentMonitorService environment clusterType).map fun service => (service.readLatencies, service.readTpses)

/-- `select name, delay_threadhold … where status > 0`. -/
def selectConsumerNameAnddDelayhold : List (String × Option Int) :=
  (environment.consumers.filter fun consumer => consumer.status.any fun status => 0 < status).map fun consumer =>
    (consumer.name, consumer.delayThreadhold)

def listConsumerByNames (names : List String) : List Consumer :=
  environment.consumers.filter fun consumer => names.any fun name => environment.sameName consumer.name name

def overThreshold (consumerMap : List (String × Int)) (item : ConsumerInfo Double) : Bool :=
  (consumerMap.lookup item.consumerGroup).any fun threshold => environment.double.exceeds item.value threshold

/-- Only what is over its threshold, when that is asked for. -/
def shown (request : Request) (latencies : List (ConsumerInfo Double)) : Option (List (ConsumerInfo Double)) :=
  if request.allDelay = some true then
    (toMap (selectConsumerNameAnddDelayhold environment)).map fun consumerMap =>
      latencies.filter (overThreshold environment consumerMap)
  else some latencies

/-- The tps of a summary; `none` when there is none for it. -/
def tpsOf (consumerTps : Option (ConsumerInfo Double)) : Double :=
  match consumerTps with
  | some tps => if environment.double.positive tps.value then environment.double.setScale tps.value
      else environment.double.zero
  | none => environment.double.zero

/-- Of two rows of one group the map keeps the later. -/
def consumerTpsMap (tpses : List (ConsumerInfo Double)) (consumerGroup : String) : Option (ConsumerInfo Double) :=
  tpses.reverse.find? fun tps => tps.consumerGroup = consumerGroup

/-- Of two rows of one name the map keeps the earlier; the status is unboxed. -/
def summary (consumers : List Consumer) (tpses : List (ConsumerInfo Double)) (item : ConsumerInfo Double) :
    Option (ConsumerSummaryExt Double) :=
  let tps := tpsOf environment (consumerTpsMap tpses item.consumerGroup)
  match consumers.find? fun consumer => consumer.name = item.consumerGroup with
  | none => some ⟨item.value, tps, item.clusterName, item.consumerGroup, none, none, none⟩
  | some consumer => consumer.status.map fun status =>
      ⟨item.value, tps, item.clusterName, item.consumerGroup, consumer.applicant, consumer.delayThreadhold,
        if 0 < status then consumer.id else none⟩

/-- `skip` and `limit` refuse a negative number; the product is one of machine integers. -/
def skipLimit {α : Type} (pageNo pageSize : Int) (rows : List α) : Option (List α) :=
  let start := (pageSize * (pageNo - 1)).bmod (2 ^ 32)
  if start < 0 ∨ pageSize < 0 then none else some ((rows.drop start.toNat).take pageSize.toNat)

variable [LinearOrder Double]

/-- The sort is stable. -/
def sortedByLatency (rows : List (ConsumerInfo Double)) : List (ConsumerInfo Double) :=
  rows.insertionSort fun a b => b.value ≤ a.value

def getConsumerSummariesByPage (request : Request) (pageNo pageSize : Int) : Option (PageResult Double) := do
  let (latencies, tpses) ← readings environment request
  if latencies.isEmpty then some ⟨pageNo, pageSize, 0, []⟩
  else
    let latencies ← shown environment request latencies
    if latencies.isEmpty then some ⟨pageNo, pageSize, 0, []⟩
    else
      let page ← skipLimit pageNo pageSize (sortedByLatency latencies)
      if page.isEmpty then some ⟨pageNo, pageSize, latencies.length, []⟩
      else
        let consumers := listConsumerByNames environment (page.map ConsumerInfo.consumerGroup)
        let listed := page.filter fun item => isNotBlank (some item.consumerGroup)
        (listed.mapM (summary environment consumers tpses)).map fun summaries =>
          ⟨pageNo, pageSize, latencies.length, summaries⟩

end Code

/-! ### The pages, joined -/

section Rows
variable {Double : Type} (environment : Environment Double)

/-- The list before it is sorted. -/
def visible (request : Request) (latencies : List (ConsumerInfo Double)) : Option (List (ConsumerInfo Double)) :=
  if latencies = [] then some [] else shown environment request latencies

/-- Every row is of one cluster and one group, and the group has a name. -/
structure Clean (latencies tpses : List (ConsumerInfo Double)) : Prop where
  latency_keys : (latencies.map ConsumerInfo.key).Nodup
  tps_keys : (tpses.map ConsumerInfo.key).Nodup
  latency_groups : ∀ item ∈ latencies, isNotBlank (some item.consumerGroup) = true
  tps_groups : ∀ item ∈ tpses, isNotBlank (some item.consumerGroup) = true
  /-- A list of the language has no more elements. -/
  small : latencies.length < 2 ^ 31

variable {environment} {request : Request} {latencies tpses rows : List (ConsumerInfo Double)}

theorem visible_nil : visible environment request ([] : List (ConsumerInfo Double)) = some [] := if_pos rfl

theorem visible_of_ne_nil (nonempty : latencies ≠ []) :
    visible environment request latencies = shown environment request latencies := if_neg nonempty

theorem sublist_of_visible (known : visible environment request latencies = some rows) : rows.Sublist latencies := by
  unfold visible shown at known
  split at known
  · cases known
    exact List.nil_sublist latencies
  · split at known
    · obtain ⟨consumerMap, _, filtered⟩ := Option.map_eq_some_iff.mp known
      rw [← filtered]
      exact List.filter_sublist
    · cases known
      exact List.Sublist.refl latencies

theorem find?_listConsumerByNames {names : List String} {name : String} (asked : name ∈ names) :
    ((listConsumerByNames environment names).find? fun consumer => consumer.name = name) =
      environment.consumers.find? fun consumer => consumer.name = name := by
  unfold listConsumerByNames
  rw [List.find?_filter]
  congr 1
  funext consumer
  by_cases same : consumer.name = name
  · have matched : (names.any fun other => environment.sameName consumer.name other) = true := by
      rw [List.any_eq_true]
      refine ⟨name, asked, ?_⟩
      rw [same]
      exact environment.sameName_self name
    rw [matched]
    exact decide_eq_decide.mpr ⟨fun both => of_decide_eq_true both.2, fun named => ⟨rfl, decide_eq_true named⟩⟩
  · rw [decide_eq_false same]
    exact decide_eq_false fun both => Bool.false_ne_true both.2

theorem summary_congr {consumers consumers' : List Consumer} {item : ConsumerInfo Double}
    (same : (consumers.find? fun consumer => consumer.name = item.consumerGroup) =
      consumers'.find? fun consumer => consumer.name = item.consumerGroup) :
    summary environment consumers tpses item = summary environment consumers' tpses item := by
  unfold summary
  rw [same]

/-! ### What is listed -/

/-- Whether a row is asked for: with `allDelay`, only over the threshold of a consumer of its group. -/
def Passes (environment : Environment Double) (request : Request) (item : ConsumerInfo Double) : Prop :=
  request.allDelay = some true → ∃ threshold,
    (item.consumerGroup, some threshold) ∈ selectConsumerNameAnddDelayhold environment ∧
      environment.double.exceeds item.value threshold = true

theorem toMap_eq_some_iff {κ ν : Type} [DecidableEq κ] {pairs : List (κ × Option ν)} {map : List (κ × ν)} :
    toMap pairs = some map ↔ (pairs.map Prod.fst).Nodup ∧
      (pairs.mapM fun pair => pair.2.map (pair.1, ·)) = some map := by
  unfold toMap
  split
  · next distinct => exact ⟨fun known => ⟨distinct, known⟩, fun known => known.2⟩
  · next repeated =>
      constructor
      · intro impossible
        cases impossible
      · intro known
        exact absurd known.1 repeated

theorem keys_toMap {κ ν : Type} [DecidableEq κ] {pairs : List (κ × Option ν)} {map : List (κ × ν)}
    (known : toMap pairs = some map) : map.map Prod.fst = pairs.map Prod.fst := by
  have related := mapM_eq_some_iff.mp (toMap_eq_some_iff.mp known).2
  clear known
  induction related with
  | nil => rfl
  | cons first _ ih =>
      obtain ⟨value, _, made⟩ := Option.map_eq_some_iff.mp first
      rw [List.map_cons, List.map_cons, ih, ← made]

theorem mem_toMap_iff {κ ν : Type} [DecidableEq κ] {pairs : List (κ × Option ν)} {map : List (κ × ν)}
    (known : toMap pairs = some map) {key : κ} {value : ν} : (key, value) ∈ map ↔ (key, some value) ∈ pairs := by
  have all := (toMap_eq_some_iff.mp known).2
  constructor
  · intro member
    obtain ⟨pair, inPairs, made⟩ := exists_of_mem_mapM all member
    obtain ⟨found, isValue, same⟩ := Option.map_eq_some_iff.mp made
    cases same
    rw [← isValue]
    exact inPairs
  · intro member
    obtain ⟨pair, inMap, made⟩ := exists_of_mem_of_mapM all member
    have same : (key, value) = pair := Option.some.inj made
    rw [same]
    exact inMap

theorem lookup_toMap {κ ν : Type} [DecidableEq κ] {pairs : List (κ × Option ν)} {map : List (κ × ν)}
    (known : toMap pairs = some map) {key : κ} {value : ν} :
    map.lookup key = some value ↔ (key, some value) ∈ pairs := by
  have distinct : (map.map Prod.fst).Nodup := by
    rw [keys_toMap known]
    exact (toMap_eq_some_iff.mp known).1
  rw [lookup_eq_some_iff_mem distinct, mem_toMap_iff known]

theorem exists_toMap_iff {κ ν : Type} [DecidableEq κ] {pairs : List (κ × Option ν)} :
    (∃ map, toMap pairs = some map) ↔ (pairs.map Prod.fst).Nodup ∧ ∀ pair ∈ pairs, pair.2 ≠ none := by
  constructor
  · rintro ⟨map, known⟩
    obtain ⟨distinct, all⟩ := toMap_eq_some_iff.mp known
    refine ⟨distinct, ?_⟩
    intro pair member
    obtain ⟨entry, _, made⟩ := exists_of_mem_of_mapM all member
    obtain ⟨value, isValue, _⟩ := Option.map_eq_some_iff.mp made
    rw [isValue]
    exact Option.some_ne_none value
  · rintro ⟨distinct, values⟩
    have each : ∀ pair ∈ pairs, ∃ entry, pair.2.map (pair.1, ·) = some entry ∧ True := by
      intro pair member
      obtain ⟨value, isValue⟩ := Option.ne_none_iff_exists'.mp (values pair member)
      exact ⟨(pair.1, value), by rw [isValue, Option.map_some], trivial⟩
    obtain ⟨map, all, _⟩ := exists_mapM each
    exact ⟨map, toMap_eq_some_iff.mpr ⟨distinct, all⟩⟩

theorem overThreshold_iff {consumerMap : List (String × Int)}
    (known : toMap (selectConsumerNameAnddDelayhold environment) = some consumerMap) {item : ConsumerInfo Double} :
    overThreshold environment consumerMap item = true ↔ ∃ threshold,
      (item.consumerGroup, some threshold) ∈ selectConsumerNameAnddDelayhold environment ∧
        environment.double.exceeds item.value threshold = true := by
  unfold overThreshold
  rw [Option.any_eq_true]
  constructor
  · rintro ⟨threshold, found, exceeds⟩
    exact ⟨threshold, (lookup_toMap known).mp found, exceeds⟩
  · rintro ⟨threshold, member, exceeds⟩
    exact ⟨threshold, (lookup_toMap known).mpr member, exceeds⟩

theorem mem_visible_iff (known : visible environment request latencies = some rows) {item : ConsumerInfo Double} :
    item ∈ rows ↔ item ∈ latencies ∧ Passes environment request item := by
  unfold visible at known
  split at known
  · next empty =>
      cases known
      rw [empty]
      exact ⟨fun member => absurd member List.not_mem_nil, fun both => absurd both.1 List.not_mem_nil⟩
  · unfold shown at known
    split at known
    · next asked =>
        obtain ⟨consumerMap, collected, filtered⟩ := Option.map_eq_some_iff.mp known
        rw [← filtered, List.mem_filter, overThreshold_iff collected]
        exact and_congr_right fun _ => ⟨fun exceeding _ => exceeding, fun passes => passes asked⟩
    · next notAsked =>
        cases known
        exact ⟨fun member => ⟨member, fun asked => absurd asked notAsked⟩, fun both => both.1⟩

/-! ### What is read -/

def Monitored (environment : Environment Double) (clusterType : String)  : Prop :=
  environment.toLowerCase clusterType ∈ getBrokerTypes

/-- The clusters that are asked for are known. -/
def Known (environment : Environment Double) (request : Request) : Prop :=
  if isNotBlank request.clusterName then
    if request.clusterType.getD "" = "" then ∃ clusterType,
      environment.getByEnvIdAndName request.envId (request.clusterName.getD "") = some clusterType ∧
        Monitored environment clusterType
    else Monitored environment (request.clusterType.getD "")
  else if request.clusterType.getD "" = "" then ∀ clusterType ∈ getBrokerTypes, Monitored environment clusterType
  else Monitored environment (request.clusterType.getD "")

theorem currentMonitorService_iff {clusterType : String} :
    (∃ service, currentMonitorService environment clusterType = some service) ↔ Monitored environment clusterType := by
  have named : Monitored environment clusterType ↔
      environment.toLowerCase clusterType = BrokerType.KAFKA.getName ∨
        environment.toLowerCase clusterType = BrokerType.ROCKETMQ.getName := by
    unfold Monitored getBrokerTypes
    rw [List.map_cons, List.map_cons, List.map_nil, List.mem_cons, List.mem_singleton]
  rw [named]
  unfold currentMonitorService
  by_cases kafka : environment.toLowerCase clusterType = BrokerType.KAFKA.getName
  · exact ⟨fun _ => Or.inl kafka, fun _ => ⟨_, if_pos kafka⟩⟩
  · by_cases rocketmq : environment.toLowerCase clusterType = BrokerType.ROCKETMQ.getName
    · exact ⟨fun _ => Or.inr rocketmq, fun _ => ⟨_, (if_neg kafka).trans (if_pos rocketmq)⟩⟩
    · constructor
      · rintro ⟨service, found⟩
        cases ((if_neg kafka).trans (if_neg rocketmq)).symm.trans found
      · intro either
        cases either with
        | inl same => exact absurd same kafka
        | inr same => exact absurd same rocketmq

theorem exists_map_pair_iff {α β γ : Type} {pair : α → β × γ} {found : Option α} :
    (∃ first second, found.map pair = some (first, second)) ↔ ∃ a, found = some a := by
  cases found with
  | none => exact ⟨fun ⟨_, _, impossible⟩ => absurd impossible.symm (Option.some_ne_none _),
      fun ⟨_, impossible⟩ => absurd impossible.symm (Option.some_ne_none _)⟩
  | some a => exact ⟨fun _ => ⟨a, rfl⟩, fun _ => ⟨(pair a).1, (pair a).2, rfl⟩⟩

theorem readings_iff : (∃ latencies tpses, readings environment request = some (latencies, tpses)) ↔
    Known environment request := by
  unfold readings Known
  cases isNotBlank request.clusterName with
  | true =>
      by_cases empty : request.clusterType.getD "" = ""
      · simp only [if_true, if_pos empty, exists_map_pair_iff, Option.bind_eq_some_iff]
        constructor
        · rintro ⟨service, clusterType, row, found⟩
          exact ⟨clusterType, row, currentMonitorService_iff.mp ⟨service, found⟩⟩
        · rintro ⟨clusterType, row, monitored⟩
          obtain ⟨service, found⟩ := currentMonitorService_iff.mpr monitored
          exact ⟨service, clusterType, row, found⟩
      · simp only [if_true, if_neg empty, exists_map_pair_iff, Option.bind_some]
        exact currentMonitorService_iff
  | false =>
      by_cases empty : request.clusterType.getD "" = ""
      · simp only [Bool.false_eq_true, if_false, if_pos empty, exists_map_pair_iff]
        constructor
        · rintro ⟨services, all⟩ clusterType member
          obtain ⟨service, _, found⟩ := exists_of_mem_of_mapM all member
          exact currentMonitorService_iff.mp ⟨service, found⟩
        · intro monitored
          have each : ∀ clusterType ∈ getBrokerTypes,
              ∃ service, currentMonitorService environment clusterType = some service ∧ True := by
            intro clusterType member
            obtain ⟨service, found⟩ := currentMonitorService_iff.mpr (monitored clusterType member)
            exact ⟨service, found, trivial⟩
          obtain ⟨services, all, _⟩ := exists_mapM each
          exact ⟨services, all⟩
      · simp only [Bool.false_eq_true, if_false, if_neg empty, exists_map_pair_iff]
        exact currentMonitorService_iff

theorem consumer_of_summary {consumers : List Consumer} {tpses : List (ConsumerInfo Double)}
    {item : ConsumerInfo Double} {made : ConsumerSummaryExt Double}
    (summarised : summary environment consumers tpses item = some made) :
    made.key = item.key ∧ made.latency = item.value ∧
      made.tps = tpsOf environment (consumerTpsMap tpses item.consumerGroup) ∧
      ∀ consumer, (consumers.find? fun consumer => consumer.name = item.consumerGroup) = some consumer →
        consumer.status ≠ none := by
  unfold summary at summarised
  cases found : consumers.find? fun consumer => consumer.name = item.consumerGroup with
  | none =>
      rw [found] at summarised
      cases summarised
      refine ⟨rfl, rfl, rfl, ?_⟩
      intro consumer impossible
      cases impossible
  | some consumer =>
      rw [found] at summarised
      obtain ⟨status, known, same⟩ := Option.map_eq_some_iff.mp summarised
      rw [← same]
      refine ⟨rfl, rfl, rfl, ?_⟩
      intro other isConsumer
      cases isConsumer
      rw [known]
      exact Option.some_ne_none status

theorem exists_summary {consumers : List Consumer} (tpses : List (ConsumerInfo Double)) {item : ConsumerInfo Double}
    (statuses : ∀ consumer, (consumers.find? fun consumer => consumer.name = item.consumerGroup) = some consumer →
      consumer.status ≠ none) : ∃ made, summary environment consumers tpses item = some made := by
  unfold summary
  cases found : consumers.find? fun consumer => consumer.name = item.consumerGroup with
  | none => exact ⟨_, rfl⟩
  | some consumer =>
      obtain ⟨status, known⟩ := Option.ne_none_iff_exists'.mp (statuses consumer found)
      exact ⟨_, Option.map_eq_some_iff.mpr ⟨status, known, rfl⟩⟩

theorem exists_visible_iff (latencies : List (ConsumerInfo Double)) :
    (∃ rows, visible environment request latencies = some rows) ↔
      (latencies ≠ [] → request.allDelay = some true →
        ((selectConsumerNameAnddDelayhold environment).map Prod.fst).Nodup ∧
          ∀ consumer ∈ selectConsumerNameAnddDelayhold environment, consumer.2 ≠ none) := by
  rw [← exists_toMap_iff]
  by_cases empty : latencies = []
  · rw [empty]
    exact ⟨fun _ nonempty => absurd rfl nonempty, fun _ => ⟨[], visible_nil⟩⟩
  · rw [visible_of_ne_nil empty]
    unfold shown
    by_cases asked : request.allDelay = some true
    · rw [if_pos asked]
      constructor
      · rintro ⟨rows, filtered⟩ _ _
        obtain ⟨consumerMap, collected, _⟩ := Option.map_eq_some_iff.mp filtered
        exact ⟨consumerMap, collected⟩
      · intro collects
        obtain ⟨consumerMap, collected⟩ := collects empty asked
        exact ⟨_, Option.map_eq_some_iff.mpr ⟨consumerMap, collected, rfl⟩⟩
    · rw [if_neg asked]
      exact ⟨fun _ _ impossible => absurd impossible asked, fun _ => ⟨latencies, rfl⟩⟩

end Rows

section Pages
variable {Double : Type} [LinearOrder Double] (environment : Environment Double)

def page (request : Request) (pageSize i : ℕ) : Option (PageResult Double) :=
  getConsumerSummariesByPage environment request (i + 1) pageSize

/-- What the pages `1..⌈total / pageSize⌉` say; the first is read also where there are none. -/
structure Lists (request : Request) (pageSize total : Nat) (summaries : List (ConsumerSummaryExt Double)) : Prop where
  pages : ∃ pages : List (PageResult Double),
    (List.range (max 1 (pageCount total pageSize))).mapM (page environment request pageSize) = some pages ∧
    (∀ result ∈ pages, result.total = total) ∧ pages.flatMap PageResult.records = summaries

variable {environment} {request : Request} {latencies tpses rows : List (ConsumerInfo Double)}

theorem skipLimit_eq {α : Type} {pageSize i : Nat} (small : pageSize * i < 2 ^ 31) (xs : List α) :
    skipLimit (i + 1) pageSize xs = some (pageOf pageSize i xs) := by
  have product : ((pageSize : Int) * ((i : Int) + 1 - 1)).bmod (2 ^ 32) = (pageSize * i : Nat) := by
    have plain : (pageSize : Int) * ((i : Int) + 1 - 1) = (pageSize * i : Nat) := by
      rw [Int.add_sub_cancel, Nat.cast_mul]
    rw [plain]
    apply Int.bmod_eq_of_le <;> omega
  unfold skipLimit
  rw [product, if_neg (by omega)]
  rfl

theorem sortedByLatency_nil : sortedByLatency ([] : List (ConsumerInfo Double)) = [] := rfl

theorem page_eq (read : readings environment request = some (latencies, tpses))
    (clean : Clean latencies tpses) (known : visible environment request latencies = some rows) {pageSize i : Nat}
    (inside : pageSize * i < rows.length ∨ i = 0) :
    page environment request pageSize i =
      ((pageOf pageSize i (sortedByLatency rows)).mapM (summary environment environment.consumers tpses)).map
        fun summaries => ⟨i + 1, pageSize, rows.length, summaries⟩ := by
  have sublist := sublist_of_visible known
  have small : pageSize * i < 2 ^ 31 := by
    cases inside with
    | inl before => exact before.trans (sublist.length_le.trans_lt clean.small)
    | inr first =>
        rw [first, Nat.mul_zero]
        exact Nat.two_pow_pos 31
  unfold page getConsumerSummariesByPage
  rw [read]
  change (if latencies.isEmpty then _ else _) = _
  cases noReadings : latencies.isEmpty with
  | true =>
      have empty := List.isEmpty_iff.mp noReadings
      rw [empty] at known
      cases known
      rw [sortedByLatency_nil, pageOf_nil]
      rfl
  | false =>
      have nonempty : latencies ≠ [] := by
        intro empty
        rw [empty] at noReadings
        cases noReadings
      rw [visible_of_ne_nil nonempty] at known
      rw [known]
      change (if rows.isEmpty then _ else _) = _
      cases noRows : rows.isEmpty with
      | true =>
          have empty := List.isEmpty_iff.mp noRows
          rw [empty]
          rw [sortedByLatency_nil, pageOf_nil]
          rfl
      | false =>
          rw [skipLimit_eq small]
          change (if (pageOf pageSize i (sortedByLatency rows)).isEmpty then _ else _) = _
          cases noPage : (pageOf pageSize i (sortedByLatency rows)).isEmpty with
          | true =>
              rw [List.isEmpty_iff.mp noPage]
              rfl
          | false =>
              have named : ∀ item ∈ pageOf pageSize i (sortedByLatency rows),
                  isNotBlank (some item.consumerGroup) = true := by
                intro item member
                have inRows := (List.perm_insertionSort _ rows).subset (mem_of_mem_pageOf member)
                exact clean.latency_groups item (sublist.subset inRows)
              change Option.map _ (List.mapM _ (List.filter _ (pageOf pageSize i (sortedByLatency rows)))) = _
              rw [List.filter_eq_self.mpr named]
              congr 1
              apply mapM_congr
              intro item member
              apply summary_congr
              exact find?_listConsumerByNames (List.mem_map_of_mem member)

theorem visible_of_page (read : readings environment request = some (latencies, tpses)) {pageSize i : Nat}
    {result : PageResult Double} (reads : page environment request pageSize i = some result) :
    ∃ rows, visible environment request latencies = some rows := by
  by_cases empty : latencies = []
  · rw [empty]
    exact ⟨[], visible_nil⟩
  · rw [visible_of_ne_nil empty]
    unfold page getConsumerSummariesByPage at reads
    rw [read] at reads
    change (if latencies.isEmpty then _ else _) = _ at reads
    have nonempty : ¬latencies.isEmpty = true := by
      rw [List.isEmpty_iff]
      exact empty
    rw [if_neg nonempty] at reads
    obtain ⟨rows, known, _⟩ := Option.bind_eq_some_iff.mp reads
    exact ⟨rows, known⟩

theorem visible_of_lists (read : readings environment request = some (latencies, tpses)) {pageSize total : Nat}
    {summaries : List (ConsumerSummaryExt Double)} (lists : Lists environment request pageSize total summaries) :
    ∃ rows, visible environment request latencies = some rows := by
  obtain ⟨pages, reads, _, _⟩ := lists.pages
  have first : 0 ∈ List.range (max 1 (pageCount total pageSize)) :=
    List.mem_range.mpr (lt_of_lt_of_le Nat.one_pos (le_max_left 1 _))
  obtain ⟨result, _, readsFirst⟩ := exists_of_mem_of_mapM reads first
  exact visible_of_page read readsFirst

theorem mapM_pages (read : readings environment request = some (latencies, tpses)) (clean : Clean latencies tpses)
    (known : visible environment request latencies = some rows) {pageSize : Nat} (positive : 0 < pageSize) :
    ((List.range (max 1 (pageCount rows.length pageSize))).mapM (page environment request pageSize)).map
        (List.flatMap PageResult.records) =
      (sortedByLatency rows).mapM (summary environment environment.consumers tpses) := by
  have length : (sortedByLatency rows).length = rows.length := (List.perm_insertionSort _ rows).length_eq
  have joined := flatMap_pages positive (sortedByLatency rows)
  have same : (List.range (max 1 (pageCount rows.length pageSize))).mapM (page environment request pageSize) =
      (List.range (max 1 (pageCount rows.length pageSize))).mapM fun i =>
        ((pageOf pageSize i (sortedByLatency rows)).mapM (summary environment environment.consumers tpses)).map
          fun summaries => ⟨i + 1, pageSize, rows.length, summaries⟩ := by
    apply mapM_congr
    intro i inRange
    exact page_eq read clean known (start_lt_or_eq positive (List.mem_range.mp inRange))
  have records := mapM_map
    (fun i => (pageOf pageSize i (sortedByLatency rows)).mapM (summary environment environment.consumers tpses))
    (fun (i : ℕ) summaries => (⟨i + 1, pageSize, rows.length, summaries⟩ : PageResult Double))
    PageResult.records (fun _ _ => rfl) (List.range (max 1 (pageCount rows.length pageSize)))
  rw [length] at joined
  calc ((List.range (max 1 (pageCount rows.length pageSize))).mapM (page environment request pageSize)).map
        (List.flatMap PageResult.records)
      = (((List.range (max 1 (pageCount rows.length pageSize))).mapM (page environment request pageSize)).map
            (List.map PageResult.records)).map List.flatten := by
        rw [Option.map_map]
        rfl
    _ = ((List.range (max 1 (pageCount rows.length pageSize))).mapM fun i =>
          (pageOf pageSize i (sortedByLatency rows)).mapM
            (summary environment environment.consumers tpses)).map List.flatten := by
        rw [same, records]
    _ = (sortedByLatency rows).mapM (summary environment environment.consumers tpses) := by
        rw [← mapM_flatMap, joined]

theorem lists_iff (read : readings environment request = some (latencies, tpses)) (clean : Clean latencies tpses)
    (known : visible environment request latencies = some rows) {pageSize : Nat} (positive : 0 < pageSize) {total : Nat}
    {summaries : List (ConsumerSummaryExt Double)} :
    Lists environment request pageSize total summaries ↔ total = rows.length ∧
      (sortedByLatency rows).mapM (summary environment environment.consumers tpses) = some summaries := by
  have joined := mapM_pages read clean known positive
  have ofPage {i : ℕ} {result : PageResult Double} (inside : pageSize * i < rows.length ∨ i = 0)
      (reads : page environment request pageSize i = some result) : result.total = rows.length := by
    rw [page_eq read clean known inside] at reads
    obtain ⟨_, _, made⟩ := Option.map_eq_some_iff.mp reads
    rw [← made]
  constructor
  · intro lists
    obtain ⟨pages, reads, totals, records⟩ := lists.pages
    have same : total = rows.length := by
      -- the first page is among those that are read
      have first : 0 ∈ List.range (max 1 (pageCount total pageSize)) :=
        List.mem_range.mpr (lt_of_lt_of_le Nat.one_pos (le_max_left 1 _))
      obtain ⟨result, member, readsFirst⟩ := exists_of_mem_of_mapM reads first
      rw [← totals result member]
      exact ofPage (Or.inr rfl) readsFirst
    rw [← same, reads] at joined
    exact ⟨same, joined.symm.trans (congrArg some records)⟩
  · rintro ⟨same, summarised⟩
    rw [summarised] at joined
    obtain ⟨pages, reads, records⟩ := Option.map_eq_some_iff.mp joined
    rw [← same] at reads
    refine ⟨pages, reads, ?_, records⟩
    intro result member
    obtain ⟨i, inRange, readsPage⟩ := exists_of_mem_mapM reads member
    rw [same] at inRange
    exact (ofPage (start_lt_or_eq positive (List.mem_range.mp inRange)) readsPage).trans same.symm

end Pages

/-! ### Each consumer's own numbers, once -/

section Numbers
variable {Double : Type} [LinearOrder Double] (environment : Environment Double) (request : Request)

structure ShowsOwnNumbers (latencies tpses : List (ConsumerInfo Double)) (total : Nat)
    (summaries : List (ConsumerSummaryExt Double)) : Prop where
  total_eq : total = summaries.length
  once : (summaries.map ConsumerSummaryExt.key).Nodup
  listed : ∀ key, key ∈ summaries.map ConsumerSummaryExt.key ↔
    ∃ item ∈ latencies, Passes environment request item ∧ item.key = key
  descending : summaries.Pairwise fun a b => b.latency ≤ a.latency
  latency : ∀ summary ∈ summaries, ∃ item ∈ latencies, item.key = summary.key ∧ summary.latency = item.value
  tps : ∀ summary ∈ summaries,
    summary.tps = tpsOf environment (tpses.find? fun tps => tps.key = summary.key)

/-- No page throws, and the pages together show the numbers. -/
def Shows (pageSize : Nat) : Prop :=
  ∃ latencies tpses, readings environment request = some (latencies, tpses) ∧
    ∃ total summaries, Lists environment request pageSize total summaries ∧
      ShowsOwnNumbers environment request latencies tpses total summaries

/-- When the list shows each consumer's own numbers once. -/
structure Keeps : Prop where
  known : Known environment request
  thresholds : ∀ latencies tpses, readings environment request = some (latencies, tpses) → latencies ≠ [] →
    request.allDelay = some true → ((selectConsumerNameAnddDelayhold environment).map Prod.fst).Nodup ∧
      ∀ consumer ∈ selectConsumerNameAnddDelayhold environment, consumer.2 ≠ none
  statuses : ∀ latencies tpses, readings environment request = some (latencies, tpses) → ∀ item ∈ latencies,
    Passes environment request item → ∀ consumer,
      (environment.consumers.find? fun consumer => consumer.name = item.consumerGroup) = some consumer →
        consumer.status ≠ none
  tpses : ∀ latencies tpses, readings environment request = some (latencies, tpses) → ∀ item ∈ latencies,
    Passes environment request item → tpsOf environment (consumerTpsMap tpses item.consumerGroup) =
      tpsOf environment (tpses.find? fun tps => tps.key = item.key)

variable {environment request}

theorem keeps_of_shows
    (clean : ∀ latencies tpses, readings environment request = some (latencies, tpses) → Clean latencies tpses)
    {pageSize : Nat} (positive : 0 < pageSize) (shown : Shows environment request pageSize) :
    Keeps environment request := by
  obtain ⟨latencies, tpses, read, total, summaries, lists, own⟩ := shown
  obtain ⟨rows, known⟩ := visible_of_lists read lists
  have summarised := ((lists_iff read (clean latencies tpses read) known positive).mp lists).2
  have sameReadings {others othersTps : List (ConsumerInfo Double)}
      (again : readings environment request = some (others, othersTps)) : others = latencies ∧ othersTps = tpses := by
    have same := again.symm.trans read
    cases same
    exact ⟨rfl, rfl⟩
  have summaryOf {item : ConsumerInfo Double} (member : item ∈ latencies) (passes : Passes environment request item) :
      ∃ made ∈ summaries, summary environment environment.consumers tpses item = some made := by
    have inRows := (mem_visible_iff known).mpr ⟨member, passes⟩
    exact exists_of_mem_of_mapM summarised ((List.perm_insertionSort _ rows).mem_iff.mpr inRows)
  constructor
  · exact readings_iff.mp ⟨latencies, tpses, read⟩
  · intro others othersTps again
    rw [(sameReadings again).1]
    exact (exists_visible_iff latencies).mp ⟨rows, known⟩
  · intro others othersTps again item member passes
    rw [(sameReadings again).1] at member
    obtain ⟨made, _, makes⟩ := summaryOf member passes
    exact (consumer_of_summary makes).2.2.2
  · intro others othersTps again item member passes
    rw [(sameReadings again).1] at member
    rw [(sameReadings again).2]
    obtain ⟨made, inSummaries, makes⟩ := summaryOf member passes
    obtain ⟨key, _, tps, _⟩ := consumer_of_summary makes
    rw [← tps, own.tps made inSummaries, key]

theorem ownNumbers_of_keeps {latencies tpses rows : List (ConsumerInfo Double)} (keeps : Keeps environment request)
    (read : readings environment request = some (latencies, tpses)) (clean : Clean latencies tpses)
    (known : visible environment request latencies = some rows) {summaries : List (ConsumerSummaryExt Double)}
    (summarised : (sortedByLatency rows).mapM (summary environment environment.consumers tpses) = some summaries) :
    ShowsOwnNumbers environment request latencies tpses rows.length summaries := by
  have perm : (sortedByLatency rows).Perm rows := List.perm_insertionSort _ rows
  have keys : summaries.map ConsumerSummaryExt.key = (sortedByLatency rows).map ConsumerInfo.key :=
    map_eq_of_mapM (fun _ _ makes => (consumer_of_summary makes).1) summarised
  have values : summaries.map ConsumerSummaryExt.latency = (sortedByLatency rows).map ConsumerInfo.value :=
    map_eq_of_mapM (fun _ _ makes => (consumer_of_summary makes).2.1) summarised
  have sorted : (sortedByLatency rows).Pairwise fun a b => b.value ≤ a.value := List.pairwise_insertionSort _ rows
  constructor
  · rw [← perm.length_eq]
    exact (mapM_eq_some_iff.mp summarised).length_eq
  · rw [keys, (perm.map ConsumerInfo.key).nodup_iff]
    exact clean.latency_keys.sublist ((sublist_of_visible known).map ConsumerInfo.key)
  · intro key
    rw [keys, List.mem_map]
    constructor
    · rintro ⟨item, member, isKey⟩
      obtain ⟨inLatencies, passes⟩ := (mem_visible_iff known).mp (perm.subset member)
      exact ⟨item, inLatencies, passes, isKey⟩
    · rintro ⟨item, inLatencies, passes, isKey⟩
      exact ⟨item, perm.mem_iff.mpr ((mem_visible_iff known).mpr ⟨inLatencies, passes⟩), isKey⟩
  · have descending : (summaries.map ConsumerSummaryExt.latency).Pairwise fun a b => b ≤ a := by
      rw [values, List.pairwise_map]
      exact sorted
    exact List.pairwise_map.mp descending
  · intro made member
    obtain ⟨item, inSorted, makes⟩ := exists_of_mem_mapM summarised member
    obtain ⟨key, latency, _, _⟩ := consumer_of_summary makes
    exact ⟨item, ((mem_visible_iff known).mp (perm.subset inSorted)).1, key.symm, latency⟩
  · intro made member
    obtain ⟨item, inSorted, makes⟩ := exists_of_mem_mapM summarised member
    obtain ⟨inLatencies, passes⟩ := (mem_visible_iff known).mp (perm.subset inSorted)
    obtain ⟨key, _, tps, _⟩ := consumer_of_summary makes
    rw [tps, key]
    exact keeps.tpses latencies tpses read item inLatencies passes

/-- The list shows each consumer's own numbers once exactly when the clusters are known, no
two consumers of one name are compared by their thresholds and all have one, the consumers
of what is listed have a status, and the last tps of a group's name is that of the cluster. -/
theorem shows_iff
    (clean : ∀ latencies tpses, readings environment request = some (latencies, tpses) → Clean latencies tpses)
    {pageSize : Nat} (positive : 0 < pageSize) : Shows environment request pageSize ↔ Keeps environment request := by
  constructor
  · exact keeps_of_shows clean positive
  · intro keeps
    obtain ⟨latencies, tpses, read⟩ := readings_iff.mpr keeps.known
    obtain ⟨rows, known⟩ := (exists_visible_iff latencies).mpr (keeps.thresholds latencies tpses read)
    have each : ∀ item ∈ sortedByLatency rows,
        ∃ made, summary environment environment.consumers tpses item = some made ∧ True := by
      intro item member
      have inRows := (List.perm_insertionSort _ rows).subset member
      obtain ⟨inLatencies, passes⟩ := (mem_visible_iff known).mp inRows
      obtain ⟨made, makes⟩ := exists_summary tpses (keeps.statuses latencies tpses read item inLatencies passes)
      exact ⟨made, makes, trivial⟩
    obtain ⟨summaries, summarised, _⟩ := exists_mapM each
    have lists := (lists_iff read (clean latencies tpses read) known positive).mpr ⟨rfl, summarised⟩
    exact ⟨latencies, tpses, read, rows.length, summaries, lists,
      ownNumbers_of_keeps keeps read (clean latencies tpses read) known summarised⟩

end Numbers

/-- The values are whole numbers. -/
def wholeNumbers : JavaDouble Int where
  zero := 0
  positive value := 0 < value
  exceeds value threshold := threshold < value
  setScale value := value

def ofKafka (latencies tpses : List (ConsumerInfo Int)) : Environment Int where
  double := wholeNumbers
  toLowerCase text := text
  monitorService
    | .KAFKA => ⟨latencies, tpses, fun _ => latencies, fun _ => tpses⟩
    | .ROCKETMQ => ⟨[], [], fun _ => [], fun _ => []⟩
  getByEnvIdAndName _ _ := none
  consumers := []
  sameName name other := name == other
  sameName_self name := beq_self_eq_true name

def allOfKafka : Request := ⟨some "kafka", none, 1, none⟩

theorem readings_ofKafka (latencies tpses : List (ConsumerInfo Int)) :
    readings (ofKafka latencies tpses) allOfKafka = some (latencies, tpses) := rfl

theorem clean_ofKafka {latencies tpses : List (ConsumerInfo Int)} (clean : Clean latencies tpses) :
    ∀ others othersTps, readings (ofKafka latencies tpses) allOfKafka = some (others, othersTps) →
      Clean others othersTps := by
  intro others othersTps read
  rw [readings_ofKafka] at read
  cases read
  exact clean

theorem shows_oneCluster :
    Shows (ofKafka [⟨"orders", 10, "east"⟩, ⟨"bills", 20, "east"⟩] [⟨"orders", 5, "east"⟩]) allOfKafka 1 := by
  have clean : Clean [(⟨"orders", 10, "east"⟩ : ConsumerInfo Int), ⟨"bills", 20, "east"⟩] [⟨"orders", 5, "east"⟩] :=
    ⟨by decide, by decide, by decide, by decide, by decide⟩
  apply (shows_iff (clean_ofKafka clean) Nat.one_pos).mpr
  constructor
  · exact readings_iff.mp ⟨_, _, readings_ofKafka _ _⟩
  · intro _ _ _ _ asked
    cases asked
  · intro _ _ _ _ _ _ consumer found
    cases found
  · intro latencies tpses read item member _
    rw [readings_ofKafka] at read
    cases read
    cases List.mem_cons.mp member with
    | inl first =>
        rw [first]
        decide
    | inr later =>
        rw [List.mem_singleton.mp later]
        decide

/-- A group of two clusters is shown with the tps of one of them. -/
theorem not_always_shows : ¬∀ (environment : Environment Int) (request : Request),
    (∀ latencies tpses, readings environment request = some (latencies, tpses) → Clean latencies tpses) →
      ∀ pageSize, 0 < pageSize → Shows environment request pageSize := by
  intro always
  have clean : Clean [(⟨"orders", 10, "east"⟩ : ConsumerInfo Int), ⟨"orders", 20, "west"⟩]
      [⟨"orders", 5, "east"⟩, ⟨"orders", 9, "west"⟩] := ⟨by decide, by decide, by decide, by decide, by decide⟩
  have keeps := keeps_of_shows (clean_ofKafka clean) Nat.one_pos (always _ allOfKafka (clean_ofKafka clean) 1 Nat.one_pos)
  have same := keeps.tpses _ _ (readings_ofKafka _ _) _ List.mem_cons_self (by
    intro asked
    cases asked)
  exact absurd same (by decide)

end Zms.Portal.MonitorServiceAdapt
