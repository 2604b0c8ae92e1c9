import Zms.Client.Consumer.Kafka.Offsets
import Zms.Registry.Gathered
import Zms.Transition.Guarded

/-! The runs of `commitOffsets`, one at a time, while records are offered to the queue. -/

set_option autoImplicit false

namespace Zms.Client.Consumer.Kafka.Commits

open Registry Transition

/-! ### The queue and the runs -/

/-- A run: what the queue and the map held when it looked, and what it has drained so far. -/
structure Draining where
  found : List ConsumerRecord
  remembered : Offsets
  drained : List ConsumerRecord

structure Run extends Draining where
  /-- What is given to `commitAsync`, unless it is nothing. -/
  commits : List (TopicPartition × Nat)

structure State where
  acks : List ConsumerRecord
  offsets : Offsets
  /-- The run that has the lock. -/
  draining : Option Draining
  /-- Every record that has been in the queue (history). -/
  acknowledged : List ConsumerRecord
  /-- The runs that are over (history). -/
  runs : List Run

def start (acks : List ConsumerRecord) (offsets : Offsets) : State := ⟨acks, offsets, none, acks, []⟩

inductive Action where
  | offer (record : ConsumerRecord)
  | commitOffsets
  /-- `acks.poll()`; with null the loop ends, and the commits are built. -/
  | poll

def poll (s : State) : State :=
  match s.draining, s.acks with
  | none, _ => s
  | some run, record :: rest =>
      { s with
        acks := rest
        offsets := addOffset record s.offsets
        draining := some ⟨run.found, run.remembered, run.drained ++ [record]⟩ }
  | some run, [] =>
      { s with
        offsets := []
        draining := none
        runs := s.runs ++ [⟨run, buildCommits s.offsets⟩] }

def effect (s : State) : Action → State
  | .offer record =>
      -- a full queue takes nothing
      if s.acks.length < acksCapacity then
        { s with acks := s.acks ++ [record], acknowledged := s.acknowledged ++ [record] }
      else s
  | .commitOffsets => { s with draining := some ⟨s.acks, s.offsets, []⟩ }
  | .poll => poll s

/-- `commitOffsets` is synchronized. -/
def guard (s : State) : Action → Prop
  | .offer _ => True
  | .commitOffsets => s.draining = none
  | .poll => s.draining ≠ none

def system : Guarded State Action where
  init s := ∃ acks offsets, (offsets.map Prod.fst).Nodup ∧ s = start acks offsets
  guard := guard
  effect := effect

/-! ### What is committed -/

/-- The offsets of a partition that a run has drained or remembered. -/
def Draining.offsetsOf (run : Draining) (partition : TopicPartition) : Set Nat :=
  {offset | (partition, offset) ∈ run.remembered ∨
    ∃ record ∈ run.drained, record.topicPartition = partition ∧ record.offset = offset}

/-- The maximum of its offsets plus one for each partition that has any, and nothing else. -/
structure Run.Exact (run : Run) : Prop where
  drains : run.found <+: run.drained
  commits : ∀ partition value, (partition, value) ∈ run.commits ↔
    ∃ offset, IsGreatest (run.offsetsOf partition) offset ∧ value = offset + 1
  once : (run.commits.map Prod.fst).Nodup

def Run.GrowsTo (run later : Run) : Prop :=
  ∀ partition, ∀ offset ∈ run.offsetsOf partition, ∀ other ∈ later.offsetsOf partition, offset ≤ other

def Run.NoDecrease (run later : Run) : Prop :=
  ∀ partition value other, (partition, value) ∈ run.commits → (partition, other) ∈ later.commits → value ≤ other

/-- What the run that has the lock has drained. -/
def State.underway (s : State) : List ConsumerRecord := (s.draining.map Draining.drained).getD []

structure Sound (s : State) : Prop where
  exact : ∀ run ∈ s.runs, run.Exact
  empties : s.draining = none → s.runs ≠ [] → s.offsets = []
  /-- Every record has been drained by one run, or is still to be. -/
  accounted : s.acknowledged = s.runs.flatMap (fun run => run.drained) ++ s.underway ++ s.acks
  covered : ∀ run ∈ s.runs, ∀ record ∈ run.drained,
    ∃ value, (record.topicPartition, value) ∈ run.commits ∧ record.offset < value
  grows : s.runs.Pairwise Run.GrowsTo → s.runs.Pairwise Run.NoDecrease
  /-- A run is over when it has polled the queue empty. -/
  ends : (poll^[s.acks.length + 1] s).draining = none

/-! ### The maximum -/

section Maximum

theorem addOffset_eq_gather (record : ConsumerRecord) (offsets : Offsets) :
    addOffset record offsets = gather id max record.topicPartition record.offset offsets := by
  induction offsets with
  | nil => rfl
  | cons entry rest ih =>
      unfold addOffset gather
      rw [ih]

theorem handleAcks_concat (drained : List ConsumerRecord) (record : ConsumerRecord) (remembered : Offsets) :
    handleAcks (drained ++ [record]) remembered = addOffset record (handleAcks drained remembered) :=
  List.foldl_concat _ _ _ _

def entryOf (record : ConsumerRecord) : TopicPartition × Nat := (record.topicPartition, record.offset)

theorem handleAcks_eq_gatherAll {remembered : Offsets} (distinct : (remembered.map Prod.fst).Nodup)
    (drained : List ConsumerRecord) :
    handleAcks drained remembered = gatherAll id max (remembered ++ drained.map entryOf) := by
  induction drained using List.reverseRecOn with
  | nil =>
      rw [List.map_nil, List.append_nil]
      exact (gatherAll_of_nodup distinct).symm
  | append_singleton drained record ih =>
      have gathered : gatherAll id max ((remembered ++ drained.map entryOf) ++ [entryOf record]) =
          gather id max record.topicPartition record.offset (gatherAll id max (remembered ++ drained.map entryOf)) :=
        List.foldl_concat _ _ _ _
      rw [handleAcks_concat, ih, addOffset_eq_gather, ← gathered, List.map_append, List.append_assoc]
      rfl

variable {run : Draining}

theorem mem_offsetsOf {partition : TopicPartition} {offset : Nat} :
    offset ∈ run.offsetsOf partition ↔ offset ∈ valuesOf partition (run.remembered ++ run.drained.map entryOf) := by
  rw [mem_valuesOf, List.mem_append, List.mem_map]
  change (_ ∨ ∃ record ∈ run.drained, record.topicPartition = partition ∧ record.offset = offset) ↔ _
  simp only [entryOf, Prod.mk.injEq]

theorem offsetsOf_eq (run : Draining) (partition : TopicPartition) :
    run.offsetsOf partition = {offset | offset ∈ valuesOf partition (run.remembered ++ run.drained.map entryOf)} :=
  Set.ext fun _ => mem_offsetsOf

theorem exact_of_handled {run : Run} (drains : run.found <+: run.drained)
    (distinct : (run.remembered.map Prod.fst).Nodup)
    (commits : run.commits = buildCommits (handleAcks run.drained run.remembered)) : run.Exact where
  drains := drains
  commits := by
    intro partition value
    rw [commits, mem_buildCommits, handleAcks_eq_gatherAll distinct, offsetsOf_eq]
    constructor
    · rintro ⟨entry, member, isCommit⟩
      obtain ⟨isPartition, isValue⟩ := Prod.mk.inj isCommit
      refine ⟨entry.2, combine_max_eq_some_iff.mp ?_, isValue⟩
      rw [isPartition]
      exact (mem_gatherAll_iff _).mp member
    · rintro ⟨offset, isGreatest, isValue⟩
      refine ⟨(partition, offset), (mem_gatherAll_iff _).mpr (combine_max_eq_some_iff.mpr isGreatest), ?_⟩
      rw [isValue]
  once := by
    have keys : run.commits.map Prod.fst = (handleAcks run.drained run.remembered).map Prod.fst := by
      rw [commits, buildCommits, List.map_map]
      rfl
    rw [keys, handleAcks_eq_gatherAll distinct]
    exact nodup_gatherAll _

end Maximum

/-! ### The steps -/

section Steps
variable {s : State}

structure Placed (s : State) : Prop where
  accounted : s.acknowledged = s.runs.flatMap (fun run => run.drained) ++ s.underway ++ s.acks
  distinct : s.draining = none → (s.offsets.map Prod.fst).Nodup
  underway : ∀ run, s.draining = some run → run.found <+: run.drained ++ s.acks ∧
    (run.remembered.map Prod.fst).Nodup ∧ s.offsets = handleAcks run.drained run.remembered
  empties : s.draining = none → s.runs ≠ [] → s.offsets = []
  finished : ∀ run ∈ s.runs, run.found <+: run.drained ∧ (run.remembered.map Prod.fst).Nodup ∧
    run.commits = buildCommits (handleAcks run.drained run.remembered)

theorem placed_start {acks : List ConsumerRecord} {offsets : Offsets} (distinct : (offsets.map Prod.fst).Nodup) :
    Placed (start acks offsets) where
  accounted := rfl
  distinct _ := distinct
  underway run impossible := by cases impossible
  empties _ impossible := absurd rfl impossible
  finished run impossible := by cases impossible

theorem Placed.offer (placed : Placed s) (record : ConsumerRecord) :
    Placed { s with acks := s.acks ++ [record], acknowledged := s.acknowledged ++ [record] } where
  accounted := by
    change s.acknowledged ++ [record] = s.runs.flatMap (fun run => run.drained) ++ s.underway ++ (s.acks ++ [record])
    rw [placed.accounted, List.append_assoc _ s.acks [record]]
  distinct := placed.distinct
  underway := by
    intro run current
    obtain ⟨found, distinct, offsets⟩ := placed.underway run current
    refine ⟨?_, distinct, offsets⟩
    rw [← List.append_assoc]
    exact found.trans (List.prefix_append _ _)
  empties := placed.empties
  finished := placed.finished

theorem Placed.commitOffsets (placed : Placed s) (free : s.draining = none) :
    Placed { s with draining := some ⟨s.acks, s.offsets, []⟩ } where
  accounted := by
    have accounted := placed.accounted
    unfold State.underway at accounted ⊢
    rw [free] at accounted
    exact accounted
  distinct impossible := by cases impossible
  underway := by
    intro run current
    rw [← Option.some.inj current]
    exact ⟨List.prefix_refl _, placed.distinct free, rfl⟩
  empties impossible := by cases impossible
  finished := placed.finished

theorem Placed.poll (placed : Placed s) : Placed (poll s) := by
  have accounted := placed.accounted
  unfold State.underway at accounted
  unfold Commits.poll
  cases current : s.draining with
  | none => exact placed
  | some run =>
      obtain ⟨found, distinct, offsets⟩ := placed.underway run current
      rw [current] at accounted
      change s.acknowledged = s.runs.flatMap (fun run => run.drained) ++ run.drained ++ s.acks at accounted
      cases queue : s.acks with
      | nil =>
          rw [queue, List.append_nil] at accounted found
          constructor
          · change s.acknowledged =
              (s.runs ++ [(⟨run, buildCommits s.offsets⟩ : Run)]).flatMap (fun run : Run => run.drained) ++ [] ++ []
            rw [accounted, List.flatMap_append, List.flatMap_singleton, List.append_nil, List.append_nil]
          · intro _
            exact List.nodup_nil
          · intro _ impossible
            cases impossible
          · intro _ _
            rfl
          · intro finished member
            rcases List.mem_append.mp member with earlier | last
            · exact placed.finished finished earlier
            · rw [List.mem_singleton.mp last, offsets]
              exact ⟨found, distinct, rfl⟩
      | cons record rest =>
          rw [queue] at accounted found
          constructor
          · change s.acknowledged = s.runs.flatMap (fun run => run.drained) ++ (run.drained ++ [record]) ++ rest
            rw [accounted, List.append_assoc _ (run.drained ++ [record]) rest,
              List.append_assoc run.drained [record] rest,
              List.append_assoc _ run.drained]
            rfl
          · intro impossible
            cases impossible
          · intro next isNext
            rw [← Option.some.inj isNext]
            refine ⟨?_, distinct, ?_⟩
            · change run.found <+: run.drained ++ [record] ++ rest
              rw [List.append_assoc]
              exact found
            · change addOffset record s.offsets = handleAcks (run.drained ++ [record]) run.remembered
              rw [offsets, handleAcks_concat]
          · intro impossible
            cases impossible
          · exact placed.finished

theorem Placed.effect (placed : Placed s) {a : Action} (enabled : guard s a) : Placed (effect s a) := by
  cases a with
  | offer record =>
      by_cases room : s.acks.length < acksCapacity
      · have taken : Commits.effect s (.offer record) = _ := if_pos room
        rw [taken]
        exact placed.offer record
      · have refused : Commits.effect s (.offer record) = s := if_neg room
        rw [refused]
        exact placed
  | commitOffsets => exact placed.commitOffsets enabled
  | poll => exact placed.poll

theorem poll_of_idle (idle : s.draining = none) : poll s = s := by
  unfold poll
  rw [idle]

theorem poll_of_record {run : Draining} {record : ConsumerRecord} {rest : List ConsumerRecord}
    (current : s.draining = some run) (queue : s.acks = record :: rest) :
    poll s = { s with
      acks := rest
      offsets := addOffset record s.offsets
      draining := some ⟨run.found, run.remembered, run.drained ++ [record]⟩ } := by
  unfold poll
  rw [current, queue]

theorem poll_of_empty {run : Draining} (current : s.draining = some run) (queue : s.acks = []) :
    poll s = { s with
      offsets := []
      draining := none
      runs := s.runs ++ [⟨run, buildCommits s.offsets⟩] } := by
  unfold poll
  rw [current, queue]

/-- Where nothing is offered meanwhile, a run commits what the queue held at once. -/
theorem polls_eq {run : Draining} {acks : List ConsumerRecord} (current : s.draining = some run)
    (queue : s.acks = acks) :
    poll^[acks.length + 1] s = { s with
      acks := []
      offsets := []
      draining := none
      runs := s.runs ++
        [⟨⟨run.found, run.remembered, run.drained ++ acks⟩, buildCommits (handleAcks acks s.offsets)⟩] } := by
  induction acks generalizing s run with
  | nil =>
      refine (poll_of_empty current queue).trans ?_
      rw [queue, List.append_nil]
      rfl
  | cons record rest ih =>
      rw [Function.iterate_succ_apply, poll_of_record current queue]
      refine (ih rfl rfl).trans ?_
      rw [List.append_assoc]
      rfl

theorem ends_of_polls (s : State) : (poll^[s.acks.length + 1] s).draining = none := by
  cases current : s.draining with
  | none => rw [Function.iterate_fixed (poll_of_idle current), current]
  | some run => rw [polls_eq current rfl]

end Steps

/-! ### Any sequence of runs -/

section Runs
variable {s : State}

theorem Run.Exact.offset_of_commit {run : Run} (exact : run.Exact) {partition : TopicPartition} {value : Nat}
    (commit : (partition, value) ∈ run.commits) : ∃ offset ∈ run.offsetsOf partition, value = offset + 1 := by
  obtain ⟨offset, isGreatest, isValue⟩ := (exact.commits partition value).mp commit
  exact ⟨offset, isGreatest.1, isValue⟩

theorem Run.Exact.noDecrease {run later : Run} (exact : run.Exact) (exactLater : later.Exact)
    (grows : run.GrowsTo later) :
    run.NoDecrease later := by
  intro partition value other commit commitLater
  obtain ⟨offset, member, isValue⟩ := exact.offset_of_commit commit
  obtain ⟨offsetLater, memberLater, isOther⟩ := exactLater.offset_of_commit commitLater
  rw [isValue, isOther]
  exact Nat.succ_le_succ (grows partition offset member offsetLater memberLater)

theorem Run.Exact.covered {run : Run} (exact : run.Exact) {record : ConsumerRecord} (member : record ∈ run.drained) :
    ∃ value, (record.topicPartition, value) ∈ run.commits ∧ record.offset < value := by
  have drained : record.offset ∈ run.offsetsOf record.topicPartition := .inr ⟨record, member, rfl, rfl⟩
  obtain ⟨greatest, combined⟩ := exists_combine id max (Commits.mem_offsetsOf.mp drained)
  have isGreatest : IsGreatest (run.offsetsOf record.topicPartition) greatest := by
    rw [offsetsOf_eq]
    exact combine_max_eq_some_iff.mp combined
  refine ⟨greatest + 1, (exact.commits _ _).mpr ⟨greatest, isGreatest, rfl⟩, ?_⟩
  exact Nat.lt_succ_of_le (isGreatest.2 drained)

def acked : ConsumerRecord := ⟨"orders", 0, 4⟩

end Runs

end Zms.Client.Consumer.Kafka.Commits
