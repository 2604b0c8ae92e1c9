import Mathlib

/-! `RocketMessageService.fetchMsgLst`: the messages of a topic that were stored in a time.

A queue is a list of times, with the sizes of the pulls that a broker answers. -/

set_option autoImplicit false

namespace Zms.Portal.MessagesByTime

structure MessageView where
  queueId : Nat
  queueOffset : Nat
  storeTimestamp : Int
  deriving DecidableEq

/-- A queue whose first message has the offset `minOffset`. The `k`th pull returns at most
`pullSizes k` messages. -/
structure MessageQueue where
  queueId : Nat
  minOffset : Nat
  storeTimestamps : List Int
  increasing : storeTimestamps.Pairwise (· ≤ ·)
  pullSizes : Nat → {n : Nat // 1 ≤ n ∧ n ≤ 32}

namespace MessageQueue
variable (mq : MessageQueue)

def messages : List MessageView := mq.storeTimestamps.mapIdx fun i time => ⟨mq.queueId, mq.minOffset + i, time⟩

/-- The place of the first message stored at a time or later; the end of the queue when there
is none. -/
def place (time : Int) : Nat := mq.storeTimestamps.findIdx (time ≤ ·)

def searchOffset (time : Int) : Nat := mq.minOffset + mq.place time

/-- The messages that a pull finds; when there are none its status is `NO_NEW_MSG`. -/
def pull (offset k : Nat) : List MessageView := (mq.messages.drop (offset - mq.minOffset)).take (mq.pullSizes k)

end MessageQueue

section Source
variable (beginTime endTime : Int)

def inTime (view : MessageView) : Bool := beginTime ≤ view.storeTimestamp && view.storeTimestamp ≤ endTime

/-- The loop over the offsets of a queue; `k` pulls have been made. -/
def readQueue (mq : MessageQueue) (maxOffset offset k : Nat) (msgLst : List MessageView) : List MessageView :=
  if offset ≤ maxOffset then
    if 50 < msgLst.length then msgLst
    else if mq.pull offset k = [] then msgLst
    else
      readQueue mq maxOffset (offset + (mq.pull offset k).length) (k + 1)
        (msgLst ++ (mq.pull offset k).filter (inTime beginTime endTime))
  else msgLst
termination_by maxOffset + 1 - offset
decreasing_by
  have := List.length_pos_iff.mpr ‹¬ mq.pull offset k = []›
  omega

def collect (mqs : List MessageQueue) : List MessageView :=
  mqs.foldl (fun msgLst mq =>
    readQueue beginTime endTime mq (mq.searchOffset endTime) (mq.searchOffset beginTime) 0 msgLst) []

/-- The latest messages first. -/
def fetchMsgLst (mqs : List MessageQueue) : List MessageView :=
  (collect beginTime endTime mqs).mergeSort fun o1 o2 => o2.storeTimestamp ≤ o1.storeTimestamp

end Source

section Reading
variable {beginTime endTime : Int} {mq : MessageQueue}

/-- How many messages the pulls from the `k`th on have passed after `m` of them. -/
def MessageQueue.pulled (mq : MessageQueue) (k m : Nat) : Nat := ∑ j ∈ Finset.range m, (mq.pullSizes (k + j)).val

theorem pulled_succ (mq : MessageQueue) (k m : Nat) :
    mq.pulled k (m + 1) = (mq.pullSizes k).val + mq.pulled (k + 1) m := by
  unfold MessageQueue.pulled
  rw [Finset.sum_range_succ', Nat.add_comm, Nat.add_zero]
  congr 1
  exact Finset.sum_congr rfl fun j _ => by rw [Nat.add_right_comm, Nat.add_assoc]

theorem pull_eq (mq : MessageQueue) (i k : Nat) :
    mq.pull (mq.minOffset + i) k = (mq.messages.drop i).take (mq.pullSizes k) := by
  rw [MessageQueue.pull, Nat.add_sub_cancel_left]

theorem length_pull (mq : MessageQueue) (i k : Nat) :
    (mq.pull (mq.minOffset + i) k).length = min (mq.pullSizes k).val (mq.messages.length - i) := by
  rw [pull_eq, List.length_take, List.length_drop]

/-- What the loop over a queue reads: the messages from its first place up to another one, the
end of the queue or the first end of a pull behind the last offset. -/
structure Reads (beginTime endTime : Int) (mq : MessageQueue) (last i k : Nat) (msgLst result : List MessageView)
    (stop : Nat) : Prop where
  le : i ≤ stop
  inside : stop ≤ max i mq.messages.length
  isRead : result = msgLst ++ ((mq.messages.drop i).take (stop - i)).filter (inTime beginTime endTime)
  through : result.length ≤ 50 → (last < stop ∨ mq.messages.length ≤ stop) ∧
    (stop < mq.messages.length → ∃ m, stop = i + mq.pulled k m)
  early : ∀ m, last < i + mq.pulled k m → stop ≤ i + mq.pulled k m

theorem readQueue_spec (mq : MessageQueue) (last i k : Nat) (msgLst : List MessageView) :
    ∃ stop, Reads beginTime endTime mq last i k msgLst
      (readQueue beginTime endTime mq (mq.minOffset + last) (mq.minOffset + i) k msgLst) stop := by
  induction wait : last + 1 - i using Nat.strong_induction_on generalizing i k msgLst with
  | _ n ih =>
    rw [readQueue]
    have here : msgLst = msgLst ++ ((mq.messages.drop i).take (i - i)).filter (inTime beginTime endTime) := by simp
    by_cases inRange : i ≤ last
    · rw [if_pos (Nat.add_le_add_left inRange _)]
      by_cases full : 50 < msgLst.length
      · rw [if_pos full]
        exact ⟨i, Nat.le_refl i, Nat.le_max_left .., here, fun few => by omega, fun m _ => Nat.le_add_right ..⟩
      · rw [if_neg full]
        by_cases none : mq.pull (mq.minOffset + i) k = []
        · rw [if_pos none]
          have atEnd : mq.messages.length ≤ i := by
            have length := length_pull mq i k
            have size := (mq.pullSizes k).2.1
            rw [none, List.length_nil] at length
            omega
          exact ⟨i, Nat.le_refl i, Nat.le_max_left .., here, fun _ => ⟨.inr atEnd, fun inside => by omega⟩,
            fun m _ => Nat.le_add_right ..⟩
        · rw [if_neg none]
          have length := length_pull mq i k
          have some := List.length_pos_iff.mpr none
          rw [Nat.add_assoc]
          generalize isCount : (mq.pull (mq.minOffset + i) k).length = count at length some ⊢
          have pulls : mq.pull (mq.minOffset + i) k = (mq.messages.drop i).take count := by
            rw [← isCount, length_pull, pull_eq, ← List.length_drop, ← List.take_eq_take_min]
          -- the last pull of a queue may find less than it asks for
          have whole : count = (mq.pullSizes k).val ∨ i + count = mq.messages.length ∧ count ≤ (mq.pullSizes k).val := by
            omega
          have shorter : last + 1 - (i + count) < n := by omega
          obtain ⟨stop, reads⟩ := ih _ shorter (i + count) (k + 1)
            (msgLst ++ (mq.pull (mq.minOffset + i) k).filter (inTime beginTime endTime)) rfl
          have le := reads.le
          have inside := reads.inside
          have split : stop - i = count + (stop - (i + count)) := by omega
          have within : stop ≤ max i mq.messages.length := by omega
          refine ⟨stop, Nat.le_of_add_right_le le, within, ?_,
            fun few => ⟨(reads.through few).1, fun before => ?_⟩, fun m past => ?_⟩
          · rw [reads.isRead, pulls, split, List.take_add, List.drop_drop, List.filter_append, List.append_assoc]
          · obtain ⟨m, isStop⟩ := (reads.through few).2 before
            refine ⟨m + 1, ?_⟩
            rw [pulled_succ]
            omega
          · cases m with
            | zero => exact absurd past (Nat.not_lt.mpr inRange)
            | succ m =>
              have next := reads.early m
              rw [pulled_succ] at past ⊢
              omega
    · rw [if_neg (by omega)]
      exact ⟨i, Nat.le_refl i, Nat.le_max_left .., here,
        fun _ => ⟨.inl (by omega), fun _ => ⟨0, rfl⟩⟩, fun m _ => Nat.le_add_right ..⟩

end Reading

section Queue
variable {beginTime endTime : Int} {mq : MessageQueue}

/-- The messages of a queue that lie in the time. -/
def MessageQueue.found (mq : MessageQueue) (beginTime endTime : Int) : List MessageView :=
  mq.messages.filter (inTime beginTime endTime)

/-- A pull ends between two messages that were stored at the end of the time. -/
def MessageQueue.Splits (mq : MessageQueue) (beginTime endTime : Int) : Prop :=
  ∃ m i, mq.searchOffset beginTime + mq.pulled 0 m = mq.minOffset + (i + 1) ∧
    mq.storeTimestamps[i]? = some endTime ∧ mq.storeTimestamps[i + 1]? = some endTime

theorem length_messages (mq : MessageQueue) : mq.messages.length = mq.storeTimestamps.length := List.length_mapIdx

theorem getElem?_messages (mq : MessageQueue) (i : Nat) :
    mq.messages[i]? = (mq.storeTimestamps[i]?).map fun time => ⟨mq.queueId, mq.minOffset + i, time⟩ :=
  List.getElem?_mapIdx

theorem le_of_getElem? {i j : Nat} {t u : Int} (first : mq.storeTimestamps[i]? = some t)
    (second : mq.storeTimestamps[j]? = some u) (ordered : i ≤ j) : t ≤ u := by
  rcases Nat.lt_or_eq_of_le ordered with less | rfl
  · obtain ⟨inside, rfl⟩ := List.getElem?_eq_some_iff.mp first
    obtain ⟨inside', rfl⟩ := List.getElem?_eq_some_iff.mp second
    exact List.pairwise_iff_getElem.mp mq.increasing i j inside inside' less
  · exact le_of_eq (Option.some.inj (first.symm.trans second))

theorem place_le_iff {time t : Int} {i : Nat} (is : mq.storeTimestamps[i]? = some t) :
    mq.place time ≤ i ↔ time ≤ t := by
  obtain ⟨inside, rfl⟩ := List.getElem?_eq_some_iff.mp is
  unfold MessageQueue.place
  constructor
  · intro le
    have inRange := lt_of_le_of_lt le inside
    have first : time ≤ mq.storeTimestamps[mq.storeTimestamps.findIdx (time ≤ ·)] := by
      simpa using List.findIdx_getElem (w := inRange)
    exact first.trans (le_of_getElem? (List.getElem?_eq_getElem inRange) is le)
  · intro later
    by_contra before
    have := List.not_of_lt_findIdx (Nat.lt_of_not_le before)
    simp [later] at this

theorem filter_segment {α : Type} {p : α → Bool} {xs : List α} {i stop : Nat} (le : i ≤ stop)
    (before : ∀ j x, j < i → xs[j]? = some x → p x = false) (after : ∀ j x, stop ≤ j → xs[j]? = some x → p x = false) :
    ((xs.drop i).take (stop - i)).filter p = xs.filter p := by
  have front : (xs.take i).filter p = [] := by
    rw [List.filter_eq_nil_iff]
    intro x member
    obtain ⟨j, inside, rfl⟩ := List.mem_take_iff_getElem.mp member
    simp [before j _ (by omega) (List.getElem?_eq_getElem (by omega))]
  have back : (xs.drop stop).filter p = [] := by
    rw [List.filter_eq_nil_iff]
    intro x member
    obtain ⟨j, inside, rfl⟩ := List.mem_drop_iff_getElem.mp member
    simp [after (stop + j) _ (Nat.le_add_right ..) (List.getElem?_eq_getElem (by omega))]
  have whole : xs = xs.take i ++ ((xs.drop i).take (stop - i) ++ xs.drop stop) := by
    have split := List.take_append_drop (stop - i) (xs.drop i)
    rw [List.drop_drop, Nat.add_sub_cancel' le] at split
    rw [split, List.take_append_drop]
  conv_rhs => rw [whole, List.filter_append, List.filter_append, front, back, List.nil_append, List.append_nil]

theorem getElem?_messages_eq_some {i : Nat} {view : MessageView} (is : mq.messages[i]? = some view) :
    mq.storeTimestamps[i]? = some view.storeTimestamp ∧ view.queueOffset = mq.minOffset + i := by
  rw [getElem?_messages] at is
  obtain ⟨time, isTime, rfl⟩ := Option.map_eq_some_iff.mp is
  exact ⟨isTime, rfl⟩

variable {msgLst result : List MessageView} {stop : Nat}

def segment (mq : MessageQueue) (beginTime endTime : Int) (stop : Nat) : List MessageView :=
  ((mq.messages.drop (mq.place beginTime)).take (stop - mq.place beginTime)).filter (inTime beginTime endTime)

theorem segment_sublist : (segment mq beginTime endTime stop).Sublist (mq.found beginTime endTime) :=
  ((List.take_sublist ..).trans (List.drop_sublist ..)).filter _

/-- Up to the place where the loop stops all that lies in the time has been read, unless a
pull has split the last messages. -/
theorem segment_eq_found
    (reads : Reads beginTime endTime mq (mq.place endTime) (mq.place beginTime) 0 msgLst result stop)
    (few : result.length ≤ 50) (whole : ¬ mq.Splits beginTime endTime) :
    segment mq beginTime endTime stop = mq.found beginTime endTime := by
  obtain ⟨through, behindPull⟩ := reads.through few
  apply filter_segment reads.le
  · intro j view earlier is
    have before := mt (place_le_iff (getElem?_messages_eq_some is).1).mpr (Nat.not_le.mpr earlier)
    simp [inTime, before]
  · intro j view later is
    have inside := (List.getElem?_eq_some_iff.mp is).1
    obtain ⟨isTime, -⟩ := getElem?_messages_eq_some is
    by_contra found
    have inEnd : view.storeTimestamp ≤ endTime := by
      rw [Bool.not_eq_false, inTime, Bool.and_eq_true, decide_eq_true_eq, decide_eq_true_eq] at found
      exact found.2
    obtain ⟨m, isStop⟩ := behindPull (by omega)
    have past : mq.place endTime < stop := by omega
    -- the messages on both sides of the stop lie between the end's first and this one
    obtain ⟨i, rfl⟩ : ∃ i, stop = i + 1 := ⟨stop - 1, by omega⟩
    rw [length_messages] at inside
    have here := List.getElem?_eq_getElem (show i < mq.storeTimestamps.length by omega)
    have next := List.getElem?_eq_getElem (show i + 1 < mq.storeTimestamps.length by omega)
    have atLeast := (place_le_iff here).mp (Nat.le_of_lt_succ past)
    have steps := le_of_getElem? here next (Nat.le_succ i)
    have atMost := (le_of_getElem? next isTime later).trans inEnd
    refine whole ⟨m, i, ?_, ?_, ?_⟩
    · rw [MessageQueue.searchOffset, isStop, Nat.add_assoc]
    · rw [here]
      exact congrArg some (by omega)
    · rw [next]
      exact congrArg some (by omega)

theorem segment_ne_found (ordered : beginTime ≤ endTime)
    (reads : Reads beginTime endTime mq (mq.place endTime) (mq.place beginTime) 0 msgLst result stop)
    (splits : mq.Splits beginTime endTime) :
    segment mq beginTime endTime stop ≠ mq.found beginTime endTime := by
  obtain ⟨m, i, ends, here, next⟩ := splits
  rw [MessageQueue.searchOffset, Nat.add_assoc, Nat.add_left_cancel_iff] at ends
  have last : mq.place endTime ≤ i := (place_le_iff here).mpr (Int.le_refl _)
  have stops := reads.early m (by omega)
  have isNext : mq.messages[i + 1]? = some ⟨mq.queueId, mq.minOffset + (i + 1), endTime⟩ := by
    rw [getElem?_messages, next]
    rfl
  have inFound : (⟨mq.queueId, mq.minOffset + (i + 1), endTime⟩ : MessageView) ∈ mq.found beginTime endTime :=
    List.mem_filter.mpr ⟨List.mem_of_getElem? isNext, by simp [inTime, ordered]⟩
  intro same
  rw [← same] at inFound
  obtain ⟨j, inside, is⟩ := List.mem_take_iff_getElem.mp (List.mem_filter.mp inFound).1
  rw [List.getElem_drop] at is
  rw [List.length_drop] at inside
  have isAt : mq.messages[mq.place beginTime + j]? = some _ := List.getElem?_eq_getElem (by omega)
  have offset := (getElem?_messages_eq_some isAt).2
  rw [is] at offset
  change mq.minOffset + (i + 1) = _ at offset
  omega

end Queue

section Queues
variable {beginTime endTime : Int}

theorem readQueue_queue (mq : MessageQueue) (msgLst : List MessageView) (ordered : beginTime ≤ endTime) :
    ∃ part, readQueue beginTime endTime mq (mq.searchOffset endTime) (mq.searchOffset beginTime) 0 msgLst =
        msgLst ++ part ∧
      part.Sublist (mq.found beginTime endTime) ∧
      ((msgLst ++ part).length ≤ 50 → (part = mq.found beginTime endTime ↔ ¬ mq.Splits beginTime endTime)) := by
  obtain ⟨stop, reads⟩ := @readQueue_spec beginTime endTime mq (mq.place endTime) (mq.place beginTime) 0 msgLst
  refine ⟨segment mq beginTime endTime stop, reads.isRead, segment_sublist, fun few => ?_⟩
  rw [segment, ← reads.isRead] at few
  exact ⟨fun same splits => segment_ne_found ordered reads splits same, segment_eq_found reads few⟩

/-- What lies in the time in all queues. -/
def allFound (beginTime endTime : Int) (mqs : List MessageQueue) : List MessageView :=
  mqs.flatMap fun mq => mq.found beginTime endTime

theorem append_eq_append_of_sublist {α : Type} {part whole rest restWhole : List α} (first : part.Sublist whole)
    (second : rest.Sublist restWhole) : part ++ rest = whole ++ restWhole ↔ part = whole ∧ rest = restWhole := by
  constructor
  · intro same
    have lengths := congrArg List.length same
    rw [List.length_append, List.length_append] at lengths
    have firstLe := first.length_le
    have secondLe := second.length_le
    exact ⟨first.eq_of_length (by omega), second.eq_of_length (by omega)⟩
  · rintro ⟨rfl, rfl⟩
    rfl

theorem collect_spec (ordered : beginTime ≤ endTime) (mqs : List MessageQueue) (msgLst : List MessageView) :
    ∃ parts, mqs.foldl (fun msgLst mq =>
          readQueue beginTime endTime mq (mq.searchOffset endTime) (mq.searchOffset beginTime) 0 msgLst) msgLst =
        msgLst ++ parts ∧
      parts.Sublist (allFound beginTime endTime mqs) ∧
      ((msgLst ++ parts).length ≤ 50 →
        (parts = allFound beginTime endTime mqs ↔ ∀ mq ∈ mqs, ¬ mq.Splits beginTime endTime)) := by
  induction mqs generalizing msgLst with
  | nil => exact ⟨[], (List.append_nil _).symm, .slnil, fun _ => ⟨fun _ => by simp, fun _ => rfl⟩⟩
  | cons mq rest ih =>
    obtain ⟨part, isPart, partOf, complete⟩ := readQueue_queue mq msgLst ordered
    obtain ⟨parts, areParts, partsOf, allComplete⟩ := ih (msgLst ++ part)
    refine ⟨part ++ parts, ?_, partOf.append partsOf, fun few => ?_⟩
    · rw [List.foldl_cons, isPart, areParts, List.append_assoc]
    · rw [← List.append_assoc] at few
      have fewPart : (msgLst ++ part).length ≤ 50 := by
        rw [List.length_append] at few
        omega
      rw [List.forall_mem_cons, ← complete fewPart, ← allComplete few]
      exact append_eq_append_of_sublist partOf partsOf

theorem mem_messages {mq : MessageQueue} {view : MessageView} (member : view ∈ mq.messages) :
    view.queueId = mq.queueId := by
  obtain ⟨i, inside, rfl⟩ := List.mem_mapIdx.mp member
  rfl

theorem nodup_allFound {mqs : List MessageQueue} (distinct : (mqs.map MessageQueue.queueId).Nodup) :
    (allFound beginTime endTime mqs).Nodup := by
  apply List.nodup_flatMap.mpr
  refine ⟨fun mq _ => ?_, ?_⟩
  · refine List.Nodup.filter _ (List.nodup_iff_getElem?_ne_getElem?.mpr fun i j less inside same => ?_)
    have first := List.getElem?_eq_getElem (Nat.lt_trans less inside)
    have second := List.getElem?_eq_getElem inside
    have here := (getElem?_messages_eq_some first).2
    have there := (getElem?_messages_eq_some second).2
    rw [first, second, Option.some.injEq] at same
    rw [same] at here
    omega
  · refine (List.pairwise_map.mp distinct).imp fun {mq other} differ => ?_
    intro view inFirst inSecond
    exact differ ((mem_messages (List.mem_filter.mp inFirst).1).symm.trans
      (mem_messages (List.mem_filter.mp inSecond).1))

theorem inTime_of_mem_allFound {mqs : List MessageQueue} {view : MessageView}
    (member : view ∈ allFound beginTime endTime mqs) :
    beginTime ≤ view.storeTimestamp ∧ view.storeTimestamp ≤ endTime := by
  obtain ⟨mq, -, found⟩ := List.mem_flatMap.mp member
  simpa [inTime] using (List.mem_filter.mp found).2

/-- The messages found are messages of the queues in the time, none twice and the latest
first; and if there are at most 50, they are all. -/
structure Finds (beginTime endTime : Int) (mqs : List MessageQueue) : Prop where
  nodup : (fetchMsgLst beginTime endTime mqs).Nodup
  found : ∀ view ∈ fetchMsgLst beginTime endTime mqs, (∃ mq ∈ mqs, view ∈ mq.messages) ∧
    beginTime ≤ view.storeTimestamp ∧ view.storeTimestamp ≤ endTime
  latest : (fetchMsgLst beginTime endTime mqs).Pairwise fun o1 o2 => o2.storeTimestamp ≤ o1.storeTimestamp
  all : (allFound beginTime endTime mqs).length ≤ 50 →
    ∀ view ∈ allFound beginTime endTime mqs, view ∈ fetchMsgLst beginTime endTime mqs

end Queues

/-- The messages of a time are found, all of them if they are few, exactly when no pull ends
between two messages that were stored at the end of the time. -/
theorem finds_iff (beginTime endTime : Int) (ordered : beginTime ≤ endTime) (mqs : List MessageQueue)
    (distinct : (mqs.map MessageQueue.queueId).Nodup) :
    Finds beginTime endTime mqs ↔
      ((allFound beginTime endTime mqs).length ≤ 50 → ∀ mq ∈ mqs, ¬ mq.Splits beginTime endTime) := by
  obtain ⟨parts, areParts, partsOf, complete⟩ := collect_spec ordered mqs []
  change collect beginTime endTime mqs = parts at areParts
  rw [List.nil_append] at complete
  have perm : (fetchMsgLst beginTime endTime mqs).Perm parts := areParts ▸ List.mergeSort_perm _ _
  have nodup : (allFound beginTime endTime mqs).Nodup := nodup_allFound distinct
  constructor
  · intro finds few
    apply (complete (partsOf.length_le.trans few)).mp
    have subset : allFound beginTime endTime mqs ⊆ parts := fun view member => perm.subset (finds.all few view member)
    exact partsOf.eq_of_length_le (List.subperm_of_subset nodup subset).length_le
  · intro whole
    refine ⟨perm.nodup_iff.mpr (partsOf.nodup nodup), fun view member => ?_, ?_, fun few view member => ?_⟩
    · have inAll := partsOf.mem (perm.subset member)
      obtain ⟨mq, inQueues, found⟩ := List.mem_flatMap.mp inAll
      exact ⟨⟨mq, inQueues, (List.mem_filter.mp found).1⟩, inTime_of_mem_allFound inAll⟩
    · exact (List.pairwise_mergeSort (fun a b c => by simpa using fun ab bc => bc.trans ab)
        (fun a b => by simpa using le_total _ _) _).imp of_decide_eq_true
    · rw [(complete (partsOf.length_le.trans few)).mpr (whole few)] at perm
      exact perm.symm.subset member

/-! One queue, read message by message. -/

def queueOf (times : List Int) (increasing : times.Pairwise (· ≤ ·)) : MessageQueue where
  queueId := 0
  minOffset := 0
  storeTimestamps := times
  increasing := increasing
  pullSizes _ := ⟨1, by decide⟩

theorem finds_distinct : Finds 2 6 [queueOf [1, 5, 7] (by decide)] := by
  refine (finds_iff 2 6 (by decide) _ (by decide)).mpr fun _ mq isQueue => ?_
  rw [List.mem_singleton.mp isQueue]
  rintro ⟨m, i, -, here, -⟩
  have inside := (List.getElem?_eq_some_iff.mp here).1
  change i < 3 at inside
  interval_cases i <;> cases here

/-- Of two messages stored at the end of the time the second is not read. -/
theorem second_not_read : ¬ Finds 5 5 [queueOf [5, 5] (by decide)] := by
  intro finds
  have one : collect 5 5 [queueOf [5, 5] (by decide)] = [⟨0, 0, 5⟩] := by
    change readQueue 5 5 (queueOf [5, 5] (by decide)) 0 0 0 [] = _
    rw [readQueue, if_pos (by decide), if_neg (by decide), if_neg (by decide), readQueue, if_neg (by decide)]
    decide
  have second := finds.all (by decide) ⟨0, 1, 5⟩ (by decide)
  rw [fetchMsgLst, one, List.mergeSort_singleton] at second
  revert second
  decide

end Zms.Portal.MessagesByTime
