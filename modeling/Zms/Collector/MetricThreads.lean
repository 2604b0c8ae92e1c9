import Zms.Collector.MetricBuffer

/-! Which measurements get one of the threads of `MetricBuffer`. A task keeps its thread for good, so that
those of the first measurements have the threads and the others wait. -/

set_option autoImplicit false

namespace Zms.Collector.MetricBuffer

open Transition
open Registry.Writes (update_eq_some_iff)

variable {T D : Type}

/-- No task ends, and the executor is not shut down. -/
def Lasting (_ : State T D) : Action T D → Prop
  | .write _ outcome => outcome ≠ .error
  | .shutdown => False
  | _ => True

/-- The first tasks have the threads, and the others wait. -/
structure Served (s : State T D) : Prop where
  threads : ∀ thread, (s.threads thread).map Worker.topic = if thread < THREADS then s.submitted[thread]? else none
  tasks : s.tasks = s.submitted.drop THREADS
  lasts : s.ended = [] ∧ s.isShutdown = false
  submitted : ∀ topic, (s.queueMap topic).isSome = true →
    topic ∈ s.submitted ∨ ∃ t put, s.puts t = some put ∧ put.phase = .submitting ∧ put.topic = topic
  finished : ∀ topic, s.finished topic ≠ [] → topic ∈ s.submitted.take THREADS

def Idle [DecidableEq T] (s : State T D) : Prop :=
  ∀ thread < THREADS, ¬ guard s (.take thread) ∧ ¬ guard s (.write thread .returns)

instance [DecidableEq T] (s : State T D) : Decidable (Idle s) :=
  inferInstanceAs (Decidable (∀ thread < THREADS, ¬ guard s (.take thread) ∧ ¬ guard s (.write thread .returns)))

section Serving
variable {s : State T D}

theorem mem_take_iff_getElem? {α : Type} {l : List α} {n : Nat} {x : α} :
    x ∈ l.take n ↔ ∃ i < n, l[i]? = some x := by
  rw [List.mem_take_iff_getElem]
  constructor
  · rintro ⟨i, below, rfl⟩
    exact ⟨i, by omega, List.getElem?_eq_getElem (by omega)⟩
  · rintro ⟨i, below, found⟩
    obtain ⟨inside, rfl⟩ := List.getElem?_eq_some_iff.mp found
    exact ⟨i, by omega, rfl⟩

theorem Served.running_iff (served : Served s) (topic : String) :
    Running s topic ↔ topic ∈ s.submitted.take THREADS := by
  rw [mem_take_iff_getElem?]
  constructor
  · rintro ⟨thread, worker, found, rfl⟩
    have row := served.threads thread
    rw [found] at row
    split at row
    next below => exact ⟨thread, below, row.symm⟩
    next => cases row
  · rintro ⟨thread, below, found⟩
    have row := served.threads thread
    rw [if_pos below, found] at row
    obtain ⟨worker, running, same⟩ := Option.map_eq_some_iff.mp row
    exact ⟨thread, worker, running, same⟩

theorem Served.execute (served : Served s) (topic : String) :
    (∀ thread, ((s.execute topic).threads thread).map Worker.topic =
      if thread < THREADS then (s.submitted ++ [topic])[thread]? else none) ∧
    (s.execute topic).tasks = (s.submitted ++ [topic]).drop THREADS := by
  have free : ∀ thread < THREADS, s.threads thread = none ↔ s.submitted.length ≤ thread := by
    intro thread below
    have row := served.threads thread
    rw [if_pos below] at row
    rw [← List.getElem?_eq_none_iff, ← row, Option.map_eq_none_iff]
  cases found : (List.range THREADS).find? fun thread => (s.threads thread).isNone with
  | none =>
    have full : THREADS ≤ s.submitted.length := by
      by_contra small
      rw [List.find?_range_eq_none] at found
      have room := found s.submitted.length (by omega)
      rw [(free _ (by omega)).mpr (Nat.le_refl _)] at room
      cases room
    simp only [State.execute, found]
    refine ⟨?_, ?_⟩
    · intro thread
      rw [served.threads thread]
      split
      · rw [List.getElem?_append_left (by omega)]
      · rfl
    · rw [served.tasks, List.drop_append_of_le_length full]
  | some thread =>
    obtain ⟨isFree, inRange, before⟩ := List.find?_range_eq_some.mp found
    have below := List.mem_range.mp inRange
    have atEnd : thread = s.submitted.length := by
      have reached := (free thread below).mp (Option.isNone_iff_eq_none.mp isFree)
      by_contra later
      have earlier := before s.submitted.length (by omega)
      rw [(free _ (by omega)).mpr (Nat.le_refl _)] at earlier
      cases earlier
    simp only [State.execute, found]
    refine ⟨?_, ?_⟩
    · intro other
      by_cases same : other = thread
      · subst same
        rw [Function.update_self, if_pos below, atEnd]
        simp
      · rw [Function.update_of_ne same, served.threads other]
        split
        · by_cases inside : other < s.submitted.length
          · rw [List.getElem?_append_left inside]
          · rw [List.getElem?_eq_none (by omega), List.getElem?_eq_none]
            simp only [List.length_append, List.length_singleton]
            omega
        · rfl
    · rw [served.tasks, List.drop_eq_nil_of_le (by omega), List.drop_eq_nil_of_le]
      simp only [List.length_append, List.length_singleton]
      omega

theorem submitted_execute (s : State T D) (topic : String) :
    (s.execute topic).submitted = s.submitted ++ [topic] ∧ (s.execute topic).queueMap = s.queueMap ∧
      (s.execute topic).puts = s.puts ∧ (s.execute topic).finished = s.finished ∧
      (s.execute topic).ended = s.ended ∧ (s.execute topic).isShutdown = s.isShutdown := by
  rcases execute_cases s topic with ⟨_, -, -, same⟩ | same <;> rw [same] <;> exact ⟨rfl, rfl, rfl, rfl, rfl, rfl⟩

theorem topics_goOn {thread : Nat} {topic : String} {old msg : Option D}
    (found : s.threads thread = some ⟨topic, old⟩) (other : Nat) :
    (Function.update s.threads thread (some ⟨topic, msg⟩) other).map Worker.topic =
      (s.threads other).map Worker.topic := by
  by_cases same : other = thread
  · subst same
    rw [Function.update_self, found]
    rfl
  · rw [Function.update_of_ne same]

theorem Served.offer (served : Served s) (put : Put D) {queue : List D}
    (present : (s.queueMap put.topic).isSome = true) : Served (s.offer put queue) := by
  unfold State.offer
  split
  · refine ⟨served.threads, served.tasks, served.lasts, ?_, served.finished⟩
    intro topic there
    by_cases own : topic = put.topic
    · rw [own]
      exact served.submitted put.topic present
    · exact served.submitted topic (isSome_of_update own there)
  · exact served

theorem Served.take (served : Served s) {thread : Nat} {topic : String} {msg : D} {rest : List D}
    (found : s.threads thread = some ⟨topic, none⟩) (queue : s.queueMap topic = some (msg :: rest)) :
    Served (s.take thread topic msg rest) := by
  refine ⟨fun other => (topics_goOn found other).trans (served.threads other), served.tasks, served.lasts, ?_,
    served.finished⟩
  intro other there
  by_cases own : other = topic
  · rw [own]
    exact served.submitted topic (by rw [queue]; rfl)
  · exact served.submitted other (isSome_of_update own there)

theorem Served.consume (served : Served s) {thread : Nat} {topic : String} {msg : D} {outcome : Outcome}
    (found : s.threads thread = some ⟨topic, some msg⟩) (lasts : outcome ≠ .error) :
    Served (s.consume thread topic msg outcome) := by
  unfold State.consume
  simp only [lasts, if_false]
  refine ⟨fun other => (topics_goOn found other).trans (served.threads other), served.tasks, served.lasts,
    served.submitted, ?_⟩
  intro other some
  by_cases own : other = topic
  · rw [own, ← served.running_iff]
    exact ⟨thread, _, found, rfl⟩
  · change Function.update s.finished topic _ other ≠ [] at some
    rw [Function.update_of_ne own] at some
    exact served.finished other some

theorem Served.silent_of_late (served : Served s) {topic : String} (late : topic ∉ s.submitted.take THREADS) :
    s.finished topic = [] ∧ ∀ msg, ¬ Writing s topic msg := by
  refine ⟨?_, ?_⟩
  · by_contra some
    exact late (served.finished topic some)
  · rintro msg ⟨thread, found⟩
    exact late ((served.running_iff topic).mp ⟨thread, _, found, rfl⟩)

theorem Served.nodup (sound : Sound s) (served : Served s) : s.submitted.Nodup := by
  rw [← List.take_append_drop THREADS s.submitted, List.nodup_append', ← served.tasks]
  refine ⟨?_, sound.apart.waiting, ?_⟩
  · rw [List.nodup_iff_injective_getElem]
    rintro ⟨i, belowI⟩ ⟨j, belowJ⟩ same
    rw [List.length_take] at belowI belowJ
    have topicOf : ∀ k, k < min THREADS s.submitted.length → ∃ worker, s.threads k = some worker ∧
        s.submitted[k]? = some worker.topic := by
      intro k below
      have row := served.threads k
      rw [if_pos (by omega), List.getElem?_eq_getElem (by omega)] at row
      obtain ⟨worker, found, topic⟩ := Option.map_eq_some_iff.mp row
      exact ⟨worker, found, by rw [List.getElem?_eq_getElem (by omega), topic]⟩
    obtain ⟨worker, foundI, topicI⟩ := topicOf i belowI
    obtain ⟨other, foundJ, topicJ⟩ := topicOf j belowJ
    have sameTopic : worker.topic = other.topic := by
      simp only [List.getElem_take] at same
      rw [List.getElem?_eq_getElem (by omega)] at topicI topicJ
      rw [← Option.some.inj topicI, ← Option.some.inj topicJ]
      exact same
    exact Fin.ext (sound.apart.alone i j worker other foundI foundJ sameTopic)
  · intro topic early waits
    obtain ⟨thread, worker, found, rfl⟩ := (served.running_iff topic).mpr early
    exact (sound.apart.running thread worker found).1 waits

end Serving

section Runs
variable [DecidableEq T] {s : State T D}

theorem Served.setPut (served : Served s) (t : T) {put : Option (Put D)}
    (outside : ∀ old, s.puts t = some old → old.phase ≠ .submitting) : Served (s.setPut t put) := by
  refine ⟨served.threads, served.tasks, served.lasts, ?_, served.finished⟩
  intro topic present
  rcases served.submitted topic present with done | ⟨u, old, found, submitting, same⟩
  · exact Or.inl done
  · refine Or.inr ⟨u, old, ?_, submitting, same⟩
    refine update_eq_some_iff.mpr (Or.inr ⟨?_, found⟩)
    rintro rfl
    exact outside old found submitting

theorem Served.enter (served : Served s) {t : T} {put : Put D} (found : s.puts t = some put)
    (outside : put.phase = .outside) : Served (s.enter t put) := by
  have away : ∀ old, s.puts t = some old → old.phase ≠ .submitting := by
    intro old same submitting
    rw [found] at same
    cases same
    rw [outside] at submitting
    cases submitting
  unfold State.enter
  split
  · exact served.setPut t away
  · have moved : Served (s.setPut t (some { put with phase := .submitting })) := served.setPut t away
    refine ⟨moved.threads, moved.tasks, moved.lasts, ?_, moved.finished⟩
    intro topic present
    by_cases same : topic = put.topic
    · exact Or.inr ⟨t, { put with phase := .submitting }, update_eq_some_iff.mpr (Or.inl ⟨rfl, rfl⟩), rfl, same.symm⟩
    · exact moved.submitted topic (isSome_of_update same present)

theorem Served.submit (served : Served s) {t : T} {put : Put D} (found : s.puts t = some put) :
    Served (s.submit t put) := by
  obtain ⟨submitted, queues, puts, finished, ended, up⟩ := submitted_execute s put.topic
  obtain ⟨threads, tasks⟩ := served.execute put.topic
  unfold State.submit
  rw [served.lasts.2, if_neg Bool.false_ne_true]
  refine ⟨?_, ?_, ⟨ended.trans served.lasts.1, up.trans served.lasts.2⟩, ?_, ?_⟩
  · intro thread
    show ((s.execute put.topic).threads thread).map Worker.topic =
      if thread < THREADS then (s.execute put.topic).submitted[thread]? else none
    rw [submitted]
    exact threads thread
  · show (s.execute put.topic).tasks = (s.execute put.topic).submitted.drop THREADS
    rw [submitted]
    exact tasks
  · intro topic present
    change ((s.execute put.topic).queueMap topic).isSome = true at present
    show topic ∈ (s.execute put.topic).submitted ∨ _
    rw [queues] at present
    rw [submitted, List.mem_append, List.mem_singleton]
    rcases served.submitted topic present with done | ⟨u, old, there, submitting, rfl⟩
    · exact Or.inl (Or.inl done)
    · by_cases own : u = t
      · subst own
        rw [found] at there
        cases there
        exact Or.inl (Or.inr rfl)
      · refine Or.inr ⟨u, old, update_eq_some_iff.mpr (Or.inr ⟨own, ?_⟩), submitting, rfl⟩
        rw [puts]
        exact there
  · intro topic some
    change (s.execute put.topic).finished topic ≠ [] at some
    show topic ∈ (s.execute put.topic).submitted.take THREADS
    rw [finished] at some
    rw [submitted]
    have early := served.finished topic some
    rw [mem_take_iff_getElem?] at early ⊢
    obtain ⟨i, below, there⟩ := early
    refine ⟨i, below, ?_⟩
    rw [List.getElem?_append_left (List.getElem?_eq_some_iff.mp there).choose]
    exact there

theorem served_of_reachable (reached : ((system T D).restrict Lasting).Reachable s) : Sound s ∧ Served s := by
  refine reached.invariant (fun s => Sound s ∧ Served s) ?_ ?_
  · rintro _ rfl
    refine ⟨sound_start, ?_, rfl, ⟨rfl, rfl⟩, ?_, ?_⟩
    · intro thread
      simp [start]
    · rintro _ ⟨⟩
    · intro topic some
      exact absurd rfl some
  · rintro s a ⟨sound, served⟩ ⟨enabled, lasting⟩
    refine ⟨sound_effect sound a enabled, ?_⟩
    cases a with
    | call t topic data =>
      refine served.setPut t ?_
      intro old found
      change s.puts t = none at enabled
      rw [enabled] at found
      cases found
    | enter t =>
      obtain ⟨put, found, outside⟩ := some_of_inPhase enabled.2
      show Served (effect s (.enter t))
      simp only [effect, found]
      exact served.enter found outside
    | submit t =>
      obtain ⟨put, found, -⟩ := some_of_inPhase enabled
      show Served (effect s (.submit t))
      simp only [effect, found]
      exact served.submit found
    | offer t =>
      obtain ⟨put, found, offering⟩ := some_of_inPhase enabled
      show Served (effect s (.offer t))
      simp only [effect, found]
      refine (served.offer put (sound.offers t put found offering)).setPut t ?_
      intro old there submitting
      have same : (s.offer put ((s.queueMap put.topic).getD [])).puts = s.puts := by
        unfold State.offer
        split <;> rfl
      rw [same, found] at there
      cases there
      rw [offering] at submitting
      cases submitting
    | take thread =>
      obtain ⟨topic, msg, rest, found, queue, same⟩ := take_cases enabled
      show Served (effect s (.take thread))
      rw [same]
      exact served.take found queue
    | write thread outcome =>
      obtain ⟨topic, msg, found, same⟩ := write_cases enabled
      show Served (effect s (.write thread outcome))
      rw [same]
      exact served.consume found lasting
    | shutdown => exact lasting.elim
    | shutdownNow =>
      have down : s.isShutdown = true := enabled
      rw [served.lasts.2] at down
      cases down

theorem Served.finished_of_idle (sound : Sound s) (served : Served s) (reached : (system T D).Reachable s)
    (idle : Idle s) {topic : String} (early : topic ∈ s.submitted.take THREADS) :
    s.finished topic = s.accepted topic := by
  obtain ⟨hand, writing, accepted, -⟩ := accepted_of_reachable reached topic
  obtain ⟨thread, ⟨own, msg⟩, found, rfl⟩ := (served.running_iff topic).mpr early
  have below : thread < THREADS := by
    by_contra beyond
    have row := served.threads thread
    rw [if_neg beyond, found] at row
    cases row
  obtain ⟨noTake, noWrite⟩ := idle thread below
  have waits : msg = none := by
    by_contra some
    refine noWrite ?_
    rw [guard, found]
    exact Option.isSome_iff_ne_none.mpr some
  subst waits
  have drained : (s.queueMap own).getD [] = [] := by
    by_contra some
    refine noTake ?_
    rw [guard, found]
    simpa using some
  have empty : hand = none := by
    cases hand with
    | none => rfl
    | some msg =>
      obtain ⟨other, writes⟩ := (writing msg).mpr rfl
      have same := sound.apart.alone other thread _ _ writes found rfl
      rw [same, found] at writes
      cases writes
  rw [accepted, drained, empty]
  simp

theorem accepted_of_silent (reached : (system T D).Reachable s) {topic : String} (nothing : s.finished topic = [])
    (silent : ∀ msg, ¬ Writing s topic msg) : s.accepted topic = (s.queueMap topic).getD [] ∧
      ((s.queueMap topic).getD []).length ≤ DEFAULT_QUEUE_SIZE := by
  obtain ⟨hand, writing, accepted, bound⟩ := accepted_of_reachable reached topic
  have empty : hand = none := by
    cases hand with
    | none => rfl
    | some msg => exact absurd ((writing msg).mpr rfl) (silent msg)
  refine ⟨?_, bound⟩
  rw [accepted, nothing, empty]
  simp

/-- As long as no task ends, the first measurements are written and the others never are: the database gets
nothing of them, and their queues fill up. -/
theorem starves_of_lasting (reached : ((system T D).restrict Lasting).Reachable s) :
    (∀ topic, Running s topic ↔ topic ∈ s.submitted.take THREADS) ∧
      (∀ topic ∉ s.submitted.take THREADS, s.finished topic = [] ∧ (∀ msg, ¬ Writing s topic msg) ∧
        (s.accepted topic).length ≤ DEFAULT_QUEUE_SIZE) ∧
      (Idle s → ∀ topic ∈ s.submitted.take THREADS, s.finished topic = s.accepted topic) := by
  obtain ⟨sound, served⟩ := served_of_reachable reached
  refine ⟨served.running_iff, ?_, fun idle topic early => served.finished_of_idle sound reached.of_restrict idle early⟩
  intro topic late
  obtain ⟨nothing, silent⟩ := served.silent_of_late late
  obtain ⟨queued, bound⟩ := accepted_of_silent reached.of_restrict nothing silent
  exact ⟨nothing, silent, by rw [queued]; exact bound⟩

/-! ### The measurements of the collector -/

/-- The measurements that `put` is called for. -/
def MEASUREMENTS : List String :=
  ["cluster_number_info", "cluster_string_info", "mq_broker_number_info", "mq_broker_string_info",
   "mq_consumer_number_info", "mq_consumer_string_info", "mq_topic_info", "statistic_topic_daily_offsets_info",
   "statistic_cluster_daily_offsets_info", "kafka_consumer_number_info", "kafka_broker_info", "kafka_topic_info",
   "kafka_env_info", "topic_top_info", "consumer_top_info", "rt_time"]

def Measures : Action T D → Prop
  | .call _ topic _ => topic ∈ MEASUREMENTS
  | _ => True

/-- All the names there are. -/
structure Measured (s : State T D) : Prop where
  puts : ∀ t put, s.puts t = some put → put.topic ∈ MEASUREMENTS
  submitted : ∀ topic ∈ s.submitted, topic ∈ MEASUREMENTS

theorem measured_effect (measured : Measured s) {a : Action T D} (enabled : guard s a) (measures : Measures a) :
    Measured (effect s a) := by
  have setPut : ∀ {t : T} {s' : State T D} (put : Option (Put D)),
      (∀ new, put = some new → new.topic ∈ MEASUREMENTS) →
      s'.puts = Function.update s.puts t put → s'.submitted = s.submitted → Measured s' := by
    intro t s' put known puts submitted
    refine ⟨?_, by rw [submitted]; exact measured.submitted⟩
    intro u new found
    rw [puts] at found
    rcases update_eq_some_iff.mp found with ⟨-, here⟩ | ⟨-, there⟩
    · exact known new here
    · exact measured.puts u new there
  cases a with
  | call t topic data =>
    refine setPut _ ?_ rfl rfl
    rintro _ ⟨⟩
    exact measures
  | enter t =>
    obtain ⟨put, found, -⟩ := some_of_inPhase enabled.2
    simp only [effect, found, State.enter]
    split
    · refine setPut _ ?_ rfl rfl
      rintro _ ⟨⟩
      exact measured.puts t put found
    · refine setPut (some { put with phase := .submitting }) ?_ rfl rfl
      rintro _ ⟨⟩
      exact measured.puts t put found
  | submit t =>
    obtain ⟨put, found, -⟩ := some_of_inPhase enabled
    have known := measured.puts t put found
    obtain ⟨submitted, -, puts, -⟩ := submitted_execute s put.topic
    simp only [effect, found, State.submit]
    split
    · refine setPut none ?_ rfl rfl
      rintro _ ⟨⟩
    · refine ⟨?_, ?_⟩
      · intro u new there
        rcases update_eq_some_iff.mp there with ⟨-, here⟩ | ⟨-, before⟩
        · cases here
          exact known
        · rw [puts] at before
          exact measured.puts u new before
      · intro topic member
        change topic ∈ (s.execute put.topic).submitted at member
        rw [submitted, List.mem_append, List.mem_singleton] at member
        rcases member with earlier | rfl
        · exact measured.submitted topic earlier
        · exact known
  | offer t =>
    obtain ⟨put, found, -⟩ := some_of_inPhase enabled
    simp only [effect, found, State.offer]
    split <;> refine setPut none ?_ rfl rfl <;> rintro _ ⟨⟩
  | take thread =>
    obtain ⟨topic, msg, rest, -, -, same⟩ := take_cases enabled
    rw [same]
    exact ⟨measured.puts, measured.submitted⟩
  | write thread outcome =>
    obtain ⟨topic, msg, -, same⟩ := write_cases enabled
    rw [same, State.consume]
    simp only
    split <;> exact ⟨measured.puts, measured.submitted⟩
  | shutdown => exact ⟨measured.puts, measured.submitted⟩
  | shutdownNow => exact ⟨measured.puts, measured.submitted⟩

/-- The collector has fewer measurements than threads: once all calls are over and every task waits, the
database has got all that was accepted. -/
theorem finished_measurements
    (reached : ((system T D).restrict fun s a => Lasting s a ∧ Measures a).Reachable s) (settled : ∀ t, s.puts t = none)
    (idle : Idle s) (topic : String) : s.finished topic = s.accepted topic := by
  have lasting : ((system T D).restrict Lasting).Reachable s := by
    refine reached.invariant ((system T D).restrict Lasting).Reachable ?_ ?_
    · intro s initial
      exact .start initial
    · rintro s a before ⟨enabled, lasts, -⟩
      exact .step before ⟨enabled, lasts⟩
  obtain ⟨sound, served⟩ := served_of_reachable lasting
  have measured : Measured s := by
    refine reached.invariant Measured ?_ ?_
    · rintro _ rfl
      exact ⟨by rintro _ _ ⟨⟩, by rintro _ ⟨⟩⟩
    · rintro s a measured ⟨enabled, -, measures⟩
      exact measured_effect measured enabled measures
  have few : s.submitted.length ≤ THREADS :=
    ((served.nodup sound).subperm measured.submitted).length_le.trans (by decide)
  by_cases early : topic ∈ s.submitted
  · refine served.finished_of_idle sound lasting.of_restrict idle ?_
    rwa [List.take_of_length_le few]
  · obtain ⟨nothing, silent⟩ := served.silent_of_late fun taken => early (List.mem_of_mem_take taken)
    have none : s.queueMap topic = none := by
      by_contra some
      rcases served.submitted topic (Option.isSome_iff_ne_none.mpr some) with there | ⟨t, put, found, -⟩
      · exact early there
      · rw [settled t] at found
        cases found
    rw [nothing, (accepted_of_silent lasting.of_restrict nothing silent).1, none]
    rfl

end Runs

/-! ### Twenty-one measurements -/

def whole (t : Nat) (topic : String) (data : Nat) : List (Action Nat Nat) :=
  [.call t topic data, .enter t, .submit t, .offer t]

instance (s : State T D) (a : Action T D) : Decidable (Lasting s a) :=
  Action.casesOn (motive := fun a => Decidable (Lasting s a)) a
    (fun _ _ _ => inferInstanceAs (Decidable True)) (fun _ => inferInstanceAs (Decidable True))
    (fun _ => inferInstanceAs (Decidable True)) (fun _ => inferInstanceAs (Decidable True))
    (fun _ => inferInstanceAs (Decidable True)) (fun _ outcome => inferInstanceAs (Decidable (outcome ≠ .error)))
    (inferInstanceAs (Decidable False)) (inferInstanceAs (Decidable True))

theorem starves_twenty_first : ∃ s : State Nat Nat, ((system Nat Nat).restrict Lasting).Reachable s ∧
    (s.accepted "20" = [7] ∧ "20" ∉ s.submitted.take THREADS) ∧
    (∀ topic, Running s topic ↔ topic ∈ s.submitted.take THREADS) ∧
      (∀ topic ∉ s.submitted.take THREADS, s.finished topic = [] ∧ (∀ msg, ¬ Writing s topic msg) ∧
        (s.accepted topic).length ≤ DEFAULT_QUEUE_SIZE) ∧
      (Idle s → ∀ topic ∈ s.submitted.take THREADS, s.finished topic = s.accepted topic) := by
  have run : ∃ s : State Nat Nat, ((system Nat Nat).restrict Lasting).Reachable s ∧
      (s.accepted "20" = [7] ∧ "20" ∉ s.submitted.take THREADS) :=
    Guarded.exists_reachable ((List.range 21).flatMap fun n => whole 0 (toString n) 7) rfl (by decide +kernel)
  obtain ⟨s, reached, facts⟩ := run
  exact ⟨s, reached, facts, starves_of_lasting reached⟩

instance (a : Action T D) : Decidable (Measures a) :=
  Action.casesOn (motive := fun a => Decidable (Measures a)) a
    (fun _ topic _ => inferInstanceAs (Decidable (topic ∈ MEASUREMENTS))) (fun _ => inferInstanceAs (Decidable True))
    (fun _ => inferInstanceAs (Decidable True)) (fun _ => inferInstanceAs (Decidable True))
    (fun _ => inferInstanceAs (Decidable True)) (fun _ _ => inferInstanceAs (Decidable True))
    (inferInstanceAs (Decidable True)) (inferInstanceAs (Decidable True))

theorem finished_two_measurements : ∃ s : State Unit Nat,
    ((system Unit Nat).restrict fun s a => Lasting s a ∧ Measures a).Reachable s ∧
    s.accepted "rt_time" = [1, 2] ∧ ∀ topic, s.finished topic = s.accepted topic := by
  have run : ∃ s : State Unit Nat, ((system Unit Nat).restrict fun s a => Lasting s a ∧ Measures a).Reachable s ∧
      ((∀ t, s.puts t = none) ∧ Idle s ∧ s.accepted "rt_time" = [1, 2]) :=
    Guarded.exists_reachable
      [.call () "rt_time" 1, .enter (), .submit (), .offer (), .call () "mq_topic_info" 3, .enter (), .submit (),
        .take 0, .offer (), .call () "rt_time" 2, .write 0 .throws, .offer (), .take 1, .take 0, .write 1 .returns,
        .write 0 .returns]
      rfl (by decide +kernel)
  obtain ⟨s, reached, settled, idle, facts⟩ := run
  exact ⟨s, reached, facts, finished_measurements reached settled idle⟩

end Zms.Collector.MetricBuffer
