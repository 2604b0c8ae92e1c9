import Zms.Delivery.Channels
import Zms.Registry.Writes

/-! `MetricBuffer`: a bounded queue for each measurement, made by the first call of `put` for it,
and a task that writes its batches to the database, one after the other. The tasks never end by
themselves, and `executor` has a fixed number of threads.

A step is one access to the map, the monitor, a queue or the executor.
-/

set_option autoImplicit false

namespace Zms.Collector.MetricBuffer

open Transition Delivery
open Registry.Writes (update_eq_some_iff)

variable {T D : Type}

def DEFAULT_QUEUE_SIZE : Nat := 10240

def THREADS : Nat := 20

inductive Phase where
  /-- Found no queue, and has yet to enter the monitor. -/
  | outside
  /-- Has put a queue, and holds the monitor. -/
  | submitting
  | offering
  deriving DecidableEq, Repr

structure Put (D : Type) where
  topic : String
  data : D
  phase : Phase
  deriving DecidableEq, Repr

/-- A task in its thread, with the batch that it is writing. -/
structure Worker (D : Type) where
  topic : String
  msg : Option D
  deriving DecidableEq, Repr

/-- `tasks` wait for a thread. The last four tell of the past: what `offer` took, what was handed to the
database, the tasks that the executor took, and those that will not run any more. -/
structure State (T D : Type) where
  queueMap : String → Option (List D)
  locked : Option T
  puts : T → Option (Put D)
  threads : Nat → Option (Worker D)
  tasks : List String
  isShutdown : Bool
  accepted : String → List D
  finished : String → List D
  submitted : List String
  ended : List String

/-- How `consume` ends; an `Error` is not caught and ends the task. -/
inductive Outcome where
  | returns | throws | error
  deriving DecidableEq, Repr

inductive Action (T D : Type) where
  | call (t : T) (topic : String) (data : D)
  | enter (t : T)
  | submit (t : T)
  | offer (t : T)
  | take (thread : Nat)
  | write (thread : Nat) (outcome : Outcome)
  -- `gracefullyShutdown`; what waits in `take` is interrupted, and takes again
  | shutdown
  | shutdownNow

namespace State

/-- `execute` of the pool. -/
def execute (s : State T D) (topic : String) : State T D :=
  let s := { s with submitted := s.submitted ++ [topic] }
  match (List.range THREADS).find? fun thread => (s.threads thread).isNone with
  | some thread => { s with threads := Function.update s.threads thread (some ⟨topic, none⟩) }
  | none => { s with tasks := s.tasks ++ [topic] }

/-- A task ends; its thread goes on with one that waits. -/
def finishTask (s : State T D) (thread : Nat) (topic : String) : State T D :=
  { s with
    threads := Function.update s.threads thread (s.tasks.head?.map fun next => ⟨next, none⟩)
    tasks := s.tasks.tail
    ended := topic :: s.ended }

section
variable [DecidableEq T]

def setPut (s : State T D) (t : T) (put : Option (Put D)) : State T D :=
  { s with puts := Function.update s.puts t put }

/-- The part of `put` in the monitor, up to `submit`. -/
def enter (s : State T D) (t : T) (put : Put D) : State T D :=
  if (s.queueMap put.topic).isSome then s.setPut t (some { put with phase := .offering })
  else
    { s.setPut t (some { put with phase := .submitting }) with
      queueMap := Function.update s.queueMap put.topic (some [])
      locked := some t }

/-- An executor that is shut down refuses the task, and the call throws. -/
def submit (s : State T D) (t : T) (put : Put D) : State T D :=
  if s.isShutdown then { s.setPut t none with locked := none, ended := put.topic :: s.ended }
  else { (s.execute put.topic).setPut t (some { put with phase := .offering }) with locked := none }

/-- `offer` refuses what does not fit in. -/
def offer (s : State T D) (put : Put D) (queue : List D) : State T D :=
  if queue.length < DEFAULT_QUEUE_SIZE then
    { s with
      queueMap := Function.update s.queueMap put.topic (some (queue ++ [put.data]))
      accepted := Function.update s.accepted put.topic (s.accepted put.topic ++ [put.data]) }
  else s

end

def take (s : State T D) (thread : Nat) (topic : String) (msg : D) (rest : List D) : State T D :=
  { s with
    queueMap := Function.update s.queueMap topic (some rest)
    threads := Function.update s.threads thread (some ⟨topic, some msg⟩) }

def consume (s : State T D) (thread : Nat) (topic : String) (msg : D) (outcome : Outcome) : State T D :=
  let s := { s with finished := Function.update s.finished topic (s.finished topic ++ [msg]) }
  if outcome = .error then s.finishTask thread topic
  else { s with threads := Function.update s.threads thread (some ⟨topic, none⟩) }

end State

section Machine
variable [DecidableEq T]

def effect (s : State T D) : Action T D → State T D
  | .call t topic data =>
      s.setPut t (some ⟨topic, data, if (s.queueMap topic).isSome then .offering else .outside⟩)
  | .enter t =>
    match s.puts t with
    | some put => s.enter t put
    | none => s
  | .submit t =>
    match s.puts t with
    | some put => s.submit t put
    | none => s
  | .offer t =>
    match s.puts t with
    | some put => (s.offer put ((s.queueMap put.topic).getD [])).setPut t none
    | none => s
  | .take thread =>
    match s.threads thread with
    | some worker =>
      match s.queueMap worker.topic with
      | some (msg :: rest) => s.take thread worker.topic msg rest
      | _ => s
    | none => s
  | .write thread outcome =>
    match s.threads thread with
    | some ⟨topic, some msg⟩ => s.consume thread topic msg outcome
    | _ => s
  | .shutdown => { s with isShutdown := true }
  | .shutdownNow => { s with tasks := [], ended := s.tasks ++ s.ended }

def InPhase (s : State T D) (t : T) (phase : Phase) : Prop := (s.puts t).map Put.phase = some phase

def guard (s : State T D) : Action T D → Prop
  | .call t _ _ => s.puts t = none
  | .enter t => s.locked = none ∧ InPhase s t .outside
  | .submit t => InPhase s t .submitting
  | .offer t => InPhase s t .offering
  | .take thread =>
      ((s.threads thread).any fun worker =>
        worker.msg.isNone && !((s.queueMap worker.topic).getD []).isEmpty) = true
  | .write thread _ => ((s.threads thread).any fun worker => worker.msg.isSome) = true
  | .shutdown => True
  | .shutdownNow => s.isShutdown = true

def start : State T D where
  queueMap _ := none
  locked := none
  puts _ := none
  threads _ := none
  tasks := []
  isShutdown := false
  accepted _ := []
  finished _ := []
  submitted := []
  ended := []

def system (T D : Type) [DecidableEq T] : Guarded (State T D) (Action T D) where
  init s := s = start
  guard := guard
  effect := effect

instance guardDecidable (s : State T D) (a : Action T D) : Decidable (guard s a) :=
  Action.casesOn (motive := fun a => Decidable (guard s a)) a
    (fun t _ _ => inferInstanceAs (Decidable (s.puts t = none)))
    (fun t => inferInstanceAs (Decidable (s.locked = none ∧ (s.puts t).map Put.phase = some .outside)))
    (fun t => inferInstanceAs (Decidable ((s.puts t).map Put.phase = some .submitting)))
    (fun t => inferInstanceAs (Decidable ((s.puts t).map Put.phase = some .offering)))
    (fun _ => inferInstanceAs (Decidable (_ = true)))
    (fun _ _ => inferInstanceAs (Decidable (_ = true)))
    (inferInstanceAs (Decidable True))
    (inferInstanceAs (Decidable (_ = true)))

instance (s : State T D) (a : Action T D) : Decidable ((system T D).guard s a) := guardDecidable s a

end Machine

/-! ### One task for each measurement -/

def Running (s : State T D) (topic : String) : Prop :=
  ∃ thread worker, s.threads thread = some worker ∧ worker.topic = topic

/-- A task was submitted for the measurement, whatever has become of it. -/
def HasTask (s : State T D) (topic : String) : Prop := Running s topic ∨ topic ∈ s.tasks ∨ topic ∈ s.ended

/-- No measurement has two tasks. -/
structure Apart (s : State T D) : Prop where
  alone : ∀ i j worker other, s.threads i = some worker → s.threads j = some other →
    worker.topic = other.topic → i = j
  running : ∀ thread worker, s.threads thread = some worker →
    worker.topic ∉ s.tasks ∧ worker.topic ∉ s.ended
  waiting : s.tasks.Nodup
  ended : ∀ topic ∈ s.tasks, topic ∉ s.ended

structure Sound (s : State T D) : Prop where
  apart : Apart s
  known : ∀ topic, HasTask s topic → (s.queueMap topic).isSome = true
  holder : ∀ t put, s.puts t = some put → put.phase = .submitting →
    s.locked = some t ∧ (s.queueMap put.topic).isSome = true ∧ ¬ HasTask s put.topic
  offers : ∀ t put, s.puts t = some put → put.phase = .offering → (s.queueMap put.topic).isSome = true

section Tasks
variable {s : State T D}

theorem execute_cases (s : State T D) (topic : String) :
    (∃ thread < THREADS, s.threads thread = none ∧ s.execute topic =
      { s with
        submitted := s.submitted ++ [topic]
        threads := Function.update s.threads thread (some ⟨topic, none⟩) }) ∨
    s.execute topic = { s with submitted := s.submitted ++ [topic], tasks := s.tasks ++ [topic] } := by
  cases found : (List.range THREADS).find? fun thread => (s.threads thread).isNone with
  | none =>
    right
    simp only [State.execute, found]
  | some thread =>
    left
    obtain ⟨free, inRange, -⟩ := List.find?_range_eq_some.mp found
    refine ⟨thread, List.mem_range.mp inRange, Option.isNone_iff_eq_none.mp free, ?_⟩
    simp only [State.execute, found]

theorem Apart.execute (apart : Apart s) {topic : String} (fresh : ¬ HasTask s topic) : Apart (s.execute topic) := by
  obtain ⟨notRunning, rest⟩ := not_or.mp fresh
  obtain ⟨notWaiting, notEnded⟩ := not_or.mp rest
  rcases execute_cases s topic with ⟨thread, -, -, same⟩ | same
  · rw [same]
    refine ⟨?_, ?_, apart.waiting, apart.ended⟩
    · intro i j worker other atI atJ sameTopic
      rcases update_eq_some_iff.mp atI with ⟨rfl, first⟩ | ⟨-, first⟩ <;>
        rcases update_eq_some_iff.mp atJ with ⟨rfl, second⟩ | ⟨-, second⟩
      · rfl
      · cases first
        exact absurd ⟨j, other, second, sameTopic.symm⟩ notRunning
      · cases second
        exact absurd ⟨i, worker, first, sameTopic⟩ notRunning
      · exact apart.alone i j worker other first second sameTopic
    · intro i worker atI
      rcases update_eq_some_iff.mp atI with ⟨rfl, first⟩ | ⟨-, first⟩
      · cases first
        exact ⟨notWaiting, notEnded⟩
      · exact apart.running i worker first
  · rw [same]
    refine ⟨apart.alone, ?_, ?_, ?_⟩
    · intro i worker atI
      have before := apart.running i worker atI
      refine ⟨?_, before.2⟩
      rw [List.mem_append, List.mem_singleton]
      rintro (earlier | sameTopic)
      · exact before.1 earlier
      · exact notRunning ⟨i, worker, atI, sameTopic⟩
    · rw [← List.concat_eq_append]
      exact apart.waiting.concat notWaiting
    · intro other member
      rw [List.mem_append, List.mem_singleton] at member
      rcases member with earlier | rfl
      · exact apart.ended other earlier
      · exact notEnded

theorem hasTask_execute (topic other : String) :
    HasTask (s.execute topic) other ↔ HasTask s other ∨ other = topic := by
  rcases execute_cases s topic with ⟨thread, -, free, same⟩ | same
  · rw [same]
    constructor
    · rintro (⟨i, worker, atI, rfl⟩ | earlier)
      · rcases update_eq_some_iff.mp atI with ⟨rfl, first⟩ | ⟨-, first⟩
        · cases first
          exact Or.inr rfl
        · exact Or.inl (Or.inl ⟨i, worker, first, rfl⟩)
      · exact Or.inl (Or.inr earlier)
    · rintro ((⟨i, worker, atI, rfl⟩ | earlier) | rfl)
      · have elsewhere : i ≠ thread := by
          rintro rfl
          rw [free] at atI
          cases atI
        exact Or.inl ⟨i, worker, update_eq_some_iff.mpr (Or.inr ⟨elsewhere, atI⟩), rfl⟩
      · exact Or.inr earlier
      · exact Or.inl ⟨thread, ⟨other, none⟩, update_eq_some_iff.mpr (Or.inl ⟨rfl, rfl⟩), rfl⟩
  · rw [same]
    simp only [HasTask, List.mem_append, List.mem_singleton]
    constructor
    · rintro (running | (waits | rfl) | ended)
      · exact Or.inl (Or.inl running)
      · exact Or.inl (Or.inr (Or.inl waits))
      · exact Or.inr rfl
      · exact Or.inl (Or.inr (Or.inr ended))
    · rintro ((running | waits | ended) | rfl)
      · exact Or.inl running
      · exact Or.inr (Or.inl (Or.inl waits))
      · exact Or.inr (Or.inr ended)
      · exact Or.inr (Or.inl (Or.inr rfl))

theorem Apart.goOn (apart : Apart s) {thread : Nat} {topic : String} {old : Option D}
    (found : s.threads thread = some ⟨topic, old⟩) (t : State T D) (msg : Option D)
    (threads : t.threads = Function.update s.threads thread (some ⟨topic, msg⟩)) (tasks : t.tasks = s.tasks)
    (ended : t.ended = s.ended) : Apart t := by
  have earlier : ∀ i worker, t.threads i = some worker →
      ∃ before, s.threads i = some before ∧ before.topic = worker.topic := by
    intro i worker atI
    rw [threads] at atI
    rcases update_eq_some_iff.mp atI with ⟨rfl, first⟩ | ⟨-, first⟩
    · cases first
      exact ⟨_, found, rfl⟩
    · exact ⟨worker, first, rfl⟩
  refine ⟨?_, ?_, by rw [tasks]; exact apart.waiting, by rw [tasks, ended]; exact apart.ended⟩
  · intro i j worker other atI atJ sameTopic
    obtain ⟨before, first, topicI⟩ := earlier i worker atI
    obtain ⟨otherBefore, second, topicJ⟩ := earlier j other atJ
    exact apart.alone i j before otherBefore first second (by rw [topicI, topicJ, sameTopic])
  · intro i worker atI
    obtain ⟨before, first, topicI⟩ := earlier i worker atI
    rw [tasks, ended, ← topicI]
    exact apart.running i before first

theorem hasTask_goOn {thread : Nat} {topic : String} {old : Option D} (found : s.threads thread = some ⟨topic, old⟩)
    (t : State T D) (msg : Option D) (threads : t.threads = Function.update s.threads thread (some ⟨topic, msg⟩))
    (tasks : t.tasks = s.tasks) (ended : t.ended = s.ended) (other : String) : HasTask t other ↔ HasTask s other := by
  have same : Running t other ↔ Running s other := by
    unfold Running
    rw [threads]
    constructor
    · rintro ⟨i, worker, atI, rfl⟩
      rcases update_eq_some_iff.mp atI with ⟨rfl, first⟩ | ⟨-, first⟩
      · cases first
        exact ⟨i, _, found, rfl⟩
      · exact ⟨i, worker, first, rfl⟩
    · rintro ⟨i, worker, atI, rfl⟩
      by_cases here : i = thread
      · subst here
        rw [found] at atI
        cases atI
        exact ⟨i, ⟨topic, msg⟩, update_eq_some_iff.mpr (Or.inl ⟨rfl, rfl⟩), rfl⟩
      · exact ⟨i, worker, update_eq_some_iff.mpr (Or.inr ⟨here, atI⟩), rfl⟩
  simp only [HasTask, same, tasks, ended]

theorem Apart.finishTask (apart : Apart s) {thread : Nat} {topic : String} {msg : Option D}
    (found : s.threads thread = some ⟨topic, msg⟩) : Apart (s.finishTask thread topic) := by
  obtain ⟨notWaiting, notEnded⟩ := apart.running thread _ found
  have next : ∀ worker, (s.tasks.head?.map fun next => (⟨next, none⟩ : Worker D)) = some worker →
      s.tasks = worker.topic :: s.tasks.tail := by
    intro worker taken
    obtain ⟨first, isFirst, rfl⟩ := Option.map_eq_some_iff.mp taken
    exact List.eq_cons_of_mem_head? isFirst
  have notHere : ∀ i worker, i ≠ thread → s.threads i = some worker → worker.topic ≠ topic := by
    intro i worker elsewhere atI sameTopic
    exact elsewhere (apart.alone i thread worker _ atI found sameTopic)
  have tail : ∀ other, other ∈ s.tasks.tail → other ∈ s.tasks := fun other => List.mem_of_mem_tail
  refine ⟨?_, ?_, apart.waiting.tail, ?_⟩
  · intro i j worker other atI atJ sameTopic
    rcases update_eq_some_iff.mp atI with ⟨rfl, first⟩ | ⟨-, first⟩ <;>
      rcases update_eq_some_iff.mp atJ with ⟨rfl, second⟩ | ⟨-, second⟩
    · rfl
    · refine absurd ?_ (apart.running j other second).1
      rw [← sameTopic, next worker first]
      exact List.mem_cons_self
    · refine absurd ?_ (apart.running i worker first).1
      rw [sameTopic, next other second]
      exact List.mem_cons_self
    · exact apart.alone i j worker other first second sameTopic
  · intro i worker atI
    rcases update_eq_some_iff.mp atI with ⟨rfl, first⟩ | ⟨elsewhere, first⟩
    · have shape := next worker first
      have isTask : worker.topic ∈ s.tasks := by
        rw [shape]
        exact List.mem_cons_self
      have distinct := apart.waiting
      rw [shape] at distinct
      refine ⟨(List.nodup_cons.mp distinct).1, ?_⟩
      show worker.topic ∉ topic :: s.ended
      rw [List.mem_cons]
      rintro (same | earlier)
      · exact notWaiting (same ▸ isTask)
      · exact apart.ended _ isTask earlier
    · obtain ⟨free, going⟩ := apart.running i worker first
      refine ⟨fun member => free (tail _ member), ?_⟩
      show worker.topic ∉ topic :: s.ended
      rw [List.mem_cons]
      rintro (same | earlier)
      · exact notHere i worker elsewhere first same
      · exact going earlier
  · intro other member
    show other ∉ topic :: s.ended
    rw [List.mem_cons]
    rintro (rfl | earlier)
    · exact notWaiting (tail _ member)
    · exact apart.ended _ (tail _ member) earlier

theorem hasTask_finishTask {thread : Nat} {topic : String} {msg : Option D}
    (found : s.threads thread = some ⟨topic, msg⟩) (other : String) :
    HasTask (s.finishTask thread topic) other ↔ HasTask s other := by
  constructor
  · rintro (⟨i, worker, atI, rfl⟩ | waits | ended)
    · rcases update_eq_some_iff.mp atI with ⟨rfl, first⟩ | ⟨-, first⟩
      · obtain ⟨next, isFirst, rfl⟩ := Option.map_eq_some_iff.mp first
        exact Or.inr (Or.inl (List.mem_of_mem_head? isFirst))
      · exact Or.inl ⟨i, worker, first, rfl⟩
    · exact Or.inr (Or.inl (List.mem_of_mem_tail waits))
    · rcases List.mem_cons.mp ended with rfl | earlier
      · exact Or.inl ⟨thread, _, found, rfl⟩
      · exact Or.inr (Or.inr earlier)
  · rintro (⟨i, worker, atI, rfl⟩ | waits | ended)
    · by_cases here : i = thread
      · subst here
        rw [found] at atI
        cases atI
        exact Or.inr (Or.inr List.mem_cons_self)
      · exact Or.inl ⟨i, worker, update_eq_some_iff.mpr (Or.inr ⟨here, atI⟩), rfl⟩
    · cases shape : s.tasks with
      | nil =>
        rw [shape] at waits
        cases waits
      | cons next rest =>
        rw [shape] at waits
        rcases List.mem_cons.mp waits with rfl | later
        · refine Or.inl ⟨thread, ⟨other, none⟩, update_eq_some_iff.mpr (Or.inl ⟨rfl, ?_⟩), rfl⟩
          rw [shape]
          exact rfl
        · refine Or.inr (Or.inl ?_)
          show other ∈ s.tasks.tail
          rw [shape]
          exact later
    · exact Or.inr (Or.inr (List.mem_cons_of_mem _ ended))

theorem isSome_of_update {queues : String → Option (List D)} {topic other : String} {queue : List D}
    (differ : other ≠ topic) (present : (Function.update queues topic (some queue) other).isSome = true) :
    (queues other).isSome = true := by
  rwa [Function.update_of_ne differ] at present

theorem some_of_inPhase {t : T} {phase : Phase} (inPhase : InPhase s t phase) :
    ∃ put, s.puts t = some put ∧ put.phase = phase := Option.map_eq_some_iff.mp inPhase

theorem Sound.queues (sound : Sound s) {t : State T D} (apart : Apart t) (locked : t.locked = s.locked)
    (puts : t.puts = s.puts) (tasks : ∀ topic, HasTask t topic ↔ HasTask s topic)
    (keeps : ∀ topic, (s.queueMap topic).isSome = true → (t.queueMap topic).isSome = true) : Sound t := by
  refine ⟨apart, ?_, ?_, ?_⟩
  · intro topic task
    exact keeps topic (sound.known topic ((tasks topic).mp task))
  · intro u put found submitting
    rw [puts] at found
    obtain ⟨holds, present, none⟩ := sound.holder u put found submitting
    rw [locked, tasks]
    exact ⟨holds, keeps _ present, none⟩
  · intro u put found offering
    rw [puts] at found
    exact keeps _ (sound.offers u put found offering)

theorem sound_start : Sound (start : State T D) := by
  refine ⟨⟨?_, ?_, List.nodup_nil, ?_⟩, ?_, ?_, ?_⟩
  · rintro _ _ _ _ ⟨⟩
  · rintro _ _ ⟨⟩
  · rintro _ ⟨⟩
  · rintro _ (⟨_, _, ⟨⟩, _⟩ | ⟨⟨⟩⟩ | ⟨⟨⟩⟩)
  · rintro _ _ ⟨⟩
  · rintro _ _ ⟨⟩

theorem isSome_update {queues : String → Option (List D)} {topic other : String} (queue : List D)
    (present : (queues other).isSome = true) : (Function.update queues topic (some queue) other).isSome = true := by
  by_cases same : other = topic
  · subst same
    simp
  · rwa [Function.update_of_ne same]

theorem Sound.offer (sound : Sound s) (put : Put D) (queue : List D) : Sound (s.offer put queue) := by
  unfold State.offer
  split
  · exact sound.queues ⟨sound.apart.alone, sound.apart.running, sound.apart.waiting, sound.apart.ended⟩ rfl rfl
      (fun _ => Iff.rfl) fun _ => isSome_update _
  · exact sound

theorem Sound.take (sound : Sound s) {thread : Nat} {topic : String} {old : Option D}
    (found : s.threads thread = some ⟨topic, old⟩) (msg : D) (rest : List D) :
    Sound (s.take thread topic msg rest) :=
  sound.queues (sound.apart.goOn found _ (some msg) rfl rfl rfl) rfl rfl
    (hasTask_goOn found _ (some msg) rfl rfl rfl) fun _ => isSome_update _

theorem Sound.consume (sound : Sound s) {thread : Nat} {topic : String} {old : Option D}
    (found : s.threads thread = some ⟨topic, old⟩) (msg : D) (outcome : Outcome) :
    Sound (s.consume thread topic msg outcome) := by
  unfold State.consume
  simp only
  split
  · have apart := sound.apart.finishTask found
    exact sound.queues ⟨apart.alone, apart.running, apart.waiting, apart.ended⟩ rfl rfl
      (hasTask_finishTask found) fun _ present => present
  · exact sound.queues (sound.apart.goOn found _ none rfl rfl rfl) rfl rfl
      (hasTask_goOn found _ none rfl rfl rfl) fun _ present => present

theorem sound_shutdownNow (sound : Sound s) : Sound { s with tasks := [], ended := s.tasks ++ s.ended } := by
  refine sound.queues ⟨sound.apart.alone, ?_, List.nodup_nil, fun _ member => absurd member List.not_mem_nil⟩ rfl rfl ?_
    fun _ present => present
  · intro thread worker running
    obtain ⟨free, going⟩ := sound.apart.running thread worker running
    exact ⟨List.not_mem_nil, fun member => (List.mem_append.mp member).elim free going⟩
  · intro topic
    simp only [HasTask, Running, List.mem_append, List.not_mem_nil, false_or]

end Tasks

section Steps
variable [DecidableEq T] {s : State T D}

theorem Sound.setPut (sound : Sound s) (t : T) {put : Option (Put D)}
    (holder : ∀ new, put = some new → new.phase = .submitting →
      s.locked = some t ∧ (s.queueMap new.topic).isSome = true ∧ ¬ HasTask s new.topic)
    (offers : ∀ new, put = some new → new.phase = .offering → (s.queueMap new.topic).isSome = true) :
    Sound (s.setPut t put) := by
  refine ⟨⟨sound.apart.alone, sound.apart.running, sound.apart.waiting, sound.apart.ended⟩, sound.known, ?_, ?_⟩
  · intro u new found submitting
    rcases update_eq_some_iff.mp found with ⟨rfl, here⟩ | ⟨-, there⟩
    · exact holder new here submitting
    · exact sound.holder u new there submitting
  · intro u new found offering
    rcases update_eq_some_iff.mp found with ⟨rfl, here⟩ | ⟨-, there⟩
    · exact offers new here offering
    · exact sound.offers u new there offering

theorem Sound.enter (sound : Sound s) {t : T} {put : Put D} (free : s.locked = none) : Sound (s.enter t put) := by
  unfold State.enter
  split
  next present =>
    refine sound.setPut t ?_ ?_
    · rintro _ ⟨⟩ impossible
      cases impossible
    · rintro _ ⟨⟩ -
      exact present
  next absent =>
    have keeps : ∀ topic, (s.queueMap topic).isSome = true →
        (Function.update s.queueMap put.topic (some []) topic).isSome = true := fun _ => isSome_update []
    refine ⟨⟨sound.apart.alone, sound.apart.running, sound.apart.waiting, sound.apart.ended⟩, ?_, ?_, ?_⟩
    · intro topic task
      exact keeps topic (sound.known topic task)
    · intro u new found submitting
      rcases update_eq_some_iff.mp found with ⟨rfl, here⟩ | ⟨-, there⟩
      · cases here
        refine ⟨rfl, by simp, fun task => absent (sound.known put.topic task)⟩
      · have holds := (sound.holder u new there submitting).1
        rw [free] at holds
        cases holds
    · intro u new found offering
      rcases update_eq_some_iff.mp found with ⟨rfl, here⟩ | ⟨-, there⟩
      · cases here
        cases offering
      · exact keeps _ (sound.offers u new there offering)

theorem Sound.submit (sound : Sound s) {t : T} {put : Put D} (found : s.puts t = some put)
    (submitting : put.phase = .submitting) : Sound (s.submit t put) := by
  obtain ⟨holds, present, fresh⟩ := sound.holder t put found submitting
  -- nobody else is between its queue and its task
  have alone : ∀ u new, u ≠ t → s.puts u = some new → new.phase ≠ .submitting := by
    intro u new other there inMonitor
    have held := (sound.holder u new there inMonitor).1
    rw [holds] at held
    exact other (Option.some.inj held).symm
  unfold State.submit
  split
  · obtain ⟨notRunning, rest⟩ := not_or.mp fresh
    obtain ⟨notWaiting, notEnded⟩ := not_or.mp rest
    refine ⟨⟨sound.apart.alone, ?_, sound.apart.waiting, ?_⟩, ?_, ?_, ?_⟩
    · intro thread worker running
      obtain ⟨free, going⟩ := sound.apart.running thread worker running
      refine ⟨free, ?_⟩
      show worker.topic ∉ put.topic :: s.ended
      rw [List.mem_cons]
      exact not_or.mpr ⟨fun same => notRunning ⟨thread, worker, running, same⟩, going⟩
    · intro topic waits
      show topic ∉ put.topic :: s.ended
      rw [List.mem_cons]
      exact not_or.mpr ⟨fun same => notWaiting (same ▸ waits), sound.apart.ended topic waits⟩
    · rintro topic (running | waits | ended)
      · exact sound.known topic (Or.inl running)
      · exact sound.known topic (Or.inr (Or.inl waits))
      · rcases List.mem_cons.mp ended with rfl | earlier
        · exact present
        · exact sound.known topic (Or.inr (Or.inr earlier))
    · intro u new there inMonitor
      rcases update_eq_some_iff.mp there with ⟨-, ended⟩ | ⟨other, before⟩
      · cases ended
      · exact absurd inMonitor (alone u new other before)
    · intro u new there offering
      rcases update_eq_some_iff.mp there with ⟨-, ended⟩ | ⟨-, before⟩
      · cases ended
      · exact sound.offers u new before offering
  · have apart := sound.apart.execute fresh
    have queues : (s.execute put.topic).queueMap = s.queueMap ∧ (s.execute put.topic).puts = s.puts := by
      rcases execute_cases s put.topic with ⟨_, -, -, same⟩ | same <;> rw [same] <;> exact ⟨rfl, rfl⟩
    refine ⟨⟨apart.alone, apart.running, apart.waiting, apart.ended⟩, ?_, ?_, ?_⟩
    · intro topic task
      show ((s.execute put.topic).queueMap topic).isSome = true
      rw [queues.1]
      rcases (hasTask_execute put.topic topic).mp task with earlier | rfl
      · exact sound.known topic earlier
      · exact present
    · intro u new there inMonitor
      rcases update_eq_some_iff.mp there with ⟨-, here⟩ | ⟨other, before⟩
      · cases here
        cases inMonitor
      · rw [queues.2] at before
        exact absurd inMonitor (alone u new other before)
    · intro u new there offering
      show ((s.execute put.topic).queueMap new.topic).isSome = true
      rw [queues.1]
      rcases update_eq_some_iff.mp there with ⟨-, here⟩ | ⟨-, before⟩
      · cases here
        exact present
      · rw [queues.2] at before
        exact sound.offers u new before offering

theorem take_cases {thread : Nat} (enabled : guard s (.take thread)) : ∃ topic msg rest,
    s.threads thread = some ⟨topic, none⟩ ∧ s.queueMap topic = some (msg :: rest) ∧
      effect s (.take thread) = s.take thread topic msg rest := by
  obtain ⟨⟨topic, old⟩, found, waits⟩ := (Option.any_eq_true _ _).mp enabled
  rw [Bool.and_eq_true, Option.isNone_iff_eq_none] at waits
  obtain ⟨rfl, waiting⟩ := waits
  cases present : s.queueMap topic with
  | none => simp [present] at waiting
  | some queue =>
    cases queue with
    | nil => simp [present] at waiting
    | cons msg rest => exact ⟨topic, msg, rest, found, present, by simp only [effect, found, present]⟩

theorem write_cases {thread : Nat} {outcome : Outcome} (enabled : guard s (.write thread outcome)) :
    ∃ topic msg, s.threads thread = some ⟨topic, some msg⟩ ∧
      effect s (.write thread outcome) = s.consume thread topic msg outcome := by
  obtain ⟨⟨topic, old⟩, found, writes⟩ := (Option.any_eq_true _ _).mp enabled
  obtain ⟨msg, rfl⟩ := Option.isSome_iff_exists.mp writes
  exact ⟨topic, msg, found, by simp only [effect, found]⟩

theorem sound_effect (sound : Sound s) (a : Action T D) (enabled : guard s a) : Sound (effect s a) := by
  cases a with
  | call t topic data =>
    refine sound.setPut t ?_ ?_
    · rintro _ ⟨⟩ impossible
      simp only at impossible
      split at impossible <;> cases impossible
    · rintro _ ⟨⟩ offering
      simp only at offering
      split at offering
      next present => exact present
      next => cases offering
  | enter t =>
    obtain ⟨put, found, -⟩ := some_of_inPhase enabled.2
    simp only [effect, found]
    exact sound.enter enabled.1
  | submit t =>
    obtain ⟨put, found, submitting⟩ := some_of_inPhase enabled
    simp only [effect, found]
    exact sound.submit found submitting
  | offer t =>
    obtain ⟨put, found, -⟩ := some_of_inPhase enabled
    simp only [effect, found]
    refine (sound.offer put _).setPut t ?_ ?_
    · rintro _ ⟨⟩
    · rintro _ ⟨⟩
  | take thread =>
    obtain ⟨topic, msg, rest, found, -, same⟩ := take_cases enabled
    rw [same]
    exact sound.take found msg rest
  | write thread outcome =>
    obtain ⟨topic, msg, found, same⟩ := write_cases enabled
    rw [same]
    exact sound.consume found msg outcome
  | shutdown =>
    exact sound.queues ⟨sound.apart.alone, sound.apart.running, sound.apart.waiting, sound.apart.ended⟩ rfl rfl
      (fun _ => Iff.rfl) fun _ present => present
  | shutdownNow => exact sound_shutdownNow sound

theorem sound_of_reachable (reached : (system T D).Reachable s) : Sound s := by
  refine reached.invariant Sound ?_ fun s a sound enabled => sound_effect sound a enabled
  rintro _ rfl
  exact sound_start

end Steps

/-! ### Every measurement has a channel -/

def Writing (s : State T D) (topic : String) (msg : D) : Prop := ∃ thread, s.threads thread = some ⟨topic, some msg⟩

/-- The channel of a measurement, as the buffer keeps it. -/
structure Views (s : State T D) (topic : String) (channel : Channel D) : Prop where
  queue : (s.queueMap topic).getD [] = channel.queue
  hand : ∀ msg, Writing s topic msg ↔ channel.hand = some msg
  finished : s.finished topic = channel.finished
  accepted : s.accepted topic = channel.accepted

section Channels
variable {s t : State T D} {topic : String} {channel : Channel D}

theorem Views.frame (views : Views s topic channel)
    (queue : (t.queueMap topic).getD [] = (s.queueMap topic).getD [])
    (hand : ∀ msg, Writing t topic msg ↔ Writing s topic msg) (finished : t.finished topic = s.finished topic)
    (accepted : t.accepted topic = s.accepted topic) : Views t topic channel :=
  ⟨queue.trans views.queue, fun msg => (hand msg).trans (views.hand msg), finished.trans views.finished,
    accepted.trans views.accepted⟩

theorem writing_elsewhere {thread : Nat} {own : String} {old : Option D} {new : Option (Worker D)}
    (found : s.threads thread = some ⟨own, old⟩) (threads : t.threads = Function.update s.threads thread new)
    (differ : own ≠ topic) (quiet : ∀ msg, new ≠ some ⟨topic, some msg⟩) (msg : D) :
    Writing t topic msg ↔ Writing s topic msg := by
  unfold Writing
  rw [threads]
  constructor
  · rintro ⟨i, atI⟩
    rcases update_eq_some_iff.mp atI with ⟨-, here⟩ | ⟨-, there⟩
    · exact absurd here (quiet msg)
    · exact ⟨i, there⟩
  · rintro ⟨i, atI⟩
    refine ⟨i, update_eq_some_iff.mpr (Or.inr ⟨?_, atI⟩)⟩
    rintro rfl
    rw [found] at atI
    cases atI
    exact differ rfl

theorem writing_own (apart : Apart s) {thread : Nat} {old : Option D} {new : Option (Worker D)}
    (found : s.threads thread = some ⟨topic, old⟩) (threads : t.threads = Function.update s.threads thread new)
    (msg : D) : Writing t topic msg ↔ new = some ⟨topic, some msg⟩ := by
  unfold Writing
  rw [threads]
  constructor
  · rintro ⟨i, atI⟩
    rcases update_eq_some_iff.mp atI with ⟨-, here⟩ | ⟨elsewhere, there⟩
    · exact here
    · exact absurd (apart.alone i thread _ _ there found rfl) elsewhere
  · rintro rfl
    exact ⟨thread, update_eq_some_iff.mpr (Or.inl ⟨rfl, rfl⟩)⟩

theorem writing_execute (other : String) (msg : D) :
    Writing (s.execute other) topic msg ↔ Writing s topic msg := by
  rcases execute_cases s other with ⟨thread, -, free, same⟩ | same
  · rw [same]
    unfold Writing
    constructor
    · rintro ⟨i, atI⟩
      rcases update_eq_some_iff.mp atI with ⟨-, here⟩ | ⟨-, there⟩
      · cases here
      · exact ⟨i, there⟩
    · rintro ⟨i, atI⟩
      refine ⟨i, update_eq_some_iff.mpr (Or.inr ⟨?_, atI⟩)⟩
      rintro rfl
      rw [free] at atI
      cases atI
  · rw [same]
    exact Iff.rfl

theorem Views.execute (views : Views s topic channel) (other : String) : Views (s.execute other) topic channel := by
  have rest : (s.execute other).queueMap = s.queueMap ∧ (s.execute other).finished = s.finished ∧
      (s.execute other).accepted = s.accepted := by
    rcases execute_cases s other with ⟨_, -, -, same⟩ | same <;> rw [same] <;> exact ⟨rfl, rfl, rfl⟩
  exact views.frame (by rw [rest.1]) (writing_execute other) (by rw [rest.2.1]) (by rw [rest.2.2])

/-- While the task waits in `take`, nothing is in hand. -/
theorem Views.free (views : Views s topic channel) (apart : Apart s) {thread : Nat}
    (found : s.threads thread = some ⟨topic, none⟩) : channel.hand = none := by
  cases inHand : channel.hand with
  | none => rfl
  | some msg =>
    obtain ⟨other, writes⟩ := (views.hand msg).mpr inHand
    have same := apart.alone other thread _ _ writes found rfl
    subst same
    rw [writes] at found
    cases found

theorem Views.take (views : Views s topic channel) (apart : Apart s) {thread : Nat} {msg : D} {rest : List D}
    (found : s.threads thread = some ⟨topic, none⟩) (queue : s.queueMap topic = some (msg :: rest)) :
    Channel.guard DEFAULT_QUEUE_SIZE channel .take ∧
      Views (s.take thread topic msg rest) topic (channel.effect .take) := by
  have free := views.free apart found
  have shape : channel.queue = msg :: rest := by
    rw [← views.queue, queue]
    rfl
  refine ⟨⟨free, by rw [shape]; exact List.cons_ne_nil _ _⟩, ?_, ?_, views.finished, ?_⟩
  · simp [State.take, Channel.effect, shape]
  · intro other
    rw [writing_own apart found rfl]
    simp [Channel.effect, shape]
  · rw [Channel.accepted_take free]
    exact views.accepted

theorem Views.consume (views : Views s topic channel) (apart : Apart s) {thread : Nat} {msg : D} (outcome : Outcome)
    (found : s.threads thread = some ⟨topic, some msg⟩) :
    Channel.guard DEFAULT_QUEUE_SIZE channel .finish ∧
      Views (s.consume thread topic msg outcome) topic (channel.effect .finish) := by
  have inHand : channel.hand = some msg := (views.hand msg).mp ⟨thread, found⟩
  refine ⟨by rw [Channel.guard, inHand]; rfl, ?_⟩
  have finished : Function.update s.finished topic (s.finished topic ++ [msg]) topic =
      (channel.effect .finish).finished := by
    rw [Function.update_self, views.finished]
    simp [Channel.effect, inHand]
  have accepted : s.accepted topic = (channel.effect .finish).accepted := by
    rw [Channel.accepted_finish]
    exact views.accepted
  unfold State.consume
  simp only
  split
  · refine ⟨views.queue, ?_, finished, accepted⟩
    intro other
    have free : (channel.effect .finish).hand = none := rfl
    rw [free]
    refine (writing_own apart found rfl other).trans ?_
    simp
  · refine ⟨views.queue, ?_, finished, accepted⟩
    intro other
    have free : (channel.effect .finish).hand = none := rfl
    rw [free, writing_own apart found rfl]
    simp

theorem Views.offer (views : Views s topic channel) (put : Put D) :
    Views (s.offer put ((s.queueMap put.topic).getD [])) topic channel ∨
      Channel.guard DEFAULT_QUEUE_SIZE channel (.offer put.data) ∧
        Views (s.offer put ((s.queueMap put.topic).getD [])) topic (channel.effect (.offer put.data)) := by
  unfold State.offer
  split
  next room =>
    by_cases own : put.topic = topic
    · subst own
      rw [views.queue] at room ⊢
      right
      refine ⟨room, ?_, views.hand, views.finished, ?_⟩
      · simp [Channel.effect]
      · rw [Channel.accepted_offer, ← views.accepted]
        exact Function.update_self ..
    · left
      have others : topic ≠ put.topic := Ne.symm own
      refine views.frame ?_ (fun _ => Iff.rfl) rfl (Function.update_of_ne others _ _)
      exact congrArg (Option.getD · []) (Function.update_of_ne others _ _)
  next => exact Or.inl views

end Channels

section Refinement
variable [DecidableEq T] {s : State T D} {topic : String} {channel : Channel D}

theorem Views.enter (views : Views s topic channel) (t : T) (put : Put D) : Views (s.enter t put) topic channel := by
  unfold State.enter
  split
  next => exact views.frame rfl (fun _ => Iff.rfl) rfl rfl
  next absent =>
    refine views.frame ?_ (fun _ => Iff.rfl) rfl rfl
    by_cases own : topic = put.topic
    · subst own
      rw [Option.not_isSome_iff_eq_none] at absent
      simp [absent]
    · exact congrArg (Option.getD · []) (Function.update_of_ne own _ _)

theorem Views.submit (views : Views s topic channel) (t : T) (put : Put D) : Views (s.submit t put) topic channel := by
  unfold State.submit
  split
  · exact views.frame rfl (fun _ => Iff.rfl) rfl rfl
  · exact (views.execute put.topic).frame rfl (fun _ => Iff.rfl) rfl rfl

/-- The buffer works as one bounded channel for each measurement. -/
theorem simulation_channel (T D : Type) [DecidableEq T] (topic : String) :
    Guarded.Simulation (system T D) (Channel.bounded DEFAULT_QUEUE_SIZE)
      fun s channel => Sound s ∧ Views s topic channel where
  init := by
    rintro _ rfl
    refine ⟨Channel.empty, rfl, sound_start, rfl, ?_, rfl, rfl⟩
    intro msg
    constructor
    · rintro ⟨_, ⟨⟩⟩
    · rintro ⟨⟩
  step := by
    rintro s channel a ⟨sound, views⟩ enabled
    have next : Sound (effect s a) := sound_effect sound a enabled
    suffices moves : Views (effect s a) topic channel ∨ ∃ move, Channel.guard DEFAULT_QUEUE_SIZE channel move ∧
        Views (effect s a) topic (channel.effect move) by
      rcases moves with stays | ⟨move, admitted, moved⟩
      · exact ⟨channel, .refl channel, next, stays⟩
      · exact ⟨channel.effect move, .one admitted, next, moved⟩
    cases a with
    | call t other data => exact Or.inl (views.frame rfl (fun _ => Iff.rfl) rfl rfl)
    | enter t =>
      obtain ⟨put, found, -⟩ := some_of_inPhase enabled.2
      simp only [effect, found]
      exact Or.inl (views.enter t put)
    | submit t =>
      obtain ⟨put, found, -⟩ := some_of_inPhase enabled
      simp only [effect, found]
      exact Or.inl (views.submit t put)
    | offer t =>
      obtain ⟨put, found, -⟩ := some_of_inPhase enabled
      simp only [effect, found]
      rcases views.offer put with stays | ⟨admitted, moved⟩
      · exact Or.inl (stays.frame rfl (fun _ => Iff.rfl) rfl rfl)
      · exact Or.inr ⟨.offer put.data, admitted, moved.frame rfl (fun _ => Iff.rfl) rfl rfl⟩
    | take thread =>
      obtain ⟨own, msg, rest, found, queue, same⟩ := take_cases enabled
      rw [same]
      by_cases mine : own = topic
      · subst mine
        obtain ⟨admitted, moved⟩ := views.take sound.apart found queue
        exact Or.inr ⟨.take, admitted, moved⟩
      · refine Or.inl (views.frame ?_ (writing_elsewhere found rfl mine ?_) rfl rfl)
        · exact congrArg (Option.getD · []) (Function.update_of_ne (Ne.symm mine) _ _)
        · rintro other same
          injection same with same
          injection same with same
          exact mine same
    | write thread outcome =>
      obtain ⟨own, msg, found, same⟩ := write_cases enabled
      rw [same]
      by_cases mine : own = topic
      · subst mine
        obtain ⟨admitted, moved⟩ := views.consume sound.apart outcome found
        exact Or.inr ⟨.finish, admitted, moved⟩
      · left
        have finished : Function.update s.finished own (s.finished own ++ [msg]) topic = s.finished topic :=
          Function.update_of_ne (Ne.symm mine) _ _
        unfold State.consume
        simp only
        split
        · refine views.frame rfl (fun other => ?_) finished rfl
          refine writing_elsewhere found rfl mine ?_ other
          rintro other same
          obtain ⟨_, -, impossible⟩ := Option.map_eq_some_iff.mp same
          cases impossible
        · refine views.frame rfl (fun other => ?_) finished rfl
          refine writing_elsewhere found rfl mine ?_ other
          rintro other same
          cases same
    | shutdown => exact Or.inl (views.frame rfl (fun _ => Iff.rfl) rfl rfl)
    | shutdownNow => exact Or.inl (views.frame rfl (fun _ => Iff.rfl) rfl rfl)

theorem accepted_of_reachable (reached : (system T D).Reachable s) (topic : String) :
    ∃ hand : Option D, (∀ msg, Writing s topic msg ↔ hand = some msg) ∧
      s.accepted topic = s.finished topic ++ hand.toList ++ (s.queueMap topic).getD [] ∧
      ((s.queueMap topic).getD []).length ≤ DEFAULT_QUEUE_SIZE := by
  obtain ⟨channel, reachedChannel, -, views⟩ := (simulation_channel T D topic).reachable reached
  refine ⟨channel.hand, views.hand, ?_, ?_⟩
  · rw [views.queue, views.finished, views.accepted, Channel.accepted]
  · rw [views.queue]
    exact Channel.length_queue_le reachedChannel

/-- No measurement has two writers, and its batches are handed to the database one after the other, each once
and in the order in which they were accepted. -/
theorem written_in_order (reached : (system T D).Reachable s) :
    (∀ i j worker other, s.threads i = some worker → s.threads j = some other →
      worker.topic = other.topic → i = j) ∧
    ∀ topic, ∃ hand : Option D, (∀ msg, Writing s topic msg ↔ hand = some msg) ∧
      s.accepted topic = s.finished topic ++ hand.toList ++ (s.queueMap topic).getD [] ∧
      ((s.queueMap topic).getD []).length ≤ DEFAULT_QUEUE_SIZE :=
  ⟨(sound_of_reachable reached).apart.alone, accepted_of_reachable reached⟩

/-- Two first calls at a time for one measurement, and a write that fails. -/
theorem written_in_order_of_two_calls : ∃ s : State Nat Nat, (system Nat Nat).Reachable s ∧
    (s.accepted "rt_time" = [6, 5] ∧ s.finished "rt_time" = [6]) ∧
    (∀ i j worker other, s.threads i = some worker → s.threads j = some other →
      worker.topic = other.topic → i = j) ∧
    ∀ topic, ∃ hand : Option Nat, (∀ msg, Writing s topic msg ↔ hand = some msg) ∧
      s.accepted topic = s.finished topic ++ hand.toList ++ (s.queueMap topic).getD [] ∧
      ((s.queueMap topic).getD []).length ≤ DEFAULT_QUEUE_SIZE := by
  have run : ∃ s : State Nat Nat, (system Nat Nat).Reachable s ∧
      (s.accepted "rt_time" = [6, 5] ∧ s.finished "rt_time" = [6]) :=
    Guarded.exists_reachable
      [.call 0 "rt_time" 5, .call 1 "rt_time" 6, .enter 0, .submit 0, .enter 1, .offer 1, .offer 0, .take 0,
        .write 0 .throws, .take 0]
      rfl (by decide)
  obtain ⟨s, reached, facts⟩ := run
  exact ⟨s, reached, facts, written_in_order reached⟩

end Refinement

end Zms.Collector.MetricBuffer
