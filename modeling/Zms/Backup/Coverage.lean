import Mathlib
import Zms.Backup.BackupClusterService

/-! Which resources of the origin environment are passed to `backup`.

A name is read at most once: by the initial listing, or by the listener for the
first event that shows it. What it holds at that moment decides.
-/

set_option autoImplicit false

namespace Zms.Backup

open Zms.Registry Zms.Transition

/-- The listener that the complete metadata of a resource asks for, where its
cluster is mapped and the current environment lacks the name. -/
def Owed (config : Config) (type : ZmsType) (s : Side) (name : String) (listener : MetadataListener) : Prop :=
  added config type s name = some listener ∧ name ∉ config.current type

/-- The starting thread is through and no event is left. -/
structure Side.Settled (s : Side) : Prop where
  stage : s.stage = .started
  events : s.events = 0
  handling : s.handling = none

/-- Every resource on a mapped cluster that was missing was passed to `backup`. -/
def Covers (config : Config) (type : ZmsType) (s : Side) : Prop :=
  s.Settled → ∀ name listener, Owed config type s name listener → listener ∈ s.backups

/-- What the starting thread is still going to pass to `backup`. -/
def Side.planned (config : Config) (type : ZmsType) (s : Side) : List MetadataListener :=
  match s.stage with
  | .reading _ listed | .assigning _ listed => compare config type listed
  | .comparing todo => todo
  | _ => []

/-- The names that the next event is compared with. -/
def Side.remembered (s : Side) : Option (List String) :=
  match s.stage with
  | .assigning nodes _ => nodes
  | _ => (s.handling.map (·.currentChilds)).or s.currentNodes

/-- The listener comes to the name in its call or in the next one. -/
def Side.Listens (s : Side) (name : String) : Prop :=
  (∃ handling ∈ s.handling, name ∈ handling.todo) ∨ 0 < s.events ∧ ∃ known ∈ s.remembered, name ∉ known

def Side.AwaitsAt (s : Side) (name : String) : Stage → Prop
  | .ready => True
  | .reading remaining _ => name ∈ remaining
  | _ => s.Listens name

/-- The service is still going to read the name, if nothing else happens. -/
def Side.Awaits (s : Side) (name : String) : Prop := s.AwaitsAt name s.stage

def Side.subscribed (s : Side) : Bool :=
  match s.stage with
  | .comparing _ | .started => true
  | _ => false

/-- The data of a mapped, missing resource is written before its name is read,
and no event comes before the listener has a list to remember. -/
def InTime (config : Config) (type : ZmsType) (s : Side) : Act → Prop
  | .write name properties =>
      (added config type (s.effect config type (.write name properties)) name).isSome →
        name ∉ config.current type → s.Awaits name
  | .handle => s.subscribed = true ∧ (s.currentNodes ≠ none ∨ s.children = [])
  | _ => True

instance (s : Side) (name : String) : Decidable (s.Listens name) := by
  unfold Side.Listens
  infer_instance

instance (s : Side) (name : String) : Decidable (s.Awaits name) := by
  apply Stage.casesOn (motive := fun stage => Decidable (s.AwaitsAt name stage)) s.stage <;> intros <;>
    dsimp only [Side.AwaitsAt] <;> infer_instance

instance (config : Config) (type : ZmsType) (s : Side) (act : Act) : Decidable (InTime config type s act) := by
  apply Act.casesOn (motive := fun act => Decidable (InTime config type s act)) act <;> intros <;>
    dsimp only [InTime] <;> infer_instance

/-- What a mapped, missing resource can rely on. -/
structure Tracked (config : Config) (type : ZmsType) (s : Side) : Prop where
  written : ∀ name, (s.data name).isSome → name ∈ s.children
  root : s.root = false → s.children = []
  idle : s.subscribed = false → s.handling = none
  covered : ∀ name listener, Owed config type s name listener →
    listener ∈ s.backups ∨ listener ∈ s.planned config type ∨ s.Awaits name

section Reading
variable {config : Config} {type : ZmsType} {s s' : Side} {name : String} {listener : MetadataListener}

theorem added_congr (same : s'.data name = s.data name) : added config type s' name = added config type s name := by
  unfold added readZkInfo
  rw [same]

theorem Owed.of_data (owed : Owed config type s' name listener) (same : s'.data name = s.data name) :
    Owed config type s name listener := by
  unfold Owed at owed ⊢
  rw [added_congr same] at owed
  exact owed

theorem Owed.written (owed : Owed config type s name listener) : (s.data name).isSome := by
  have found := owed.1
  simp only [added, Option.bind_eq_bind, Option.bind_eq_some_iff] at found
  obtain ⟨metadata, read, -⟩ := found
  obtain ⟨properties, found⟩ := readZkInfo_data read
  rw [found]
  rfl

theorem compare_mono {listed more : List ConsumerGroupMetadata} (subset : listed ⊆ more) :
    compare config type listed ⊆ compare config type more := by
  intro listener member
  unfold compare at member ⊢
  obtain ⟨entry, mapped, member⟩ := List.mem_flatMap.mp member
  obtain ⟨metadata, found, rfl⟩ := List.mem_map.mp member
  obtain ⟨found, missing⟩ := List.mem_filter.mp found
  obtain ⟨found, own⟩ := List.mem_filter.mp found
  apply List.mem_flatMap.mpr
  refine ⟨entry, mapped, List.mem_map_of_mem (List.mem_filter.mpr ⟨?_, missing⟩)⟩
  exact List.mem_filter.mpr ⟨subset found, own⟩

theorem Owed.mem_compare (owed : Owed config type s name listener) {listed : List ConsumerGroupMetadata}
    (read : ∀ metadata, readZkInfo config type s name = some metadata → metadata ∈ listed) :
    listener ∈ compare config type listed := by
  obtain ⟨found, missing⟩ := owed
  simp only [added, Option.bind_eq_bind, Option.bind_eq_some_iff] at found
  obtain ⟨metadata, found, originCluster, own, currentCluster, mapped, same⟩ := found
  obtain rfl := Option.some.inj same
  unfold compare
  apply List.mem_flatMap.mpr
  refine ⟨⟨originCluster, currentCluster⟩, AList.mem_lookup_iff.mp mapped, List.mem_map_of_mem ?_⟩
  rw [List.mem_filter, List.mem_filter, name_of_readZkInfo found]
  refine ⟨⟨read metadata found, decide_eq_true own⟩, ?_⟩
  rw [Bool.not_eq_true', ← Bool.not_eq_true, List.contains_iff_mem]
  exact missing

end Reading

namespace Side
variable {config : Config} {type : ZmsType} {s : Side} {name : String}

@[simp] theorem data_fire : s.fire.data = s.data := by
  unfold fire
  split <;> rfl

@[simp] theorem children_fire : s.fire.children = s.children := by
  unfold fire
  split <;> rfl

@[simp] theorem root_fire : s.fire.root = s.root := by
  unfold fire
  split <;> rfl

@[simp] theorem handling_fire : s.fire.handling = s.handling := by
  unfold fire
  split <;> rfl

@[simp] theorem subscribed_fire : s.fire.subscribed = s.subscribed := by
  unfold fire
  split <;> rfl

@[simp] theorem backups_fire : s.fire.backups = s.backups := by
  unfold fire
  split <;> rfl

@[simp] theorem planned_fire : s.fire.planned config type = s.planned config type := by
  unfold fire
  split <;> rfl

theorem Awaits.imp {t : Side} (awaits : s.Awaits name) (stage : t.stage = s.stage)
    (listens : s.Listens name → t.Listens name) : t.Awaits name := by
  unfold Awaits AwaitsAt at awaits ⊢
  rw [stage]
  cases at_stage : s.stage with
  | ready => trivial
  | reading remaining listed =>
    rw [at_stage] at awaits
    exact awaits
  | assigning nodes listed =>
    rw [at_stage] at awaits
    exact listens awaits
  | comparing todo =>
    rw [at_stage] at awaits
    exact listens awaits
  | started =>
    rw [at_stage] at awaits
    exact listens awaits

theorem Awaits.fire (awaits : s.Awaits name) : s.fire.Awaits name := by
  unfold Side.fire
  split
  · refine Awaits.imp awaits (by rfl) ?_
    rintro (reading | ⟨-, unknown⟩)
    · exact .inl reading
    · exact .inr ⟨Nat.succ_pos _, unknown⟩
  · exact awaits

theorem awaits_iff (through : s.subscribed = true) : s.Awaits name ↔ s.Listens name := by
  unfold Side.subscribed at through
  unfold Awaits AwaitsAt
  split at through
  · next stage => rw [stage]
  · next stage => rw [stage]
  · cases through

theorem remembered_of_subscribed (through : s.subscribed = true) :
    s.remembered = (s.handling.map (·.currentChilds)).or s.currentNodes := by
  unfold Side.subscribed at through
  unfold remembered
  split at through
  · next stage => rw [stage]
  · next stage => rw [stage]
  · cases through

theorem stage_of_readNext (enabled : s.guard .readNext) :
    ∃ name remaining listed, s.stage = .reading (name :: remaining) listed := by
  rw [guard] at enabled
  unfold Stage.isReading at enabled
  split at enabled
  · next stage => exact ⟨_, _, _, stage⟩
  · cases enabled

theorem stage_of_subscribe (enabled : s.guard .subscribe) : ∃ listed, s.stage = .reading [] listed := by
  rw [guard] at enabled
  unfold Stage.isListed at enabled
  split at enabled
  · next stage => exact ⟨_, stage⟩
  · cases enabled

theorem stage_of_assign (enabled : s.guard .assign) : ∃ nodes listed, s.stage = .assigning nodes listed := by
  rw [guard] at enabled
  unfold Stage.isAssigning at enabled
  split at enabled
  · next stage => exact ⟨_, _, stage⟩
  · cases enabled

theorem stage_of_compareNext (enabled : s.guard .compareNext) : ∃ todo, s.stage = .comparing todo := by
  rw [guard] at enabled
  unfold Stage.isComparing at enabled
  split at enabled
  · next stage => exact ⟨_, stage⟩
  · cases enabled

end Side

section Steps
variable {config : Config} {type : ZmsType} {s : Side} {name : String}

theorem Tracked.fire (tracked : Tracked config type s) : Tracked config type s.fire where
  written name present := by
    rw [Side.children_fire]
    rw [Side.data_fire] at present
    exact tracked.written name present
  root absent := by
    rw [Side.children_fire]
    rw [Side.root_fire] at absent
    exact tracked.root absent
  idle before := by
    rw [Side.handling_fire]
    rw [Side.subscribed_fire] at before
    exact tracked.idle before
  covered name listener owed := by
    rw [Side.backups_fire, Side.planned_fire]
    obtain passed | planned | awaits := tracked.covered name listener (owed.of_data (by rw [Side.data_fire]))
    · exact .inl passed
    · exact .inr (.inl planned)
    · exact .inr (.inr awaits.fire)

theorem tracked_createRoot (tracked : Tracked config type s) (enabled : s.guard .createRoot) :
    Tracked config type (s.effect config type .createRoot) := by
  apply Tracked.fire
  exact ⟨tracked.written, fun _ => tracked.root enabled, tracked.idle, tracked.covered⟩

theorem tracked_create (tracked : Tracked config type s) (enabled : s.guard (.create name)) :
    Tracked config type (s.effect config type (.create name)) := by
  apply Tracked.fire
  refine ⟨fun other present => ?_, fun absent => ?_, tracked.idle, tracked.covered⟩
  · exact List.mem_append_left _ (tracked.written other present)
  · cases enabled.1.symm.trans absent

theorem tracked_write {properties : Properties} (tracked : Tracked config type s)
    (enabled : s.guard (.write name properties)) (timely : InTime config type s (.write name properties)) :
    Tracked config type (s.effect config type (.write name properties)) where
  written other present := by
    by_cases same : other = name
    · subst same
      exact enabled.1
    · simp only [Side.effect, Function.update_of_ne same] at present
      exact tracked.written other present
  root := tracked.root
  idle := tracked.idle
  covered other listener owed := by
    by_cases same : other = name
    · subst same
      exact .inr (.inr (timely (Option.isSome_of_eq_some owed.1) owed.2))
    · apply tracked.covered other listener (owed.of_data _)
      exact Function.update_of_ne same _ _

theorem tracked_getChildren (tracked : Tracked config type s) (enabled : s.guard .getChildren) :
    Tracked config type (s.effect config type .getChildren) where
  written := tracked.written
  root := tracked.root
  idle _ := by
    apply tracked.idle
    unfold Side.subscribed
    rw [show s.stage = .ready from enabled]
  covered other listener owed := by
    have exists_node := tracked.written other owed.written
    have exists_root : s.root = true := by
      by_contra absent
      rw [tracked.root (Bool.eq_false_iff.mpr absent)] at exists_node
      cases exists_node
    refine .inr (.inr ?_)
    show other ∈ if s.root then s.children else []
    rw [if_pos exists_root]
    exact exists_node

theorem tracked_readNext (tracked : Tracked config type s) (enabled : s.guard .readNext) :
    Tracked config type (s.effect config type .readNext) := by
  obtain ⟨name, remaining, listed, stage⟩ := Side.stage_of_readNext enabled
  have idle : s.handling = none := by
    apply tracked.idle
    unfold Side.subscribed
    rw [stage]
  simp only [Side.effect, stage]
  refine ⟨tracked.written, tracked.root, fun _ => idle, fun other listener owed => ?_⟩
  have covered := tracked.covered other listener owed
  simp only [Side.planned, Side.Awaits, Side.AwaitsAt, stage] at covered ⊢
  obtain passed | planned | awaits := covered
  · exact .inl passed
  · exact .inr (.inl (compare_mono (List.subset_append_left _ _) planned))
  · obtain rfl | later := List.mem_cons.mp awaits
    · refine .inr (.inl (Owed.mem_compare owed fun metadata read => ?_))
      have found : readZkInfo config type s other = some metadata := read
      rw [found]
      exact List.mem_append_right _ (List.mem_singleton_self _)
    · exact .inr (.inr later)

theorem tracked_subscribe (tracked : Tracked config type s) (enabled : s.guard .subscribe) :
    Tracked config type (s.effect config type .subscribe) := by
  obtain ⟨listed, stage⟩ := Side.stage_of_subscribe enabled
  have idle : s.handling = none := by
    apply tracked.idle
    unfold Side.subscribed
    rw [stage]
  simp only [Side.effect, stage]
  refine ⟨tracked.written, tracked.root, fun _ => idle, fun other listener owed => ?_⟩
  have covered := tracked.covered other listener owed
  simp only [Side.planned, Side.Awaits, Side.AwaitsAt, stage] at covered ⊢
  obtain passed | planned | awaits := covered
  · exact .inl passed
  · exact .inr (.inl planned)
  · cases awaits

theorem tracked_assign (tracked : Tracked config type s) (enabled : s.guard .assign) :
    Tracked config type (s.effect config type .assign) := by
  obtain ⟨nodes, listed, stage⟩ := Side.stage_of_assign enabled
  have idle : s.handling = none := by
    apply tracked.idle
    unfold Side.subscribed
    rw [stage]
  simp only [Side.effect, stage]
  refine ⟨tracked.written, tracked.root, fun _ => idle, fun other listener owed => ?_⟩
  have covered := tracked.covered other listener owed
  simp only [Side.planned, Side.Awaits, Side.AwaitsAt, Side.Listens, Side.remembered, stage, idle] at covered ⊢
  exact covered

theorem tracked_compareNext (tracked : Tracked config type s) (enabled : s.guard .compareNext) :
    Tracked config type (s.effect config type .compareNext) := by
  obtain ⟨todo, stage⟩ := Side.stage_of_compareNext enabled
  simp only [Side.effect, stage]
  cases todo with
  | nil =>
    refine ⟨tracked.written, tracked.root, fun before => ?_, fun other listener owed => ?_⟩
    · cases before
    · have covered := tracked.covered other listener owed
      simp only [Side.planned, Side.Awaits, Side.AwaitsAt, Side.Listens, Side.remembered, stage] at covered ⊢
      exact covered
  | cons next rest =>
    refine ⟨tracked.written, tracked.root, fun before => ?_, fun other listener owed => ?_⟩
    · cases before
    · have covered := tracked.covered other listener owed
      simp only [Side.backup, Side.planned, Side.Awaits, Side.AwaitsAt, Side.Listens, Side.remembered,
        stage] at covered ⊢
      obtain passed | planned | awaits := covered
      · exact .inl (List.mem_cons_of_mem _ passed)
      · obtain rfl | later := List.mem_cons.mp planned
        · exact .inl List.mem_cons_self
        · exact .inr (.inl later)
      · exact .inr (.inr awaits)

theorem tracked_handle (tracked : Tracked config type s) (enabled : s.guard .handle)
    (timely : InTime config type s .handle) : Tracked config type (s.effect config type .handle) := by
  obtain ⟨-, idle⟩ := enabled
  obtain ⟨through, usable⟩ := timely
  cases known : s.currentNodes with
  | none =>
    have empty : s.children = [] := usable.resolve_left fun present => present known
    simp only [Side.effect, known, if_pos empty]
    refine ⟨tracked.written, tracked.root, fun _ => idle, fun other listener owed => ?_⟩
    have exists_node := tracked.written other owed.written
    rw [empty] at exists_node
    cases exists_node
  | some nodes =>
    simp only [Side.effect, known]
    refine ⟨tracked.written, tracked.root, fun before => ?_, fun other listener owed => ?_⟩
    · exact absurd (through.symm.trans before) (by decide)
    · obtain passed | planned | awaits := tracked.covered other listener owed
      · exact .inl passed
      · exact .inr (.inl planned)
      · rw [Side.awaits_iff through, Side.Listens, Side.remembered_of_subscribed through, idle, known] at awaits
        obtain ⟨handling, absurdity, -⟩ | ⟨-, _, same, unknown⟩ := awaits
        · cases absurdity
        · obtain rfl := Option.some.inj same
          refine .inr (.inr ?_)
          rw [Side.awaits_iff (by exact through)]
          refine .inl ⟨_, rfl, ?_⟩
          apply List.mem_filter.mpr
          refine ⟨tracked.written other owed.written, ?_⟩
          rw [Bool.not_eq_true', ← Bool.not_eq_true, List.contains_iff_mem]
          exact unknown

theorem tracked_handleNext (tracked : Tracked config type s) (enabled : s.guard .handleNext) :
    Tracked config type (s.effect config type .handleNext) := by
  cases busy : s.handling with
  | none => exact absurd busy enabled
  | some handling =>
    have through : s.subscribed = true := by
      by_contra before
      rw [tracked.idle (Bool.eq_false_iff.mpr before)] at busy
      cases busy
    have covered := tracked.covered
    simp only [Side.awaits_iff through, Side.Listens, Side.remembered_of_subscribed through, busy] at covered
    obtain ⟨todo, currentChilds⟩ := handling
    cases todo with
    | nil =>
      simp only [Side.effect, busy]
      refine ⟨tracked.written, tracked.root, fun _ => rfl, fun other listener owed => ?_⟩
      obtain passed | planned | ⟨_, same, reading⟩ | ⟨pending, known, same, unknown⟩ := covered other listener owed
      · exact .inl passed
      · exact .inr (.inl planned)
      · obtain rfl := Option.some.inj same
        cases reading
      · refine .inr (.inr ?_)
        rw [Side.awaits_iff (by exact through), Side.Listens, Side.remembered_of_subscribed (by exact through)]
        exact .inr ⟨pending, known, same, unknown⟩
    | cons name todo =>
      -- whatever the name asks for is passed on in this step
      have next : ∀ backups : List MetadataListener, (∀ listener ∈ s.backups, listener ∈ backups) →
          (∀ listener, added config type s name = some listener → listener ∈ backups) →
          Tracked config type { s with handling := some ⟨todo, currentChilds⟩, backups } := by
        intro backups kept called
        refine ⟨tracked.written, tracked.root, fun before => ?_, fun other listener owed => ?_⟩
        · exact absurd (through.symm.trans before) (by decide)
        · obtain passed | planned | ⟨_, same, reading⟩ | ⟨pending, known, same, unknown⟩ :=
            covered other listener owed
          · exact .inl (kept listener passed)
          · exact .inr (.inl planned)
          · obtain rfl := Option.some.inj same
            obtain rfl | later := List.mem_cons.mp reading
            · exact .inl (called listener owed.1)
            · refine .inr (.inr ?_)
              rw [Side.awaits_iff (by exact through)]
              exact .inl ⟨_, rfl, later⟩
          · refine .inr (.inr ?_)
            rw [Side.awaits_iff (by exact through), Side.Listens, Side.remembered_of_subscribed (by exact through)]
            exact .inr ⟨pending, known, same, unknown⟩
      simp only [Side.effect, busy]
      split
      · next unmapped =>
        apply next s.backups (fun _ member => member)
        intro listener found
        cases unmapped.symm.trans found
      · next listener mapped =>
        apply next (listener :: s.backups) (fun _ member => List.mem_cons_of_mem _ member)
        intro other found
        obtain rfl := Option.some.inj (mapped.symm.trans found)
        exact List.mem_cons_self

theorem tracked_effect (tracked : Tracked config type s) {act : Act} (enabled : s.guard act)
    (timely : InTime config type s act) : Tracked config type (s.effect config type act) := by
  cases act with
  | createRoot => exact tracked_createRoot tracked enabled
  | create name => exact tracked_create tracked enabled
  | write name properties => exact tracked_write tracked enabled timely
  | getChildren => exact tracked_getChildren tracked enabled
  | readNext => exact tracked_readNext tracked enabled
  | subscribe => exact tracked_subscribe tracked enabled
  | assign => exact tracked_assign tracked enabled
  | compareNext => exact tracked_compareNext tracked enabled
  | handle => exact tracked_handle tracked enabled timely
  | handleNext => exact tracked_handleNext tracked enabled

theorem Side.Init.tracked (initial : s.Init) : Tracked config type s where
  written := initial.written
  root := initial.root
  idle _ := initial.handling
  covered name listener owed := by
    refine .inr (.inr ?_)
    unfold Side.Awaits
    rw [initial.stage]
    trivial

theorem Tracked.covers (tracked : Tracked config type s) : Covers config type s := by
  intro settled name listener owed
  have covered := tracked.covered name listener owed
  simp only [Side.planned, Side.Awaits, Side.AwaitsAt, Side.Listens, settled.stage, settled.handling,
    settled.events] at covered
  obtain passed | absurdity | ⟨_, absurdity, -⟩ | ⟨absurdity, -⟩ := covered
  · exact passed
  · cases absurdity
  · cases absurdity
  · cases absurdity

end Steps

/-- In every run whose writes and events are in time, the settled service has
passed on every missing resource of a mapped cluster. -/
theorem covers_of_inTime (config : Config) (s : State)
    (reached : ((machine config).restrict fun s a => InTime config a.type (s a.type) a.act).Reachable s)
    (type : ZmsType) : Covers config type (s type) := by
  apply Tracked.covers
  induction reached with
  | start initial => exact (initial type).tracked
  | @step s a _ enabled ih =>
    obtain ⟨⟨enabled, -⟩, timely⟩ := enabled
    show Tracked config type (Function.update s a.type _ type)
    by_cases same : type = a.type
    · subst same
      rw [Function.update_self]
      exact tracked_effect ih enabled timely
    · rw [Function.update_of_ne same]
      exact ih

section Example

/-- One mapped cluster, and nothing in the current environment. -/
def mapped : Config where
  clusters name := if name = "mq1" then some ⟨"mq1", none, some .ROCKETMQ, none⟩ else none
  backupClusterMapper := (∅ : Entries String String).insert "mq1" "mq2"
  current _ := []

def orders : Properties where
  clusterName := "mq1"
  gatedIps := none
  gatedCluster := none
  statisticsLogger := none
  bindingTopic := none
  broadcast := none
  consumeFrom := none
  suspend := none

/-- An origin environment without resources. -/
def emptySide : Side where
  root := true
  children := []
  data _ := none
  watch := false
  events := 0
  stage := .ready
  currentNodes := none
  handling := none
  backups := []

theorem emptySide_init (config : Config) : (machine config).init fun _ => emptySide := by
  intro type
  refine ⟨rfl, rfl, rfl, rfl, rfl, rfl, fun name present => ?_, fun _ => rfl⟩
  cases present

def topicActs : List Act → List Action := List.map fun act => ⟨.TOPIC, act⟩

/-- The starting thread up to the end of the comparison of no topics. -/
def starting : List Act := [.getChildren, .subscribe, .assign, .compareNext]

/-- A creation after the start, whose event is handled when it is complete. -/
def inTime : List Act := starting ++ [.create "orders", .write "orders" orders, .handle, .handleNext, .handleNext]

set_option maxRecDepth 4000 in
theorem covers_of_inTime_run : ∃ s : State, (∀ type, Covers mapped type (s type)) ∧ (s .TOPIC).stage = .started ∧
    (s .TOPIC).events = 0 ∧ (s .TOPIC).handling = none ∧
    added mapped .TOPIC (s .TOPIC) "orders" = some (.topic "mq2" "orders") := by
  have run : ∃ s, ((machine mapped).restrict fun s a => InTime mapped a.type (s a.type) a.act).Reachable s ∧
      ((s .TOPIC).stage = .started ∧ (s .TOPIC).events = 0 ∧ (s .TOPIC).handling = none ∧
        added mapped .TOPIC (s .TOPIC) "orders" = some (.topic "mq2" "orders")) :=
    Guarded.exists_reachable (topicActs inTime) (emptySide_init mapped) (by decide)
  obtain ⟨s, reached, settled⟩ := run
  exact ⟨s, covers_of_inTime mapped s reached, settled⟩

set_option maxRecDepth 4000 in
/-- The event is handled between the two steps of the creation. -/
theorem not_covers : ¬ ∀ config s type, (machine config).Reachable s → Covers config type (s type) := by
  intro always
  have run : ∃ s, (machine mapped).Reachable s ∧ ((s .TOPIC).stage = .started ∧ (s .TOPIC).events = 0 ∧
      (s .TOPIC).handling = none ∧
      added mapped .TOPIC (s .TOPIC) "orders" = some (.topic "mq2" "orders") ∧ (s .TOPIC).backups = []) :=
    Guarded.exists_reachable
      (topicActs (starting ++ [.create "orders", .handle, .handleNext, .handleNext, .write "orders" orders]))
      (emptySide_init mapped) (by decide)
  obtain ⟨s, reached, stage, events, handling, found, none_passed⟩ := run
  have passed := always mapped s .TOPIC reached ⟨stage, events, handling⟩ "orders" _ ⟨found, List.not_mem_nil⟩
  rw [none_passed] at passed
  cases passed

end Example

end Zms.Backup
