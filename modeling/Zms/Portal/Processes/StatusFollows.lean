import Mathlib
import Zms.Portal.Processes.RunningStatus

/-! When the instances of a host have the statuses that the reported states of their
processes ask for. -/

set_option autoImplicit false

namespace Zms.Portal.Processes

open Zms.Registry

variable (fold : Char → Char)

/-- The instance of a process. -/
def Database.instanceOf (db : Database) (processId : Int) : Option Int :=
  (db.processes.get processId).map (·.instanceId)

/-- Some reported process of the instance is in the state. -/
def ReportedIn (db : Database) (report : List Reported) (instanceId : Int) (state : RunningStatusEnum) : Prop :=
  ∃ entry ∈ report, db.instanceOf entry.processId = some instanceId ∧
    getRunningStatusEnum fold entry.stateName = some state

/-- What the status of the instance is to be. -/
def AsReported (db : Database) (report : List Reported) (instanceId : Int) (status : InstanceStatusEnum) : Prop :=
  (ReportedIn fold db report instanceId .RUNNING → status = .START) ∧
  (¬ ReportedIn fold db report instanceId .RUNNING → ReportedIn fold db report instanceId .STARTING →
    status = .STARTING) ∧
  (¬ ReportedIn fold db report instanceId .RUNNING → ¬ ReportedIn fold db report instanceId .STARTING →
    status = .STOP)

/-- The entries before the first with an unknown state or without a row. -/
def leading (db : Database) (report : List Reported) : List Reported :=
  report.takeWhile fun entry =>
    (getRunningStatusEnum fold entry.stateName).isSome && (db.instanceOf entry.processId).isSome

/-- The state of the last of them that is the instance's. -/
def lastState (db : Database) (report : List Reported) (instanceId : Int) : Option RunningStatusEnum :=
  ((leading fold db report).filter fun entry => db.instanceOf entry.processId = some instanceId).getLast?.bind
    fun entry => getRunningStatusEnum fold entry.stateName

/-- The status that the last state asks for; without one the old status. -/
def shownStatus (db : Database) (report : List Reported) (row : ServiceInstance) : InstanceStatusEnum :=
  ((lastState fold db report row.id).map instanceStatusOf).getD row.instanceStatus

/-- The first process was configured for an instance that is shown as started. -/
def Names (db : Database) (report : List Reported) (first : Reported) (row : ServiceInstance) : Prop :=
  row ∈ db.instances.rows ∧ shownStatus fold db report row = .START ∧
    ∃ ref ∈ db.refs, ref.serviceProcessId = first.processId ∧ ref.instanceId = some row.id

/-- A process of the instance counts as started, as all that are reported do. -/
def Counts (db : Database) (report : List Reported) (row : ServiceInstance) (process : ServiceProcess) : Prop :=
  process ∈ db.processes.rows ∧ process.instanceId = row.id ∧
    (process.status = .SUCCESS ∨ process.id ∈ report.map Reported.processId) ∧
    ∃ other ∈ db.instances.rows, other.hostId = row.hostId ∧ other.serviceId = process.serviceId

/-- The instance is found not to be supervised: the whole report is applied, its first
process leads to the host, and the newest process of the instance is not reported. -/
structure Vanished (db : Database) (report : List Reported) (row : ServiceInstance) : Prop where
  whole : leading fold db report = report
  host : ∃ first ∈ report.head?, (∃ named, Names fold db report first named) ∧
    ∀ named, Names fold db report first named → named.hostId = row.hostId
  kept : row.isDeleted = false
  newest : ∃ process, Counts db report row process ∧ process.id ∉ report.map Reported.processId ∧
    ∀ other, Counts db report row other → other.serviceId = process.serviceId → other.id ≤ process.id

/-- The condition on the report and the tables before it. -/
structure Fits (db : Database) (report : List Reported) (row : ServiceInstance) : Prop where
  running : ReportedIn fold db report row.id .RUNNING →
    ¬ Vanished fold db report row ∧ shownStatus fold db report row = .START
  starting : ¬ ReportedIn fold db report row.id .RUNNING → ReportedIn fold db report row.id .STARTING →
    ¬ Vanished fold db report row ∧ shownStatus fold db report row = .STARTING
  stopped : ¬ ReportedIn fold db report row.id .RUNNING → ¬ ReportedIn fold db report row.id .STARTING →
    Vanished fold db report row ∨ shownStatus fold db report row = .STOP

section Loop

theorem instanceOf_updateRunningStatus (db : Database) (id : Int) (runningStatus : String) :
    (db.updateRunningStatus id runningStatus).instanceOf = db.instanceOf := by
  funext processId
  unfold Database.instanceOf Database.updateRunningStatus
  rw [Table.get_update, Option.map_map]
  congr 1
  funext row
  simp only [Function.comp_apply]
  split <;> rfl

theorem instanceOf_updateInstanceStatus (db : Database) (id : Int) (status : InstanceStatusEnum) :
    (db.updateInstanceStatus id status).instanceOf = db.instanceOf := rfl

variable {fold} {db : Database} {entry : Reported} {rest : List Reported}

theorem leading_cons {state : RunningStatusEnum} (known : getRunningStatusEnum fold entry.stateName = some state)
    {instanceId : Int} (found : db.instanceOf entry.processId = some instanceId) :
    leading fold db (entry :: rest) = entry :: leading fold db rest := by
  unfold leading
  rw [List.takeWhile_cons_of_pos]
  rw [known, found]
  rfl

theorem leading_cons_of_unknown (unknown : getRunningStatusEnum fold entry.stateName = none ∨
    db.instanceOf entry.processId = none) : leading fold db (entry :: rest) = [] := by
  unfold leading
  rw [List.takeWhile_cons_of_neg]
  rcases unknown with none | none <;> simp [none]

theorem lastState_cons {state : RunningStatusEnum} (known : getRunningStatusEnum fold entry.stateName = some state)
    {instanceId : Int} (found : db.instanceOf entry.processId = some instanceId) (other : Int) :
    lastState fold db (entry :: rest) other =
      (lastState fold db rest other).or (if other = instanceId then some state else none) := by
  unfold lastState
  rw [leading_cons known found, List.filter_cons, found]
  by_cases same : other = instanceId
  · rw [if_pos (by simp [same]), if_pos same, List.getLast?_cons, Option.bind_some]
    cases last : ((leading fold db rest).filter fun entry => db.instanceOf entry.processId = some other).getLast? with
    | none => simp [known]
    | some e =>
      -- an entry of the leading ones has a known state
      have member := (List.mem_filter.mp (List.mem_of_getLast? last)).1
      have isKnown := List.mem_takeWhile_imp member
      rw [Bool.and_eq_true] at isKnown
      obtain ⟨other, is⟩ := Option.isSome_iff_exists.mp isKnown.1
      simp [is]
  · have differs : ¬ (decide (some instanceId = some other) = true) := by simp [Ne.symm same]
    rw [if_neg differs, if_neg same, Option.or_none]

/-- What the loop leaves. -/
structure Applied (fold : Char → Char) (db : Database) (report : List Reported) (after : Database)
    (ending : Ending) : Prop where
  instances : after.instances.rows =
    db.instances.rows.map fun row => { row with instanceStatus := shownStatus fold db report row }
  refs : after.refs = db.refs
  processes : ∃ seen : ServiceProcess → ServiceProcess, after.processes.rows = db.processes.rows.map seen ∧
    ∀ process, (seen process).id = process.id ∧ (seen process).serviceId = process.serviceId ∧
      (seen process).instanceId = process.instanceId ∧ (ending = .done → ((seen process).status = .SUCCESS ↔
        process.status = .SUCCESS ∨ process.id ∈ report.map Reported.processId))
  done : ending = .done ↔ leading fold db report = report

theorem shownStatus_of_unknown (unknown : getRunningStatusEnum fold entry.stateName = none ∨
    db.instanceOf entry.processId = none) (row : ServiceInstance) :
    shownStatus fold db (entry :: rest) row = row.instanceStatus := by
  rw [shownStatus, lastState, leading_cons_of_unknown unknown]
  rfl

theorem applied_of_unknown (unknown : getRunningStatusEnum fold entry.stateName = none ∨
    db.instanceOf entry.processId = none) {ending : Ending} (early : ending ≠ .done) :
    Applied fold db (entry :: rest) (db.updateRunningStatus entry.processId entry.stateName) ending where
  instances := by simp [shownStatus_of_unknown unknown]
  refs := rfl
  processes := by
    refine ⟨_, rfl, fun process => ?_⟩
    split <;> exact ⟨rfl, rfl, rfl, fun done => absurd done early⟩
  done := by simp [leading_cons_of_unknown unknown, early]

theorem shownStatus_cons {state : RunningStatusEnum} (known : getRunningStatusEnum fold entry.stateName = some state)
    {instanceId : Int} (found : db.instanceOf entry.processId = some instanceId) (row : ServiceInstance) :
    shownStatus fold db (entry :: rest) row = shownStatus fold db rest
      (if row.id = instanceId then { row with instanceStatus := instanceStatusOf state } else row) := by
  unfold shownStatus
  rw [lastState_cons known found]
  by_cases same : row.id = instanceId
  · rw [if_pos same, if_pos same]
    cases lastState fold db rest row.id <;> rfl
  · rw [if_neg same, if_neg same, Option.or_none]

theorem shownStatus_congr {other : Database} (same : other.instanceOf = db.instanceOf) (report : List Reported)
    (row : ServiceInstance) : shownStatus fold other report row = shownStatus fold db report row := by
  unfold shownStatus lastState leading
  rw [same]

theorem leading_congr {other : Database} (same : other.instanceOf = db.instanceOf) (report : List Reported) :
    leading fold other report = leading fold db report := by
  unfold leading
  rw [same]

theorem applied_applyReport (report : List Reported) (db : Database) :
    Applied fold db report (applyReport fold report db).1 (applyReport fold report db).2 := by
  induction report generalizing db with
  | nil =>
    refine ⟨?_, rfl, ⟨id, by simp [applyReport], by simp⟩, by simp [applyReport, leading]⟩
    simp [applyReport, shownStatus, lastState, leading]
  | cons entry rest ih =>
    have sameSeen := instanceOf_updateRunningStatus db entry.processId entry.stateName
    rw [applyReport]
    cases known : getRunningStatusEnum fold entry.stateName with
    | none => exact applied_of_unknown (.inl known) (fun isDone => by cases isDone)
    | some state =>
      cases found : (db.updateRunningStatus entry.processId entry.stateName).processes.get entry.processId with
      | none =>
        refine applied_of_unknown (.inr ?_) (fun isDone => by cases isDone)
        rw [← sameSeen, Database.instanceOf, found]
        rfl
      | some process =>
        have isInstance : db.instanceOf entry.processId = some process.instanceId := by
          rw [← sameSeen, Database.instanceOf, found]
          rfl
        set next := (db.updateRunningStatus entry.processId entry.stateName).updateInstanceStatus process.instanceId
          (instanceStatusOf state) with isNext
        have same : next.instanceOf = db.instanceOf := sameSeen
        obtain ⟨instances, refs, ⟨seen, processes, keeps⟩, done⟩ := ih next
        refine ⟨?_, refs, ⟨fun process => seen (if process.id = entry.processId then
          { process with runningStatus := entry.stateName, status := .SUCCESS } else process), ?_, ?_⟩, ?_⟩
        · rw [instances, isNext, Database.rows_updateInstanceStatus, Database.instances_updateRunningStatus,
            List.map_map]
          apply List.map_congr_left
          intro row _
          rw [Function.comp_apply, @shownStatus_congr fold db _ same, shownStatus_cons known isInstance]
          split <;> rfl
        · rw [processes, isNext, Database.processes_updateInstanceStatus, Database.rows_updateRunningStatus,
            List.map_map]
          rfl
        · intro process
          obtain ⟨id, serviceId, instanceId, status⟩ := keeps (if process.id = entry.processId then
            { process with runningStatus := entry.stateName, status := .SUCCESS } else process)
          beta_reduce
          rw [List.map_cons, List.mem_cons]
          by_cases touched : process.id = entry.processId
          · rw [if_pos touched] at id serviceId instanceId status ⊢
            refine ⟨id, serviceId, instanceId, fun isDone => ?_⟩
            rw [status isDone]
            simp [touched]
          · rw [if_neg touched] at id serviceId instanceId status ⊢
            refine ⟨id, serviceId, instanceId, fun isDone => ?_⟩
            rw [status isDone]
            simp [touched]
        · rw [done, leading_congr same, leading_cons known isInstance]
          simp

end Loop

section Sweep

theorem dedup_eq_singleton_iff {values : List Int} {value : Int} :
    values.dedup = [value] ↔ (∃ x, x ∈ values) ∧ ∀ x ∈ values, x = value := by
  constructor
  · intro same
    have mem : ∀ x, x ∈ values ↔ x = value := by
      intro x
      rw [← List.mem_dedup, same, List.mem_singleton]
    exact ⟨⟨value, (mem value).mpr rfl⟩, fun x => (mem x).mp⟩
  · rintro ⟨⟨x, member⟩, all⟩
    have replicate : values.dedup = List.replicate values.dedup.length value :=
      List.eq_replicate_iff.mpr ⟨rfl, fun y inside => all y (List.mem_dedup.mp inside)⟩
    have nodup := List.nodup_dedup values
    rw [replicate, List.nodup_replicate] at nodup
    have nonempty : 0 < values.dedup.length := List.length_pos_of_mem (List.mem_dedup.mpr member)
    rw [replicate, show values.dedup.length = 1 by omega]
    rfl

/-- The processes that are found to be gone. -/
def swept (report : List Reported) (db : Database) : List ServiceProcess :=
  match report with
  | [] => []
  | first :: _ =>
      match listRunningServiceByProcessId db first.processId with
      | some ((serviceId, hostId) :: services) =>
          (listLastSuccessProcessByServiceIdsAndHost db (((serviceId, hostId) :: services).map Prod.fst) hostId).filter
            fun process => !(report.map Reported.processId).contains process.id
      | _ => []

theorem updateSupervisorNotExists_eq (report : List Reported) (db : Database) :
    (updateSupervisorNotExists report db).getD db = (swept report db).foldl stopVanished db := by
  cases report with
  | nil => rfl
  | cons first rest =>
    rw [updateSupervisorNotExists, swept]
    cases listRunningServiceByProcessId db first.processId with
    | none => rfl
    | some services =>
      cases services with
      | nil => rfl
      | cons service services => rfl

theorem rows_foldl_stopVanished (gone : List ServiceProcess) (db : Database) :
    (gone.foldl stopVanished db).instances.rows = db.instances.rows.map fun row =>
      if ∃ process ∈ gone, process.instanceId = row.id then { row with instanceStatus := .STOP } else row := by
  induction gone generalizing db with
  | nil => simp
  | cons process gone ih =>
    rw [List.foldl_cons, ih, stopVanished, Database.rows_updateInstanceStatus,
      Database.instances_updateRunningStatus, List.map_map]
    apply List.map_congr_left
    intro row _
    rw [Function.comp_apply]
    by_cases first : row.id = process.instanceId
    · simp [first]
    · have other : ¬ process.instanceId = row.id := fun same => first same.symm
      simp [first, other]

theorem listRunningServiceByProcessId_eq {db : Database} {processId hostId : Int}
    (hosts : startedHosts db processId = [hostId]) :
    ∃ serviceId services, listRunningServiceByProcessId db processId = some ((serviceId, hostId) :: services) ∧
      ∀ sought, sought ∈ ((serviceId, hostId) :: services).map Prod.fst ↔
        ∃ row ∈ db.instances.rows, row.hostId = hostId ∧ row.serviceId = sought := by
  have listed : listRunningServiceByProcessId db processId =
      some ((db.instances.rows.filter fun row => row.hostId = hostId).map
        fun row => (row.serviceId, row.hostId)).dedup := by
    rw [listRunningServiceByProcessId, hosts]
  have mem : ∀ service, service ∈ ((db.instances.rows.filter fun row => row.hostId = hostId).map
      fun row => (row.serviceId, row.hostId)).dedup ↔
        ∃ row ∈ db.instances.rows, row.hostId = hostId ∧ (row.serviceId, row.hostId) = service := by
    intro service
    simp only [List.mem_dedup, List.mem_map, List.mem_filter, decide_eq_true_eq, and_assoc]
  have someRow : ∃ row ∈ db.instances.rows, row.hostId = hostId := by
    have member : hostId ∈ startedHosts db processId := by simp [hosts]
    obtain ⟨row, inRows, same⟩ := List.mem_map.mp (List.mem_dedup.mp member)
    exact ⟨row, (List.mem_filter.mp inRows).1, same⟩
  cases services : ((db.instances.rows.filter fun row => row.hostId = hostId).map
      fun row => (row.serviceId, row.hostId)).dedup with
  | nil =>
    obtain ⟨row, inRows, same⟩ := someRow
    have member := (mem _).mpr ⟨row, inRows, same, rfl⟩
    rw [services] at member
    cases member
  | cons service rest =>
    rw [services] at mem listed
    obtain ⟨row, -, same, is⟩ := (mem service).mp List.mem_cons_self
    obtain ⟨serviceId, host⟩ := service
    obtain rfl : hostId = host := by rw [← same]; exact congrArg Prod.snd is
    refine ⟨serviceId, rest, listed, fun sought => ?_⟩
    rw [List.mem_map]
    constructor
    · rintro ⟨service, member, rfl⟩
      obtain ⟨row, inRows, sameHost, rfl⟩ := (mem service).mp member
      exact ⟨row, inRows, sameHost, rfl⟩
    · rintro ⟨row, inRows, sameHost, rfl⟩
      exact ⟨_, (mem _).mpr ⟨row, inRows, sameHost, rfl⟩, rfl⟩

theorem mem_swept_iff {first : Reported} {rest : List Reported} {db : Database} {process : ServiceProcess} :
    process ∈ swept (first :: rest) db ↔ ∃ hostId serviceIds, startedHosts db first.processId = [hostId] ∧
      (∀ sought, sought ∈ serviceIds ↔ ∃ row ∈ db.instances.rows, row.hostId = hostId ∧ row.serviceId = sought) ∧
      process ∈ listLastSuccessProcessByServiceIdsAndHost db serviceIds hostId ∧
      process.id ∉ (first :: rest).map Reported.processId := by
  have same : ∀ {hostId : Int} {serviceIds others : List Int}, (∀ sought, sought ∈ serviceIds ↔ sought ∈ others) →
      listLastSuccessProcessByServiceIdsAndHost db serviceIds hostId =
        listLastSuccessProcessByServiceIdsAndHost db others hostId := by
    intro hostId serviceIds others mem
    have contains : ∀ sought, serviceIds.contains sought = others.contains sought := by
      intro sought
      rw [Bool.eq_iff_iff, List.contains_iff_mem, List.contains_iff_mem, mem]
    unfold listLastSuccessProcessByServiceIdsAndHost succeeded
    simp only [contains]
  constructor
  · intro inside
    rw [swept] at inside
    cases hosts : startedHosts db first.processId with
    | nil => simp [listRunningServiceByProcessId, hosts] at inside
    | cons hostId more =>
      cases more with
      | cons other more => simp [listRunningServiceByProcessId, hosts] at inside
      | nil =>
        obtain ⟨serviceId, services, listed, mem⟩ := listRunningServiceByProcessId_eq hosts
        rw [listed] at inside
        obtain ⟨newest, unreported⟩ := List.mem_filter.mp inside
        exact ⟨hostId, _, rfl, mem, newest, by simpa using unreported⟩
  · rintro ⟨hostId, serviceIds, hosts, services, newest, unreported⟩
    obtain ⟨serviceId, more, listed, mem⟩ := listRunningServiceByProcessId_eq hosts
    rw [swept, listed]
    refine List.mem_filter.mpr ⟨?_, by simpa using unreported⟩
    rwa [same fun sought => (mem sought).trans (services sought).symm]

theorem mem_listLast_iff {db : Database} {serviceIds : List Int} {hostId : Int} {process : ServiceProcess} :
    process ∈ listLastSuccessProcessByServiceIdsAndHost db serviceIds hostId ↔
      process ∈ succeeded db serviceIds hostId ∧ ∀ other ∈ succeeded db serviceIds hostId,
        other.serviceId = process.serviceId → other.instanceId = process.instanceId → other.id ≤ process.id := by
  unfold listLastSuccessProcessByServiceIdsAndHost
  rw [List.mem_filter, List.all_eq_true]
  apply and_congr_right'
  apply forall₂_congr
  intro other _
  simp only [Bool.or_eq_true, Bool.not_eq_true', Bool.and_eq_false_iff, decide_eq_false_iff_not, decide_eq_true_eq]
  tauto

theorem mem_succeeded_iff {db : Database} {serviceIds : List Int} {hostId : Int} {process : ServiceProcess} :
    process ∈ succeeded db serviceIds hostId ↔ process ∈ db.processes.rows ∧ process.status = .SUCCESS ∧
      process.serviceId ∈ serviceIds ∧
        ∃ row ∈ db.instances.rows, row.id = process.instanceId ∧ row.isDeleted = false ∧ row.hostId = hostId := by
  unfold succeeded
  simp only [List.mem_filter, Bool.and_eq_true, decide_eq_true_eq, List.contains_iff_mem, List.any_eq_true,
    Bool.not_eq_true', and_assoc]

end Sweep

section Vanishing
variable {fold} {db after : Database} {report : List Reported}

theorem mem_startedHosts_iff {first : Reported} (applied : Applied fold db report after .done) {hostId : Int} :
    startedHosts after first.processId = [hostId] ↔ (∃ named, Names fold db report first named) ∧
      ∀ named, Names fold db report first named → named.hostId = hostId := by
  have mem : ∀ x, x ∈ (after.instances.rows.filter fun row => row.instanceStatus = .START &&
      after.refs.any fun ref => ref.serviceProcessId = first.processId && ref.instanceId = some row.id).map
        ServiceInstance.hostId ↔ ∃ named, Names fold db report first named ∧ named.hostId = x := by
    intro x
    rw [applied.instances, applied.refs, List.mem_map]
    constructor
    · rintro ⟨shown, inside, rfl⟩
      obtain ⟨inRows, holds⟩ := List.mem_filter.mp inside
      obtain ⟨row, isRow, rfl⟩ := List.mem_map.mp inRows
      simp only [Bool.and_eq_true, decide_eq_true_eq, List.any_eq_true] at holds
      exact ⟨row, ⟨isRow, holds.1, holds.2⟩, rfl⟩
    · rintro ⟨row, ⟨isRow, isStart, named⟩, rfl⟩
      refine ⟨_, List.mem_filter.mpr ⟨List.mem_map.mpr ⟨row, isRow, rfl⟩, ?_⟩, rfl⟩
      simp only [Bool.and_eq_true, decide_eq_true_eq, List.any_eq_true]
      exact ⟨isStart, named⟩
  unfold startedHosts
  rw [dedup_eq_singleton_iff]
  apply and_congr
  · constructor
    · rintro ⟨x, member⟩
      obtain ⟨named, names, -⟩ := (mem x).mp member
      exact ⟨named, names⟩
    · rintro ⟨named, names⟩
      exact ⟨_, (mem _).mpr ⟨named, names, rfl⟩⟩
  · constructor
    · intro all named names
      exact all _ ((mem _).mpr ⟨named, names, rfl⟩)
    · intro all x member
      obtain ⟨named, names, rfl⟩ := (mem x).mp member
      exact all named names

theorem mem_succeeded_iff_counts (applied : Applied fold db report after .done) {row : ServiceInstance}
    (member : row ∈ db.instances.rows) (kept : row.isDeleted = false) {serviceIds : List Int}
    (services : ∀ sought, sought ∈ serviceIds ↔
      ∃ other ∈ after.instances.rows, other.hostId = row.hostId ∧ other.serviceId = sought)
    {process : ServiceProcess} (own : process.instanceId = row.id) :
    process ∈ succeeded after serviceIds row.hostId ↔ ∃ before, Counts db report row before ∧
      process ∈ after.processes.rows ∧ process.id = before.id ∧ process.serviceId = before.serviceId := by
  obtain ⟨seen, processes, keeps⟩ := applied.processes
  have hosts : ∀ sought, (∃ other ∈ after.instances.rows, other.hostId = row.hostId ∧ other.serviceId = sought) ↔
      ∃ other ∈ db.instances.rows, other.hostId = row.hostId ∧ other.serviceId = sought := by
    intro sought
    rw [applied.instances]
    simp only [List.mem_map, exists_exists_and_eq_and]
  rw [mem_succeeded_iff, services, hosts]
  constructor
  · rintro ⟨inRows, success, other, -⟩
    rw [processes] at inRows
    obtain ⟨before, isBefore, rfl⟩ := List.mem_map.mp inRows
    obtain ⟨id, serviceId, instanceId, status⟩ := keeps before
    rw [serviceId] at other
    refine ⟨before, ⟨isBefore, instanceId.symm.trans own, (status rfl).mp success, other⟩, ?_, id, serviceId⟩
    rw [processes]
    exact inRows
  · rintro ⟨before, ⟨isBefore, -, success, other⟩, inRows, sameId, sameService⟩
    rw [sameService]
    refine ⟨inRows, ?_, other, ?_⟩
    · rw [processes] at inRows
      obtain ⟨source, isSource, rfl⟩ := List.mem_map.mp inRows
      obtain ⟨id, -, -, status⟩ := keeps source
      obtain rfl : source = before :=
        List.inj_on_of_nodup_map db.processes.keys isSource isBefore (id.symm.trans sameId)
      exact (status rfl).mpr success
    · rw [applied.instances]
      exact ⟨_, List.mem_map.mpr ⟨row, member, rfl⟩, own.symm, kept, rfl⟩

theorem exists_swept_iff (applied : Applied fold db report after .done) {row : ServiceInstance}
    (member : row ∈ db.instances.rows) :
    (∃ process ∈ swept report after, process.instanceId = row.id) ↔ Vanished fold db report row := by
  have whole := applied.done.mp rfl
  obtain ⟨seen, processes, keeps⟩ := applied.processes
  cases report with
  | nil =>
    constructor
    · rintro ⟨process, inside, -⟩
      cases inside
    · intro vanished
      obtain ⟨first, isFirst, -⟩ := vanished.host
      cases isFirst
  | cons first rest =>
    constructor
    · rintro ⟨process, inside, own⟩
      obtain ⟨hostId, serviceIds, hosts, services, newest, unreported⟩ := mem_swept_iff.mp inside
      obtain ⟨isSucceeded, isNewest⟩ := mem_listLast_iff.mp newest
      obtain ⟨-, -, -, shown, isShown, sameId, kept, sameHost⟩ := mem_succeeded_iff.mp isSucceeded
      rw [applied.instances] at isShown
      obtain ⟨source, isSource, rfl⟩ := List.mem_map.mp isShown
      obtain rfl : source = row :=
        List.inj_on_of_nodup_map db.instances.keys isSource member (sameId.trans own)
      obtain rfl : source.hostId = hostId := sameHost
      obtain ⟨before, counts, inRows, id, serviceId⟩ :=
        (mem_succeeded_iff_counts applied member kept services own).mp isSucceeded
      refine ⟨whole, ⟨first, rfl, (mem_startedHosts_iff applied).mp hosts⟩, kept, before, counts, id ▸ unreported, ?_⟩
      intro other otherCounts sameService
      obtain ⟨otherId, otherService, otherInstance, -⟩ := keeps other
      have otherOwn : (seen other).instanceId = source.id := otherInstance.trans otherCounts.2.1
      have otherRows : seen other ∈ after.processes.rows := by
        rw [processes]
        exact List.mem_map_of_mem otherCounts.1
      have otherSucceeded := (mem_succeeded_iff_counts applied member kept services otherOwn).mpr
        ⟨other, otherCounts, otherRows, otherId, otherService⟩
      have least := isNewest _ otherSucceeded (otherService.trans (sameService.trans serviceId.symm))
        (otherOwn.trans own.symm)
      rwa [otherId, id] at least
    · rintro ⟨-, ⟨named, isFirst, hosts⟩, kept, before, counts, unreported, isNewest⟩
      obtain rfl : first = named := Option.some.inj isFirst
      have isHost := (mem_startedHosts_iff applied).mpr hosts
      obtain ⟨serviceId, more, -, services⟩ := listRunningServiceByProcessId_eq isHost
      obtain ⟨sameId, sameService, sameInstance, -⟩ := keeps before
      have own : (seen before).instanceId = row.id := sameInstance.trans counts.2.1
      have inRows : seen before ∈ after.processes.rows := by
        rw [processes]
        exact List.mem_map_of_mem counts.1
      refine ⟨seen before, mem_swept_iff.mpr ⟨_, _, isHost, services, mem_listLast_iff.mpr ⟨?_, ?_⟩, ?_⟩, own⟩
      · exact (mem_succeeded_iff_counts applied member kept services own).mpr
          ⟨before, counts, inRows, sameId, sameService⟩
      · intro other otherSucceeded otherService otherInstance
        obtain ⟨source, sourceCounts, -, id, service⟩ := (mem_succeeded_iff_counts applied member kept services
          (otherInstance.trans own)).mp otherSucceeded
        rw [id, sameId]
        exact isNewest source sourceCounts (service.symm.trans (otherService.trans sameService))
      · rwa [sameId]

open Classical in
theorem rows_updateRunningStatus_report (report : List Reported) (db : Database) :
    (updateRunningStatus fold report db).instances.rows = db.instances.rows.map fun row =>
      { row with instanceStatus :=
          if Vanished fold db report row then .STOP else shownStatus fold db report row } := by
  have applied := @applied_applyReport fold report db
  unfold updateRunningStatus
  split
  · next after isAfter =>
    rw [isAfter] at applied
    rw [updateSupervisorNotExists_eq, rows_foldl_stopVanished, applied.instances, List.map_map]
    apply List.map_congr_left
    intro row member
    rw [Function.comp_apply]
    simp only [exists_swept_iff applied member]
    split <;> rfl
  · next after ending early isAfter =>
    rw [isAfter] at applied
    rw [applied.instances]
    apply List.map_congr_left
    intro row _
    have stays : ¬ Vanished fold db report row := fun vanished => early (applied.done.mpr vanished.whole)
    rw [if_neg stays]

end Vanishing

theorem get_updateRunningStatus {db : Database} {report : List Reported} {row : ServiceInstance}
    (member : row ∈ db.instances.rows) {after : ServiceInstance} :
    (updateRunningStatus fold report db).instances.get row.id = some after ↔
      (Vanished fold db report row ∧ after = { row with instanceStatus := .STOP }) ∨
      (¬ Vanished fold db report row ∧ after = { row with instanceStatus := shownStatus fold db report row }) := by
  have rows := @rows_updateRunningStatus_report fold report db
  rw [Table.get_eq_some_iff, rows, List.mem_map]
  constructor
  · rintro ⟨⟨source, isSource, rfl⟩, same⟩
    obtain rfl : source = row := List.inj_on_of_nodup_map db.instances.keys isSource member same
    by_cases vanished : Vanished fold db report source
    · exact .inl ⟨vanished, by rw [if_pos vanished]⟩
    · exact .inr ⟨vanished, by rw [if_neg vanished]⟩
  · rintro (⟨vanished, rfl⟩ | ⟨stays, rfl⟩)
    · exact ⟨⟨row, member, by rw [if_pos vanished]⟩, rfl⟩
    · exact ⟨⟨row, member, by rw [if_neg stays]⟩, rfl⟩

theorem fits_iff {db : Database} {report : List Reported} {row : ServiceInstance}
    (member : row ∈ db.instances.rows) :
    (∃ after, (updateRunningStatus fold report db).instances.get row.id = some after ∧
      AsReported fold db report row.id after.instanceStatus) ↔ Fits fold db report row := by
  by_cases vanished : Vanished fold db report row
  · have is := (get_updateRunningStatus fold member).mpr (.inl ⟨vanished, rfl⟩)
    constructor
    · rintro ⟨after, isAfter, running, starting, -⟩
      obtain rfl := Option.some.inj (is.symm.trans isAfter)
      refine ⟨fun one => ?_, fun none one => ?_, fun _ _ => .inl vanished⟩
      · cases running one
      · cases starting none one
    · rintro ⟨running, starting, -⟩
      exact ⟨_, is, fun one => absurd vanished (running one).1,
        fun none one => absurd vanished (starting none one).1, fun _ _ => rfl⟩
  · have is := (get_updateRunningStatus fold member).mpr (.inr ⟨vanished, rfl⟩)
    constructor
    · rintro ⟨after, isAfter, running, starting, stopped⟩
      obtain rfl := Option.some.inj (is.symm.trans isAfter)
      exact ⟨fun one => ⟨vanished, running one⟩, fun none one => ⟨vanished, starting none one⟩,
        fun none neither => .inr (stopped none neither)⟩
    · rintro ⟨running, starting, stopped⟩
      refine ⟨_, is, fun one => (running one).2, fun none one => (starting none one).2, fun none neither => ?_⟩
      exact (stopped none neither).resolve_left vanished

/-- The instances of a host follow the report exactly when the report fits each of them. -/
theorem status_follows_iff (db : Database) (report : List Reported) (hostId : Int) :
    (∀ row ∈ db.instances.rows, row.hostId = hostId → row.isDeleted = false →
      ∃ after, (updateRunningStatus fold report db).instances.get row.id = some after ∧
        AsReported fold db report row.id after.instanceStatus) ↔
    ∀ row ∈ db.instances.rows, row.hostId = hostId → row.isDeleted = false → Fits fold db report row := by
  apply forall₂_congr
  intro row member
  rw [fits_iff fold member]

instance (db : Database) (report : List Reported) (instanceId : Int) (state : RunningStatusEnum) :
    Decidable (ReportedIn fold db report instanceId state) :=
  inferInstanceAs (Decidable (∃ entry ∈ report, _))

def oneInstance (instanceStatus : InstanceStatusEnum) : Database where
  instances := .ofList [⟨1, 1, 1, instanceStatus, false⟩]
  processes := .ofList [⟨10, 1, 1, "STOPPED", .SUCCESS⟩, ⟨11, 1, 1, "RUNNING", .SUCCESS⟩]
  refs := [⟨some 1, 10, "port", "9092"⟩, ⟨some 1, 11, "port", "9092"⟩]

def statusAfter (report : List Reported) (db : Database) : Option InstanceStatusEnum :=
  ((updateRunningStatus Char.toLower report db).instances.get 1).map (·.instanceStatus)

/-- An empty report leaves the instance started, the order of a report decides, and an
unknown state keeps the entries after it from being applied. -/
theorem status_not_followed :
    (statusAfter [] (oneInstance .START) = some .START ∧
      ¬ AsReported Char.toLower (oneInstance .START) [] 1 .START) ∧
    (statusAfter [⟨11, "RUNNING"⟩, ⟨10, "EXITED"⟩] (oneInstance .START) = some .STOP ∧
      ¬ AsReported Char.toLower (oneInstance .START) [⟨11, "RUNNING"⟩, ⟨10, "EXITED"⟩] 1 .STOP) ∧
    (statusAfter [⟨10, "SHUTDOWN"⟩, ⟨11, "RUNNING"⟩] (oneInstance .STOP) = some .STOP ∧
      ¬ AsReported Char.toLower (oneInstance .STOP) [⟨10, "SHUTDOWN"⟩, ⟨11, "RUNNING"⟩] 1 .STOP) := by
  unfold AsReported
  decide

end Zms.Portal.Processes
