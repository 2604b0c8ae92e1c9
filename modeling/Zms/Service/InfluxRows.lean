import Zms.Service.InfluxTransformer

/-! Interleaved calls of the transformer return the objects of their rows as
long as none of them is disturbed by another at a lookup or at a store. -/

set_option autoImplicit false

namespace Zms.Influx

open Zms.Transition

variable {Double Instant : Type} (java : JavaValues Double Instant) (clazz : MeasurementClass)

/-- Whoever looks a column up finds its field in the cache already, and whoever
sets a field that is not visible still finds it accessible. -/
def Undisturbed (s : Interleaved.State ℕ Shared (Local Double Instant)) (call : ℕ) : Prop :=
  match s.locals call with
  | .parsing (.cell column _ :: _) _ _ =>
    (s.shared.lookup column).map FieldRef.field = clazz.mappedField column
  | .setting (.storing _) ref _ _ _ _ => (ref.field.visible || s.shared.accessible ref) = true
  | _ => True

instance (s : Interleaved.State ℕ Shared (Local Double Instant)) (call : ℕ) : Decidable (Undisturbed clazz s call) := by
  unfold Undisturbed
  split <;> infer_instance

/-- The object after a cell, if the cell can be stored. -/
def assigned (object : Option (Object Double Instant)) (field : Field) (value : Option (Option (Datum Double))) :
    Option (Object Double Instant) :=
  (object.or clazz.newInstance).bind fun object => value.bind fun value =>
    match value with
    | none => some object
    | some value => (java.fieldValue field.type value).map fun stored => object.set field stored

/-- What the tasks lead to when nothing disturbs them. -/
def settle : List (Task Double) → Option (Object Double Instant) → List (Object Double Instant) →
    Option (List (Object Double Instant))
  | [], _, result => some result
  | .endRow :: todo, object, result => settle todo none (result ++ object.toList)
  | .cell column value :: todo, object, result =>
    match clazz.mappedField column with
    | none => settle todo object result
    | some field => (assigned java clazz object field value).bind fun object => settle todo (some object) result

/-- What a call will return if nothing disturbs it any more. -/
def outlook (queryResult : QueryResult Double) : Local Double Instant → Option (List (Object Double Instant))
  | .testing | .publishing | .filling _ => settle java clazz queryResult.tasks none []
  | .parsing todo object result => settle java clazz todo object result
  | .setting _ ref value todo object result =>
    ((java.fieldValue ref.field.type value).map fun stored => object.set ref.field stored).bind fun object =>
      settle java clazz todo (some object) result
  | .closing _ _ object todo result => object.bind fun object => settle java clazz todo (some object) result
  | .finished outcome => outcome

variable {java clazz}

theorem outlook_lookup {queryResult : QueryResult Double} {call : ℕ} {shared : Shared} {column : String}
    {value : Option (Option (Datum Double))} {todo : List (Task Double)} {object : Option (Object Double Instant)}
    {result : List (Object Double Instant)}
    (found : (shared.lookup column).map FieldRef.field = clazz.mappedField column) :
    outlook java clazz queryResult
      (step java clazz queryResult call shared (.parsing (.cell column value :: todo) object result)).2 =
      settle java clazz (.cell column value :: todo) object result := by
  simp only [step, settle, ← found]
  cases shared.lookup column with
  | none => rfl
  | some ref =>
    simp only [Option.map_some, assigned]
    cases object.or clazz.newInstance with
    | none => rfl
    | some fresh =>
      cases value with
      | none => rfl
      | some cell => cases cell <;> rfl

theorem outlook_step {queryResults : ℕ → QueryResult Double}
    (s : Interleaved.State ℕ Shared (Local Double Instant)) (call : ℕ) (undisturbed : Undisturbed clazz s call) :
    outlook java clazz (queryResults call) ((calls java clazz queryResults).step call s.shared (s.locals call)).2 =
      outlook java clazz (queryResults call) (s.locals call) := by
  change outlook java clazz _ (step java clazz (queryResults call) call s.shared (s.locals call)).2 = _
  unfold Undisturbed at undisturbed
  generalize s.locals call = l at undisturbed ⊢
  cases l with
  | testing => simp only [step]; split <;> rfl
  | publishing => rfl
  | filling rest => cases rest <;> rfl
  | parsing todo object result =>
    cases todo with
    | nil => rfl
    | cons task todo =>
      cases task with
      | endRow => rfl
      | cell column value => exact outlook_lookup undisturbed
  | setting stage ref value todo object result =>
    cases stage with
    | opening => rfl
    | enabling old => rfl
    | storing old => simp only [step, outlook, if_pos undisturbed]
  | closing old ref object todo result => cases object <;> rfl
  | finished outcome => rfl

/-! The tasks lead to the objects of the rows. -/

theorem settle_unmapped {column : String} {value : Option (Option (Datum Double))} {todo : List (Task Double)}
    {object : Option (Object Double Instant)} {result : List (Object Double Instant)}
    (unmapped : clazz.mappedField column = none) :
    settle java clazz (.cell column value :: todo) object result = settle java clazz todo object result := by
  simp only [settle, unmapped]

theorem settle_mapped {column : String} {value : Option (Option (Datum Double))} {todo : List (Task Double)}
    {object : Option (Object Double Instant)} {result : List (Object Double Instant)} {field : Field}
    (mapped : clazz.mappedField column = some field) :
    settle java clazz (.cell column value :: todo) object result =
      (assigned java clazz object field value).bind fun object => settle java clazz todo (some object) result := by
  simp only [settle, mapped]

theorem rowTasks_cons (cell : Cell Double) (cells : List (Cell Double)) :
    rowTasks (cell :: cells) = .cell cell.1 cell.2 :: rowTasks cells := rfl

theorem mappedCells_cons_none {cell : Cell Double} {cells : List (Cell Double)}
    (unmapped : clazz.mappedField cell.1 = none) :
    clazz.mappedCells (cell :: cells) = clazz.mappedCells cells := by
  simp [MeasurementClass.mappedCells, unmapped]

theorem mappedCells_cons_some {cell : Cell Double} {cells : List (Cell Double)} {field : Field}
    (mapped : clazz.mappedField cell.1 = some field) :
    clazz.mappedCells (cell :: cells) = (field, cell.2) :: clazz.mappedCells cells := by
  simp [MeasurementClass.mappedCells, mapped]

theorem objectOf_nil : objectOf ([] : List (Field × Option (Stored Double Instant))) = fun _ => none := rfl

theorem objectOf_snoc_none (given : List (Field × Option (Stored Double Instant))) (field : Field) :
    objectOf (given ++ [(field, none)]) = objectOf given := by
  funext other
  simp [objectOf, List.filterMap_append]

theorem objectOf_snoc_some (given : List (Field × Option (Stored Double Instant))) (field : Field)
    (stored : Stored Double Instant) :
    objectOf (given ++ [(field, some stored)]) = (objectOf given).set field stored := by
  funext other
  by_cases own : other = field
  · subst own
    simp [objectOf, Object.set, List.filterMap_append]
  · simp [objectOf, Object.set, List.filterMap_append, Function.update_of_ne own, Ne.symm own]

theorem assigned_some (given : List (Field × Option (Stored Double Instant))) (field : Field)
    (value : Option (Option (Datum Double))) :
    assigned java clazz (some (objectOf given)) field value =
      (cellValue java (field, value)).map fun last => objectOf (given ++ [last]) := by
  cases value with
  | none => rfl
  | some value =>
    cases value with
    | none => simp [assigned, cellValue, objectOf_snoc_none]
    | some value =>
      simp only [assigned, cellValue, Option.some_or, Option.bind_some, Option.map_map]
      congr 1
      funext stored
      exact (objectOf_snoc_some given field stored).symm

theorem assigned_none (made : clazz.instantiable) (field : Field) (value : Option (Option (Datum Double))) :
    assigned java clazz none field value = (cellValue java (field, value)).map fun first => objectOf [first] := by
  have started : assigned java clazz none field value = assigned java clazz (some (objectOf [])) field value := by
    simp [assigned, MeasurementClass.newInstance, made, objectOf_nil]
  rw [started]
  exact assigned_some [] field value

theorem settle_started (cells : List (Cell Double)) (given : List (Field × Option (Stored Double Instant)))
    (todo : List (Task Double)) (result : List (Object Double Instant)) :
    settle java clazz (rowTasks cells ++ todo) (some (objectOf given)) result =
      ((clazz.mappedCells cells).mapM (cellValue java)).bind fun others =>
        settle java clazz todo none (result ++ [objectOf (given ++ others)]) := by
  induction cells generalizing given with
  | nil => simp [rowTasks, settle, MeasurementClass.mappedCells]
  | cons cell cells ih =>
    rw [rowTasks_cons, List.cons_append]
    cases mapped : clazz.mappedField cell.1 with
    | none => rw [settle_unmapped mapped, mappedCells_cons_none mapped, ih]
    | some field =>
      rw [settle_mapped mapped, mappedCells_cons_some mapped, assigned_some, List.mapM_cons]
      cases cellValue java (field, cell.2) with
      | none => rfl
      | some last => simp [ih, Option.bind_assoc]

theorem settle_row (cells : List (Cell Double)) (todo : List (Task Double)) (result : List (Object Double Instant)) :
    settle java clazz (rowTasks cells ++ todo) none result =
      if (clazz.mappedCells cells).isEmpty then settle java clazz todo none result
      else (rowObject java clazz cells).bind fun object => settle java clazz todo none (result ++ [object]) := by
  induction cells with
  | nil => simp [rowTasks, settle, MeasurementClass.mappedCells]
  | cons cell cells ih =>
    rw [rowTasks_cons, List.cons_append]
    cases mapped : clazz.mappedField cell.1 with
    | none =>
      rw [settle_unmapped mapped]
      simp only [rowObject, mappedCells_cons_none mapped]
      exact ih
    | some field =>
      rw [settle_mapped mapped]
      simp only [rowObject, mappedCells_cons_some mapped, List.isEmpty_cons, Bool.false_eq_true, if_false]
      by_cases made : clazz.instantiable
      · rw [assigned_none made, if_pos made, List.mapM_cons]
        cases cellValue java (field, cell.2) with
        | none => rfl
        | some first => simp [settle_started, Option.bind_assoc]
      · rw [if_neg made]
        simp [assigned, MeasurementClass.newInstance, made]

theorem mappedCells_isEmpty (series : Series Double) (row : List (Option (Datum Double))) :
    (clazz.mappedCells (series.cells row)).isEmpty ↔ ¬series.Mapped clazz := by
  have names : (series.cells row).map Prod.fst = series.columns ++ (series.tags.getD []).map Prod.fst := by
    simp only [Series.cells, List.map_append, List.map_map, Function.comp_def]
    rw [List.zipIdx_map_fst]
  rw [Series.Mapped, ← names]
  simp [MeasurementClass.mappedCells, List.filterMap_eq_nil_iff, Option.isSome_iff_ne_none]

theorem settle_series (series : Series Double) (todo : List (Task Double)) (result : List (Object Double Instant)) :
    settle java clazz (series.tasks ++ todo) none result =
      if series.Mapped clazz then
        ((series.values.map series.cells).mapM (rowObject java clazz)).bind fun objects =>
          settle java clazz todo none (result ++ objects)
      else settle java clazz todo none result := by
  unfold Series.tasks
  generalize series.values = values
  induction values generalizing result with
  | nil => simp
  | cons row values ih =>
    rw [List.flatMap_cons, List.append_assoc, settle_row]
    by_cases mapped : series.Mapped clazz
    · rw [if_neg fun empty => (mappedCells_isEmpty series row).mp empty mapped, if_pos mapped, List.map_cons,
        List.mapM_cons]
      cases rowObject java clazz (series.cells row) with
      | none => rfl
      | some object => simp [ih, mapped, Option.bind_assoc]
    · rw [if_pos ((mappedCells_isEmpty series row).mpr mapped), ih, if_neg mapped, if_neg mapped]

theorem settle_allSeries (allSeries : List (Series Double)) (result : List (Object Double Instant)) :
    settle java clazz (allSeries.flatMap Series.tasks) none result =
      (((allSeries.filter fun series => series.Mapped clazz).flatMap fun series =>
        series.values.map series.cells).mapM (rowObject java clazz)).map fun objects => result ++ objects := by
  induction allSeries generalizing result with
  | nil => simp [settle]
  | cons series others ih =>
    rw [List.flatMap_cons, settle_series]
    by_cases mapped : series.Mapped clazz
    · rw [if_pos mapped, List.filter_cons_of_pos (by simpa using mapped), List.flatMap_cons, List.mapM_append]
      cases (series.values.map series.cells).mapM (rowObject java clazz) with
      | none => rfl
      | some objects => simp [ih, Option.map_eq_bind, Option.bind_assoc]
    · rw [if_neg mapped, List.filter_cons_of_neg (by simpa using mapped), ih]

theorem outlook_begin (queryResult : QueryResult Double) :
    outlook java clazz queryResult (begin queryResult) = expected java clazz queryResult := by
  unfold begin expected
  split
  · rfl
  · simp [outlook, QueryResult.tasks, settle_allSeries, mappedRows]

/-! A call returns after so many steps of its own. -/

def Stage.remaining : Stage → ℕ
  | .opening => 4
  | .enabling _ => 3
  | .storing _ => 2

variable (clazz) in
def Local.remaining (queryResult : QueryResult Double) : Local Double Instant → ℕ
  | .testing => 5 * queryResult.tasks.length + clazz.declaredFields.length + 4
  | .publishing => 5 * queryResult.tasks.length + clazz.declaredFields.length + 3
  | .filling rest => 5 * queryResult.tasks.length + rest.length + 2
  | .parsing todo _ _ => 5 * todo.length + 1
  | .setting stage _ _ todo _ _ => 5 * todo.length + 1 + stage.remaining
  | .closing _ _ _ todo _ => 5 * todo.length + 2
  | .finished _ => 0

theorem remaining_step (queryResult : QueryResult Double) (call : ℕ) (shared : Shared) (l : Local Double Instant) :
    (step java clazz queryResult call shared l).2.remaining clazz queryResult ≤ l.remaining clazz queryResult - 1 := by
  cases l with
  | testing =>
    simp only [step]
    split <;> simp only [Local.remaining] <;> omega
  | publishing => simp [step, Local.remaining]
  | filling rest => cases rest <;> simp only [step, Local.remaining, List.length_nil, List.length_cons] <;> omega
  | parsing todo object result =>
    cases todo with
    | nil => simp [step, Local.remaining]
    | cons task todo =>
      cases task with
      | endRow => simp only [step, Local.remaining, List.length_cons]; omega
      | cell column value =>
        simp only [step]
        split
        · simp only [Local.remaining, List.length_cons]; omega
        · split <;> simp only [Local.remaining, Stage.remaining, List.length_cons] <;> omega
  | setting stage ref value todo object result => cases stage <;> simp [step, Local.remaining, Stage.remaining]
  | closing old ref object todo result => cases object <;> simp [step, Local.remaining]
  | finished outcome => simp [step, Local.remaining]

theorem finished_of_remaining {queryResult : QueryResult Double} {l : Local Double Instant}
    (none : l.remaining clazz queryResult = 0) : ∃ outcome, l = .finished outcome := by
  cases l with
  | finished outcome => exact ⟨outcome, rfl⟩
  | testing => simp [Local.remaining] at none
  | publishing => simp [Local.remaining] at none
  | filling rest => simp [Local.remaining] at none
  | parsing todo object result => simp [Local.remaining] at none
  | setting stage ref value todo object result => simp [Local.remaining] at none
  | closing old ref object todo result => simp [Local.remaining] at none

theorem remaining_begin (queryResult : QueryResult Double) :
    (begin queryResult : Local Double Instant).remaining clazz queryResult ≤
      5 * queryResult.tasks.length + clazz.declaredFields.length + 4 := by
  unfold begin
  split <;> simp [Local.remaining]

/-- In every interleaving of undisturbed steps, a call that has returned has
returned the objects of its rows, and each call returns. -/
theorem returns_rows {queryResults : ℕ → QueryResult Double} {actions : List ℕ}
    {s : Interleaved.State ℕ Shared (Local Double Instant)}
    (runs : ((calls java clazz queryResults).system.restrict (Undisturbed clazz)).Runs
      (calls java clazz queryResults).first actions s) (call : ℕ) :
    (∀ outcome, s.locals call = .finished outcome → outcome = expected java clazz (queryResults call)) ∧
      (5 * (queryResults call).tasks.length + clazz.declaredFields.length + 4 ≤ actions.count call →
        s.locals call = .finished (expected java clazz (queryResults call))) := by
  have right : ∀ outcome, s.locals call = .finished outcome → outcome = expected java clazz (queryResults call) := by
    intro outcome finished
    have kept : outlook java clazz (queryResults call) (s.locals call) = _ :=
      Interleaved.begun (fun s call => outlook_step s call) runs call
    rw [finished] at kept
    exact kept.trans (outlook_begin _)
  refine ⟨right, fun enough => ?_⟩
  have few : (s.locals call).remaining clazz (queryResults call) ≤ _ :=
    Interleaved.ends call (fun shared l => remaining_step (queryResults call) call shared l) runs.of_restrict
  have bound : (begin (queryResults call) : Local Double Instant).remaining clazz (queryResults call) ≤ _ :=
    remaining_begin (queryResults call)
  obtain ⟨outcome, finished⟩ := finished_of_remaining (Nat.le_zero.mp (few.trans (by
    change (begin (queryResults call) : Local Double Instant).remaining clazz (queryResults call) - _ ≤ 0
    omega)))
  rw [finished, right outcome finished]

/-! Calls that disturb each other. -/

def wholeNumbers : JavaValues ℤ ℤ where
  toString d := ToString.toString d ++ ".0"
  longValue d := d
  intValue d := d
  ofEpochMilli millis := millis
  parse _ := none

def hostClass : MeasurementClass := ⟨[⟨"name", some "host", .string, false⟩], true⟩

def oneHost : QueryResult ℤ := ⟨none, [⟨none, some [⟨["host"], none, [[some (.text "a")]]⟩]⟩]⟩

/-- The number of objects returned, `none` inside for an exception. -/
def Local.returned : Local Double Instant → Option (Option ℕ)
  | .finished outcome => some (outcome.map List.length)
  | _ => none

/-- A call that tests the cache while the first call has only published it
returns no object for the row, and one whose field another call closes in
between gets an exception. -/
theorem disturbed : let programs := calls wholeNumbers hostClass fun _ => oneHost
    (∃ s, programs.system.Runs programs.first [0, 0, 1, 1, 1, 1] s ∧ (s.locals 1).returned = some (some 0)) ∧
    (∃ s, programs.system.Runs programs.first [0, 0, 0, 0, 1, 0, 0, 1, 1, 0, 0, 1, 0, 1, 1] s ∧
      (s.locals 1).returned = some none) ∧
    (expected wholeNumbers hostClass oneHost).map List.length = some 1 := by
  refine ⟨Guarded.exists_runs _ _ (by decide +kernel), Guarded.exists_runs _ _ (by decide +kernel), by decide +kernel⟩

/-- One call alone. -/
theorem returns_rows_alone : ∃ s : Interleaved.State ℕ Shared (Local ℤ ℤ),
    s.locals 0 = .finished (expected wholeNumbers hostClass oneHost) := by
  have alone : (((calls wholeNumbers hostClass fun _ => oneHost).system.restrict (Undisturbed hostClass)).exec
      (calls wholeNumbers hostClass fun _ => oneHost).first (List.replicate 15 0)).any (fun _ => decide True) := by
    decide +kernel
  obtain ⟨s, runs, -⟩ := Guarded.exists_runs _ _ alone
  exact ⟨s, (returns_rows runs 0).2 (by decide)⟩

end Zms.Influx
