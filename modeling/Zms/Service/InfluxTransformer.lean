import Zms.Transition.Collecting
import Zms.Transition.Interleaved

/-! Query results of the metrics database mapped to the objects of a class, by
any number of calls at once. The columns of the class are found in a cache
that the calls share, and so are the `Field` objects kept in it. -/

set_option autoImplicit false

namespace Zms.Influx

open Zms.Transition

inductive FieldType where
  | string | instant | double | long | int | boolean
  | doubleObject | longObject | intObject | booleanObject
  | other
  deriving DecidableEq

/-- A field that the class declares; `column` is the name in its annotation,
and only a visible one can be set without `setAccessible`. -/
structure Field where
  name : String
  column : Option String
  type : FieldType
  visible : Bool
  deriving DecidableEq

structure MeasurementClass where
  declaredFields : List Field
  /-- `newInstance` finds a constructor -/
  instantiable : Bool

variable {Double Instant : Type}

inductive Datum (Double : Type) where
  | text (value : String)
  | double (value : Double)
  | long (value : ℤ)
  | boolean (value : Bool)

inductive Stored (Double Instant : Type) where
  | text (value : String)
  | instant (value : Instant)
  | double (value : Double)
  | long (value : ℤ)
  | int (value : ℤ)
  | boolean (value : Bool)

/-- What the conversions use of Java's own number and time classes. -/
structure JavaValues (Double Instant : Type) where
  toString : Double → String
  longValue : Double → ℤ
  intValue : Double → ℤ
  ofEpochMilli : ℤ → Instant
  /-- by `ISO8601_FORMATTER`; `none` where it throws -/
  parse : String → Option Instant

/-- A row holds what the database sent for the columns, `none` for null. -/
structure Series (Double : Type) where
  columns : List String
  tags : Option (List (String × Option String))
  values : List (List (Option (Datum Double)))

structure Result (Double : Type) where
  error : Option String
  series : Option (List (Series Double))

structure QueryResult (Double : Type) where
  error : Option String
  results : List (Result Double)

def QueryResult.hasError (queryResult : QueryResult Double) : Bool :=
  queryResult.error.isSome || queryResult.results.any fun result => result.error.isSome

/-- The series in the order in which `toPOJOList` parses them. -/
def QueryResult.allSeries (queryResult : QueryResult Double) : List (Series Double) :=
  queryResult.results.flatMap fun result => result.series.getD []

namespace JavaValues

variable (java : JavaValues Double Instant)

def valueOf : Datum Double → String
  | .text value => value
  | .double value => java.toString value
  | .long value => ToString.toString value
  | .boolean value => ToString.toString value

def parseBoolean (s : String) : Bool := s.toLower == "true"

/-- `none` where an exception is thrown, `some none` for a field of another type. -/
def fieldValueModified (type : FieldType) (value : Datum Double) : Option (Option (Stored Double Instant)) :=
  match type, value with
  | .string, value => some (some (.text (java.valueOf value)))
  | .instant, .text value => (java.parse value).map fun instant => some (.instant instant)
  | .instant, .long value => some (some (.instant (java.ofEpochMilli value)))
  | .instant, .double value => some (some (.instant (java.ofEpochMilli (java.longValue value))))
  | .instant, .boolean _ => none
  | _, _ => some none

def fieldValueForPrimitivesModified (type : FieldType) (value : Datum Double) :
    Option (Option (Stored Double Instant)) :=
  match type, value with
  | .double, .double value => some (some (.double value))
  | .double, _ => none
  | .long, .double value => some (some (.long (java.longValue value)))
  | .long, _ => none
  | .int, .double value => some (some (.int (java.intValue value)))
  | .int, _ => none
  | .boolean, value => some (some (.boolean (parseBoolean (java.valueOf value))))
  | _, _ => some none

def fieldValueForPrimitiveWrappersModified (type : FieldType) (value : Datum Double) :
    Option (Option (Stored Double Instant)) :=
  match type, value with
  | .doubleObject, .double value => some (some (.double value))
  | .doubleObject, _ => none
  | .longObject, .double value => some (some (.long (java.longValue value)))
  | .longObject, _ => none
  | .intObject, .double value => some (some (.int (java.intValue value)))
  | .intObject, _ => none
  | .booleanObject, value => some (some (.boolean (parseBoolean (java.valueOf value))))
  | _, _ => some none

/-- What `setFieldValue` stores in a field of the type, if it does not throw. -/
def fieldValue (type : FieldType) (value : Datum Double) : Option (Stored Double Instant) :=
  (java.fieldValueModified type value).bind fun first => first.or <|
    (java.fieldValueForPrimitivesModified type value).bind fun second => second.or <|
      (java.fieldValueForPrimitiveWrappersModified type value).bind id

end JavaValues

/-- The fields of an object that a value was stored in; the others are as the
constructor left them. -/
abbrev Object (Double Instant : Type) := Field → Option (Stored Double Instant)

/-- One round of the loops of `parseSeriesAs`: a column of a row or a tag with
its value (`none` past the end of the row), or the end of a row. -/
inductive Task (Double : Type) where
  | cell (column : String) (value : Option (Option (Datum Double)))
  | endRow

abbrev Cell (Double : Type) := String × Option (Option (Datum Double))

def Series.cells (series : Series Double) (row : List (Option (Datum Double))) : List (Cell Double) :=
  series.columns.zipIdx.map (fun column => (column.1, row[column.2]?)) ++
    (series.tags.getD []).map fun tag => (tag.1, some (tag.2.map .text))

def rowTasks (cells : List (Cell Double)) : List (Task Double) :=
  cells.map (fun cell => .cell cell.1 cell.2) ++ [.endRow]

def Series.tasks (series : Series Double) : List (Task Double) :=
  series.values.flatMap fun row => rowTasks (series.cells row)

def QueryResult.tasks (queryResult : QueryResult Double) : List (Task Double) :=
  queryResult.allSeries.flatMap Series.tasks

/-- `getDeclaredFields` makes new `Field` objects on each call. -/
structure FieldRef where
  call : ℕ
  field : Field
  deriving DecidableEq

structure Shared where
  /-- the entry of the class in `CLASS_FIELD_CACHE` -/
  cache : Option (String → Option FieldRef)
  accessible : FieldRef → Bool

/-- Before which line of its `try` block a call of `setFieldValue` is. -/
inductive Stage where
  | opening
  | enabling (oldAccessibleState : Bool)
  | storing (oldAccessibleState : Bool)

/-- Where a call of `toPOJOList` is. -/
inductive Local (Double Instant : Type) where
  | testing
  | publishing
  | filling (rest : List Field)
  | parsing (todo : List (Task Double)) (object : Option (Object Double Instant))
      (result : List (Object Double Instant))
  | setting (stage : Stage) (ref : FieldRef) (value : Datum Double) (todo : List (Task Double))
      (object : Object Double Instant) (result : List (Object Double Instant))
  /-- in the `finally` block; no object where an exception is under way -/
  | closing (oldAccessibleState : Bool) (ref : FieldRef) (object : Option (Object Double Instant))
      (todo : List (Task Double)) (result : List (Object Double Instant))
  | finished (outcome : Option (List (Object Double Instant)))

namespace Shared

def start : Shared := ⟨none, fun _ => false⟩

def lookup (shared : Shared) (column : String) : Option FieldRef :=
  shared.cache.bind fun fieldMap => fieldMap column

def putIfAbsent (shared : Shared) : Shared :=
  { shared with cache := shared.cache.or (some fun _ => none) }

def put (shared : Shared) (call : ℕ) (field : Field) : Shared :=
  match field.column with
  | none => shared
  | some column =>
    let filled := shared.cache.map fun fieldMap => Function.update fieldMap column (some ⟨call, field⟩)
    { shared with cache := filled }

def setAccessible (shared : Shared) (ref : FieldRef) (flag : Bool) : Shared :=
  { shared with accessible := Function.update shared.accessible ref flag }

end Shared

def MeasurementClass.newInstance (clazz : MeasurementClass) : Option (Object Double Instant) :=
  if clazz.instantiable then some fun _ => none else none

def Object.set (object : Object Double Instant) (field : Field) (stored : Stored Double Instant) :
    Object Double Instant :=
  Function.update object field (some stored)

section Program
variable (java : JavaValues Double Instant) (clazz : MeasurementClass)

/-- One access of a call to what the calls share, with what it does up to the next. -/
def step (queryResult : QueryResult Double) (call : ℕ) (shared : Shared) :
    Local Double Instant → Shared × Local Double Instant
  | .testing => (shared, if shared.cache.isSome then .parsing queryResult.tasks none [] else .publishing)
  | .publishing => (shared.putIfAbsent, .filling clazz.declaredFields)
  | .filling [] => (shared, .parsing queryResult.tasks none [])
  | .filling (field :: rest) => (shared.put call field, .filling rest)
  | .parsing [] _ result => (shared, .finished (some result))
  | .parsing (.endRow :: todo) object result => (shared, .parsing todo none (result ++ object.toList))
  | .parsing (.cell column value :: todo) object result =>
    match shared.lookup column with
    | none => (shared, .parsing todo object result)
    | some ref =>
      match object.or clazz.newInstance, value with
      | some object, some (some value) => (shared, .setting .opening ref value todo object result)
      | some object, some none => (shared, .parsing todo (some object) result)
      | _, _ => (shared, .finished none)
  | .setting .opening ref value todo object result =>
    (shared, .setting (.enabling (shared.accessible ref)) ref value todo object result)
  | .setting (.enabling oldAccessibleState) ref value todo object result =>
    (shared.setAccessible ref true, .setting (.storing oldAccessibleState) ref value todo object result)
  | .setting (.storing oldAccessibleState) ref value todo object result =>
    let changed := if ref.field.visible || shared.accessible ref then
        (java.fieldValue ref.field.type value).map fun stored => object.set ref.field stored
      else none
    (shared, .closing oldAccessibleState ref changed todo result)
  | .closing oldAccessibleState ref object todo result =>
    (shared.setAccessible ref oldAccessibleState,
      match object with
      | some object => .parsing todo (some object) result
      | none => .finished none)
  | .finished outcome => (shared, .finished outcome)

/-- `throwExceptionIfResultWithError` comes before everything else. -/
def begin (queryResult : QueryResult Double) : Local Double Instant :=
  if queryResult.hasError then .finished none else .testing

/-- Any number of calls of `toPOJOList` on the class, one for each query result. -/
def calls (queryResults : ℕ → QueryResult Double) : Interleaved ℕ Shared (Local Double Instant) where
  shared := .start
  begin call := begin (queryResults call)
  step call := step java clazz (queryResults call) call

end Program

/-! What the objects should be, from the rows alone. -/

section Purpose
variable (java : JavaValues Double Instant) (clazz : MeasurementClass)

/-- The field mapped to a column: with several, the one declared last. -/
def MeasurementClass.mappedField (column : String) : Option Field :=
  clazz.declaredFields.reverse.find? fun field => field.column == some column

/-- The cells of a row that belong to a mapped field. -/
def MeasurementClass.mappedCells (cells : List (Cell Double)) : List (Field × Option (Option (Datum Double))) :=
  cells.filterMap fun cell => (clazz.mappedField cell.1).map fun field => (field, cell.2)

/-- The value that a cell gives its field, none for null; no result for a value
that is missing or of the wrong type. -/
def cellValue (cell : Field × Option (Option (Datum Double))) : Option (Field × Option (Stored Double Instant)) :=
  cell.2.bind fun value =>
    match value with
    | none => some (cell.1, none)
    | some value => (java.fieldValue cell.1.type value).map fun stored => (cell.1, some stored)

/-- The object of the values: each field holds the last one it was given. -/
def objectOf (given : List (Field × Option (Stored Double Instant))) : Object Double Instant := fun field =>
  (given.filterMap fun value => if value.1 = field then value.2 else none).getLast?

def rowObject (cells : List (Cell Double)) : Option (Object Double Instant) :=
  if clazz.instantiable then ((clazz.mappedCells cells).mapM (cellValue java)).map objectOf else none

/-- A column or a tag of the series belongs to an annotated field. -/
def Series.Mapped (series : Series Double) : Prop :=
  ∃ column ∈ series.columns ++ (series.tags.getD []).map Prod.fst, (clazz.mappedField column).isSome

instance (series : Series Double) : Decidable (series.Mapped clazz) :=
  inferInstanceAs (Decidable (∃ column ∈ series.columns ++ (series.tags.getD []).map Prod.fst, _))

/-- The rows of the series with a mapped column or tag, in order, each with the
tags of its own series. -/
def mappedRows (queryResult : QueryResult Double) : List (List (Cell Double)) :=
  (queryResult.allSeries.filter fun series => series.Mapped clazz).flatMap fun series =>
    series.values.map series.cells

/-- One object for each of these rows; no list where the result carries an
error or a row cannot be mapped. -/
def expected (queryResult : QueryResult Double) : Option (List (Object Double Instant)) :=
  if queryResult.hasError then none else (mappedRows clazz queryResult).mapM (rowObject java clazz)

end Purpose

end Zms.Influx
