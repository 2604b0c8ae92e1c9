import Mathlib
import Zms.Portal.Assemble
import Zms.Registry.Tables
import Zms.Text.Splitting

/-! `ServeInstanceService.getServiceInstanceConfig` and `saveServiceInstanceConfig`: the stored
property values of a service or an instance as the portal shows them and takes them back.
`none` is an exception, which rolls the transaction back.
-/

set_option autoImplicit false

namespace Zms.Portal.ServiceConfig

open Zms.Registry
open Zms.Portal.Serve (ServiceInstance parseInt)

/-- The values of an `int` column. -/
abbrev JavaInt := {n : Int // -2 ^ 31 ≤ n ∧ n < 2 ^ 31}

instance : LawfulBEq JavaInt := inferInstance

/-- A value to be stored; the database gives it its id. -/
structure ServicePropertyValueRef where
  serviceId : Int
  instanceId : Option Int
  propertyId : Int
  propertyValueId : Option Int
  currentValue : String
  deriving DecidableEq

structure StoredRef where
  id : JavaInt
  ref : ServicePropertyValueRef
  deriving DecidableEq

/-- `service_property_value_ref` -/
abbrev RefTable := Table StoredRef.id

/-- One of the values that can be chosen. -/
structure ServicePropertyValue where
  id : Option Int
  propertyValue : String

structure ServicePropertyQueryDTO where
  id : Int
  instanceType : String
  isDependencies : Int
  chooseType : String
  instanceId : Option Int
  propertyValueRefId : Option String
  currentValue : Option String
  propertyValueList : Option (List ServicePropertyValue)

structure ServicePropertyInstanceQueryDTO where
  instanceId : Option Int
  propertyList : List ServicePropertyQueryDTO

/-- `getServiceProperty` fills in everything but the stored values. -/
structure ServiceProperty where
  id : Int
  instanceType : String
  isDependencies : Int
  chooseType : String
  propertyValueList : Option (List ServicePropertyValue)

def ServiceProperty.copyProperties (item : ServiceProperty) : ServicePropertyQueryDTO where
  id := item.id
  instanceType := item.instanceType
  isDependencies := item.isDependencies
  chooseType := item.chooseType
  instanceId := none
  propertyValueRefId := none
  currentValue := none
  propertyValueList := item.propertyValueList

/-! Reading. -/

/-- `order by property_id, property_value_id`, a null first. -/
def NotAfter (row other : StoredRef) : Prop :=
  row.ref.propertyId < other.ref.propertyId ∨
    row.ref.propertyId = other.ref.propertyId ∧
      match row.ref.propertyValueId, other.ref.propertyValueId with
      | none, _ => True
      | some _, none => False
      | some id, some otherId => id ≤ otherId

instance : DecidableRel NotAfter := fun row other => by
  unfold NotAfter
  split <;> infer_instance

def listAllByServiceId (table : RefTable) (serviceId : Int) : List StoredRef :=
  (table.rows.filter fun row => row.ref.serviceId = serviceId).insertionSort NotAfter

def queryByInstanceId (table : RefTable) (instanceId : Int) : List StoredRef :=
  (table.rows.filter fun row => row.ref.instanceId = some instanceId).insertionSort NotAfter

def getServicePropertyQueryDTO (item : ServiceProperty) (propertyValueList : List StoredRef) :
    ServicePropertyQueryDTO :=
  if propertyValueList = [] then item.copyProperties
  else { item.copyProperties with
    propertyValueRefId := some (Text.join ',' (propertyValueList.map fun row => toString row.id.val))
    currentValue := some (Text.join ',' (propertyValueList.map fun row => row.ref.currentValue)) }

/-- The entry of a property for one instance; `equals` is called on the instance id of each of
its rows. -/
def instanceEntry (refs : List StoredRef) (item : ServiceProperty) (i : ServiceInstance) :
    Option ServicePropertyQueryDTO :=
  if refs.any fun row => row.ref.propertyId = item.id && row.ref.instanceId.isNone then none
  else
    let propertyValueList := refs.filter fun row => row.ref.propertyId = item.id && row.ref.instanceId = some i.id
    some { getServicePropertyQueryDTO item propertyValueList with instanceId := some i.id }

def entriesOf (refs : List StoredRef) (instanceList : List ServiceInstance) (item : ServiceProperty) :
    Option (List ServicePropertyQueryDTO) :=
  if item.instanceType = "SERVICE" then
    some [getServicePropertyQueryDTO item (refs.filter fun row => row.ref.propertyId = item.id)]
  else (instanceList.filter fun i => i.instanceType = item.instanceType).mapM (instanceEntry refs item)

def getServicePropertyConfigForService (table : RefTable) (serviceId : Int) (instanceList : List ServiceInstance)
    (properties : List ServiceProperty) : Option (List ServicePropertyInstanceQueryDTO) :=
  (properties.mapM (entriesOf (listAllByServiceId table serviceId) instanceList)).map fun entries =>
    let propertyList := entries.flatten
    let ofService := propertyList.filter fun item => item.instanceType = "SERVICE"
    let others := propertyList.filter fun item => item.instanceType ≠ "SERVICE"
    ⟨none, ofService⟩ ::
      (instanceList.filter fun i => others.any fun item => item.instanceId = some i.id).map fun i =>
        ⟨some i.id, others.filter fun item => item.instanceId = some i.id⟩

def getServicePropertyConfigForInstance (table : RefTable) (instanceId : Int) (properties : List ServiceProperty) :
    List ServicePropertyInstanceQueryDTO :=
  [⟨some instanceId, properties.map fun item => getServicePropertyQueryDTO item
    ((queryByInstanceId table instanceId).filter fun row => row.ref.propertyId = item.id)⟩]

/-- Which page is asked for: that of the service, with its instances, or that of an instance. -/
inductive Page where
  | ofService (serviceId : Int) (instanceList : Table ServiceInstance.id)
  | ofInstance (instanceId : Int)

def getServiceInstanceConfig (page : Page) (properties : Table ServiceProperty.id) (table : RefTable) :
    Option (List ServicePropertyInstanceQueryDTO) :=
  match page with
  | .ofService serviceId instanceList =>
    getServicePropertyConfigForService table serviceId instanceList.rows properties.rows
  | .ofInstance instanceId => some (getServicePropertyConfigForInstance table instanceId properties.rows)

/-! Saving. -/

/-- Of a property that is chosen from a list several rows may be stored, of others one. -/
def ServicePropertyQueryDTO.isChoice (item : ServicePropertyQueryDTO) : Bool :=
  item.isDependencies == 0 && item.chooseType != "TEXT"

/-- `StringUtils.isEmpty` -/
def nonEmpty (text : Option String) : Option String := text.filter fun text => text ≠ ""

def values (item : ServicePropertyQueryDTO) (currentValue : String) : List String :=
  if item.isChoice then Text.split ',' currentValue else [currentValue]

/-- The id of the chosen value, of the first that is equal. -/
def propertyValueId (item : ServicePropertyQueryDTO) (currentValue : String) : Option (Option Int) :=
  if item.isChoice then
    item.propertyValueList.map fun options =>
      (options.find? fun value => value.propertyValue = currentValue).bind ServicePropertyValue.id
  else some none

def getInsertServicePropertyValueRef (serviceId : Int) (instanceId : Option Int) (item : ServicePropertyQueryDTO)
    (currentValue : String) : Option ServicePropertyValueRef :=
  (propertyValueId item currentValue).map fun valueId => ⟨serviceId, instanceId, item.id, valueId, currentValue⟩

def StoredRef.withValue (row : StoredRef) (valueId : Option Int) (currentValue : String) : StoredRef :=
  { row with ref := { row.ref with propertyValueId := valueId, currentValue := currentValue } }

def updateById (table : RefTable) (refId : JavaInt) (valueId : Option Int) (currentValue : String) : RefTable :=
  table.update (fun row => if row.id = refId then row.withValue valueId currentValue else row)
    (by intro row; split <;> rfl)

def updateServicePropertyValueRef (item : ServicePropertyQueryDTO) (refId : JavaInt) (currentValue : String)
    (table : RefTable) : Option RefTable :=
  (propertyValueId item currentValue).map fun valueId => updateById table refId valueId currentValue

/-- `Integer.parseInt` of a submitted id. -/
def parseId (text : String) : Option JavaInt :=
  (parseInt text).bind fun n => if inRange : -2 ^ 31 ≤ n ∧ n < 2 ^ 31 then some ⟨n, inRange⟩ else none

/-- The table, and the two batches collected for the end. -/
structure Pending where
  table : RefTable
  insertRefList : List ServicePropertyValueRef
  deleteRefList : List JavaInt

section Items
variable (serviceId : Int) (instanceId : Option Int) (item : ServicePropertyQueryDTO)

def insertAll (newValues : List String) (s : Pending) : Option Pending :=
  (newValues.mapM (getInsertServicePropertyValueRef serviceId instanceId item)).map fun refs =>
    { s with insertRefList := s.insertRefList ++ refs }

def deleteAll (refIds : List String) (s : Pending) : Option Pending :=
  (refIds.mapM parseId).map fun ids => { s with deleteRefList := s.deleteRefList ++ ids }

/-- The two iterators: while both have a next, a stored value is changed; then what is left of
the ids is deleted and what is left of the values inserted. -/
def compareAll : List String → List String → Pending → Option Pending
  | refId :: refIds, value :: newValues, s => do
    let id ← parseId refId
    let table ← updateServicePropertyValueRef item id value s.table
    compareAll refIds newValues { s with table := table }
  | [], newValues, s => insertAll serviceId instanceId item newValues s
  | refIds, [], s => deleteAll refIds s

def saveItem (s : Pending) : Option Pending :=
  match nonEmpty item.currentValue, nonEmpty item.propertyValueRefId with
  | some currentValue, none => insertAll serviceId instanceId item (values item currentValue) s
  | some currentValue, some refIds =>
    compareAll serviceId instanceId item (Text.split ',' refIds) (values item currentValue) s
  | none, some refIds => deleteAll (Text.split ',' refIds) s
  | none, none => some s

end Items

/-- `autoIncrement` are the ids that the database gives to new rows. -/
def saveServiceInstanceConfig (autoIncrement : ℕ → JavaInt) (serviceId : Int)
    (propertyQueryList : List ServicePropertyInstanceQueryDTO) (table : RefTable) : Option RefTable := do
  let s ← propertyQueryList.foldlM (fun s prop =>
    prop.propertyList.foldlM (fun s item => saveItem serviceId prop.instanceId item s) s) ⟨table, [], []⟩
  let inserted ← s.table.insertList (s.insertRefList.zipIdx.map fun new => ⟨autoIncrement new.2, new.1⟩)
  return inserted.filter fun row => row.id ∉ s.deleteRefList

/-! What is submitted and what is stored. -/

/-- The values a submitted entry stands for. -/
def submittedValues (item : ServicePropertyQueryDTO) : List String :=
  match nonEmpty item.currentValue with
  | none => []
  | some currentValue => if item.isChoice then Text.parts ',' currentValue else [currentValue]

/-- The rows that a page shows under a property, of the service or of an instance. -/
def Page.shows (page : Page) (instanceId : Option Int) (propertyId : Int) (ref : ServicePropertyValueRef) : Bool :=
  ref.propertyId = propertyId &&
    match page, instanceId with
    | .ofService serviceId _, none => ref.serviceId = serviceId
    | .ofService serviceId _, some instanceId => ref.serviceId = serviceId && ref.instanceId = some instanceId
    | .ofInstance instanceId, _ => ref.instanceId = some instanceId

def Page.rows (page : Page) (table : RefTable) : List StoredRef :=
  match page with
  | .ofService serviceId _ => listAllByServiceId table serviceId
  | .ofInstance instanceId => queryByInstanceId table instanceId

/-- The stored values of a property, in the order in which the page reads them. -/
def storedValues (page : Page) (table : RefTable) (instanceId : Option Int) (propertyId : Int) : List String :=
  ((page.rows table).filter fun row => page.shows instanceId propertyId row.ref).map fun row => row.ref.currentValue

/-- The properties of a form, each of the service or of an instance. -/
def keys (form : List ServicePropertyInstanceQueryDTO) : List (Option Int × Int) :=
  form.flatMap fun prop => prop.propertyList.map fun item => (prop.instanceId, item.id)

/-- A form that is submitted on a page: each property once, with the ids of its rows as the page
was returned. The page of a service submits the id of that service. -/
structure Submitted (page : Page) (properties : Table ServiceProperty.id) (table : RefTable) (serviceId : Int)
    (form : List ServicePropertyInstanceQueryDTO) : Prop where
  ofService : ∀ id instanceList, page = .ofService id instanceList → serviceId = id
  once : (keys form).Nodup
  returned : ∃ shown, getServiceInstanceConfig page properties table = some shown ∧
    ∀ prop ∈ form, ∀ item ∈ prop.propertyList, ∃ shownProp ∈ shown, shownProp.instanceId = prop.instanceId ∧
      ∃ old ∈ shownProp.propertyList, old.id = item.id ∧ old.propertyValueRefId = item.propertyValueRefId

/-- A choice that is submitted without an empty part at its end. -/
def Closed (item : ServicePropertyQueryDTO) : Prop :=
  item.isChoice = true → ∀ text, item.currentValue = some text → text.toList.getLast? ≠ some ','

/-- The values of a property stored as the portal stores them. -/
def WellStored (item : ServicePropertyQueryDTO) (stored : List String) : Prop :=
  (item.isChoice = true → ∀ value ∈ stored, ',' ∉ value.toList) ∧ (item.isChoice = false → stored.length ≤ 1) ∧
    stored.getLast? ≠ some ""

end Zms.Portal.ServiceConfig
