import Mathlib
import Zms.Text.PropertiesLines
import Zms.Text.Utf16

/-! The `.properties` files of a process. They are written with nothing escaped. -/

set_option autoImplicit false

namespace Zms.Portal.PropertyFiles

open Text.Properties

/-- The value that a property has for a process. -/
structure ProcessPropertyValueRef where
  propertyName : String
  realValue : String

structure ConfigApi where
  apiKey : String
  fileName : String
  fileType : String

/-- `put` of a tree map, whose entries are in the order of their keys. -/
def put (key value : String) : List (String × String) → List (String × String)
  | [] => [(key, value)]
  | entry :: rest =>
      if key = entry.1 then (key, value) :: rest
      else if Text.utf16 key < Text.utf16 entry.1 then (key, value) :: entry :: rest
      else entry :: put key value rest

structure PropertiesWriter where
  props : List (String × String)

namespace PropertiesWriter

def newInstance : PropertiesWriter := ⟨[]⟩

def add (writer : PropertiesWriter) (key value : String) : PropertiesWriter := ⟨put key value writer.props⟩

/-- The bytes, each as a character of Latin-1. -/
def store (writer : PropertiesWriter) : List Char :=
  writer.props.flatMap fun entry => bytesOf (entry.1 ++ "=" ++ entry.2) ++ ['\n']

end PropertiesWriter

def propertiesFile (items : List ProcessPropertyValueRef) : List Char :=
  (items.foldl (fun writer item => writer.add item.propertyName item.realValue) PropertiesWriter.newInstance).store

section Files
variable (iniFile : List ProcessPropertyValueRef → List Char)
  (valueRefConfApiKeyMap : String → Option (List ProcessPropertyValueRef))

/-- The stream that a file is written to; there is none for another type, and a map without
the key is an exception. -/
def byteOutputStream (configApi : ConfigApi) : Option (Option (List Char)) :=
  if configApi.fileType = "properties" then
    (valueRefConfApiKeyMap configApi.apiKey).map fun items => some (propertiesFile items)
  else if configApi.fileType = "ini" then
    (valueRefConfApiKeyMap configApi.apiKey).map fun items => some (iniFile items)
  else some none

/-- The files that are put into the archive. -/
def processCustomConfig : List ConfigApi → Option (List (String × List Char))
  | [] => some []
  | configApi :: rest => do
      let stream ← byteOutputStream iniFile valueRefConfApiKeyMap configApi
      let files ← processCustomConfig rest
      match stream with
      | none => return files
      | some bytes => return (configApi.fileName, bytes) :: files

end Files

def entriesOf (items : List ProcessPropertyValueRef) : List (String × String) :=
  items.map fun item => (item.propertyName, item.realValue)

theorem store_eq_printLines (writer : PropertiesWriter) : writer.store = printLines writer.props := by
  have separator : bytesOf "=" = ['='] := by decide
  unfold PropertiesWriter.store printLines
  apply List.flatMap_congr
  intro entry _
  rw [bytesOf_append, bytesOf_append, separator, lineOf, List.append_assoc (bytesOf entry.1), List.singleton_append]

theorem put_perm {key : String} {entries : List (String × String)} (new : key ∉ entries.map Prod.fst)
    (value : String) : (put key value entries).Perm ((key, value) :: entries) := by
  induction entries with
  | nil => exact .refl _
  | cons entry rest ih =>
    rw [List.map_cons, List.mem_cons, not_or] at new
    rw [put, if_neg new.1]
    split
    · exact .refl _
    · exact ((ih new.2).cons entry).trans (.swap _ _ rest)

theorem props_perm {items : List ProcessPropertyValueRef} {writer : PropertiesWriter}
    (distinct : ((writer.props ++ entriesOf items).map Prod.fst).Nodup) :
    (items.foldl (fun writer item => writer.add item.propertyName item.realValue) writer).props.Perm
      (writer.props ++ entriesOf items) := by
  induction items generalizing writer with
  | nil => exact .of_eq (List.append_nil _).symm
  | cons item rest ih =>
    have moved : (writer.props ++ entriesOf (item :: rest)).Perm
        ((item.propertyName, item.realValue) :: writer.props ++ entriesOf rest) := List.perm_middle
    have distinctMoved := (moved.map Prod.fst).nodup_iff.mp distinct
    have new : item.propertyName ∉ writer.props.map Prod.fst := by
      rw [List.map_append, List.map_cons, List.cons_append, List.nodup_cons] at distinctMoved
      exact fun member => distinctMoved.1 (List.mem_append_left _ member)
    have added : (writer.add item.propertyName item.realValue).props.Perm
        ((item.propertyName, item.realValue) :: writer.props) := put_perm new item.realValue
    have later := added.append_right (entriesOf rest)
    rw [List.foldl_cons]
    exact (ih ((later.map Prod.fst).nodup_iff.mpr distinctMoved)).trans (later.trans moved.symm)

theorem mem_processCustomConfig {iniFile : List ProcessPropertyValueRef → List Char}
    {valueRefConfApiKeyMap : String → Option (List ProcessPropertyValueRef)} {configApiList : List ConfigApi}
    {files : List (String × List Char)}
    (stored : processCustomConfig iniFile valueRefConfApiKeyMap configApiList = some files) {configApi : ConfigApi}
    (listed : configApi ∈ configApiList) {bytes : List Char}
    (stream : byteOutputStream iniFile valueRefConfApiKeyMap configApi = some (some bytes)) :
    (configApi.fileName, bytes) ∈ files := by
  induction configApiList generalizing files with
  | nil => cases listed
  | cons first rest ih =>
    simp only [processCustomConfig, Option.bind_eq_bind, Option.bind_eq_some_iff] at stored
    obtain ⟨own, isOwn, later, isLater, same⟩ := stored
    rcases List.mem_cons.mp listed with rfl | inRest
    · obtain rfl := Option.some.inj (isOwn.symm.trans stream)
      cases same
      exact List.mem_cons_self
    · have member := ih isLater inRest
      cases own with
      | none =>
        cases same
        exact member
      | some others =>
        cases same
        exact List.mem_cons_of_mem _ member

theorem readsBack_propertiesFile_iff {items : List ProcessPropertyValueRef}
    (distinct : (items.map ProcessPropertyValueRef.propertyName).Nodup) :
    ReadsBack (propertiesFile items) (entriesOf items) ↔
      ∀ item ∈ items, Bare item.propertyName ∧ Plain item.realValue := by
  have names : (entriesOf items).map Prod.fst = items.map ProcessPropertyValueRef.propertyName := List.map_map
  have distinctEntries : ((PropertiesWriter.newInstance.props ++ entriesOf items).map Prod.fst).Nodup := by
    change ((entriesOf items).map Prod.fst).Nodup
    rwa [names]
  have perm := props_perm distinctEntries
  change List.Perm _ (entriesOf items) at perm
  generalize isWriter : items.foldl _ PropertiesWriter.newInstance = writer at perm
  have same : ReadsBack (propertiesFile items) (entriesOf items) ↔
      ReadsBack (printLines writer.props) writer.props := by
    rw [propertiesFile, isWriter, store_eq_printLines]
    simp only [ReadsBack, perm.mem_iff]
  rw [same, readsBack_printLines_iff ((perm.map Prod.fst).nodup_iff.mpr (names ▸ distinct))]
  simp only [perm.mem_iff]
  simp [entriesOf]

/-- A file that is generated says what was configured exactly when no name and no value has
anything of the syntax of property files or a character outside of ASCII. -/
theorem says_configured (iniFile : List ProcessPropertyValueRef → List Char)
    (valueRefConfApiKeyMap : String → Option (List ProcessPropertyValueRef)) (configApiList : List ConfigApi)
    (files : List (String × List Char))
    (stored : processCustomConfig iniFile valueRefConfApiKeyMap configApiList = some files) (configApi : ConfigApi)
    (listed : configApi ∈ configApiList) (isProperties : configApi.fileType = "properties")
    (items : List ProcessPropertyValueRef) (grouped : valueRefConfApiKeyMap configApi.apiKey = some items)
    (distinct : (items.map ProcessPropertyValueRef.propertyName).Nodup) :
    (configApi.fileName, propertiesFile items) ∈ files ∧
      (ReadsBack (propertiesFile items) (entriesOf items) ↔
        ∀ item ∈ items, Bare item.propertyName ∧ Plain item.realValue) := by
  refine ⟨mem_processCustomConfig stored listed ?_, readsBack_propertiesFile_iff distinct⟩
  rw [byteOutputStream, if_pos isProperties, grouped, Option.map_some]

theorem says_port :
    ("server.properties", propertiesFile [⟨"port", "9092"⟩]) ∈ [("server.properties", "port=9092\n".toList)] ∧
      (ReadsBack (propertiesFile [⟨"port", "9092"⟩]) (entriesOf [⟨"port", "9092"⟩]) ↔
        ∀ item ∈ [(⟨"port", "9092"⟩ : ProcessPropertyValueRef)], Bare item.propertyName ∧ Plain item.realValue) :=
  says_configured (fun _ => []) (fun _ => some [⟨"port", "9092"⟩])
    [⟨"kafka-server", "server.properties", "properties"⟩] _ (by decide +kernel)
    ⟨"kafka-server", "server.properties", "properties"⟩ List.mem_cons_self rfl _ rfl (by decide)

/-- A backslash is read as an escape. -/
theorem backslash_is_read : ¬ ∀ items : List ProcessPropertyValueRef,
    (items.map ProcessPropertyValueRef.propertyName).Nodup →
    (∀ item ∈ items, (∀ c ∈ item.propertyName.toList, isTerminator c = false) ∧
      ∀ c ∈ item.realValue.toList, isTerminator c = false) →
    ReadsBack (propertiesFile items) (entriesOf items) := by
  intro always
  obtain ⟨loaded, loads, back⟩ := always [⟨"log.dirs", "C:\\tmp"⟩] (by decide) (by simp [isTerminator])
  have isLoaded : load (propertiesFile [⟨"log.dirs", "C:\\tmp"⟩]) = some [("log.dirs", "C:\tmp")] := by decide +kernel
  obtain rfl := Option.some.inj (isLoaded.symm.trans loads)
  have found := (back "log.dirs" "C:\\tmp").mpr List.mem_cons_self
  revert found
  decide

end Zms.Portal.PropertyFiles
