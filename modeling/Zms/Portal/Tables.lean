import Mathlib
import Zms.Registry.Tables

/-! Rows of the portal's database that several of its services read. -/

set_option autoImplicit false

namespace Zms.Portal

open Zms.Registry

/-- The ids of the environments; `ZmsContextManager` has at most one per thread. -/
abbrev EnvId := Int

/-- `currentZkClient` of the router and of `PortalZookeeperSelector`: the client
of the context environment; without a context or a datasource it throws. -/
def currentZkClient (configured : EnvId → Bool) (context : Option EnvId) : Option EnvId :=
  context.filter fun env => env ≠ 0 && configured env

structure ZmsServiceEntity where
  id : Int
  environmentId : EnvId
  serverName : String
  serverType : String
  isDeleted : Bool
  deriving DecidableEq, Repr

def getById (services : List ZmsServiceEntity) (id : Int) : Option ZmsServiceEntity :=
  services.find? fun service => service.id = id

/-- `fold` maps a character to the lower case of its upper case. -/
def equalsIgnoreCase (fold : Char → Char) (text other : String) : Bool :=
  text.toList.map fold = other.toList.map fold

structure Resource where
  id : Int
  name : String
  status : Int
  deriving DecidableEq, Repr

/-- `topic` or `consumer`: their ids and their names are keys. -/
structure ResourceTable extends Table Resource.id where
  names : (rows.map (·.name)).Nodup

theorem ResourceTable.eq_of_name {table : ResourceTable} {first second : Resource} (member : first ∈ table.rows)
    (member' : second ∈ table.rows) (same : first.name = second.name) : first = second :=
  List.inj_on_of_nodup_map table.names member member' same

theorem ResourceTable.eq_of_id {table : ResourceTable} {first second : Resource} (member : first ∈ table.rows)
    (member' : second ∈ table.rows) (same : first.id = second.id) : first = second :=
  List.inj_on_of_nodup_map table.keys member member' same

/-- A row of `topic_environment_ref` or `consumer_environment_ref`. -/
structure ResourceEnvironmentRef where
  resourceId : Int
  environmentId : EnvId
  serviceId : Option Int
  deriving DecidableEq, Repr

/-- The unique index of both tables. -/
def ResourceEnvironmentRef.key (ref : ResourceEnvironmentRef) : Int × EnvId := (ref.resourceId, ref.environmentId)

theorem getById_eq_some_iff {services : Table ZmsServiceEntity.id} {id : Int} {service : ZmsServiceEntity} :
    getById services.rows id = some service ↔ service ∈ services.rows ∧ service.id = id :=
  Table.get_eq_some_iff

end Zms.Portal
