import Zms.Portal.Assemble
import Zms.Portal.UpdateTopicPerm
import Zms.Transition.Throwing

/-! `ZmsEnvironmentService.loadDatabase`: the data sources in use for an environment, and
the two service ids stored for it.

What a reader of `getDatasource` finds between two writes is kept as a list of moments.
-/

set_option autoImplicit false

namespace Zms.Portal.EnvDataSources

open Transition Transition.Throwing
open Serve (ServiceInstance ServiceProperty ProcessPropertyValueRef ZK_CLIENT_PORT INFLUX_DB_PORT printed)
open UpdateTopicPerm (Reply)

/-! ### The address of a service -/

/-- The text of an exception, when the code gives it one. -/
abbrev Failure := Option String

structure ZmsServiceEntity where
  serverType : Option String
  serverStatus : Option String

/-- Every query may throw; `none` is null. -/
structure Queries where
  /-- The number tells the two reads of a service apart. -/
  getById : Nat → Int → Except Failure (Option ZmsServiceEntity)
  listStartInstanceByServiceId : Int → Except Failure (List ServiceInstance)
  getIdByServiceTypeAndName : Option String → ServiceProperty → Except Failure (Option Int)
  listLastSuccessProcess : Int → Except Failure (List Int)
  listByProcessId : List Int → Option Int → Except Failure (List ProcessPropertyValueRef)
  getEnableIPById : Int → Except Failure (Option String)

/-- `Assert.that`. -/
def that (test : Prop) [Decidable test] (message : String) : Except Failure Unit :=
  if test then .ok () else .error (some message)

/-- The null pointer and the index out of bounds have no text of the code's own. -/
def nonNull {α : Type} : Option α → Except Failure α
  | some a => .ok a
  | none => .error none

def getServicePropertyValueRefs (queries : Queries) (serviceId : Int) (propertiesName : ServiceProperty) :
    Except Failure (List ProcessPropertyValueRef) := do
  let serviceEntity ← nonNull (← queries.getById 1 serviceId)
  let servicePropertyId ← queries.getIdByServiceTypeAndName serviceEntity.serverType propertiesName
  let processIds ← queries.listLastSuccessProcess serviceId
  that (processIds ≠ []) "The service did not publish successful process information"
  queries.listByProcessId processIds servicePropertyId

def listZookeeperAddr (queries : Queries) (zkServiceId : Int) : Except Failure (List String) := do
  let serviceInstance ← queries.listStartInstanceByServiceId zkServiceId
  let propertyValueRefs ← getServicePropertyValueRefs queries zkServiceId ZK_CLIENT_PORT
  serviceInstance.mapM fun i => do
    let hostIp ← queries.getEnableIPById i.hostId
    -- of two refs of one instance the map keeps the first
    let clientPort ← nonNull (propertyValueRefs.find? fun ref => ref.instanceId = some i.id)
    pure (printed hostIp ++ ":" ++ printed clientPort.currentValue)

def zookeeperAddress (queries : Queries) (zkServiceId : Int) : Except Failure String := do
  let zookeepers ← listZookeeperAddr queries zkServiceId
  pure (",".intercalate zookeepers)

def influxDbAddress (queries : Queries) (influxDbServiceId : Int) : Except Failure String := do
  let serviceInstance ← queries.listStartInstanceByServiceId influxDbServiceId
  that (serviceInstance.length = 1) "Configure a single InfluxDB instance"
  let i ← nonNull serviceInstance.head?
  let propertyValueRefs ← getServicePropertyValueRefs queries influxDbServiceId INFLUX_DB_PORT
  let hostIp ← queries.getEnableIPById i.hostId
  let bindAddress ← nonNull propertyValueRefs.head?
  pure ("http://" ++ printed hostIp ++ ":" ++ printed bindAddress.currentValue)

inductive Kind where
  | zookeeper
  | influxDB
  deriving DecidableEq

namespace Kind

def serverType : Kind → String
  | zookeeper => "ZOOKEEPER"
  | influxDB => "INFLUXDB"

def unavailable : Kind → String
  | zookeeper => "Zookeeper服务不可用"
  | influxDB => "influxDB服务不可用"

def otherType : Kind → String
  | zookeeper => "选择服务不是Zookeeper"
  | influxDB => "选择服务不是influxDB"

def address : Kind → Queries → Int → Except Failure String
  | zookeeper => zookeeperAddress
  | influxDB => influxDbAddress

end Kind

/-- How the calls of one request end. -/
structure Calls where
  queries : Kind → Queries
  /-- The constructor of the data source. -/
  create : Kind → String → Except Failure Unit
  /-- Closes the data source that was in use. -/
  destroy : Kind → Except Failure Unit
  updateDatabase : Reply

namespace Calls

variable (calls : Calls) (kind : Kind) (serviceId : Int)

def checkService : Except Failure Unit := do
  let zmsServiceEntity ← (calls.queries kind).getById 0 serviceId
  that (zmsServiceEntity.bind ZmsServiceEntity.serverStatus = some "ENABLE") kind.unavailable
  that (zmsServiceEntity.bind ZmsServiceEntity.serverType = some kind.serverType) kind.otherType

/-- The address that the new data source has been created with. -/
def created : Except Failure String := do
  calls.checkService kind serviceId
  let address ← kind.address (calls.queries kind) serviceId
  calls.create kind address
  pure address

end Calls

/-! ### The data sources in use -/

/-- The number tells two data sources of one address apart. -/
structure Source where
  number : Nat
  address : String
  deriving DecidableEq

structure ZmsEnvironment where
  zkServiceId : Option Int
  influxdbServiceId : Option Int
  environmentStatus : String

def ZmsEnvironment.ids (environment : ZmsEnvironment) : Option Int × Option Int :=
  (environment.zkServiceId, environment.influxdbServiceId)

/-- The `evnDataSourceMap` of either kind, and the table of the environments. -/
structure Live where
  sources : Kind → Int → Option Source
  environments : Int → Option ZmsEnvironment
  next : Nat
  numbered : ∀ kind env source, sources kind env = some source → source.number < next

namespace Live

variable (live : Live) (kind : Kind) (env : Int)

def getDatasource : Option Source := live.sources kind env

def withSource (source : Option Source) : Kind → Int → Option Source :=
  Function.update live.sources kind (Function.update (live.sources kind) env source)

theorem withSource_self (source : Option Source) : live.withSource kind env source kind env = source := by
  unfold withSource
  rw [Function.update_self, Function.update_self]

theorem withSource_of_ne {other : Kind} (differs : other ≠ kind) (source : Option Source) :
    live.withSource kind env source other = live.sources other := Function.update_of_ne differs _ _

theorem withSource_cases {source : Option Source} {other : Kind} {otherEnv : Int} {found : Source}
    (known : live.withSource kind env source other otherEnv = some found) :
    source = some found ∨ live.sources other otherEnv = some found := by
  by_cases sameKind : other = kind
  · subst sameKind
    by_cases sameEnv : otherEnv = env
    · rw [sameEnv, withSource_self] at known
      exact Or.inl known
    · unfold withSource at known
      rw [Function.update_self, Function.update_of_ne sameEnv] at known
      exact Or.inr known
  · rw [withSource_of_ne live kind env sameKind] at known
    exact Or.inr known

theorem removed_numbered (other : Kind) (otherEnv : Int) (source : Source)
    (known : live.withSource kind env none other otherEnv = some source) : source.number < live.next := by
  cases withSource_cases live kind env known with
  | inl impossible => cases impossible
  | inr before => exact live.numbered other otherEnv source before

theorem put_numbered (address : String) (other : Kind) (otherEnv : Int) (source : Source)
    (known : live.withSource kind env (some ⟨live.next, address⟩) other otherEnv = some source) :
    source.number < live.next + 1 := by
  cases withSource_cases live kind env known with
  | inl fresh =>
      cases fresh
      exact Nat.lt_succ_self live.next
  | inr before => exact Nat.lt_succ_of_lt (live.numbered other otherEnv source before)

def removed : Live where
  sources := live.withSource kind env none
  environments := live.environments
  next := live.next
  numbered := removed_numbered live kind env

def put (address : String) : Live where
  sources := live.withSource kind env (some ⟨live.next, address⟩)
  environments := live.environments
  next := live.next + 1
  numbered := put_numbered live kind env address

/-- `update zms_environment … where id`. -/
def stored (zkServiceId influxDbServiceId : Option Int) : Live where
  sources := live.sources
  environments := Function.update live.environments env ((live.environments env).map fun _ =>
    ⟨zkServiceId, influxDbServiceId, "ENABLE"⟩)
  next := live.next
  numbered := live.numbered

end Live

structure Machine where
  live : Live
  moments : List Live

def write (change : Live → Live) : Throwing Machine Unit :=
  modify fun machine => ⟨change machine.live, change machine.live :: machine.moments⟩

def answer {α : Type} (reply : Except Failure α) : Throwing Machine α := ofOption reply.toOption

/-- `DatasourceManagerAdapt.remove`. -/
def remove (calls : Calls) (kind : Kind) (env : Int) : Throwing Machine Unit := do
  let machine ← get
  when (machine.live.getDatasource kind env ≠ none) do
    write fun live => live.removed kind env
    answer (calls.destroy kind)

/-- `DatasourceManagerAdapt.reload`: the old data source is removed as `remove` does it. -/
def reload (calls : Calls) (kind : Kind) (env : Int) (address : String) : Throwing Machine Unit := do
  remove calls kind env
  write fun live => live.put kind env address

/-- The half of `loadDatabase` that is about one kind. -/
def loadSource (calls : Calls) (kind : Kind) (env : Int) : Option Int → Throwing Machine Unit
  | none => remove calls kind env
  | some serviceId => do
      let address ← answer (calls.created kind serviceId)
      reload calls kind env address

/-- The number of rows. -/
def updateDatabase (reply : Reply) (env : Int) (zkServiceId influxDbServiceId : Option Int) : Throwing Machine Nat := do
  ensure (reply ≠ .throws)
  let machine ← get
  write fun live => live.stored env zkServiceId influxDbServiceId
  ensure (reply = .returns)
  pure (if (machine.live.environments env).isSome then 1 else 0)

def loadDatabase (calls : Calls) (envId : Int) (zkServiceId influxDbServiceId : Option Int) : Throwing Machine Nat := do
  loadSource calls .zookeeper envId zkServiceId
  loadSource calls .influxDB envId influxDbServiceId
  updateDatabase calls.updateDatabase envId zkServiceId influxDbServiceId

/-! ### What a call does -/

def Machine.written (machine : Machine) (live : Live) : Machine := ⟨live, live :: machine.moments⟩

theorem remove_of_absent {calls : Calls} {kind : Kind} {env : Int} {machine : Machine}
    (absent : machine.live.getDatasource kind env = none) : remove calls kind env machine = (some (), machine) := by
  change when (machine.live.getDatasource kind env ≠ none) _ machine = _
  rw [when_of_not (not_not_intro absent)]
  rfl

theorem remove_of_known {calls : Calls} {kind : Kind} {env : Int} {machine : Machine} {source : Source}
    (known : machine.live.getDatasource kind env = some source) :
    remove calls kind env machine =
      ((calls.destroy kind).toOption, machine.written (machine.live.removed kind env)) := by
  have present : machine.live.getDatasource kind env ≠ none := by
    rw [known]
    exact Option.some_ne_none source
  change when (machine.live.getDatasource kind env ≠ none) _ machine = _
  rw [when_of present]
  rfl

/-- Every way the half of one kind can end: the answer and the machine it leaves. -/
inductive Loads (calls : Calls) (kind : Kind) (env : Int) (machine : Machine) :
    Option Int → Option Unit → Machine → Prop where
  | idle (absent : machine.live.getDatasource kind env = none) : Loads calls kind env machine none (some ()) machine
  | removed {source : Source} (known : machine.live.getDatasource kind env = some source) :
      Loads calls kind env machine none (calls.destroy kind).toOption
        (machine.written (machine.live.removed kind env))
  | refused {serviceId : Int} {failure : Failure} (created : calls.created kind serviceId = .error failure) :
      Loads calls kind env machine (some serviceId) none machine
  | put {serviceId : Int} {address : String} (created : calls.created kind serviceId = .ok address)
      (absent : machine.live.getDatasource kind env = none) :
      Loads calls kind env machine (some serviceId) (some ()) (machine.written (machine.live.put kind env address))
  | stuck {serviceId : Int} {address : String} {source : Source} {failure : Failure}
      (created : calls.created kind serviceId = .ok address)
      (known : machine.live.getDatasource kind env = some source) (destroy : calls.destroy kind = .error failure) :
      Loads calls kind env machine (some serviceId) none (machine.written (machine.live.removed kind env))
  | replaced {serviceId : Int} {address : String} {source : Source}
      (created : calls.created kind serviceId = .ok address)
      (known : machine.live.getDatasource kind env = some source) (destroy : calls.destroy kind = .ok ()) :
      Loads calls kind env machine (some serviceId) (some ())
        ((machine.written (machine.live.removed kind env)).written
          ((machine.live.removed kind env).put kind env address))

theorem loads (calls : Calls) (kind : Kind) (env : Int) (serviceId : Option Int) (machine : Machine) :
    Loads calls kind env machine serviceId (loadSource calls kind env serviceId machine).1
      (loadSource calls kind env serviceId machine).2 := by
  cases serviceId with
  | none =>
      change Loads calls kind env machine none (remove calls kind env machine).1 (remove calls kind env machine).2
      cases known : machine.live.getDatasource kind env with
      | none =>
          rw [remove_of_absent known]
          exact Loads.idle known
      | some source =>
          rw [remove_of_known known]
          exact Loads.removed known
  | some serviceId =>
      have asked : loadSource calls kind env (some serviceId) =
          ofOption (calls.created kind serviceId).toOption >>= reload calls kind env := rfl
      rw [asked]
      cases created : calls.created kind serviceId with
      | error failure => exact Loads.refused created
      | ok address =>
          change Loads calls kind env machine (some serviceId) (reload calls kind env address machine).1
            (reload calls kind env address machine).2
          unfold reload
          cases known : machine.live.getDatasource kind env with
          | none =>
              rw [bind_of_returns (remove_of_absent known)]
              exact Loads.put created known
          | some source =>
              have removes : remove calls kind env machine =
                  ((calls.destroy kind).toOption, machine.written (machine.live.removed kind env)) :=
                remove_of_known known
              cases destroy : calls.destroy kind with
              | error failure =>
                  rw [destroy] at removes
                  rw [bind_of_throws removes]
                  exact Loads.stuck created known destroy
              | ok closed =>
                  rw [destroy] at removes
                  rw [bind_of_returns removes]
                  exact Loads.replaced created known destroy

/-- The half has nothing to do. -/
def Idle (live : Live) (kind : Kind) (env : Int) (serviceId : Option Int) : Prop :=
  serviceId = none ∧ live.getDatasource kind env = none

/-- The service is asked for, and there is no data source of it to be had. -/
def Refused (calls : Calls) (kind : Kind) (serviceId : Option Int) : Prop :=
  ∃ id failure, serviceId = some id ∧ calls.created kind id = .error failure

/-- The half returns, and no reader has found the environment without what it had. -/
def Sets (calls : Calls) (live : Live) (kind : Kind) (env : Int) : Option Int → Prop
  | none => live.getDatasource kind env = none ∨ calls.destroy kind = .ok ()
  | some serviceId => (∃ address, calls.created kind serviceId = .ok address) ∧ live.getDatasource kind env = none

/-- The data source in use is the one asked for. -/
def InUse (calls : Calls) (live : Live) (kind : Kind) (env : Int) : Option Int → Prop
  | none => live.getDatasource kind env = none
  | some serviceId => ∃ source, live.getDatasource kind env = some source ∧
      calls.created kind serviceId = .ok source.address

/-- A data source is replaced by another. -/
def Replaces (live : Live) (kind : Kind) (env : Int) (serviceId : Option Int) : Prop :=
  serviceId ≠ none ∧ live.getDatasource kind env ≠ none

namespace Loads

variable {calls : Calls} {kind : Kind} {env : Int} {machine next : Machine} {serviceId : Option Int}
  {result : Option Unit}

theorem getDatasource_put (live : Live) (kind : Kind) (env : Int) (address : String) :
    (live.put kind env address).getDatasource kind env = some ⟨live.next, address⟩ :=
  Live.withSource_self live kind env _

theorem getDatasource_removed (live : Live) (kind : Kind) (env : Int) :
    (live.removed kind env).getDatasource kind env = none := Live.withSource_self live kind env none

theorem kept_or_changed (ends : Loads calls kind env machine serviceId result next) :
    (next = machine ∧ (Idle machine.live kind env serviceId ∧ result = some () ∨
      Refused calls kind serviceId ∧ result = none)) ∨
    next.live.getDatasource kind env ≠ machine.live.getDatasource kind env := by
  cases ends with
  | idle absent => exact Or.inl ⟨rfl, Or.inl ⟨⟨rfl, absent⟩, rfl⟩⟩
  | refused created => exact Or.inl ⟨rfl, Or.inr ⟨⟨_, _, rfl, created⟩, rfl⟩⟩
  | removed known =>
      right
      rw [known]
      exact (getDatasource_removed machine.live kind env).trans_ne (Option.some_ne_none _).symm
  | put created absent =>
      right
      rw [absent]
      exact (getDatasource_put machine.live kind env _).trans_ne (Option.some_ne_none _)
  | stuck created known destroy =>
      right
      rw [known]
      exact (getDatasource_removed machine.live kind env).trans_ne (Option.some_ne_none _).symm
  | replaced created known destroy =>
      right
      rw [known]
      apply (getDatasource_put (machine.live.removed kind env) kind env _).trans_ne
      intro same
      -- the number of the new data source is one that no data source in use has
      have older := machine.live.numbered kind env _ known
      rw [← Option.some.inj same] at older
      exact Nat.lt_irrefl _ older

theorem sources_eq (ends : Loads calls kind env machine serviceId result next) {other : Kind} (differs : other ≠ kind) :
    next.live.getDatasource other = machine.live.getDatasource other := by
  have kept (live : Live) (source : Option Source) : live.withSource kind env source other = live.sources other :=
    Live.withSource_of_ne live kind env differs source
  funext otherEnv
  cases ends with
  | idle | refused => rfl
  | removed | put | stuck => exact congrFun (kept machine.live _) otherEnv
  | replaced => exact congrFun ((kept (machine.live.removed kind env) _).trans (kept machine.live _)) otherEnv

theorem environments_eq (ends : Loads calls kind env machine serviceId result next) :
    next.live.environments = machine.live.environments := by
  cases ends <;> rfl

theorem moments_subset (ends : Loads calls kind env machine serviceId result next) :
    machine.moments ⊆ next.moments := by
  cases ends with
  | idle | refused => exact List.Subset.refl machine.moments
  | removed | put | stuck => exact List.subset_cons_self _ machine.moments
  | replaced =>
      apply List.Subset.trans (List.subset_cons_self _ machine.moments)
      exact List.subset_cons_self _ _

theorem sets_or_replaces (ends : Loads calls kind env machine serviceId result next) (returns : result = some ()) :
    Sets calls machine.live kind env serviceId ∨
      (Replaces machine.live kind env serviceId ∧ ∃ moment ∈ next.moments, moment.getDatasource kind env = none) := by
  cases ends with
  | idle absent => exact Or.inl (Or.inl absent)
  | refused | stuck => cases returns
  | removed known =>
      left
      right
      cases destroy : calls.destroy kind with
      | error failure =>
          rw [destroy] at returns
          cases returns
      | ok closed => rfl
  | put created absent => exact Or.inl ⟨⟨_, created⟩, absent⟩
  | replaced created known destroy =>
      right
      constructor
      · constructor
        · exact Option.some_ne_none _
        · rw [known]
          exact Option.some_ne_none _
      · exact ⟨_, List.mem_cons_of_mem _ List.mem_cons_self, getDatasource_removed machine.live kind env⟩

theorem returns_of_sets (ends : Loads calls kind env machine serviceId result next)
    (sets : Sets calls machine.live kind env serviceId) :
    result = some () ∧ InUse calls next.live kind env serviceId := by
  cases ends with
  | idle absent => exact ⟨rfl, absent⟩
  | refused created =>
      obtain ⟨⟨address, known⟩, _⟩ := sets
      cases known.symm.trans created
  | removed known =>
      cases sets with
      | inl absent => cases known.symm.trans absent
      | inr destroy =>
          rw [destroy]
          exact ⟨rfl, getDatasource_removed machine.live kind env⟩
  | put created absent => exact ⟨rfl, _, getDatasource_put machine.live kind env _, created⟩
  | stuck created known destroy => cases known.symm.trans sets.2
  | replaced created known destroy => cases known.symm.trans sets.2

theorem of_refused (ends : Loads calls kind env machine serviceId result next)
    (refuses : Refused calls kind serviceId) : result = none ∧ next = machine := by
  obtain ⟨id, failure, asked, created⟩ := refuses
  subst asked
  cases ends with
  | refused => exact ⟨rfl, rfl⟩
  | put known | stuck known | replaced known => cases created.symm.trans known

theorem of_idle (ends : Loads calls kind env machine serviceId result next)
    (idle : Idle machine.live kind env serviceId) : result = some () ∧ next = machine := by
  obtain ⟨asked, absent⟩ := idle
  subst asked
  cases ends with
  | idle => exact ⟨rfl, rfl⟩
  | removed known => cases absent.symm.trans known

end Loads

inductive Finishes (calls : Calls) (envId : Int) (zkServiceId influxDbServiceId : Option Int) (machine : Machine) :
    Option Nat → Machine → Prop where
  | first {t : Machine} (zookeeper : Loads calls .zookeeper envId machine zkServiceId none t) :
      Finishes calls envId zkServiceId influxDbServiceId machine none t
  | second {t u : Machine} (zookeeper : Loads calls .zookeeper envId machine zkServiceId (some ()) t)
      (influxDB : Loads calls .influxDB envId t influxDbServiceId none u) :
      Finishes calls envId zkServiceId influxDbServiceId machine none u
  | unwritten {t u : Machine} (zookeeper : Loads calls .zookeeper envId machine zkServiceId (some ()) t)
      (influxDB : Loads calls .influxDB envId t influxDbServiceId (some ()) u)
      (reply : calls.updateDatabase = .throws) : Finishes calls envId zkServiceId influxDbServiceId machine none u
  | unanswered {t u : Machine} (zookeeper : Loads calls .zookeeper envId machine zkServiceId (some ()) t)
      (influxDB : Loads calls .influxDB envId t influxDbServiceId (some ()) u)
      (reply : calls.updateDatabase = .throwsAfterwards) :
      Finishes calls envId zkServiceId influxDbServiceId machine none
        (u.written (u.live.stored envId zkServiceId influxDbServiceId))
  | returns {t u : Machine} {rows : Nat} (zookeeper : Loads calls .zookeeper envId machine zkServiceId (some ()) t)
      (influxDB : Loads calls .influxDB envId t influxDbServiceId (some ()) u)
      (reply : calls.updateDatabase = .returns) :
      Finishes calls envId zkServiceId influxDbServiceId machine (some rows)
        (u.written (u.live.stored envId zkServiceId influxDbServiceId))

theorem finishes (calls : Calls) (envId : Int) (zkServiceId influxDbServiceId : Option Int) (machine : Machine) :
    Finishes calls envId zkServiceId influxDbServiceId machine
      (loadDatabase calls envId zkServiceId influxDbServiceId machine).1
      (loadDatabase calls envId zkServiceId influxDbServiceId machine).2 := by
  have zookeeper := loads calls .zookeeper envId zkServiceId machine
  unfold loadDatabase
  cases first : loadSource calls .zookeeper envId zkServiceId machine with
  | mk result t =>
      rw [first] at zookeeper
      cases result with
      | none =>
          rw [bind_of_throws first]
          exact Finishes.first zookeeper
      | some done =>
          rw [bind_of_returns first]
          have influxDB := loads calls .influxDB envId influxDbServiceId t
          cases second : loadSource calls .influxDB envId influxDbServiceId t with
          | mk result u =>
              rw [second] at influxDB
              cases result with
              | none =>
                  rw [bind_of_throws second]
                  exact Finishes.second zookeeper influxDB
              | some done =>
                  rw [bind_of_returns second]
                  unfold updateDatabase
                  cases reply : calls.updateDatabase with
                  | throws => exact Finishes.unwritten zookeeper influxDB reply
                  | throwsAfterwards => exact Finishes.unanswered zookeeper influxDB reply
                  | returns => exact Finishes.returns zookeeper influxDB reply

/-! ### All or nothing -/

def storedIds (live : Live) (env : Int) : Option (Option Int × Option Int) :=
  (live.environments env).map ZmsEnvironment.ids

structure Unchanged (env : Int) (before after : Live) : Prop where
  sources : ∀ kind, after.getDatasource kind env = before.getDatasource kind env
  ids : storedIds after env = storedIds before env

def serviceIdOf (zkServiceId influxDbServiceId : Option Int) : Kind → Option Int
  | .zookeeper => zkServiceId
  | .influxDB => influxDbServiceId

structure Requested (calls : Calls) (env : Int) (zkServiceId influxDbServiceId : Option Int) (after : Live) : Prop where
  sources : ∀ kind, InUse calls after kind env (serviceIdOf zkServiceId influxDbServiceId kind)
  ids : storedIds after env = some (zkServiceId, influxDbServiceId)

def call (calls : Calls) (live : Live) (env : Int) (zkServiceId influxDbServiceId : Option Int) :
    Option Nat × Machine :=
  loadDatabase calls env zkServiceId influxDbServiceId ⟨live, [live]⟩

structure AllOrNothing (calls : Calls) (live : Live) (env : Int) (zkServiceId influxDbServiceId : Option Int) :
    Prop where
  throws : (call calls live env zkServiceId influxDbServiceId).1 = none →
    Unchanged env live (call calls live env zkServiceId influxDbServiceId).2.live
  returns : ∀ rows, (call calls live env zkServiceId influxDbServiceId).1 = some rows →
    Requested calls env zkServiceId influxDbServiceId (call calls live env zkServiceId influxDbServiceId).2.live
  found : ∀ rows, (call calls live env zkServiceId influxDbServiceId).1 = some rows →
    ∀ kind, Replaces live kind env (serviceIdOf zkServiceId influxDbServiceId kind) →
      ∀ moment ∈ (call calls live env zkServiceId influxDbServiceId).2.moments, moment.getDatasource kind env ≠ none

/-- The update throws, and leaves the ids as they were. -/
def Unwritten (reply : Reply) (live : Live) (env : Int) (zkServiceId influxDbServiceId : Option Int) : Prop :=
  reply = .throws ∨ (reply = .throwsAfterwards ∧
    storedIds (live.stored env zkServiceId influxDbServiceId) env = storedIds live env)

theorem storedIds_stored (live : Live) (env : Int) (zkServiceId influxDbServiceId : Option Int) :
    storedIds (live.stored env zkServiceId influxDbServiceId) env =
      (storedIds live env).map fun _ => (zkServiceId, influxDbServiceId) := by
  have row : (live.stored env zkServiceId influxDbServiceId).environments env =
      (live.environments env).map fun _ => ⟨zkServiceId, influxDbServiceId, "ENABLE"⟩ :=
    Function.update_self env _ _
  unfold storedIds
  rw [row]
  cases live.environments env <;> rfl

theorem storedIds_congr {s t : Live} (same : t.environments = s.environments) (env : Int) :
    storedIds t env = storedIds s env := by
  unfold storedIds
  rw [same]

section Calls
variable {calls : Calls} {env : Int} {zkServiceId influxDbServiceId : Option Int} {machine t u : Machine}

/-- What the first half changes, the second leaves changed. -/
theorem idle_of_unchanged {result : Option Unit}
    (zookeeper : Loads calls .zookeeper env machine zkServiceId (some ()) t)
    (influxDB : Loads calls .influxDB env t influxDbServiceId result u)
    (same : ∀ kind, u.live.getDatasource kind env = machine.live.getDatasource kind env) :
    u = machine ∧ Idle machine.live .zookeeper env zkServiceId ∧
      (Idle machine.live .influxDB env influxDbServiceId ∧ result = some () ∨
        Refused calls .influxDB influxDbServiceId ∧ result = none) := by
  cases zookeeper.kept_or_changed with
  | inr changed =>
      apply absurd (same .zookeeper)
      rw [influxDB.sources_eq (by decide)]
      exact changed
  | inl kept =>
      obtain ⟨unmoved, ends⟩ := kept
      subst unmoved
      cases influxDB.kept_or_changed with
      | inr changed => exact absurd (same .influxDB) changed
      | inl kept =>
          cases ends with
          | inr impossible => cases impossible.2
          | inl idle => exact ⟨kept.1, idle.1, kept.2⟩

/-- The second half finds of its own kind what the call began with. -/
theorem getDatasource_influxDB {result : Option Unit}
    (zookeeper : Loads calls .zookeeper env machine zkServiceId result t) :
    t.live.getDatasource .influxDB = machine.live.getDatasource .influxDB := zookeeper.sources_eq (by decide)

theorem sets_congr {s s' : Live} {kind : Kind} {serviceId : Option Int}
    (same : s'.getDatasource kind = s.getDatasource kind) (sets : Sets calls s' kind env serviceId) :
    Sets calls s kind env serviceId := by
  unfold Sets at *
  rw [same] at sets
  exact sets

end Calls

/-- When the call keeps to all or nothing. -/
inductive Keeps (calls : Calls) (live : Live) (env : Int) (zkServiceId influxDbServiceId : Option Int) : Prop where
  | refused (zookeeper : Refused calls .zookeeper zkServiceId)
  | idleRefused (zookeeper : Idle live .zookeeper env zkServiceId) (influxDB : Refused calls .influxDB influxDbServiceId)
  | idle (zookeeper : Idle live .zookeeper env zkServiceId) (influxDB : Idle live .influxDB env influxDbServiceId)
      (unwritten : Unwritten calls.updateDatabase live env zkServiceId influxDbServiceId)
  | sets (zookeeper : Sets calls live .zookeeper env zkServiceId)
      (influxDB : Sets calls live .influxDB env influxDbServiceId) (returns : calls.updateDatabase = .returns)
      (environment : (live.environments env).isSome)

section AllOrNothing
variable {calls : Calls} {live : Live} {env : Int} {zkServiceId influxDbServiceId : Option Int} {final : Machine}

theorem keeps_of_throws (ends : Finishes calls env zkServiceId influxDbServiceId ⟨live, [live]⟩ none final)
    (unchanged : Unchanged env live final.live) : Keeps calls live env zkServiceId influxDbServiceId := by
  cases ends with
  | first zookeeper =>
      cases zookeeper.kept_or_changed with
      | inr changed => exact absurd (unchanged.sources .zookeeper) changed
      | inl kept =>
          cases kept.2 with
          | inl impossible => cases impossible.2
          | inr refused => exact Keeps.refused refused.1
  | second zookeeper influxDB =>
      obtain ⟨_, idle, other⟩ := idle_of_unchanged zookeeper influxDB unchanged.sources
      cases other with
      | inl impossible => cases impossible.2
      | inr refused => exact Keeps.idleRefused idle refused.1
  | unwritten zookeeper influxDB reply =>
      obtain ⟨_, idle, other⟩ := idle_of_unchanged zookeeper influxDB unchanged.sources
      cases other with
      | inl alsoIdle => exact Keeps.idle idle alsoIdle.1 (Or.inl reply)
      | inr impossible => cases impossible.2
  | unanswered zookeeper influxDB reply =>
      obtain ⟨unmoved, idle, other⟩ := idle_of_unchanged zookeeper influxDB unchanged.sources
      have ids := unchanged.ids
      rw [unmoved] at ids
      cases other with
      | inl alsoIdle => exact Keeps.idle idle alsoIdle.1 (Or.inr ⟨reply, ids⟩)
      | inr impossible => cases impossible.2

theorem keeps_of_returns {rows : Nat}
    (ends : Finishes calls env zkServiceId influxDbServiceId ⟨live, [live]⟩ (some rows) final)
    (requested : Requested calls env zkServiceId influxDbServiceId final.live)
    (found : ∀ kind, Replaces live kind env (serviceIdOf zkServiceId influxDbServiceId kind) →
      ∀ moment ∈ final.moments, moment.getDatasource kind env ≠ none) :
    Keeps calls live env zkServiceId influxDbServiceId := by
  cases ends with
  | @returns t u _ zookeeper influxDB reply =>
      have ids := requested.ids
      have kept : u.moments ⊆ (u.written (u.live.stored env zkServiceId influxDbServiceId)).moments :=
        List.subset_cons_self _ u.moments
      have sameSource := getDatasource_influxDB zookeeper
      apply Keeps.sets _ _ reply
      · change storedIds (u.live.stored env zkServiceId influxDbServiceId) env = _ at ids
        rw [storedIds_stored, storedIds_congr influxDB.environments_eq, storedIds_congr zookeeper.environments_eq] at ids
        unfold storedIds at ids
        cases environment : live.environments env with
        | none =>
            change ((live.environments env).map _).map _ = _ at ids
            rw [environment] at ids
            cases ids
        | some row => rfl
      · cases zookeeper.sets_or_replaces rfl with
        | inl sets => exact sets
        | inr replaces =>
            obtain ⟨replaces, moment, member, gap⟩ := replaces
            exact absurd gap (found .zookeeper replaces moment (kept (influxDB.moments_subset member)))
      · cases influxDB.sets_or_replaces rfl with
        | inl sets => exact sets_congr sameSource sets
        | inr replaces =>
            obtain ⟨replaces, moment, member, gap⟩ := replaces
            have before : Replaces live .influxDB env influxDbServiceId := by
              unfold Replaces at *
              rw [sameSource] at replaces
              exact replaces
            exact absurd gap (found .influxDB before moment (kept member))

theorem allOrNothing_of_throws (ends : call calls live env zkServiceId influxDbServiceId = (none, final))
    (unchanged : Unchanged env live final.live) : AllOrNothing calls live env zkServiceId influxDbServiceId := by
  constructor
  · intro _
    rw [ends]
    exact unchanged
  · intro rows returns
    rw [ends] at returns
    cases returns
  · intro rows returns
    rw [ends] at returns
    cases returns

theorem unchanged_self (env : Int) (live : Live) : Unchanged env live live := ⟨fun _ => rfl, rfl⟩

theorem allOrNothing_of_unmoved (ends : call calls live env zkServiceId influxDbServiceId = (none, ⟨live, [live]⟩)) :
    AllOrNothing calls live env zkServiceId influxDbServiceId :=
  allOrNothing_of_throws ends (unchanged_self env live)

theorem loadSource_of_refused {kind : Kind} {serviceId : Option Int} (refused : Refused calls kind serviceId)
    (machine : Machine) : loadSource calls kind env serviceId machine = (none, machine) := by
  have ends := (loads calls kind env serviceId machine).of_refused refused
  exact Prod.ext ends.1 ends.2

theorem loadSource_of_idle {kind : Kind} {serviceId : Option Int} {machine : Machine}
    (idle : Idle machine.live kind env serviceId) :
    loadSource calls kind env serviceId machine = (some (), machine) := by
  have ends := (loads calls kind env serviceId machine).of_idle idle
  exact Prod.ext ends.1 ends.2

theorem inUse_congr {s s' : Live} {kind : Kind} {serviceId : Option Int}
    (same : s'.getDatasource kind = s.getDatasource kind) (inUse : InUse calls s kind env serviceId) :
    InUse calls s' kind env serviceId := by
  unfold InUse at *
  rw [same]
  exact inUse

theorem not_replaces_of_sets {kind : Kind} {serviceId : Option Int} (sets : Sets calls live kind env serviceId) :
    ¬Replaces live kind env serviceId := by
  intro replaces
  cases serviceId with
  | none => exact replaces.1 rfl
  | some serviceId => exact replaces.2 sets.2

theorem allOrNothing_of_idle (zookeeper : Idle live .zookeeper env zkServiceId)
    (influxDB : Idle live .influxDB env influxDbServiceId)
    (unwritten : Unwritten calls.updateDatabase live env zkServiceId influxDbServiceId) :
    AllOrNothing calls live env zkServiceId influxDbServiceId := by
  have updates : call calls live env zkServiceId influxDbServiceId =
      updateDatabase calls.updateDatabase env zkServiceId influxDbServiceId ⟨live, [live]⟩ := by
    unfold call loadDatabase
    rw [bind_of_returns (loadSource_of_idle zookeeper), bind_of_returns (loadSource_of_idle influxDB)]
  cases unwritten with
  | inl throws =>
      rw [throws] at updates
      exact allOrNothing_of_throws updates (unchanged_self env live)
  | inr applied =>
      rw [applied.1] at updates
      exact allOrNothing_of_throws updates ⟨fun _ => rfl, applied.2⟩

theorem allOrNothing_of_sets (zookeeper : Sets calls live .zookeeper env zkServiceId)
    (influxDB : Sets calls live .influxDB env influxDbServiceId) (reply : calls.updateDatabase = .returns)
    (environment : (live.environments env).isSome) : AllOrNothing calls live env zkServiceId influxDbServiceId := by
  have first := loads calls .zookeeper env zkServiceId ⟨live, [live]⟩
  cases zookeeperEnds : loadSource calls .zookeeper env zkServiceId ⟨live, [live]⟩ with
  | mk result t =>
      rw [zookeeperEnds] at first
      obtain ⟨returnsFirst, zookeeperInUse⟩ := first.returns_of_sets zookeeper
      change result = some () at returnsFirst
      subst returnsFirst
      have second := loads calls .influxDB env influxDbServiceId t
      cases influxEnds : loadSource calls .influxDB env influxDbServiceId t with
      | mk result u =>
          rw [influxEnds] at second
          obtain ⟨returnsSecond, influxInUse⟩ :=
            second.returns_of_sets (sets_congr (getDatasource_influxDB first).symm influxDB)
          change result = some () at returnsSecond
          subst returnsSecond
          have updates : call calls live env zkServiceId influxDbServiceId =
              updateDatabase .returns env zkServiceId influxDbServiceId u := by
            unfold call loadDatabase
            rw [bind_of_returns zookeeperEnds, bind_of_returns influxEnds, reply]
          constructor
          · intro throws
            rw [updates] at throws
            cases throws
          · intro rows _
            rw [updates]
            constructor
            · intro kind
              cases kind with
              | zookeeper => exact inUse_congr (second.sources_eq (by decide)) zookeeperInUse
              | influxDB => exact influxInUse
            · change storedIds (u.live.stored env zkServiceId influxDbServiceId) env = _
              rw [storedIds_stored, storedIds_congr second.environments_eq, storedIds_congr first.environments_eq]
              obtain ⟨row, known⟩ := Option.isSome_iff_exists.mp environment
              change ((live.environments env).map _).map _ = _
              rw [known]
              rfl
          · intro rows _ kind replaces
            cases kind with
            | zookeeper => exact absurd replaces (not_replaces_of_sets zookeeper)
            | influxDB => exact absurd replaces (not_replaces_of_sets influxDB)

theorem allOrNothing_of_keeps (keeps : Keeps calls live env zkServiceId influxDbServiceId) :
    AllOrNothing calls live env zkServiceId influxDbServiceId := by
  cases keeps with
  | refused zookeeper =>
      apply allOrNothing_of_unmoved
      exact bind_of_throws (loadSource_of_refused zookeeper _)
  | idleRefused zookeeper influxDB =>
      apply allOrNothing_of_unmoved
      unfold call loadDatabase
      rw [bind_of_returns (loadSource_of_idle zookeeper)]
      exact bind_of_throws (loadSource_of_refused influxDB _)
  | idle zookeeper influxDB unwritten => exact allOrNothing_of_idle zookeeper influxDB unwritten
  | sets zookeeper influxDB returns environment => exact allOrNothing_of_sets zookeeper influxDB returns environment

end AllOrNothing

/-- A call is all or nothing exactly when the first service asked for is refused, or
nothing is touched before the second is refused or the update throws, or nothing in use is
replaced, each service asked for can be had, what is removed closes and the row is written. -/
theorem allOrNothing_iff (calls : Calls) (live : Live) (env : Int) (zkServiceId influxDbServiceId : Option Int) :
    AllOrNothing calls live env zkServiceId influxDbServiceId ↔
      Keeps calls live env zkServiceId influxDbServiceId := by
  constructor
  · intro kept
    have ends := finishes calls env zkServiceId influxDbServiceId ⟨live, [live]⟩
    cases result : (call calls live env zkServiceId influxDbServiceId).1 with
    | none =>
        change Finishes calls env zkServiceId influxDbServiceId ⟨live, [live]⟩
          (call calls live env zkServiceId influxDbServiceId).1 _ at ends
        rw [result] at ends
        exact keeps_of_throws ends (kept.throws result)
    | some rows =>
        change Finishes calls env zkServiceId influxDbServiceId ⟨live, [live]⟩
          (call calls live env zkServiceId influxDbServiceId).1 _ at ends
        rw [result] at ends
        exact keeps_of_returns ends (kept.returns rows result) (kept.found rows result)
  · exact allOrNothing_of_keeps

/-- A service `5` to be had for ZooKeeper, and a disabled one `6` for InfluxDB. -/
def disabledInflux : Calls where
  queries _ :=
    { getById := fun _ id => .ok (some
        (if id = 5 then ⟨some "ZOOKEEPER", some "ENABLE"⟩ else ⟨some "INFLUXDB", some "DISABLE"⟩))
      listStartInstanceByServiceId := fun _ => .ok [⟨7, "INSTANCE", 1⟩]
      getIdByServiceTypeAndName := fun _ _ => .ok (some 2)
      listLastSuccessProcess := fun _ => .ok [9]
      listByProcessId := fun _ _ => .ok [⟨some 5, some 7, some 2, none, some "2181", none, none, none, "clientPort",
        none, none, none⟩]
      getEnableIPById := fun _ => .ok (some "10.0.0.2") }
  create _ _ := .ok ()
  destroy _ := .ok ()
  updateDatabase := .returns

theorem oldSource_numbered (kind : Kind) (env : Int) (source : Source)
    (known : (if kind = .zookeeper ∧ env = 1 then some (Source.mk 0 "10.0.0.1:2181") else none) = some source) :
    source.number < 1 := by
  split at known
  · cases known
    exact Nat.one_pos
  · cases known

def oneSource : Live where
  sources kind env := if kind = .zookeeper ∧ env = 1 then some ⟨0, "10.0.0.1:2181"⟩ else none
  environments env := if env = 1 then some ⟨some 4, none, "ENABLE"⟩ else none
  next := 1
  numbered := oldSource_numbered

/-- The ZooKeeper of the environment is replaced before the InfluxDB service is found disabled. -/
theorem not_allOrNothing : ¬∀ (calls : Calls) (live : Live) (env : Int) (zkServiceId influxDbServiceId : Option Int),
    AllOrNothing calls live env zkServiceId influxDbServiceId := by
  intro always
  have unchanged := (always disabledInflux oneSource 1 (some 5) (some 6)).throws (by decide +kernel)
  have replaced : (call disabledInflux oneSource 1 (some 5) (some 6)).2.live.getDatasource .zookeeper 1 =
      some ⟨1, "10.0.0.2:2181"⟩ := by decide +kernel
  have before : oneSource.getDatasource .zookeeper 1 = some ⟨0, "10.0.0.1:2181"⟩ := by decide
  have same := unchanged.sources .zookeeper
  rw [replaced, before] at same
  exact absurd same (by decide)

end Zms.Portal.EnvDataSources
