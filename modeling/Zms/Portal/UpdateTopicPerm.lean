import Mathlib
import Zms.Portal.Tables
import Zms.Transition.Interleaved

/-! `UpdateTopicPermService`: one service for all calls, whose field `defaultMQAdminExt` each
call writes before it reads it again and again.

An admin is named by its cluster. What the name servers answer is the environment's, and which
of its remote calls a call fails in is its own.
-/

set_option autoImplicit false

namespace Zms.Portal.UpdateTopicPerm

open Zms.Transition

inductive TopicFilterType where
  | SINGLE_TAG | MULTI_TAG
  deriving DecidableEq

structure TopicConfig where
  readQueueNums : Int
  writeQueueNums : Int
  perm : Int
  topicFilterType : TopicFilterType
  topicSysFlag : Int
  order : Bool
  deriving DecidableEq

def TopicConfig.new : TopicConfig where
  readQueueNums := 16
  writeQueueNums := 16
  perm := 6
  topicFilterType := .SINGLE_TAG
  topicSysFlag := 0
  order := false

structure QueueData where
  brokerName : String
  readQueueNums : Int
  writeQueueNums : Int
  perm : Int
  topicSynFlag : Int

/-- `master` is the address with the id of a master. -/
structure BrokerData where
  brokerName : String
  master : Option String

/-- The configurations at the brokers, by address and topic. -/
abbrev Brokers := String → String → Option TopicConfig

structure Environment where
  fold : Char → Char
  /-- `examineTopicRouteInfo` of an admin for a topic; `none` is an exception. -/
  examineTopicRouteInfo : String → String → Brokers → Option (List QueueData)
  /-- `examineBrokerClusterInfo`, the table of its brokers. -/
  brokerAddrTable : String → List BrokerData
  /-- `CommandUtil.fetchMasterAddrByClusterName` of an admin for a cluster. -/
  fetchMasterAddr : String → String → Option (List String)

/-- How a remote call ends: an exception may come after its effect. -/
inductive Reply where
  | returns
  | throws
  | throwsAfterwards
  deriving DecidableEq

inductive Kind where
  | execute (broker : String) (newPerm : Int)
  | get

structure Call where
  cluster : String
  topic : String
  kind : Kind
  reply : Nat → Reply

/-- The statement that a call is about to execute, with its local variables. -/
inductive Local where
  | start
  | examineRoute
  | examineCluster (queueDataS : List QueueData)
  | fetchMasters (queueDataS : List QueueData) (brokerAddrTable : List BrokerData)
  | updating (queueDataS : List QueueData) (brokerAddrTable : List BrokerData) (addrs : List String) (i : Nat)
  | examining (addrs : List String) (i : Nat)
  | finished

structure Shared where
  defaultMQAdminExt : Option String
  brokers : Brokers

section Source
variable (env : Environment)

def getQueueData (queueDataS : List QueueData) (brokerAddrTable : List BrokerData) (addr : String) :
    Option QueueData :=
  (brokerAddrTable.filter fun broker => broker.master.any (equalsIgnoreCase env.fold addr)).findSome? fun broker =>
    queueDataS.find? fun data => equalsIgnoreCase env.fold data.brokerName broker.brokerName

/-- The configuration that `updatePerm` sends to an address, if any. -/
def updatePerm (queueDataS : List QueueData) (brokerAddrTable : List BrokerData) (addr : String) (newPerm : Int) :
    Option TopicConfig :=
  match getQueueData env queueDataS brokerAddrTable addr with
  | none => none
  | some data =>
      if data.perm = newPerm then none
      else some { TopicConfig.new with
        perm := newPerm, topicSysFlag := data.topicSynFlag
        writeQueueNums := data.writeQueueNums, readQueueNums := data.readQueueNums }

def updateOf (call : Call) : Local → Option (String × TopicConfig)
  | .updating queueDataS brokerAddrTable addrs i =>
      match call.kind with
      | .get => none
      | .execute _ newPerm =>
          addrs[i]?.bind fun addr =>
            (updatePerm env queueDataS brokerAddrTable addr newPerm).map fun config => (addr, config)
  | _ => none

def createAndUpdateTopicConfig (brokers : Brokers) (topic addr : String) (config : TopicConfig) : Brokers :=
  Function.update brokers addr (Function.update (brokers addr) topic (some config))

/-- A remote call through the field; without an admin it is an exception. -/
def through (call : Call) (n : Nat) (shared : Shared) (next : String → Local) : Shared × Local :=
  match shared.defaultMQAdminExt with
  | none => (shared, .finished)
  | some admin => if call.reply n = .returns then (shared, next admin) else (shared, .finished)

def Shared.written (shared : Shared) (topic : String) (update : String × TopicConfig) : Shared :=
  { shared with brokers := createAndUpdateTopicConfig shared.brokers topic update.1 update.2 }

def send (call : Call) (n : Nat) (shared : Shared) (update : String × TopicConfig) (next : Local) : Shared × Local :=
  match shared.defaultMQAdminExt, call.reply n with
  | none, _ => (shared, .finished)
  | some _, .returns => (shared.written call.topic update, next)
  | some _, .throws => (shared, .finished)
  | some _, .throwsAfterwards => (shared.written call.topic update, .finished)

def step (call : Call) (shared : Shared) : Local → Shared × Local
  | .start =>
      if call.reply 0 = .returns then ({ shared with defaultMQAdminExt := some call.cluster }, .examineRoute)
      else (shared, .finished)
  | .examineRoute =>
      through call 1 shared fun admin =>
        match env.examineTopicRouteInfo admin call.topic shared.brokers, call.kind with
        | none, _ => .finished
        | some queueDataS, .execute _ _ => .examineCluster queueDataS
        | some queueDataS, .get => .fetchMasters queueDataS []
  | .examineCluster queueDataS =>
      through call 2 shared fun admin =>
        match call.kind with
        | .execute broker _ =>
            if broker ≠ "" then .updating queueDataS (env.brokerAddrTable admin) [broker] 0
            else .fetchMasters queueDataS (env.brokerAddrTable admin)
        | .get => .finished
  | .fetchMasters queueDataS brokerAddrTable =>
      through call 3 shared fun admin =>
        match env.fetchMasterAddr admin call.cluster, call.kind with
        | none, _ => .finished
        | some addrs, .execute _ _ => .updating queueDataS brokerAddrTable addrs 0
        | some addrs, .get => .examining addrs 0
  | .updating queueDataS brokerAddrTable addrs i =>
      if i < addrs.length then
        match updateOf env call (.updating queueDataS brokerAddrTable addrs i) with
        | none => (shared, .updating queueDataS brokerAddrTable addrs (i + 1))
        | some update => send call (4 + i) shared update (.updating queueDataS brokerAddrTable addrs (i + 1))
      else (shared, .finished)
  | .examining addrs i =>
      if i < addrs.length then through call (4 + i) shared fun _ => .examining addrs (i + 1) else (shared, .finished)
  | .finished => (shared, .finished)

end Source

/-- All calls of the service, begun one after the other or at the same time. -/
def service {T : Type} (env : Environment) (calls : T → Call) (brokers : Brokers) : Interleaved T Shared Local where
  shared := ⟨none, brokers⟩
  begin _ := .start
  step t := step env (calls t)

section Property

/-- The call is about to send an update or to ask for a configuration. -/
def issues (env : Environment) (call : Call) : Local → Bool
  | .examining addrs i => i < addrs.length
  | l => (updateOf env call l).isSome

def Call.newPerm (call : Call) : Option Int :=
  match call.kind with
  | .execute _ newPerm => some newPerm
  | .get => none

/-- The brokers that a call is about, by their addresses. -/
def addressed (env : Environment) (call : Call) : List String :=
  match call.kind with
  | .execute broker _ => if broker ≠ "" then [broker] else (env.fetchMasterAddr call.cluster call.cluster).getD []
  | .get => (env.fetchMasterAddr call.cluster call.cluster).getD []

/-- All of a configuration but the permission. -/
def TopicConfig.settled (config : TopicConfig) : TopicConfig := { config with perm := 0 }

/-- Every loop over addresses that is at its end has changed the permission wherever the
topic is listed. -/
def Changed (env : Environment) (call : Call) (brokers : Brokers) : Local → Prop
  | .updating queueDataS brokerAddrTable addrs i =>
      addrs.length ≤ i → addrs = addressed env call ∧ ∀ addr ∈ addrs,
        (getQueueData env queueDataS brokerAddrTable addr).isSome = true →
          (brokers addr call.topic).map TopicConfig.perm = call.newPerm
  | _ => True

end Property

section Condition
variable {T : Type} (env : Environment) (calls : T → Call)

/-- What a name server says of the broker at an address is what the broker has. -/
def Reports : Prop :=
  ∀ admin topic brokers queueDataS, env.examineTopicRouteInfo admin topic brokers = some queueDataS →
    ∀ data ∈ queueDataS, ∀ broker ∈ env.brokerAddrTable admin,
      equalsIgnoreCase env.fold data.brokerName broker.brokerName = true →
        ∀ master ∈ broker.master, ∀ addr, equalsIgnoreCase env.fold addr master = true →
          ∃ config, brokers addr topic = some config ∧ data.readQueueNums = config.readQueueNums ∧
            data.writeQueueNums = config.writeQueueNums ∧ data.topicSynFlag = config.topicSysFlag ∧
            data.perm = config.perm

/-- The call will go through the field again without writing it before. -/
def readsAhead (call : Call) : Local → Bool
  | .start | .finished => false
  | .examineRoute | .examineCluster _ | .fetchMasters _ _ => true
  | .updating queueDataS brokerAddrTable addrs i =>
      (addrs.drop i).any fun addr =>
        call.newPerm.any fun newPerm => (updatePerm env queueDataS brokerAddrTable addr newPerm).isSome
  | .examining addrs i => i < addrs.length

def Local.starts : Local → Bool
  | .start => true
  | _ => false

/-- The call has asked for the route and is not yet through. -/
def Local.underWay : Local → Bool
  | .examineCluster _ | .fetchMasters _ _ | .updating _ _ _ _ => true
  | _ => false

/-- The field is not written for another cluster while a call still reads it, an update meets
a configuration without other settings than the ones it sends, and no other call under way
wants another permission for the same topic at the same broker. -/
structure Undisturbed (s : Interleaved.State T Shared Local) (t : T) : Prop where
  alone : (s.locals t).starts = true → (calls t).reply 0 = .returns → ∀ u, u ≠ t →
    readsAhead env (calls u) (s.locals u) = true → (calls u).cluster = (calls t).cluster
  plain : ∀ update ∈ updateOf env (calls t) (s.locals t),
    ∀ old ∈ s.shared.brokers update.1 (calls t).topic, old.order = false ∧ old.topicFilterType = .SINGLE_TAG
  agreed : ∀ update ∈ updateOf env (calls t) (s.locals t), ∀ u, (s.locals u).underWay = true →
    (calls u).topic = (calls t).topic → update.1 ∈ addressed env (calls u) →
      ∀ newPerm ∈ (calls u).newPerm, newPerm = update.2.perm

end Condition

section Field
variable {env : Environment} {call : Call}

theorem readsAhead_of_issues {l : Local} (is : issues env call l = true) : readsAhead env call l = true := by
  cases l with
  | updating queueDataS brokerAddrTable addrs i =>
    simp only [issues, updateOf] at is
    unfold readsAhead Call.newPerm
    cases kind : call.kind with
    | get => rw [kind] at is; cases is
    | execute broker newPerm =>
      rw [kind] at is
      cases isAddr : addrs[i]? with
      | none => simp [isAddr] at is
      | some addr =>
        have inRest : addr ∈ addrs.drop i := by
          rw [List.mem_iff_getElem?]
          exact ⟨0, by rw [List.getElem?_drop, Nat.add_zero, isAddr]⟩
        simp only [isAddr, Option.bind_some, Option.isSome_map] at is
        exact List.any_eq_true.mpr ⟨addr, inRest, is⟩
  | examining => exact is
  | start => cases is
  | examineRoute => rfl
  | examineCluster => rfl
  | fetchMasters => rfl
  | finished => cases is

theorem through_cases (call : Call) (n : Nat) (shared : Shared) (next : String → Local) :
    (through call n shared next).1 = shared ∧ ((through call n shared next).2 = .finished ∨
      ∃ admin, shared.defaultMQAdminExt = some admin ∧ (through call n shared next).2 = next admin) := by
  unfold through
  split
  · exact ⟨rfl, .inl rfl⟩
  · next admin isAdmin =>
    split
    · exact ⟨rfl, .inr ⟨admin, isAdmin, rfl⟩⟩
    · exact ⟨rfl, .inl rfl⟩

theorem send_cases (call : Call) (n : Nat) (shared : Shared) (update : String × TopicConfig) (next : Local) :
    send call n shared update next = (shared, .finished) ∨
      ∃ l, (l = next ∨ l = .finished) ∧ send call n shared update next = (shared.written call.topic update, l) := by
  unfold send
  split
  · exact .inl rfl
  · exact .inr ⟨next, .inl rfl, rfl⟩
  · exact .inl rfl
  · exact .inr ⟨.finished, .inr rfl, rfl⟩

/-- A step of the loop ends the call, leaves the address out or sends its update. -/
theorem step_updating (shared : Shared) (queueDataS : List QueueData) (table : List BrokerData) (addrs : List String)
    (i : Nat) :
    step env call shared (.updating queueDataS table addrs i) = (shared, .finished) ∨
      (i < addrs.length ∧ updateOf env call (.updating queueDataS table addrs i) = none ∧
        step env call shared (.updating queueDataS table addrs i) =
          (shared, .updating queueDataS table addrs (i + 1))) ∨
      ∃ update l, updateOf env call (.updating queueDataS table addrs i) = some update ∧
        (l = .updating queueDataS table addrs (i + 1) ∨ l = .finished) ∧
        step env call shared (.updating queueDataS table addrs i) = (shared.written call.topic update, l) := by
  rw [step]
  by_cases inside : i < addrs.length
  · rw [if_pos inside]
    cases isUpdate : updateOf env call (.updating queueDataS table addrs i) with
    | none => exact .inr (.inl ⟨inside, rfl, rfl⟩)
    | some update =>
      obtain stays | ⟨l, next, sends⟩ :=
        send_cases call (4 + i) shared update (.updating queueDataS table addrs (i + 1))
      · exact .inl stays
      · exact .inr (.inr ⟨update, l, rfl, next, sends⟩)
  · rw [if_neg inside]
    exact .inl rfl

theorem step_examining (shared : Shared) (addrs : List String) (i : Nat) :
    step env call shared (.examining addrs i) = (shared, .finished) ∨
      (i < addrs.length ∧ step env call shared (.examining addrs i) = (shared, .examining addrs (i + 1))) := by
  rw [step]
  by_cases inside : i < addrs.length
  · rw [if_pos inside]
    obtain ⟨same, ends | ⟨admin, -, next⟩⟩ := through_cases call (4 + i) shared fun _ => .examining addrs (i + 1)
    · exact .inl (Prod.ext same ends)
    · exact .inr ⟨inside, Prod.ext same next⟩
  · rw [if_neg inside]
    exact .inl rfl

theorem step_field (shared : Shared) {l : Local} (later : l.starts = false) :
    (step env call shared l).1.defaultMQAdminExt = shared.defaultMQAdminExt := by
  cases l with
  | start => cases later
  | examineRoute => exact congrArg _ (through_cases call 1 shared _).1
  | examineCluster => exact congrArg _ (through_cases call 2 shared _).1
  | fetchMasters => exact congrArg _ (through_cases call 3 shared _).1
  | updating queueDataS table addrs i =>
    obtain ends | ⟨-, -, skips⟩ | ⟨update, l, -, -, sends⟩ := step_updating shared queueDataS table addrs i
    · rw [ends]
    · rw [skips]
    · rw [sends]
      rfl
  | examining addrs i =>
    obtain ends | ⟨-, next⟩ := step_examining shared addrs i
    · rw [ends]
    · rw [next]
  | finished => rfl

theorem readsAhead_step (shared : Shared) {l : Local}
    (ahead : readsAhead env call (step env call shared l).2 = true) :
    l.starts = true ∨ readsAhead env call l = true := by
  cases l with
  | start => exact .inl rfl
  | examineRoute => exact .inr rfl
  | examineCluster => exact .inr rfl
  | fetchMasters => exact .inr rfl
  | updating queueDataS brokerAddrTable addrs i =>
    have fewer : readsAhead env call (.updating queueDataS brokerAddrTable addrs (i + 1)) = true →
        readsAhead env call (.updating queueDataS brokerAddrTable addrs i) = true := by
      intro later
      obtain ⟨addr, inRest, updates⟩ := List.any_eq_true.mp later
      rw [← List.tail_drop] at inRest
      exact List.any_eq_true.mpr ⟨addr, List.mem_of_mem_tail inRest, updates⟩
    obtain ends | ⟨-, -, skips⟩ | ⟨update, l, -, rfl | rfl, sends⟩ :=
      step_updating shared queueDataS brokerAddrTable addrs i
    · rw [ends] at ahead
      cases ahead
    · rw [skips] at ahead
      exact .inr (fewer ahead)
    · rw [sends] at ahead
      exact .inr (fewer ahead)
    · rw [sends] at ahead
      cases ahead
  | examining addrs i =>
    obtain ends | ⟨inside, -⟩ := step_examining shared addrs i
    · rw [ends] at ahead
      cases ahead
    · exact .inr (decide_eq_true inside)
  | finished => cases ahead

end Field

section Brokers
variable {env : Environment} {call : Call} {brokers : Brokers}

theorem createAndUpdateTopicConfig_apply (topic addr : String) (config : TopicConfig) (a t : String) :
    createAndUpdateTopicConfig brokers topic addr config a t =
      if a = addr ∧ t = topic then some config else brokers a t := by
  unfold createAndUpdateTopicConfig
  by_cases sameAddr : a = addr
  · subst sameAddr
    rw [Function.update_self, Function.update_apply]
    simp
  · rw [Function.update_of_ne sameAddr, if_neg fun both => sameAddr both.1]

/-- What a call has read of a route is still so, but for permissions; and it is so for the
permission it wants, where it leaves the broker out. -/
def Current (env : Environment) (call : Call) (brokers : Brokers) (queueDataS : List QueueData) : Prop :=
  ∀ addr, ∀ data ∈ getQueueData env queueDataS (env.brokerAddrTable call.cluster) addr,
    ∃ config, brokers addr call.topic = some config ∧ data.readQueueNums = config.readQueueNums ∧
      data.writeQueueNums = config.writeQueueNums ∧ data.topicSynFlag = config.topicSysFlag ∧
      (addr ∈ addressed env call → call.newPerm = some data.perm → config.perm = data.perm)

/-- What is known where a call is. -/
def Known (env : Environment) (call : Call) (brokers : Brokers) : Local → Prop
  | .examineCluster queueDataS => Current env call brokers queueDataS ∧ call.newPerm.isSome = true
  | .fetchMasters queueDataS brokerAddrTable =>
      call.newPerm.isSome = true → Current env call brokers queueDataS ∧
        brokerAddrTable = env.brokerAddrTable call.cluster ∧
        addressed env call = (env.fetchMasterAddr call.cluster call.cluster).getD []
  | .updating queueDataS brokerAddrTable addrs i =>
      call.newPerm.isSome = true ∧ Current env call brokers queueDataS ∧
        brokerAddrTable = env.brokerAddrTable call.cluster ∧ addrs = addressed env call ∧
        ∀ addr ∈ addrs.take i, (getQueueData env queueDataS brokerAddrTable addr).isSome = true →
          (brokers addr call.topic).map TopicConfig.perm = call.newPerm
  | _ => True

theorem mem_of_getQueueData {queueDataS : List QueueData} {table : List BrokerData} {addr : String}
    {data : QueueData} (found : getQueueData env queueDataS table addr = some data) :
    data ∈ queueDataS ∧ ∃ broker ∈ table,
      equalsIgnoreCase env.fold data.brokerName broker.brokerName = true ∧
      ∃ master ∈ broker.master, equalsIgnoreCase env.fold addr master = true := by
  obtain ⟨broker, member, isData⟩ := List.exists_of_findSome?_eq_some found
  obtain ⟨inTable, isMaster⟩ := List.mem_filter.mp member
  obtain ⟨master, same⟩ := (Option.any_eq_true _ _).mp isMaster
  have inData := List.mem_of_find?_eq_some isData
  have named := List.find?_some isData
  exact ⟨inData, broker, inTable, named, master, same⟩

theorem current_of_route (reports : Reports env) {queueDataS : List QueueData}
    (route : env.examineTopicRouteInfo call.cluster call.topic brokers = some queueDataS) :
    Current env call brokers queueDataS := by
  intro addr data found
  obtain ⟨inData, broker, inTable, named, master, isMaster, same⟩ := mem_of_getQueueData found
  obtain ⟨config, is, read, write, flag, perm⟩ :=
    reports _ _ _ _ route data inData broker inTable named master isMaster addr same
  exact ⟨config, is, read, write, flag, fun _ _ => perm.symm⟩

variable {topic addr : String} {old : TopicConfig} {newPerm : Int}

/-- An update that changes only the permission, and to the one wanted, leaves what is known. -/
theorem Current.update {queueDataS : List QueueData} (current : Current env call brokers queueDataS)
    (was : brokers addr topic = some old)
    (agrees : call.topic = topic → addr ∈ addressed env call → ∀ wanted ∈ call.newPerm, wanted = newPerm) :
    Current env call (createAndUpdateTopicConfig brokers topic addr { old with perm := newPerm }) queueDataS := by
  intro other data found
  obtain ⟨config, is, read, write, flag, perm⟩ := current other data found
  rw [createAndUpdateTopicConfig_apply]
  by_cases same : other = addr ∧ call.topic = topic
  · obtain ⟨rfl, sameTopic⟩ := same
    rw [sameTopic, was] at is
    obtain rfl := Option.some.inj is
    rw [if_pos ⟨rfl, sameTopic⟩]
    exact ⟨_, rfl, read, write, flag, fun isAddressed wants => (agrees sameTopic isAddressed _ wants).symm⟩
  · rw [if_neg same]
    exact ⟨config, is, read, write, flag, perm⟩

theorem Known.update {l : Local} (known : Known env call brokers l) (was : brokers addr topic = some old)
    (agrees : l.underWay = true → call.topic = topic → addr ∈ addressed env call →
      ∀ wanted ∈ call.newPerm, wanted = newPerm) :
    Known env call (createAndUpdateTopicConfig brokers topic addr { old with perm := newPerm }) l := by
  cases l with
  | examineCluster queueDataS => exact ⟨known.1.update was (agrees rfl), known.2⟩
  | fetchMasters queueDataS table =>
    intro executes
    obtain ⟨current, isTable, masters⟩ := known executes
    exact ⟨current.update was (agrees rfl), isTable, masters⟩
  | updating queueDataS table addrs i =>
    obtain ⟨executes, current, isTable, areAddressed, changed⟩ := known
    refine ⟨executes, current.update was (agrees rfl), isTable, areAddressed, ?_⟩
    intro other member listed
    rw [createAndUpdateTopicConfig_apply]
    split
    · next same =>
      obtain ⟨rfl, sameTopic⟩ := same
      obtain ⟨wanted, wants⟩ := Option.isSome_iff_exists.mp executes
      rw [wants, agrees rfl sameTopic (areAddressed ▸ List.mem_of_mem_take member) wanted wants]
      rfl
    · exact changed other member listed
  | start => trivial
  | examineRoute => trivial
  | examining => trivial
  | finished => trivial

theorem updatePerm_eq_some {queueDataS : List QueueData} {table : List BrokerData} {wanted : Int}
    {config : TopicConfig} (sent : updatePerm env queueDataS table addr wanted = some config) :
    ∃ data, getQueueData env queueDataS table addr = some data ∧ data.perm ≠ wanted ∧
      config = { TopicConfig.new with
        perm := wanted, topicSysFlag := data.topicSynFlag
        writeQueueNums := data.writeQueueNums, readQueueNums := data.readQueueNums } := by
  unfold updatePerm at sent
  split at sent
  · cases sent
  · next data found =>
    obtain ⟨other, same⟩ := Option.ite_none_left_eq_some.mp sent
    exact ⟨data, found, other, (Option.some.inj same).symm⟩

theorem perm_of_updatePerm_eq_none {queueDataS : List QueueData} {table : List BrokerData} {wanted : Int}
    {data : QueueData} (found : getQueueData env queueDataS table addr = some data)
    (none : updatePerm env queueDataS table addr wanted = none) : data.perm = wanted := by
  simp only [updatePerm, found] at none
  by_contra other
  rw [if_neg other] at none
  cases none

theorem updateOf_eq_some {queueDataS : List QueueData} {table : List BrokerData} {addrs : List String} {i : Nat}
    {update : String × TopicConfig} (is : updateOf env call (.updating queueDataS table addrs i) = some update) :
    ∃ wanted data, call.newPerm = some wanted ∧ addrs[i]? = some update.1 ∧
      getQueueData env queueDataS table update.1 = some data ∧ update.2 = { TopicConfig.new with
        perm := wanted, topicSysFlag := data.topicSynFlag
        writeQueueNums := data.writeQueueNums, readQueueNums := data.readQueueNums } := by
  unfold updateOf at is
  unfold Call.newPerm
  cases kind : call.kind with
  | get => rw [kind] at is; cases is
  | execute broker wanted =>
    rw [kind] at is
    obtain ⟨addr, isAddr, mapped⟩ := Option.bind_eq_some_iff.mp is
    obtain ⟨config, sent, rfl⟩ := Option.map_eq_some_iff.mp mapped
    obtain ⟨data, found, -, same⟩ := updatePerm_eq_some sent
    exact ⟨wanted, data, rfl, isAddr, found, same⟩

theorem updateOf_spec {queueDataS : List QueueData} {table : List BrokerData} {addrs : List String} {i : Nat}
    {update : String × TopicConfig} (known : Known env call brokers (.updating queueDataS table addrs i))
    (is : updateOf env call (.updating queueDataS table addrs i) = some update)
    (plain : ∀ old ∈ brokers update.1 call.topic, old.order = false ∧ old.topicFilterType = .SINGLE_TAG) :
    ∃ old wanted, brokers update.1 call.topic = some old ∧ call.newPerm = some wanted ∧ addrs[i]? = some update.1 ∧
      update.2 = { old with perm := wanted } := by
  obtain ⟨wanted, data, wants, isAddr, found, config⟩ := updateOf_eq_some is
  obtain ⟨-, current, rfl, -, -⟩ := known
  obtain ⟨old, was, read, write, flag, -⟩ := current update.1 data found
  obtain ⟨noOrder, single⟩ := plain old was
  refine ⟨old, wanted, was, wants, isAddr, ?_⟩
  obtain ⟨_, _, _, _, _, _⟩ := old
  dsimp only at read write flag noOrder single
  rw [config, read, write, flag, noOrder, single]
  rfl

theorem perm_of_skipped {queueDataS : List QueueData} {table : List BrokerData} {addrs : List String} {i : Nat}
    (known : Known env call brokers (.updating queueDataS table addrs i))
    (none : updateOf env call (.updating queueDataS table addrs i) = none) (isAddr : addrs[i]? = some addr)
    (listed : (getQueueData env queueDataS table addr).isSome = true) :
    (brokers addr call.topic).map TopicConfig.perm = call.newPerm := by
  obtain ⟨executes, current, rfl, rfl, -⟩ := known
  obtain ⟨data, found⟩ := Option.isSome_iff_exists.mp listed
  obtain ⟨config, is, -, -, -, perm⟩ := current addr data found
  unfold updateOf Call.newPerm at *
  cases kind : call.kind with
  | get => rw [kind] at executes; cases executes
  | execute broker wanted =>
    rw [kind] at none
    dsimp only at none
    rw [isAddr, Option.bind_some, Option.map_eq_none_iff] at none
    have same := perm_of_updatePerm_eq_none found none
    rw [is, Option.map_some, perm (List.mem_of_getElem? isAddr) (by rw [kind, same]), same]

end Brokers

section Run
variable {T : Type} {env : Environment} {calls : T → Call} {brokers : Brokers}

structure Sound (env : Environment) (calls : T → Call) (brokers : Brokers) (s : Interleaved.State T Shared Local) :
    Prop where
  field : ∀ t, readsAhead env (calls t) (s.locals t) = true → s.shared.defaultMQAdminExt = some (calls t).cluster
  settled : ∀ addr topic,
    (s.shared.brokers addr topic).map TopicConfig.settled = (brokers addr topic).map TopicConfig.settled
  known : ∀ t, Known env (calls t) s.shared.brokers (s.locals t)

theorem step_brokers {s : Interleaved.State T Shared Local} {t : T} (sound : Sound env calls brokers s)
    (undisturbed : Undisturbed env calls s t) :
    (step env (calls t) s.shared (s.locals t)).1.brokers = s.shared.brokers ∨
      ∃ update old wanted, updateOf env (calls t) (s.locals t) = some update ∧
        s.shared.brokers update.1 (calls t).topic = some old ∧ (calls t).newPerm = some wanted ∧
        update.2 = { old with perm := wanted } ∧
        (step env (calls t) s.shared (s.locals t)).1.brokers =
          createAndUpdateTopicConfig s.shared.brokers (calls t).topic update.1 { old with perm := wanted } := by
  have known := sound.known t
  have plain := undisturbed.plain
  cases l : s.locals t with
  | start => left; rw [step]; split <;> rfl
  | examineRoute => exact .inl (congrArg Shared.brokers (through_cases (calls t) 1 s.shared _).1)
  | examineCluster => exact .inl (congrArg Shared.brokers (through_cases (calls t) 2 s.shared _).1)
  | fetchMasters => exact .inl (congrArg Shared.brokers (through_cases (calls t) 3 s.shared _).1)
  | updating queueDataS table addrs i =>
    rw [l] at known plain
    obtain ends | ⟨-, -, skips⟩ | ⟨update, next, is, -, sends⟩ := step_updating s.shared queueDataS table addrs i
    · exact .inl (by rw [ends])
    · exact .inl (by rw [skips])
    · obtain ⟨old, wanted, was, wants, -, config⟩ := updateOf_spec known is (plain update is)
      refine .inr ⟨update, old, wanted, is, was, wants, config, ?_⟩
      rw [sends, ← config]
      rfl
  | examining addrs i =>
    obtain ends | ⟨-, next⟩ := @step_examining env (calls t) s.shared addrs i
    · exact .inl (by rw [ends])
    · exact .inl (by rw [next])
  | finished => exact .inl rfl

theorem known_step (reports : Reports env) {s : Interleaved.State T Shared Local} {t : T}
    (sound : Sound env calls brokers s) (undisturbed : Undisturbed env calls s t) :
    Known env (calls t) (step env (calls t) s.shared (s.locals t)).1.brokers
      (step env (calls t) s.shared (s.locals t)).2 := by
  have known := sound.known t
  have field := sound.field t
  have plain := undisturbed.plain
  generalize calls t = call at known field plain ⊢
  cases l : s.locals t with
  | start =>
    rw [step]
    split <;> trivial
  | examineRoute =>
    rw [l] at field
    obtain ⟨same, ends | ⟨admin, isAdmin, next⟩⟩ := through_cases call 1 s.shared _
    · rw [step, ends]
      trivial
    · obtain rfl := Option.some.inj (isAdmin.symm.trans (field rfl))
      rw [step, next, same]
      cases route : env.examineTopicRouteInfo call.cluster call.topic s.shared.brokers with
      | none => trivial
      | some queueDataS =>
        cases kind : call.kind with
        | execute broker newPerm => exact ⟨current_of_route reports route, by rw [Call.newPerm, kind]; rfl⟩
        | get =>
          intro executes
          rw [Call.newPerm, kind] at executes
          cases executes
  | examineCluster queueDataS =>
    rw [l] at field known
    obtain ⟨current, executes⟩ := known
    obtain ⟨same, ends | ⟨admin, isAdmin, next⟩⟩ := through_cases call 2 s.shared _
    · rw [step, ends]
      trivial
    · obtain rfl := Option.some.inj (isAdmin.symm.trans (field rfl))
      rw [step, next, same]
      cases kind : call.kind with
      | get => trivial
      | execute broker newPerm =>
        dsimp only
        split
        · next given =>
          exact ⟨executes, current, rfl, by simp [addressed, kind, given], by simp⟩
        · next notGiven => exact fun _ => ⟨current, rfl, by simp [addressed, kind, notGiven]⟩
  | fetchMasters queueDataS table =>
    rw [l] at field known
    obtain ⟨same, ends | ⟨admin, isAdmin, next⟩⟩ := through_cases call 3 s.shared _
    · rw [step, ends]
      trivial
    · obtain rfl := Option.some.inj (isAdmin.symm.trans (field rfl))
      rw [step, next, same]
      cases masters : env.fetchMasterAddr call.cluster call.cluster with
      | none => trivial
      | some addrs =>
        cases kind : call.kind with
        | get => trivial
        | execute broker newPerm =>
          have executes : call.newPerm.isSome = true := by rw [Call.newPerm, kind]; rfl
          obtain ⟨current, isTable, areAddressed⟩ := known executes
          rw [masters] at areAddressed
          exact ⟨executes, current, isTable, areAddressed.symm, by simp⟩
  | updating queueDataS table addrs i =>
    rw [l] at known plain
    obtain ends | ⟨inside, none, skips⟩ | ⟨update, next, is, rfl | rfl, sends⟩ :=
      @step_updating env call s.shared queueDataS table addrs i
    · rw [ends]
      trivial
    · rw [skips]
      obtain ⟨executes, current, isTable, areAddressed, changed⟩ := known
      refine ⟨executes, current, isTable, areAddressed, ?_⟩
      intro addr member listed
      rw [List.take_add_one, List.getElem?_eq_getElem inside] at member
      rcases List.mem_append.mp member with before | last
      · exact changed addr before listed
      · obtain rfl := List.mem_singleton.mp last
        exact perm_of_skipped ⟨executes, current, isTable, areAddressed, changed⟩ none
          (List.getElem?_eq_getElem inside) listed
    · rw [sends]
      obtain ⟨old, wanted, was, wants, isAddr, config⟩ := updateOf_spec known is (plain update is)
      have agrees : ∀ other ∈ call.newPerm, other = wanted :=
        fun other isOther => Option.some.inj (isOther.symm.trans wants)
      have kept := known.update was fun _ _ _ => agrees
      rw [← config] at kept
      obtain ⟨executes, current, isTable, areAddressed, changed⟩ := kept
      refine ⟨executes, current, isTable, areAddressed, ?_⟩
      intro addr member listed
      rw [List.take_add_one, isAddr] at member
      rcases List.mem_append.mp member with before | last
      · exact changed addr before listed
      · obtain rfl := List.mem_singleton.mp last
        change (createAndUpdateTopicConfig _ _ _ _ _ _).map _ = _
        rw [createAndUpdateTopicConfig_apply, if_pos ⟨rfl, rfl⟩, config, wants]
        rfl
    · rw [sends]
      trivial
  | examining addrs i =>
    obtain ends | ⟨-, next⟩ := @step_examining env call s.shared addrs i
    · rw [ends]
      trivial
    · rw [next]
      trivial
  | finished => trivial

variable [DecidableEq T]

theorem Sound.step (reports : Reports env) {s : Interleaved.State T Shared Local} {t : T}
    (sound : Sound env calls brokers s) (undisturbed : Undisturbed env calls s t) :
    Sound env calls brokers ((service env calls brokers).effect s t) := by
  have own := known_step reports sound undisturbed
  have changes := step_brokers sound undisturbed
  have self := (service env calls brokers).effect_self s t
  refine ⟨fun u => ?_, fun addr topic => ?_, fun u => ?_⟩
  · change readsAhead env (calls u) (((service env calls brokers).effect s t).locals u) = true →
      (UpdateTopicPerm.step env (calls t) s.shared (s.locals t)).1.defaultMQAdminExt = _
    intro ahead
    cases starts : (s.locals t).starts with
    | false =>
      rw [step_field s.shared starts]
      by_cases same : u = t
      · subst same
        rw [self] at ahead
        rcases readsAhead_step s.shared ahead with isStart | before
        · exact absurd (starts.symm.trans isStart) Bool.false_ne_true
        · exact sound.field u before
      · rw [(service env calls brokers).effect_other s same] at ahead
        exact sound.field u ahead
    | true =>
      have isStart : s.locals t = .start := by
        unfold Local.starts at starts
        split at starts
        · assumption
        · cases starts
      rw [isStart, UpdateTopicPerm.step]
      by_cases returns : (calls t).reply 0 = .returns
      · rw [if_pos returns]
        by_cases same : u = t
        · rw [same]
        · rw [(service env calls brokers).effect_other s same] at ahead
          rw [undisturbed.alone starts returns u same ahead]
      · rw [if_neg returns]
        by_cases same : u = t
        · subst same
          rw [self, isStart] at ahead
          change readsAhead env (calls u) (UpdateTopicPerm.step env (calls u) s.shared .start).2 = true at ahead
          rw [UpdateTopicPerm.step, if_neg returns] at ahead
          cases ahead
        · rw [(service env calls brokers).effect_other s same] at ahead
          exact sound.field u ahead
  · change ((UpdateTopicPerm.step env (calls t) s.shared (s.locals t)).1.brokers addr topic).map _ = _
    rw [← sound.settled addr topic]
    obtain same | ⟨update, old, wanted, -, was, -, -, written⟩ := changes
    · rw [same]
    · rw [written, createAndUpdateTopicConfig_apply]
      split
      · next here => rw [here.1, here.2, was]; rfl
      · rfl
  · change Known env (calls u) (UpdateTopicPerm.step env (calls t) s.shared (s.locals t)).1.brokers _
    by_cases same : u = t
    · subst same
      rw [self]
      exact own
    · rw [(service env calls brokers).effect_other s same]
      obtain unchanged | ⟨update, old, wanted, is, was, wants, config, written⟩ := changes
      · rw [unchanged]
        exact sound.known u
      · rw [written]
        refine (sound.known u).update was fun underWay sameTopic isAddressed other isOther => ?_
        rw [undisturbed.agreed update is u underWay sameTopic isAddressed other isOther, config]

theorem sound_of_runs (reports : Reports env) {s : Interleaved.State T Shared Local} {actions : List T}
    (runs : ((service env calls brokers).system.restrict (Undisturbed env calls)).Runs
      (service env calls brokers).first actions s) : Sound env calls brokers s := by
  refine runs.invariant (fun _ u => Sound env calls brokers u) ?_
    fun _ u t sound enabled => sound.step reports enabled.2
  refine ⟨fun _ ahead => ?_, fun _ _ => rfl, fun _ => trivial⟩
  cases ahead

end Run

/-- In every interleaving of undisturbed steps, each call sends its updates and questions
through the admin of its own cluster, nothing but permissions is ever changed, and a call at
its end has changed the permission wherever the topic is listed. -/
theorem changes_only_perm {T : Type} [DecidableEq T] (env : Environment) (reports : Reports env) (calls : T → Call)
    (brokers : Brokers) (actions : List T) (s : Interleaved.State T Shared Local)
    (runs : ((service env calls brokers).system.restrict (Undisturbed env calls)).Runs
      (service env calls brokers).first actions s) (t : T) :
    (issues env (calls t) (s.locals t) = true → s.shared.defaultMQAdminExt = some (calls t).cluster) ∧
      (∀ addr topic,
        (s.shared.brokers addr topic).map TopicConfig.settled = (brokers addr topic).map TopicConfig.settled) ∧
      Changed env (calls t) s.shared.brokers (s.locals t) := by
  have sound := sound_of_runs reports runs
  refine ⟨fun is => sound.field t (readsAhead_of_issues is), sound.settled, ?_⟩
  have known := sound.known t
  cases l : s.locals t with
  | updating queueDataS table addrs i =>
    rw [l] at known
    obtain ⟨-, -, -, areAddressed, changed⟩ := known
    intro through
    refine ⟨areAddressed, fun addr member listed => changed addr ?_ listed⟩
    rwa [List.take_of_length_le through]
  | _ => trivial

/-! Calls at one broker. -/

instance {T : Type} [DecidableEq T] [Fintype T] (env : Environment) (calls : T → Call)
    (s : Interleaved.State T Shared Local) (t : T) : Decidable (Undisturbed env calls s t) :=
  decidable_of_iff
    (((s.locals t).starts = true → (calls t).reply 0 = .returns → ∀ u, u ≠ t →
        readsAhead env (calls u) (s.locals u) = true → (calls u).cluster = (calls t).cluster) ∧
      (∀ update ∈ updateOf env (calls t) (s.locals t),
        ∀ old ∈ s.shared.brokers update.1 (calls t).topic, old.order = false ∧ old.topicFilterType = .SINGLE_TAG) ∧
      ∀ u, (s.locals u).underWay = true → (calls u).topic = (calls t).topic →
        ∀ update ∈ updateOf env (calls t) (s.locals t), update.1 ∈ addressed env (calls u) →
          ∀ newPerm ∈ (calls u).newPerm, newPerm = update.2.perm)
    ⟨fun all => ⟨all.1, all.2.1, fun update is u under topic => all.2.2 u under topic update is⟩,
      fun all => ⟨all.alone, all.plain, fun u under topic update is => all.agreed update is u under topic⟩⟩

def oneBroker : Environment where
  fold := id
  examineTopicRouteInfo _ topic brokers := (brokers "10.0.0.1:10911" topic).map fun config =>
    [⟨"broker-a", config.readQueueNums, config.writeQueueNums, config.perm, config.topicSysFlag⟩]
  brokerAddrTable _ := [⟨"broker-a", some "10.0.0.1:10911"⟩]
  fetchMasterAddr _ _ := some ["10.0.0.1:10911"]

theorem oneBroker_reports : Reports oneBroker := by
  intro admin topic brokers queueDataS route data inData broker inTable _ master isMaster addr same
  obtain ⟨config, is, rfl⟩ := Option.map_eq_some_iff.mp route
  obtain rfl := List.mem_singleton.mp inData
  obtain rfl := List.mem_singleton.mp inTable
  cases isMaster
  have isAddr : addr = "10.0.0.1:10911" :=
    String.toList_injective (by simpa [equalsIgnoreCase, oneBroker] using same)
  exact ⟨config, isAddr ▸ is, rfl, rfl, rfl, rfl⟩

def orders (config : TopicConfig) : Brokers := fun addr topic =>
  if addr = "10.0.0.1:10911" ∧ topic = "orders" then some config else none

def readOnly (cluster : String) : Call := ⟨cluster, "orders", .execute "" 4, fun _ => .returns⟩

/-- One call alone. -/
theorem changes_only_perm_alone : ∃ s : Interleaved.State Unit Shared Local,
    (s.shared.brokers "10.0.0.1:10911" "orders").map TopicConfig.perm = some 4 ∧
      (s.shared.brokers "10.0.0.1:10911" "orders").map TopicConfig.settled = some TopicConfig.new.settled := by
  have alone : (((service oneBroker (fun _ : Unit => readOnly "a") (orders .new)).system.restrict
      (Undisturbed oneBroker fun _ => readOnly "a")).exec
        (service oneBroker (fun _ => readOnly "a") (orders .new)).first (List.replicate 5 ())).any
          (fun s => decide (s.shared.defaultMQAdminExt = some "a" ∧
            (s.shared.brokers "10.0.0.1:10911" "orders").map TopicConfig.perm = some 4)) = true := by
    decide +kernel
  obtain ⟨s, runs, -, perm⟩ := Guarded.exists_runs _ _ alone
  obtain ⟨-, settled, -⟩ := changes_only_perm oneBroker oneBroker_reports _ _ _ s runs ()
  exact ⟨s, perm, settled "10.0.0.1:10911" "orders"⟩

/-- A call that another one has overtaken sends its update through the admin of the other's
cluster; and a topic loses its order flag. -/
theorem overtaken :
    (let calls : Bool → Call := fun second => readOnly (if second then "b" else "a")
      ∃ s, (service oneBroker calls (orders .new)).system.Runs (service oneBroker calls (orders .new)).first
          [false, false, false, false, true] s ∧
        issues oneBroker (calls false) (s.locals false) = true ∧ s.shared.defaultMQAdminExt = some "b") ∧
      (let ordered := service oneBroker (fun _ : Unit => readOnly "a") (orders { TopicConfig.new with order := true })
        ∃ s, ordered.system.Runs ordered.first (List.replicate 5 ()) s ∧
          s.shared.brokers "10.0.0.1:10911" "orders" = some { TopicConfig.new with perm := 4, order := false }) :=
  ⟨Guarded.exists_runs _ _ (by decide +kernel), Guarded.exists_runs _ _ (by decide +kernel)⟩

end Zms.Portal.UpdateTopicPerm
