import Zms.Portal.Brokers
import Zms.Portal.ResourceFrames

/-! What is left of a topic when attempts to delete it end early, and a later one does not. -/

set_option autoImplicit false

namespace Zms.Portal.Brokers

open Zms.Registry Zms.Transition Zms.Transition.Throwing Zms.Portal.Resources

/-- The requests of a deletion. -/
inductive DeletionRequest where
  | read
  | node (env : EnvId)
  | broker (service : ZmsService)
  | rule (alertRule : Alert.AlertRuleConfig)
  | status
  deriving DecidableEq

/-- Where the topic of a service is. -/
def brokerKey (topicName : String) (service : ZmsService) : EnvId × String × String :=
  (service.environmentId, service.serverName, topicName)

/-- The type of a service's cluster. -/
def Platform.typeOf (p : Platform) (service : ZmsService) : Option BrokerType :=
  p.brokerTypes service.environmentId service.serverName

/-- `types` are the clusters' types, which no request changes. -/
def DeletionRequest.change (types : ZmsService → Option BrokerType) (topic : Topic) (r : PlatformRows) :
    DeletionRequest → Option PlatformRows
  | .read => some r
  | .node env => some { r with nodes := r.nodes.put env .TOPIC topic.name none }
  | .broker service => (types service).bind fun brokerType =>
      (deleted brokerType (r.brokers (brokerKey topic.name service))).map fun partitions =>
        { r with brokers := Function.update r.brokers (brokerKey topic.name service) partitions }
  | .rule alertRule => (AlertService.delete r.rules alertRule).map fun sending => { r with rules := sending.rules }
  | .status =>
      (r.db.changeTopic topic.id (fun row => { row with status := SOFT_DELETED }) id_softDeleted).map fun db =>
        { r with db }

def stepsOf (types : ZmsService → Option BrokerType) (topic : Topic) (requests : List DeletionRequest) :
    List (Step PlatformRows) := requests.map fun request => some fun r => request.change types topic r

/-- The requests for the services; `present` tells where the node is. -/
def servicesRequests : (EnvId → Bool) → List ZmsService → List DeletionRequest
  | _, [] => []
  | present, service :: rest =>
      if present service.environmentId then
        .read :: .node service.environmentId :: .broker service ::
          servicesRequests (Function.update present service.environmentId false) rest
      else .read :: servicesRequests present rest

def presentAt (nodes : Nodes) (topicName : String) (env : EnvId) : Bool := (nodes env .TOPIC topicName).isSome

def serviceIdsOf (db : Database) (topic : Topic) : List Int := (db.listByTopicId [topic.id]).filterMap (·.serviceId)

def servicesOf (db : Database) (topic : Topic) : List ZmsService := db.listByIds (serviceIdsOf db topic)

def clusterRequests (r : PlatformRows) (topic : Topic) : List DeletionRequest :=
  if serviceIdsOf r.db topic ≠ [] then
    .read :: servicesRequests (presentAt r.nodes topic.name) (servicesOf r.db topic)
  else []

section Requests
variable (sameText : String → String → Bool)

def deletionRequests (r : PlatformRows) (topic : Topic) : List DeletionRequest :=
  [.read, .read] ++ (clusterRequests r topic ++ ((.read :: (listByTopic sameText r.rules topic.name).map .rule) ++ [.status]))

def deletionSteps (p : Platform) (topic : Topic) : List (Step PlatformRows) :=
  stepsOf p.typeOf topic (deletionRequests sameText p.rows topic)

end Requests

/-! ### What the requests change -/

section Changes
variable {types : ZmsService → Option BrokerType} {topic : Topic} {requests : List DeletionRequest}
  {r t u v : PlatformRows}

theorem rows_of_delete {rules : AlertService.Rules} {alertRule : Alert.AlertRuleConfig}
    {sending : AlertService.Sending} (sent : AlertService.delete rules alertRule = some sending) :
    sending.rules.rows = rules.rows.filter fun row => row.id ≠ alertRule.id := by
  obtain ⟨rule, found, done⟩ := Option.bind_eq_some_iff.mp sent
  cases done
  have same : rule.id = alertRule.id := by
    unfold AlertService.deletedRule at found
    split at found
    · have chosen := List.find?_some found
      exact of_decide_eq_true chosen
    · cases found
      rfl
  change rules.rows.filter (fun row => row.id ≠ rule.id) = _
  rw [same]

theorem eq_none_of_deleted {type : BrokerType} {present partitions : Option Int}
    (done : deleted type present = some partitions) : partitions = none := by
  unfold deleted at done
  split at done
  · cases done
  · exact (Option.some.inj done).symm

theorem deleted_of_isSome {type : BrokerType} {present : Option Int} (there : present ≠ none) :
    deleted type present = some none := if_neg fun missing => there missing.2

theorem change_cases {request : DeletionRequest} (taken : request.change types topic u = some v) :
    (request = .read ∧ v = u) ∨
    (∃ env, request = .node env ∧ v = { u with nodes := u.nodes.put env .TOPIC topic.name none }) ∨
    (∃ service, request = .broker service ∧ (types service).isSome = true ∧
      v = { u with brokers := Function.update u.brokers (brokerKey topic.name service) none }) ∨
    (∃ alertRule rules, request = .rule alertRule ∧ v = { u with rules } ∧
      rules.rows = u.rules.rows.filter fun row => row.id ≠ alertRule.id) ∨
    (∃ db, request = .status ∧ v = { u with db } ∧
      u.db.changeTopic topic.id (fun row => { row with status := SOFT_DELETED }) id_softDeleted = some db) := by
  cases request with
  | read => exact .inl ⟨rfl, (Option.some.inj taken).symm⟩
  | node env => exact .inr (.inl ⟨env, rfl, (Option.some.inj taken).symm⟩)
  | broker service =>
    obtain ⟨type, typed, taken⟩ := Option.bind_eq_some_iff.mp taken
    obtain ⟨partitions, done, rfl⟩ := Option.map_eq_some_iff.mp taken
    rw [eq_none_of_deleted done]
    exact .inr (.inr (.inl ⟨service, rfl, Option.isSome_of_eq_some typed, rfl⟩))
  | rule alertRule =>
    obtain ⟨sending, sent, rfl⟩ := Option.map_eq_some_iff.mp taken
    exact .inr (.inr (.inr (.inl ⟨alertRule, sending.rules, rfl, rfl, rows_of_delete sent⟩)))
  | status =>
    obtain ⟨db, changed, rfl⟩ := Option.map_eq_some_iff.mp taken
    exact .inr (.inr (.inr (.inr ⟨db, rfl, rfl, changed⟩)))

theorem applied_broker {service : ZmsService} (typed : (types service).isSome = true)
    (there : u.brokers (brokerKey topic.name service) ≠ none) :
    applied (stepsOf types topic [.broker service]) u =
      some { u with brokers := Function.update u.brokers (brokerKey topic.name service) none } := by
  obtain ⟨type, typed⟩ := Option.isSome_iff_exists.mp typed
  change ((types service).bind fun type =>
    (deleted type (u.brokers (brokerKey topic.name service))).map _).bind _ = _
  rw [typed, Option.bind_some, deleted_of_isSome there]
  rfl

theorem related_of_requests {rel : PlatformRows → PlatformRows → Prop} [IsPreorder PlatformRows rel]
    (each : ∀ request ∈ requests, ∀ u v, request.change types topic u = some v → rel u v)
    (done : applied (stepsOf types topic requests) r = some t) : rel r t := by
  refine related_of_applied rel ?_ done
  intro step member u v taken
  obtain ⟨request, listed, same⟩ := List.mem_map.mp member
  cases same
  exact each request listed u v taken

theorem keeps_of_requests {α : Type} {f : PlatformRows → α}
    (each : ∀ request ∈ requests, ∀ u v, request.change types topic u = some v → f v = f u)
    (done : applied (stepsOf types topic requests) r = some t) : f t = f r := by
  refine keeps_of_applied ?_ done
  intro step member u v taken
  obtain ⟨request, listed, same⟩ := List.mem_map.mp member
  cases same
  exact each request listed u v taken

theorem nodes_of_requests {env : EnvId} (spared : .node env ∉ requests)
    (done : applied (stepsOf types topic requests) r = some t) :
    t.nodes env .TOPIC topic.name = r.nodes env .TOPIC topic.name := by
  refine keeps_of_requests (f := fun u => u.nodes env .TOPIC topic.name) ?_ done
  intro request listed u v taken
  obtain ⟨_, rfl⟩ | ⟨other, rfl, rfl⟩ | ⟨_, _, _, rfl⟩ | ⟨_, _, _, rfl, _⟩ | ⟨_, _, rfl, _⟩ := change_cases taken
  case inr.inl =>
    have ne : other ≠ env := by
      rintro rfl
      exact spared listed
    exact put_of_ne u.nodes none fun same => ne same.1.symm
  all_goals rfl

theorem brokers_of_requests {key : EnvId × String × String}
    (spared : ∀ service, .broker service ∈ requests → brokerKey topic.name service ≠ key)
    (done : applied (stepsOf types topic requests) r = some t) : t.brokers key = r.brokers key := by
  refine keeps_of_requests (f := fun u => u.brokers key) ?_ done
  intro request listed u v taken
  obtain ⟨_, rfl⟩ | ⟨_, _, rfl⟩ | ⟨service, rfl, _, rfl⟩ | ⟨_, _, _, rfl, _⟩ | ⟨_, _, rfl, _⟩ := change_cases taken
  case inr.inr.inl => exact Function.update_of_ne (spared service listed).symm none u.brokers
  all_goals rfl

theorem db_of_requests (spared : .status ∉ requests) (done : applied (stepsOf types topic requests) r = some t) :
    t.db = r.db := by
  refine keeps_of_requests (f := PlatformRows.db) ?_ done
  intro request listed u v taken
  obtain ⟨_, rfl⟩ | ⟨_, _, rfl⟩ | ⟨_, _, _, rfl⟩ | ⟨_, _, _, rfl, _⟩ | ⟨_, rfl, _⟩ := change_cases taken
  case inr.inr.inr.inr => exact absurd listed spared
  all_goals rfl

theorem rules_of_requests (spared : ∀ alertRule, .rule alertRule ∉ requests)
    (done : applied (stepsOf types topic requests) r = some t) : t.rules = r.rules := by
  refine keeps_of_requests (f := PlatformRows.rules) ?_ done
  intro request listed u v taken
  obtain ⟨_, rfl⟩ | ⟨_, _, rfl⟩ | ⟨_, _, _, rfl⟩ | ⟨alertRule, _, rfl, _⟩ | ⟨_, _, rfl, _⟩ := change_cases taken
  case inr.inr.inr.inl => exact absurd listed (spared alertRule)
  all_goals rfl

/-- A deletion makes nothing. -/
structure Shrinks (topicName : String) (r t : PlatformRows) : Prop where
  nodes : ∀ env, r.nodes env .TOPIC topicName = none → t.nodes env .TOPIC topicName = none
  brokers : ∀ key, r.brokers key = none → t.brokers key = none
  rules : ∀ row ∈ t.rules.rows, row ∈ r.rules.rows

instance (topicName : String) : IsPreorder PlatformRows (Shrinks topicName) where
  refl _ := ⟨fun _ gone => gone, fun _ gone => gone, fun _ member => member⟩
  trans _ _ _ first second := {
    nodes := fun env gone => second.nodes env (first.nodes env gone)
    brokers := fun key gone => second.brokers key (first.brokers key gone)
    rules := fun row member => first.rules row (second.rules row member) }

theorem shrinks_of_requests (done : applied (stepsOf types topic requests) r = some t) : Shrinks topic.name r t := by
  refine related_of_requests ?_ done
  intro request _ u v taken
  obtain ⟨_, rfl⟩ | ⟨env, _, rfl⟩ | ⟨service, _, _, rfl⟩ | ⟨alertRule, rules, _, rfl, left⟩ | ⟨_, _, rfl, _⟩ :=
    change_cases taken
  case inr.inl =>
    refine ⟨fun other gone => ?_, fun _ gone => gone, fun _ member => member⟩
    by_cases same : other = env
    · subst same
      exact put_self ..
    · exact (put_of_ne u.nodes none fun all => same all.1).trans gone
  case inr.inr.inl =>
    refine ⟨fun _ gone => gone, fun key gone => ?_, fun _ member => member⟩
    by_cases same : key = brokerKey topic.name service
    · subst same
      exact Function.update_self ..
    · exact (Function.update_of_ne same none u.brokers).trans gone
  case inr.inr.inr.inl =>
    refine ⟨fun _ gone => gone, fun _ gone => gone, fun row member => ?_⟩
    have member : row ∈ rules.rows := member
    rw [left] at member
    exact List.mem_of_mem_filter member
  all_goals exact ⟨fun _ gone => gone, fun _ gone => gone, fun _ member => member⟩

theorem rule_gone {alertRule : Alert.AlertRuleConfig} (asked : .rule alertRule ∈ requests)
    (done : applied (stepsOf types topic requests) r = some t) : ∀ row ∈ t.rules.rows, row.id ≠ alertRule.id := by
  obtain ⟨first, rest, rfl⟩ := List.append_of_mem asked
  unfold stepsOf at done
  rw [List.map_append, applied_append] at done
  obtain ⟨u, _, done⟩ := Option.bind_eq_some_iff.mp done
  obtain ⟨v, taken, later⟩ := Option.bind_eq_some_iff.mp done
  obtain ⟨impossible, _⟩ | ⟨_, impossible, _⟩ | ⟨_, impossible, _⟩ | ⟨other, rules, same, rfl, left⟩ |
    ⟨_, impossible, _⟩ := change_cases taken
  case inr.inr.inr.inl =>
    obtain rfl := DeletionRequest.rule.inj same
    intro row member
    have member := (shrinks_of_requests later).rules row member
    change row ∈ rules.rows at member
    rw [left] at member
    exact of_decide_eq_true (List.mem_filter.mp member).2
  all_goals cases impossible

end Changes

/-! ### The call as these requests -/

section Calls
variable {p q : Platform} {topic : Topic} {types : ZmsService → Option BrokerType}

theorem deleteTopic_eq_perform (service : ZmsService) (typed : p.typeOf = types) :
    TopicService.deleteTopic service.environmentId service.serverName topic.name p =
      asking.perform (stepsOf types topic [.broker service]) p := by
  subst typed
  exact brokerRequest_eq_perform ..

theorem deleteInfo_eq_perform (env : EnvId) :
    onPortal (deleteInfo env .TOPIC topic.name) p = asking.perform (stepsOf types topic [.node env]) p := by
  apply Asking.eq_perform_one
  · intro refused
    exact onPortal_eq (bind_of_throws (request_of_refused refused))
  · intro _ impossible
    cases impossible
  · intro answered r taken
    cases taken
    exact onPortal_eq (bind_of_returns (request_of_answered answered))

theorem deleteRule_eq_perform (alertRule : Alert.AlertRuleConfig) :
    deleteRule alertRule p = asking.perform (stepsOf types topic [.rule alertRule]) p := by
  have answers (answered : p.answers 0 = true) : deleteRule alertRule p =
      (ofOption (AlertService.delete p.rules alertRule) >>= fun sending =>
        modify fun p => { p with rules := sending.rules }) (asking.next p) :=
    bind_of_returns (onPortal_eq (request_of_answered answered))
  apply Asking.eq_perform_one
  · intro refused
    exact bind_of_throws (onPortal_eq (request_of_refused refused))
  · intro answered fails
    have fails : AlertService.delete p.rules alertRule = none := Option.map_eq_none_iff.mp fails
    rw [answers answered, fails]
    rfl
  · intro answered r takes
    obtain ⟨sending, sent, rfl⟩ := Option.map_eq_some_iff.mp takes
    have sent : AlertService.delete p.rules alertRule = some sending := sent
    rw [answers answered, sent]
    rfl

theorem typeOf_perform (steps : List (Step PlatformRows)) : (asking.perform steps p).2.typeOf = p.typeOf := by
  unfold Platform.typeOf
  rw [brokerTypes_perform]

theorem deleteTopicIn_eq_perform (service : ZmsService) (typed : p.typeOf = types) :
    deleteTopicIn topic.name service p = asking.perform (stepsOf types topic
      (if presentAt p.nodes topic.name service.environmentId then
        [.read, .node service.environmentId, .broker service] else [.read])) p := by
  have reads : deleteTopicIn topic.name service p = asking.perform (stepsOf types topic (.read ::
      if presentAt p.nodes topic.name service.environmentId then [.node service.environmentId, .broker service]
      else [])) p := by
    apply read_bind_eq_perform
    · intro refused
      exact bind_of_throws (request_of_refused refused)
    · intro answered
      exact bind_of_returns (request_of_answered answered)
    · by_cases present : presentAt p.nodes topic.name service.environmentId = true
      · refine (congrFun (if_pos present) _).trans ?_
        rw [if_pos present]
        refine Asking.bind_eq_perform (@deleteInfo_eq_perform _ _ types _) fun t taken => ?_
        apply deleteTopic_eq_perform service
        have same := typeOf_perform (p := asking.next p) (stepsOf types topic [.node service.environmentId])
        rw [taken] at same
        exact same.trans typed
      · refine (congrFun (if_neg present) _).trans ?_
        rw [if_neg present]
        rfl
  rw [reads]
  split <;> rfl

theorem mem_servicesRequests {present : EnvId → Bool} {services : List ZmsService} {request : DeletionRequest}
    (member : request ∈ servicesRequests present services) :
    request = .read ∨ ∃ service ∈ services, present service.environmentId = true ∧
      (request = .node service.environmentId ∨ request = .broker service) := by
  induction services generalizing present with
  | nil => cases member
  | cons service rest ih =>
    unfold servicesRequests at member
    split at member
    · next there =>
      obtain rfl | member := List.mem_cons.mp member
      · exact .inl rfl
      obtain rfl | member := List.mem_cons.mp member
      · exact .inr ⟨service, List.mem_cons_self, there, .inl rfl⟩
      obtain rfl | member := List.mem_cons.mp member
      · exact .inr ⟨service, List.mem_cons_self, there, .inr rfl⟩
      obtain read | ⟨other, listed, still, asked⟩ := ih member
      · exact .inl read
      refine .inr ⟨other, List.mem_cons_of_mem _ listed, ?_, asked⟩
      by_cases same : other.environmentId = service.environmentId
      · rw [same]
        exact there
      · rwa [Function.update_of_ne same] at still
    · obtain rfl | member := List.mem_cons.mp member
      · exact .inl rfl
      obtain read | ⟨other, listed, there, asked⟩ := ih member
      · exact .inl read
      · exact .inr ⟨other, List.mem_cons_of_mem _ listed, there, asked⟩

theorem presentAt_of_requests {r t : PlatformRows} {service : ZmsService}
    (done : applied (stepsOf types topic [.read, .node service.environmentId, .broker service]) r = some t) :
    presentAt t.nodes topic.name = Function.update (presentAt r.nodes topic.name) service.environmentId false := by
  funext env
  by_cases same : env = service.environmentId
  · subst same
    rw [Function.update_self]
    have rest : applied (stepsOf types topic [.broker service])
        { r with nodes := r.nodes.put service.environmentId .TOPIC topic.name none } = some t := done
    unfold presentAt
    rw [(shrinks_of_requests rest).nodes service.environmentId (put_self ..)]
    rfl
  · rw [Function.update_of_ne same]
    unfold presentAt
    rw [nodes_of_requests ?_ done]
    simpa using same

theorem forEach_deleteTopicIn (services : List ZmsService) (typed : p.typeOf = types) :
    forEach (deleteTopicIn topic.name) services p =
      asking.perform (stepsOf types topic (servicesRequests (presentAt p.nodes topic.name) services)) p := by
  induction services generalizing p with
  | nil => rfl
  | cons service rest ih =>
    have one := @deleteTopicIn_eq_perform p topic _ service typed
    have kept {t : Platform} {requests : List DeletionRequest}
        (taken : asking.perform (stepsOf types topic requests) p = (some (), t)) : t.typeOf = types := by
      have same := typeOf_perform (p := p) (stepsOf types topic requests)
      rw [taken] at same
      exact same.trans typed
    rw [forEach_cons]
    unfold servicesRequests
    by_cases there : presentAt p.nodes topic.name service.environmentId = true
    · rw [if_pos there] at one ⊢
      refine Asking.bind_eq_perform one fun t taken => ?_
      have left : presentAt t.nodes topic.name = Function.update (presentAt p.nodes topic.name) _ false :=
        presentAt_of_requests (Asking.applied_of_perform taken)
      rw [ih (kept taken), left]
      rfl
    · rw [if_neg there] at one ⊢
      refine Asking.bind_eq_perform one fun t taken => ?_
      have same : p.rows = t.rows := Option.some.inj (Asking.applied_of_perform taken)
      rw [ih (kept taken), show p.nodes = t.nodes from congrArg PlatformRows.nodes same]
      rfl

section Whole
variable (sameText : String → String → Bool)

theorem deleteRules_eq_perform : deleteRules sameText topic.name p = asking.perform (stepsOf types topic
    (.read :: (listByTopic sameText p.rules topic.name).map .rule)) p := by
  unfold deleteRules
  apply read_bind_eq_perform request_of_refused request_of_answered
  have each (alertRule : Alert.AlertRuleConfig) :
      deleteRule alertRule = asking.perform (stepsOf types topic [.rule alertRule]) :=
    funext fun _ => deleteRule_eq_perform alertRule
  change forEach deleteRule (listByTopic sameText p.rules topic.name) _ = _
  rw [Asking.forEach_perform each]
  congr 1
  induction listByTopic sameText p.rules topic.name with
  | nil => rfl
  | cons alertRule rest ih =>
    rw [List.flatMap_cons, ih]
    rfl

theorem mem_clusterRequests {r : PlatformRows} {request : DeletionRequest}
    (member : request ∈ clusterRequests r topic) :
    request = .read ∨ ∃ service, request = .node service.environmentId ∨ request = .broker service := by
  unfold clusterRequests at member
  split at member
  · obtain rfl | member := List.mem_cons.mp member
    · exact .inl rfl
    obtain read | ⟨service, _, _, asked⟩ := mem_servicesRequests member
    · exact .inl read
    · exact .inr ⟨service, asked⟩
  · cases member

theorem rules_of_clusterRequests {r t : PlatformRows}
    (done : applied (stepsOf types topic (clusterRequests r topic)) r = some t) : t.rules = r.rules := by
  apply rules_of_requests ?_ done
  intro alertRule member
  obtain impossible | ⟨_, impossible | impossible⟩ := mem_clusterRequests member
  all_goals cases impossible

theorem deleteTopic_eq (id : Int) (found : p.db.topics.get id = some topic) :
    deleteTopic sameText id p = asking.perform (deletionSteps sameText p topic) p := by
  have steps : deletionSteps sameText p topic = some some :: some some ::
      (stepsOf p.typeOf topic (clusterRequests p.rows topic) ++
        (stepsOf p.typeOf topic (.read :: (listByTopic sameText p.rules topic.name).map .rule) ++
          stepsOf p.typeOf topic [.status])) := by
    unfold stepsOf
    rw [← List.map_append, ← List.map_append]
    rfl
  rw [steps]
  unfold deleteTopic
  apply read_bind_eq_perform (a := topic)
  · intro refused
    exact bind_of_throws (query_of_refused refused)
  · intro answered
    refine (bind_of_returns (query_of_answered answered)).trans ?_
    rw [found]
    rfl
  apply read_bind_eq_perform query_of_refused query_of_answered
  refine Asking.bind_eq_perform ?_ fun t taken => ?_
  · by_cases listed : serviceIdsOf p.db topic ≠ []
    · have requests : clusterRequests p.rows topic =
          .read :: servicesRequests (presentAt p.nodes topic.name) (servicesOf p.db topic) := if_pos listed
      rw [requests]
      refine (congrFun (if_pos listed) _).trans ?_
      apply read_bind_eq_perform query_of_refused query_of_answered
      exact forEach_deleteTopicIn _ rfl
    · have requests : clusterRequests p.rows topic = [] := if_neg listed
      rw [requests]
      exact congrFun (if_neg listed) _
  · have done : applied (stepsOf p.typeOf topic (clusterRequests p.rows topic)) p.rows = some t.rows :=
      Asking.applied_of_perform taken
    have kept : t.rules = p.rules := rules_of_clusterRequests done
    have rules := @deleteRules_eq_perform t topic p.typeOf sameText
    rw [kept] at rules
    exact Asking.bind_eq_perform rules fun _ _ => execute_eq_perform ..

end Whole

end Calls

/-! ### One environment -/

/-- The service whose cluster is asked in an environment. -/
def chosenIn (db : Database) (topic : Topic) (env : EnvId) : Option ZmsService :=
  (servicesOf db topic).find? fun service => service.environmentId = env

theorem environmentId_of_chosen {db : Database} {topic : Topic} {env : EnvId} {service : ZmsService}
    (chosen : chosenIn db topic env = some service) : service.environmentId = env := by
  have here := List.find?_some chosen
  exact of_decide_eq_true here

/-- Nothing is asked for the environment. -/
structure Silent (env : EnvId) (requests : List DeletionRequest) : Prop where
  node : .node env ∉ requests
  broker : ∀ service, .broker service ∈ requests → service.environmentId ≠ env

section Environment
variable {env : EnvId} {x : ZmsService} {first rest requests : List DeletionRequest}

theorem Silent.append (before : Silent env first) (after : Silent env rest) : Silent env (first ++ rest) where
  node member := (List.mem_append.mp member).elim before.node after.node
  broker service member := (List.mem_append.mp member).elim (before.broker service) (after.broker service)

theorem Silent.take (silent : Silent env requests) (k : Nat) : Silent env (requests.take k) where
  node member := silent.node (List.mem_of_mem_take member)
  broker service member := silent.broker service (List.mem_of_mem_take member)

theorem silent_reads (n : Nat) : Silent env (List.replicate n .read) where
  node member := by cases List.eq_of_mem_replicate member
  broker _ member := by cases List.eq_of_mem_replicate member

theorem silent_rules (alertRules : List Alert.AlertRuleConfig) : Silent env (alertRules.map .rule) where
  node member := by
    obtain ⟨_, _, impossible⟩ := List.mem_map.mp member
    cases impossible
  broker _ member := by
    obtain ⟨_, _, impossible⟩ := List.mem_map.mp member
    cases impossible

theorem silent_status : Silent env [.status] where
  node member := by cases List.mem_singleton.mp member
  broker _ member := by cases List.mem_singleton.mp member

theorem silent_end (alertRules : List Alert.AlertRuleConfig) :
    Silent env ((.read :: alertRules.map .rule) ++ [.status]) :=
  ((silent_reads 1).append (silent_rules alertRules)).append silent_status

theorem silent_servicesRequests {present : EnvId → Bool} {services : List ZmsService}
    (nothing : present env = true → services.find? (fun service => service.environmentId = env) = none) :
    Silent env (servicesRequests present services) := by
  have none_there (service : ZmsService) (listed : service ∈ services) (there : present service.environmentId = true) :
      service.environmentId ≠ env := by
    rintro rfl
    have missing := List.find?_eq_none.mp (nothing there) service listed
    simp at missing
  constructor
  · intro member
    obtain impossible | ⟨service, listed, there, asked | impossible⟩ := mem_servicesRequests member
    · cases impossible
    · exact none_there service listed there (DeletionRequest.node.inj asked).symm
    · cases impossible
  · intro service member
    obtain impossible | ⟨other, listed, there, impossible | asked⟩ := mem_servicesRequests member
    · cases impossible
    · cases impossible
    · obtain rfl := DeletionRequest.broker.inj asked
      exact none_there service listed there

/-- In an environment with the node its first service is asked, and no other. -/
theorem servicesRequests_split {present : EnvId → Bool} {services : List ZmsService} (there : present env = true)
    (chosen : services.find? (fun service => service.environmentId = env) = some x) :
    ∃ first rest, servicesRequests present services = first ++ .node env :: .broker x :: rest ∧
      Silent env first ∧ Silent env rest := by
  induction services generalizing present with
  | nil => cases chosen
  | cons service later ih =>
    by_cases here : service.environmentId = env
    · rw [List.find?_cons_of_pos (by simpa using here)] at chosen
      obtain rfl := Option.some.inj chosen
      subst here
      refine ⟨[.read], _, if_pos there, silent_reads 1, silent_servicesRequests fun still => ?_⟩
      rw [Function.update_self] at still
      cases still
    · rw [List.find?_cons_of_neg (by simpa using here)] at chosen
      unfold servicesRequests
      split
      · have still : Function.update present service.environmentId false env = true := by
          rwa [Function.update_of_ne (Ne.symm here)]
        obtain ⟨first, rest, split, before, after⟩ := ih still chosen
        refine ⟨.read :: .node service.environmentId :: .broker service :: first, rest, by rw [split]; rfl, ?_, after⟩
        have asked : Silent env [.read, .node service.environmentId, .broker service] := by
          constructor
          · intro member
            simp [Ne.symm here] at member
          · intro other member
            simp only [List.mem_cons, DeletionRequest.broker.injEq, reduceCtorEq, List.not_mem_nil, or_false,
              false_or] at member
            rwa [member]
        exact asked.append before
      · obtain ⟨first, rest, split, before, after⟩ := ih there chosen
        exact ⟨.read :: first, rest, by rw [split]; rfl, (silent_reads 1).append before, after⟩

variable {r : PlatformRows} {topic : Topic} (sameText : String → String → Bool)

theorem silent_deletionRequests
    (nothing : presentAt r.nodes topic.name env = true → chosenIn r.db topic env = none) :
    Silent env (deletionRequests sameText r topic) := by
  refine (silent_reads 2).append (Silent.append ?_ (silent_end _))
  unfold clusterRequests
  split
  · exact (silent_reads 1).append (silent_servicesRequests nothing)
  · exact silent_reads 0

theorem deletionRequests_split (there : presentAt r.nodes topic.name env = true)
    (chosen : chosenIn r.db topic env = some x) :
    ∃ first rest, deletionRequests sameText r topic = first ++ .node env :: .broker x :: rest ∧
      Silent env first ∧ Silent env rest := by
  obtain ⟨first, rest, split, before, after⟩ := servicesRequests_split there chosen
  have listed : serviceIdsOf r.db topic ≠ [] := by
    intro none_listed
    have member := List.mem_of_find?_eq_some chosen
    unfold servicesOf Database.listByIds at member
    rw [none_listed] at member
    simp at member
  refine ⟨[.read, .read, .read] ++ first, _, ?_, (silent_reads 3).append before,
    after.append (silent_end (listByTopic sameText r.rules topic.name))⟩
  unfold deletionRequests clusterRequests
  rw [if_pos listed, split]
  simp only [List.cons_append, List.nil_append, List.append_assoc]

variable {types : ZmsService → Option BrokerType} {t : PlatformRows}

omit sameText in
theorem same_of_silent (silent : Silent env requests) (done : applied (stepsOf types topic requests) r = some t) :
    t.nodes env .TOPIC topic.name = r.nodes env .TOPIC topic.name ∧
      ∀ cluster, t.brokers (env, cluster, topic.name) = r.brokers (env, cluster, topic.name) := by
  refine ⟨nodes_of_requests silent.node done, fun cluster => brokers_of_requests (fun service listed same => ?_) done⟩
  exact silent.broker service listed (congrArg Prod.fst same)

/-- How far the first `k` requests have come in an environment, whose node is request `j`. -/
inductive Reached (types : ZmsService → Option BrokerType) (topicName : String) (x : ZmsService) (j : Nat)
    (r t : PlatformRows) : Nat → Prop where
  | before {k : Nat} : k ≤ j →
      t.nodes x.environmentId .TOPIC topicName = r.nodes x.environmentId .TOPIC topicName →
      (∀ cluster, t.brokers (x.environmentId, cluster, topicName) = r.brokers (x.environmentId, cluster, topicName)) →
      Reached types topicName x j r t k
  | between : t.nodes x.environmentId .TOPIC topicName = none →
      (∀ cluster, t.brokers (x.environmentId, cluster, topicName) = r.brokers (x.environmentId, cluster, topicName)) →
      Reached types topicName x j r t (j + 1)
  | after {k : Nat} : j + 2 ≤ k → t.nodes x.environmentId .TOPIC topicName = none → (types x).isSome = true →
      t.brokers (brokerKey topicName x) = none →
      (∀ cluster ≠ x.serverName,
        t.brokers (x.environmentId, cluster, topicName) = r.brokers (x.environmentId, cluster, topicName)) →
      Reached types topicName x j r t k

omit sameText in
theorem reached_of_prefix {k : Nat} (split : requests = first ++ .node x.environmentId :: .broker x :: rest)
    (before : Silent x.environmentId first) (after : Silent x.environmentId rest)
    (done : applied (stepsOf types topic (requests.take k)) r = some t) :
    Reached types topic.name x first.length r t k := by
  subst split
  have parts (a b : List DeletionRequest) {v : PlatformRows} (done : applied (stepsOf types topic (a ++ b)) r = some v) :
      ∃ u, applied (stepsOf types topic a) r = some u ∧ applied (stepsOf types topic b) u = some v := by
    unfold stepsOf at done
    rw [List.map_append, applied_append] at done
    exact Option.bind_eq_some_iff.mp done
  obtain early | ⟨m, rfl⟩ : k ≤ first.length ∨ ∃ m, k = first.length + (m + 1) := by
    by_cases early : k ≤ first.length
    · exact .inl early
    · exact .inr ⟨k - first.length - 1, by omega⟩
  · rw [List.take_append_of_le_length early] at done
    have same := same_of_silent (before.take k) done
    exact .before early same.1 same.2
  · rw [List.take_length_add_append, List.take_succ_cons] at done
    obtain ⟨u, early, done⟩ := parts first _ done
    have same := same_of_silent before early
    have put : applied (stepsOf types topic ((.broker x :: rest).take m))
        { u with nodes := u.nodes.put x.environmentId .TOPIC topic.name none } = some t := done
    have gone : t.nodes x.environmentId .TOPIC topic.name = none :=
      (shrinks_of_requests put).nodes x.environmentId (put_self ..)
    cases m with
    | zero =>
      cases put
      exact .between gone same.2
    | succ m =>
      rw [List.take_succ_cons] at put
      obtain ⟨v, taken, later⟩ := Option.bind_eq_some_iff.mp put
      obtain ⟨impossible, _⟩ | ⟨_, impossible, _⟩ | ⟨service, asked, typed, rfl⟩ | ⟨_, _, impossible, _⟩ |
        ⟨_, impossible, _⟩ := change_cases taken
      case inr.inr.inl =>
        obtain rfl := DeletionRequest.broker.inj asked
        have tail := same_of_silent (after.take m) later
        refine .after (by omega) gone typed ((tail.2 x.serverName).trans (Function.update_self ..)) ?_
        intro cluster other
        have kept : Function.update u.brokers (brokerKey topic.name x) none (x.environmentId, cluster, topic.name) =
            u.brokers (x.environmentId, cluster, topic.name) := by
          apply Function.update_of_ne
          intro same
          exact other (congrArg (fun key => key.2.1) same)
        exact (tail.2 cluster).trans (kept.trans (same.2 cluster))
      all_goals cases impossible

omit sameText in
theorem index_of_broker {k : Nat} {service : ZmsService}
    (split : requests = first ++ .node x.environmentId :: .broker x :: rest) (before : Silent x.environmentId first)
    (after : Silent x.environmentId rest) (asked : requests[k]? = some (.broker service))
    (same : service.environmentId = x.environmentId) : k = first.length + 1 ∧ service = x := by
  subst split
  by_cases early : k < first.length
  · rw [List.getElem?_append_left early] at asked
    exact absurd same (before.broker service (List.mem_of_getElem? asked))
  obtain ⟨m, rfl⟩ : ∃ m, k = first.length + m := ⟨k - first.length, by omega⟩
  rw [List.getElem?_append_right (Nat.le_add_right ..), Nat.add_sub_cancel_left] at asked
  match m with
  | 0 => cases asked
  | 1 =>
    cases asked
    exact ⟨rfl, rfl⟩
  | m + 2 => exact absurd same (after.broker service (List.mem_of_getElem? asked))

end Environment

/-! ### Attempts -/

def refsOf (db : Database) (topic : Topic) : List EnvironmentRef :=
  (db.refs .TOPIC).rows.filter fun ref => ref.resourceId = topic.id

/-- Where a topic of the brokers belongs to an environment of the topic. -/
def Place (db : Database) (topic : Topic) (key : EnvId × String × String) : Prop :=
  ∃ ref ∈ refsOf db topic, ∃ service, ref.serviceId.bind db.services.get = some service ∧
    key = (ref.environmentId, service.serverName, topic.name)

/-- Neither brokers nor ZooKeeper have the topic, it has no alert rules, and its row counts as deleted. -/
structure Gone (sameText : String → String → Bool) (u : Platform) (topic : Topic) : Prop where
  node : ∀ ref ∈ refsOf u.db topic, u.nodes ref.environmentId .TOPIC topic.name = none
  broker : ∀ key, Place u.db topic key → u.brokers key = none
  rules : listByTopic sameText u.rules topic.name = []
  row : ∃ row, u.db.topics.get topic.id = some row ∧ row.status = SOFT_DELETED

/-- Where the brokers have the topic a deletion finds it. -/
def TidyAt (p : Platform) (topic : Topic) (key : EnvId × String × String) : Prop :=
  p.brokers key = none ∨ p.nodes key.1 .TOPIC topic.name ≠ none ∧
    (chosenIn p.db topic key.1).map (·.serverName) = some key.2.1

structure Tidy (p : Platform) (topic : Topic) : Prop where
  node : ∀ ref ∈ refsOf p.db topic, p.nodes ref.environmentId .TOPIC topic.name ≠ none →
    (chosenIn p.db topic ref.environmentId).isSome = true
  broker : ∀ key, Place p.db topic key → TidyAt p topic key

section Attempts
variable (sameText : String → String → Bool)

/-- A deletion that has come to the brokers' topic deletes it. -/
def HarmlessAt (p : Platform) (topic : Topic) (key : EnvId × String × String) : Prop :=
  ∀ k service, (deletionRequests sameText p.rows topic)[k]? = some (.broker service) →
    brokerKey topic.name service = key → p.brokers key ≠ none →
    (applied ((deletionSteps sameText p topic).take k) p.rows).isSome = true → (∀ i < k, p.answers i = true) →
    p.answers k = true ∧ (p.typeOf service).isSome = true

def Harmless (p : Platform) (topic : Topic) : Prop := ∀ key, Place p.db topic key → HarmlessAt sameText p topic key

def Platform.answering (p : Platform) (answers : Nat → Bool) : Platform := { p with answers }

/-- Attempts to delete a topic, each of which throws. -/
def Fails (id : Int) : List (Nat → Bool) → Platform → Platform → Prop
  | [], s, t => s = t
  | answers :: rest, s, t => ∃ u, deleteTopic sameText id (s.answering answers) = (none, u) ∧ Fails id rest u t

def Spares (topic : Topic) : List (Nat → Bool) → Platform → Prop
  | [], _ => True
  | answers :: rest, s => Harmless sameText (s.answering answers) topic ∧
      Spares topic rest (deleteTopic sameText topic.id (s.answering answers)).2

variable {sameText} {p t u : Platform} {topic : Topic}

theorem id_of_found {id : Int} (found : p.db.topics.get id = some topic) : topic.id = id :=
  (Table.get_eq_some_iff.mp found).2

theorem take_stepsOf (types : ZmsService → Option BrokerType) (requests : List DeletionRequest) (k : Nat) :
    (stepsOf types topic requests).take k = stepsOf types topic (requests.take k) := List.map_take.symm

theorem status_last (r : PlatformRows) :
    ∃ init, deletionRequests sameText r topic = init ++ [.status] ∧ .status ∉ init := by
  refine ⟨[.read, .read] ++ (clusterRequests r topic ++
    (.read :: (listByTopic sameText r.rules topic.name).map .rule)), ?_, fun member => ?_⟩
  · unfold deletionRequests
    rw [List.append_assoc, List.append_assoc]
  · simp only [List.cons_append, List.nil_append, List.mem_append, List.mem_cons, List.mem_map, reduceCtorEq,
      and_false, exists_false, or_false, false_or] at member
    obtain impossible | ⟨_, impossible | impossible⟩ := mem_clusterRequests member
    all_goals cases impossible

theorem stops_of_throws (found : p.db.topics.get topic.id = some topic)
    (throws : deleteTopic sameText topic.id p = (none, t)) :
    ∃ k, Asking.Stops (deletionSteps sameText p topic) p.answers p.rows t.rows k ∧
      applied (stepsOf p.typeOf topic ((deletionRequests sameText p.rows topic).take k)) p.rows = some t.rows ∧
      t.db = p.db := by
  rw [deleteTopic_eq sameText topic.id found] at throws
  obtain ⟨k, stops⟩ := Asking.stops_of_perform throws
  have done := stops.done
  have below := stops.below
  unfold deletionSteps at done below
  rw [take_stepsOf] at done
  refine ⟨k, stops, done, db_of_requests (r := p.rows) (t := t.rows) (fun member => ?_) done⟩
  obtain ⟨init, whole, other⟩ := @status_last sameText topic p.rows
  unfold stepsOf at below
  rw [List.length_map, whole, List.length_append, List.length_singleton] at below
  rw [whole, List.take_append_of_le_length (Nat.le_of_lt_succ below)] at member
  exact other (List.mem_of_mem_take member)

/-- In an environment that is silent or of which another cluster is asked nothing is left to chance. -/
theorem harmlessAt_of_ne {key : EnvId × String × String}
    (other : ∀ service, .broker service ∈ deletionRequests sameText p.rows topic →
      brokerKey topic.name service ≠ key) : HarmlessAt sameText p topic key := by
  intro k service asked same
  exact absurd same (other service (List.mem_of_getElem? asked))

theorem presentAt_eq_true {nodes : Nodes} {env : EnvId} :
    presentAt nodes topic.name env = true ↔ nodes env .TOPIC topic.name ≠ none := by
  unfold presentAt
  rw [Option.isSome_iff_ne_none]

theorem tidyAt_of_throws (found : p.db.topics.get topic.id = some topic)
    (throws : deleteTopic sameText topic.id p = (none, t)) (env : EnvId) (cluster : String) :
    TidyAt t topic (env, cluster, topic.name) ↔ TidyAt p topic (env, cluster, topic.name) ∧
      HarmlessAt sameText p topic (env, cluster, topic.name) := by
  obtain ⟨k, stops, done, kept⟩ := stops_of_throws found throws
  unfold TidyAt
  rw [kept]
  dsimp only
  by_cases nothing : presentAt p.nodes topic.name env = true → chosenIn p.db topic env = none
  case pos =>
    have silent := silent_deletionRequests (r := p.rows) sameText nothing
    have same := same_of_silent (silent.take k) done
    have harmless : HarmlessAt sameText p topic (env, cluster, topic.name) := harmlessAt_of_ne fun service asked key =>
      silent.broker service asked (congrArg Prod.fst key)
    have nodes : t.nodes env .TOPIC topic.name = p.nodes env .TOPIC topic.name := same.1
    have brokers : t.brokers (env, cluster, topic.name) = p.brokers (env, cluster, topic.name) := same.2 cluster
    rw [nodes, brokers, and_iff_left harmless]
  case neg =>
    obtain ⟨there, some_chosen⟩ := Classical.not_imp.mp nothing
    obtain ⟨x, chosen⟩ := Option.ne_none_iff_exists'.mp some_chosen
    obtain rfl : x.environmentId = env := environmentId_of_chosen chosen
    obtain ⟨first, rest, split, before, after⟩ := deletionRequests_split (r := p.rows) sameText there chosen
    have reached := reached_of_prefix split before after done
    have present := presentAt_eq_true.mp there
    rw [chosen]
    by_cases here : cluster = x.serverName
    case neg =>
      have harmless : HarmlessAt sameText p topic (x.environmentId, cluster, topic.name) := by
        refine harmlessAt_of_ne fun service asked key => here ?_
        obtain ⟨i, asked⟩ := List.getElem?_of_mem asked
        obtain ⟨_, rfl⟩ := index_of_broker split before after asked (congrArg Prod.fst key)
        exact (congrArg (fun key => key.2.1) key).symm
      have other : (some x).map (·.serverName) ≠ some cluster := fun same => here (Option.some.inj same).symm
      have brokers : t.brokers (x.environmentId, cluster, topic.name) =
          p.brokers (x.environmentId, cluster, topic.name) := by
        cases reached with
        | before _ _ same => exact same cluster
        | between _ same => exact same cluster
        | after _ _ _ _ same => exact same cluster here
      rw [brokers, and_iff_left harmless]
      tauto
    case pos =>
      subst here
      have served : (some x).map (·.serverName) = some x.serverName := rfl
      have unique {i : Nat} {service : ZmsService}
          (asked : (deletionRequests sameText p.rows topic)[i]? = some (.broker service))
          (same : brokerKey topic.name service = (x.environmentId, x.serverName, topic.name)) :
          i = first.length + 1 ∧ service = x := index_of_broker split before after asked (congrArg Prod.fst same)
      refine Iff.trans ?_ (and_iff_right (.inr ⟨present, served⟩)).symm
      cases reached with
      | before early nodes _ =>
        have nodes : t.nodes x.environmentId .TOPIC topic.name = p.nodes x.environmentId .TOPIC topic.name := nodes
        refine iff_of_true (.inr ⟨by rwa [nodes], served⟩) ?_
        intro i service asked same _ taken answered
        obtain ⟨rfl, rfl⟩ := unique asked same
        have stuck := stops.past (answered k (by omega)) (m := first.length + 1) (by omega)
        rw [stuck] at taken
        cases taken
      | between gone brokers =>
        have brokers : t.brokers (x.environmentId, x.serverName, topic.name) =
          p.brokers (x.environmentId, x.serverName, topic.name) := brokers x.serverName
        have gone : t.nodes x.environmentId .TOPIC topic.name = none := gone
        rw [brokers]
        constructor
        · rintro (none_there | ⟨there, _⟩)
          · intro i service _ _ some_there
            exact absurd none_there some_there
          · exact absurd gone there
        · intro harmless
          by_contra some_left
          have some_there := (not_or.mp some_left).1
          have asked : (deletionRequests sameText p.rows topic)[first.length + 1]? = some (.broker x) := by
            rw [split, List.getElem?_append_right (Nat.le_add_right ..), Nat.add_sub_cancel_left]
            rfl
          obtain ⟨answered, typed⟩ :=
            harmless _ x asked rfl some_there (by rw [stops.done]; rfl) stops.passed
          have fails := stops.stops answered
          have next : ((deletionSteps sameText p topic).drop (first.length + 1)).take 1 =
              stepsOf p.typeOf topic [.broker x] := by
            unfold deletionSteps stepsOf
            rw [← List.map_drop, ← List.map_take, split, List.drop_length_add_append]
            rfl
          rw [next] at fails
          have there : t.rows.brokers (brokerKey topic.name x) ≠ none := by
            intro missing
            exact some_there (brokers.symm.trans missing)
          rw [applied_broker typed there] at fails
          cases fails
      | after late gone typed deleted _ =>
        refine iff_of_true (.inl deleted) ?_
        intro i service asked same _ _ _
        obtain ⟨rfl, rfl⟩ := unique asked same
        exact ⟨stops.passed _ late, typed⟩

theorem refs_of_status {types : ZmsService → Option BrokerType} {r t : PlatformRows}
    (done : applied (stepsOf types topic (deletionRequests sameText r topic)) r = some t)
    (found : r.db.topics.get topic.id = some topic) : t.db.refs = r.db.refs ∧ t.db.services = r.db.services ∧
      ∃ row, t.db.topics.get topic.id = some row ∧ row.status = SOFT_DELETED := by
  obtain ⟨init, whole, other⟩ := @status_last sameText topic r
  rw [whole] at done
  unfold stepsOf at done
  rw [List.map_append, applied_append] at done
  obtain ⟨v, early, done⟩ := Option.bind_eq_some_iff.mp done
  have kept : v.db = r.db := db_of_requests other early
  obtain ⟨w, taken, same⟩ := Option.bind_eq_some_iff.mp done
  obtain rfl := Option.some.inj same
  obtain ⟨impossible, _⟩ | ⟨_, impossible, _⟩ | ⟨_, impossible, _⟩ | ⟨_, _, impossible, _⟩ | ⟨db, _, rfl, changed⟩ :=
    change_cases taken
  case inr.inr.inr.inr =>
    rw [kept] at changed
    obtain ⟨topics, renamed, rfl⟩ := Option.map_eq_some_iff.mp changed
    refine ⟨rfl, rfl, { topic with status := SOFT_DELETED }, ?_, rfl⟩
    change topics.get topic.id = _
    rw [NamedTable.get_of_change renamed, found, Option.map_some, if_pos rfl]
  all_goals cases impossible

theorem done_of_returns (found : p.db.topics.get topic.id = some topic)
    (returns : deleteTopic sameText topic.id p = (some (), u)) :
    applied (stepsOf p.typeOf topic (deletionRequests sameText p.rows topic)) p.rows = some u.rows := by
  rw [deleteTopic_eq sameText topic.id found] at returns
  exact Asking.applied_of_perform returns

theorem left_of_returns (found : p.db.topics.get topic.id = some topic)
    (returns : deleteTopic sameText topic.id p = (some (), u)) {x : ZmsService}
    (there : presentAt p.nodes topic.name x.environmentId = true)
    (chosen : chosenIn p.db topic x.environmentId = some x) :
    u.nodes x.environmentId .TOPIC topic.name = none ∧ u.brokers (brokerKey topic.name x) = none ∧
      ∀ cluster ≠ x.serverName,
        u.brokers (x.environmentId, cluster, topic.name) = p.brokers (x.environmentId, cluster, topic.name) := by
  obtain ⟨first, rest, split, before, after⟩ := deletionRequests_split (r := p.rows) sameText there chosen
  have done := done_of_returns found returns
  rw [← List.take_length (l := deletionRequests sameText p.rows topic)] at done
  have reached := reached_of_prefix split before after done
  have length : (deletionRequests sameText p.rows topic).length = first.length + (rest.length + 2) := by
    rw [split, List.length_append]
    rfl
  generalize (deletionRequests sameText p.rows topic).length = k at reached length
  cases reached with
  | before early _ _ => omega
  | between _ _ => omega
  | after _ gone _ deleted kept => exact ⟨gone, deleted, kept⟩

theorem node_of_returns (found : p.db.topics.get topic.id = some topic)
    (returns : deleteTopic sameText topic.id p = (some (), u)) (env : EnvId) :
    u.nodes env .TOPIC topic.name = none ↔
      (p.nodes env .TOPIC topic.name ≠ none → (chosenIn p.db topic env).isSome = true) := by
  by_cases nothing : presentAt p.nodes topic.name env = true → chosenIn p.db topic env = none
  case pos =>
    have silent := silent_deletionRequests (r := p.rows) sameText nothing
    have same : u.nodes env .TOPIC topic.name = p.nodes env .TOPIC topic.name :=
      (same_of_silent silent (done_of_returns found returns)).1
    rw [same]
    constructor
    · intro missing there
      exact absurd missing there
    · intro chosen
      by_contra there
      have none_chosen := nothing (presentAt_eq_true.mpr there)
      have some_chosen := chosen there
      rw [none_chosen] at some_chosen
      cases some_chosen
  case neg =>
    obtain ⟨there, some_chosen⟩ := Classical.not_imp.mp nothing
    obtain ⟨x, chosen⟩ := Option.ne_none_iff_exists'.mp some_chosen
    obtain rfl : x.environmentId = env := environmentId_of_chosen chosen
    exact iff_of_true (left_of_returns found returns there chosen).1 fun _ => Option.isSome_of_eq_some chosen

theorem broker_of_returns (found : p.db.topics.get topic.id = some topic)
    (returns : deleteTopic sameText topic.id p = (some (), u)) (env : EnvId) (cluster : String) :
    u.brokers (env, cluster, topic.name) = none ↔ TidyAt p topic (env, cluster, topic.name) := by
  unfold TidyAt
  dsimp only
  by_cases nothing : presentAt p.nodes topic.name env = true → chosenIn p.db topic env = none
  case pos =>
    have silent := silent_deletionRequests (r := p.rows) sameText nothing
    have same : u.brokers (env, cluster, topic.name) = p.brokers (env, cluster, topic.name) :=
      (same_of_silent silent (done_of_returns found returns)).2 cluster
    rw [same]
    constructor
    · exact .inl
    · rintro (missing | ⟨there, served⟩)
      · exact missing
      · rw [nothing (presentAt_eq_true.mpr there)] at served
        cases served
  case neg =>
    obtain ⟨there, some_chosen⟩ := Classical.not_imp.mp nothing
    obtain ⟨x, chosen⟩ := Option.ne_none_iff_exists'.mp some_chosen
    obtain rfl : x.environmentId = env := environmentId_of_chosen chosen
    obtain ⟨_, gone, kept⟩ := left_of_returns found returns there chosen
    rw [chosen]
    by_cases here : cluster = x.serverName
    · subst here
      exact iff_of_true gone (.inr ⟨presentAt_eq_true.mp there, rfl⟩)
    · rw [kept cluster here]
      have other : (some x).map (·.serverName) ≠ some cluster := fun same => here (Option.some.inj same).symm
      tauto

theorem rest_of_returns (found : p.db.topics.get topic.id = some topic)
    (returns : deleteTopic sameText topic.id p = (some (), u)) :
    (u.db.refs = p.db.refs ∧ u.db.services = p.db.services ∧
      ∃ row, u.db.topics.get topic.id = some row ∧ row.status = SOFT_DELETED) ∧
    listByTopic sameText u.rules topic.name = [] := by
  have done := done_of_returns found returns
  refine ⟨?_, ?_⟩
  · exact refs_of_status done found
  · apply List.filter_eq_nil_iff.mpr
    intro row member named
    have before : row ∈ p.rules.rows := (shrinks_of_requests (r := p.rows) done).rules row member
    have asked : .rule row ∈ deletionRequests sameText p.rows topic := by
      unfold deletionRequests
      have listed : row ∈ listByTopic sameText p.rules topic.name := List.mem_filter.mpr ⟨before, named⟩
      simp only [List.mem_append, List.mem_cons, List.mem_map, DeletionRequest.rule.injEq, exists_eq_right]
      exact .inr (.inr (.inl (.inr listed)))
    exact rule_gone asked done row member rfl

theorem gone_iff_tidy (found : p.db.topics.get topic.id = some topic)
    (returns : deleteTopic sameText topic.id p = (some (), u)) : Gone sameText u topic ↔ Tidy p topic := by
  obtain ⟨⟨refs, services, row⟩, rules⟩ := rest_of_returns found returns
  have listed : refsOf u.db topic = refsOf p.db topic := by
    unfold refsOf
    rw [refs]
  have places (key : EnvId × String × String) : Place u.db topic key ↔ Place p.db topic key := by
    unfold Place
    rw [listed, services]
  constructor
  · intro gone
    refine ⟨fun ref member => ?_, ?_⟩
    · exact (node_of_returns found returns ref.environmentId).mp (gone.node ref (listed ▸ member))
    · intro key place
      have missing := gone.broker key ((places key).mpr place)
      obtain ⟨ref, _, service, _, rfl⟩ := place
      exact (broker_of_returns found returns ref.environmentId service.serverName).mp missing
  · intro tidy
    refine ⟨fun ref member => ?_, fun key place => ?_, rules, row⟩
    · exact (node_of_returns found returns ref.environmentId).mpr (tidy.node ref (listed ▸ member))
    · have place := (places key).mp place
      have tidyAt := tidy.broker key place
      obtain ⟨ref, _, service, _, rfl⟩ := place
      exact (broker_of_returns found returns ref.environmentId service.serverName).mpr tidyAt

/-- An attempt that throws takes no node away that the next one needs. -/
theorem node_of_throws (found : p.db.topics.get topic.id = some topic)
    (throws : deleteTopic sameText topic.id p = (none, t)) (env : EnvId) :
    (t.nodes env .TOPIC topic.name ≠ none → (chosenIn t.db topic env).isSome = true) ↔
      (p.nodes env .TOPIC topic.name ≠ none → (chosenIn p.db topic env).isSome = true) := by
  obtain ⟨k, _, done, kept⟩ := stops_of_throws found throws
  rw [kept]
  by_cases nothing : presentAt p.nodes topic.name env = true → chosenIn p.db topic env = none
  case pos =>
    have silent := silent_deletionRequests (r := p.rows) sameText nothing
    have same : t.nodes env .TOPIC topic.name = p.nodes env .TOPIC topic.name := (same_of_silent (silent.take k) done).1
    rw [same]
  case neg =>
    have chosen := Option.isSome_iff_ne_none.mpr (Classical.not_imp.mp nothing).2
    exact iff_of_true (fun _ => chosen) fun _ => chosen

theorem tidy_iff_of_throws (found : p.db.topics.get topic.id = some topic)
    (throws : deleteTopic sameText topic.id p = (none, t)) : Tidy t topic ↔ Tidy p topic ∧ Harmless sameText p topic := by
  obtain ⟨_, _, _, kept⟩ := stops_of_throws found throws
  have nodes := node_of_throws found throws
  have brokers := tidyAt_of_throws found throws
  constructor
  · intro tidy
    have both (key : EnvId × String × String) (place : Place p.db topic key) :
        TidyAt p topic key ∧ HarmlessAt sameText p topic key := by
      have left := tidy.broker key (kept.symm ▸ place)
      obtain ⟨ref, _, service, _, rfl⟩ := place
      exact (brokers ref.environmentId service.serverName).mp left
    refine ⟨⟨fun ref member => ?_, fun key place => (both key place).1⟩, fun key place => (both key place).2⟩
    exact (nodes ref.environmentId).mp (tidy.node ref (kept.symm ▸ member))
  · intro ⟨tidy, harmless⟩
    refine ⟨fun ref member => (nodes ref.environmentId).mpr (tidy.node ref (kept ▸ member)), fun key place => ?_⟩
    have place : Place p.db topic key := kept ▸ place
    have tidyAt := tidy.broker key place
    have harmlessAt := harmless key place
    obtain ⟨ref, _, service, _, rfl⟩ := place
    exact (brokers ref.environmentId service.serverName).mpr ⟨tidyAt, harmlessAt⟩

theorem tidy_iff_of_fails {tries : List (Nat → Bool)} {s t : Platform}
    (found : s.db.topics.get topic.id = some topic) (fails : Fails sameText topic.id tries s t) :
    t.db = s.db ∧ (Tidy t topic ↔ Tidy s topic ∧ Spares sameText topic tries s) := by
  induction tries generalizing s with
  | nil =>
    cases fails
    exact ⟨rfl, (and_iff_left trivial).symm⟩
  | cons answers rest ih =>
    obtain ⟨u, throws, later⟩ := fails
    obtain ⟨_, _, _, kept⟩ := stops_of_throws (p := s.answering answers) found throws
    have kept : u.db = s.db := kept
    obtain ⟨same, tidy⟩ := ih (kept ▸ found) later
    have one := tidy_iff_of_throws (p := s.answering answers) found throws
    have asked : Tidy (s.answering answers) topic ↔ Tidy s topic := ⟨fun tidy => ⟨tidy.node, tidy.broker⟩,
      fun tidy => ⟨tidy.node, tidy.broker⟩⟩
    refine ⟨same.trans kept, ?_⟩
    unfold Spares
    rw [tidy, one, asked, throws, and_assoc]

/-- A deletion that returns after attempts that did not leaves nothing of the topic exactly where
none of them ended between its node and the topic of the brokers. -/
theorem gone_iff {id : Int} {tries : List (Nat → Bool)} {s : Platform} {last : Nat → Bool}
    (found : s.db.topics.get id = some topic) (fails : Fails sameText id tries s t)
    (returns : deleteTopic sameText id (t.answering last) = (some (), u)) :
    Gone sameText u topic ↔ Tidy s topic ∧ Spares sameText topic tries s := by
  obtain rfl := id_of_found found
  obtain ⟨kept, tidy⟩ := tidy_iff_of_fails found fails
  have asked : Tidy (t.answering last) topic ↔ Tidy t topic := ⟨fun tidy => ⟨tidy.node, tidy.broker⟩,
    fun tidy => ⟨tidy.node, tidy.broker⟩⟩
  have there : (t.answering last).db.topics.get topic.id = some topic := by
    change t.db.topics.get topic.id = some topic
    rwa [kept]
  rw [← tidy, ← asked, gone_iff_tidy there returns]

end Attempts

/-- A topic of one environment, in its cluster and in ZooKeeper. -/
def oneCluster : Platform where
  db :=
    { environments := [1]
      services := .ofList [⟨⟨10, 1, "main", "KAFKA", false⟩, "ENABLE"⟩]
      topics := .ofList [⟨⟨1, "orders", CREATE_APPROVED⟩, "owner", some 4⟩]
      consumers := .ofList []
      refs
        | .TOPIC => .ofList [.plain 1 1 (some 10)]
        | .CONSUMER_GRUOP => .ofList [] }
  nodes env type name := if env = 1 ∧ type = .TOPIC ∧ name = "orders" then
    some ⟨"main", none, none, none, none, none, none, none⟩ else none
  clusters _ name := some ⟨name, none, some .KAFKA, none⟩
  answers _ := true
  brokers key := if key = (1, "main", "orders") then some 4 else none
  replication _ := 1
  rules := ⟨[], [], 1⟩

theorem broker_refused : deleteTopic (· == ·) 1 (oneCluster.answering (· ≠ 5)) =
    (none, (deleteTopic (· == ·) 1 (oneCluster.answering (· ≠ 5))).2) := Prod.ext (by decide) rfl

theorem returns_later :
    deleteTopic (· == ·) 1 ((deleteTopic (· == ·) 1 (oneCluster.answering (· ≠ 5))).2.answering fun _ => true) =
      (some (), (deleteTopic (· == ·) 1
        ((deleteTopic (· == ·) 1 (oneCluster.answering (· ≠ 5))).2.answering fun _ => true)).2) :=
  Prod.ext (by decide) rfl

/-- The node is deleted, the brokers fail, and the next deletion does not ask them. -/
theorem topic_left_in_broker : ∃ topic t u, oneCluster.db.topics.get 1 = some topic ∧
    deleteTopic (· == ·) 1 (oneCluster.answering (· ≠ 5)) = (none, t) ∧
    deleteTopic (· == ·) 1 (t.answering fun _ => true) = (some (), u) ∧ ¬Gone (· == ·) u topic := by
  refine ⟨⟨⟨1, "orders", CREATE_APPROVED⟩, "owner", some 4⟩, _, _, by decide, broker_refused, returns_later, ?_⟩
  intro gone
  have missing := gone.broker (1, "main", "orders")
    ⟨.plain 1 1 (some 10), by decide, ⟨⟨10, 1, "main", "KAFKA", false⟩, "ENABLE"⟩, by decide, rfl⟩
  exact absurd missing (by decide)

theorem gone_iff_oneCluster :
    Gone (· == ·) (deleteTopic (· == ·) 1
        ((deleteTopic (· == ·) 1 (oneCluster.answering (· ≠ 5))).2.answering fun _ => true)).2
      ⟨⟨1, "orders", CREATE_APPROVED⟩, "owner", some 4⟩ ↔
    Tidy oneCluster ⟨⟨1, "orders", CREATE_APPROVED⟩, "owner", some 4⟩ ∧
      Spares (· == ·) ⟨⟨1, "orders", CREATE_APPROVED⟩, "owner", some 4⟩ [(· ≠ 5)] oneCluster :=
  gone_iff (by decide) ⟨_, broker_refused, rfl⟩ returns_later

end Zms.Portal.Brokers
