import Mathlib
import Zms.Alert.AlertTask
import Zms.Metadata
import Zms.Portal.Tables

/-! The portal's service for alert rules: its calls, the rows they leave behind
and the messages they send to the alert services of the environments.
-/

set_option autoImplicit false

namespace Zms.Portal.AlertService

open Zms.Alert

/-- A topic or consumer in an environment: its name joined with its environment
reference, in the order of the environments. -/
structure EnvironmentRef where
  name : String
  environmentId : EnvId
  serviceId : Option Int
  deriving DecidableEq, Repr

/-- The tables that the service only reads. `fold` is the case folding of
`equalsIgnoreCase`, `sameTopic` and `sameText` are the comparisons of the
database's collations. -/
structure Tables where
  topics : List EnvironmentRef
  consumers : List EnvironmentRef
  services : List ZmsServiceEntity
  fold : Char → Char
  sameTopic : String → String → Bool
  sameText : String → String → Bool
  topicOnce : ∀ name, ((topics.filter fun ref => sameTopic ref.name name).map (·.environmentId)).Nodup
  consumerOnce : ∀ name, ((consumers.filter fun ref => sameText ref.name name).map (·.environmentId)).Nodup

structure AlertRuleDTO where
  rule : AlertRuleConfig
  refList : List EnvId
  deriving DecidableEq, Repr

structure LdapUser where
  realName : Option String
  isAdmin : Bool
  deriving DecidableEq, Repr

/-- `alert_rule` and `alert_rule_environment_ref`. -/
structure Rules where
  rows : List AlertRuleConfig
  refs : List (Nat × EnvId)
  nextId : Nat
  deriving Repr

namespace Tables
variable (tables : Tables)

def queryEnvironmentRefByTopicName (name : String) (envIds : List EnvId) : List EnvironmentRef :=
  (tables.topics.filter fun ref => tables.sameTopic ref.name name).filter fun ref =>
    envIds.contains ref.environmentId

def queryEnvironmentRefByConsumerName (name : String) (envIds : List EnvId) : List EnvironmentRef :=
  (tables.consumers.filter fun ref => tables.sameText ref.name name).filter fun ref =>
    envIds.contains ref.environmentId

/-- The name of a service that is not deleted. -/
def serverName (ref : EnvironmentRef) : Option String := do
  let service ← getById tables.services (← ref.serviceId)
  if service.isDeleted then none else some service.serverName

def getByEnvIdAndTopicName (envId : EnvId) (name : String) : Option String :=
  (tables.queryEnvironmentRefByTopicName name [envId]).findSome? tables.serverName

def getByEnvIdAndConsumerName (envId : EnvId) (name : String) : Option String :=
  (tables.queryEnvironmentRefByConsumerName name [envId]).findSome? tables.serverName

/-- No row is an exception. -/
def getEnvironmentRefDto (dto : AlertRuleDTO) : Option (List EnvironmentRef) :=
  let refs := if dto.rule.type = "topic"
    then tables.queryEnvironmentRefByTopicName dto.rule.name dto.refList
    else tables.queryEnvironmentRefByConsumerName dto.rule.name dto.refList
  if refs.isEmpty then none else some refs

end Tables

def MQ_TPS_TEMPLATE (name operator target scope : String) : String :=
  "select Count(value) from \"mq_topic_info\" where \"clusterName\" = '{clusterName}' AND \"name\" = 'tps'" ++
    " AND \"topicName\" = '" ++ name ++ "' and \"value\" " ++ operator ++ " " ++ target ++
    " and  \"time\" > now()-" ++ scope ++ " ;"

def KAFKA_TPS_TEMPLATE (name operator target scope : String) : String :=
  "SELECT Count(value) FROM \"kafka_topic_info\" WHERE \"clusterName\" = '{clusterName}' AND \"topicName\" = '" ++
    name ++ "' AND \"name\" = 'oneMinuteRate' AND \"attributeName\" = 'MessagesInPerSec' and brokerName=''" ++
    " and \"value\" " ++ operator ++ " " ++ target ++ " and \"time\" > now()-" ++ scope ++ " ;"

/-- The templates for consumers differ in the measurement, the name and one blank. -/
def CONSUMER_TEMPLATE (measurement selected name operator target scope : String) : String :=
  "select Count(value)  FROM \"" ++ measurement ++ "\" WHERE \"clusterName\" = '{clusterName}'" ++
    " AND \"consumerGroup\" = '" ++ name ++ "' AND \"name\" = " ++ selected ++ "and \"value\" " ++ operator ++
    " " ++ target ++ " and \"time\" > now()-" ++ scope ++ " ;"

def MQ_CONSUMER_TPS_TEMPLATE : String → String → String → String → String :=
  CONSUMER_TEMPLATE "mq_consumer_number_info" "'tps'  "

def MQ_CONSUMER_LATENCY_TEMPLATE : String → String → String → String → String :=
  CONSUMER_TEMPLATE "mq_consumer_number_info" "'latency' "

def MQ_CONSUMER_LASTCONSUMINGTIME_TEMPLATE : String → String → String → String → String :=
  CONSUMER_TEMPLATE "mq_consumer_number_info" "'lastConsumingTime' "

def KAFKA_CONSUMER_TPS_TEMPLATE : String → String → String → String → String :=
  CONSUMER_TEMPLATE "kafka_consumer_number_info" "'tps'  "

def KAFKA_CONSUMER_LATENCY_TEMPLATE : String → String → String → String → String :=
  CONSUMER_TEMPLATE "kafka_consumer_number_info" "'latency' "

/-- A service that is not found is an exception. -/
def generateSql (tables : Tables) (rule : AlertRuleConfig) (serviceId : Option Int) : Option String := do
  let service ← getById tables.services (← serviceId)
  let isRocketmq := equalsIgnoreCase tables.fold "rocketmq" service.serverType
  let isField field := equalsIgnoreCase tables.fold field rule.field
  let template :=
    if equalsIgnoreCase tables.fold "topic" rule.type then
      if isRocketmq then MQ_TPS_TEMPLATE else KAFKA_TPS_TEMPLATE
    else if isRocketmq then
      if isField "tps" then MQ_CONSUMER_TPS_TEMPLATE
      else if isField "latency" then MQ_CONSUMER_LATENCY_TEMPLATE
      else MQ_CONSUMER_LASTCONSUMINGTIME_TEMPLATE
    else if isField "tps" then KAFKA_CONSUMER_TPS_TEMPLATE else KAFKA_CONSUMER_LATENCY_TEMPLATE
  return template rule.name rule.operator (toString rule.target) rule.scope

def generateErrorMsg (rule : AlertRuleConfig) : String :=
  let triggerOperatorTxt :=
    if rule.triggerOperator = some ">" then "超过" else if rule.triggerOperator = some "<" then "少于" else ""
  "告警名称：" ++ rule.name ++ "\n告警类型：" ++ rule.type ++ "\n告警阀值：" ++ rule.scope ++ "时间内，" ++
    triggerOperatorTxt ++ toString rule.triggerTimes ++ "次触发" ++ rule.field ++ rule.operator ++
    toString rule.target

/-- The row that `insert` and `update` make of a request. -/
def alertRule (dto : AlertRuleDTO) (influxSql : String) : AlertRuleConfig :=
  let rule := { dto.rule with influxSql }
  if isNotBlank (some rule.description) then rule else { rule with description := generateErrorMsg rule }

/-- An empty argument is no condition. -/
def queryAlertRules (tables : Tables) (rows : List AlertRuleConfig) (name field type : String) :
    List AlertRuleConfig :=
  rows.filter fun row =>
    (type.isEmpty || tables.sameText row.type type) && (name.isEmpty || tables.sameText row.name name) &&
      (field.isEmpty || tables.sameText row.field field)

def selectByPrimaryKey (rows : List AlertRuleConfig) (id : Nat) : Option AlertRuleConfig :=
  rows.find? fun row => row.id = id

def Rules.envs (rules : Rules) (id : Nat) : List EnvId :=
  (rules.refs.filter fun ref => ref.1 = id).map (·.2)

def Rules.deleteAlertRuleId (rules : Rules) (id : Nat) : Rules :=
  { rules with refs := rules.refs.filter fun ref => ref.1 ≠ id }

def Rules.insertAlertRuleEnvironmentRef (rules : Rules) (id : Nat) (envs : List EnvId) : Rules :=
  { rules with refs := rules.refs ++ envs.map fun env => (id, env) }

def selectEffectAlertRulesByEnvId (rules : Rules) (envId : EnvId) : List AlertRuleConfig :=
  rules.rows.filter fun row => row.effect && rules.refs.contains (row.id, envId)

def getClusterName (tables : Tables) (envId : EnvId) (rule : AlertRuleConfig) : AlertRuleConfig :=
  if contains rule.influxSql "{clusterName}" then
    let cluster := if equalsIgnoreCase tables.fold "topic" rule.type
      then tables.getByEnvIdAndTopicName envId rule.name
      else tables.getByEnvIdAndConsumerName envId rule.name
    match cluster with
    | none => rule
    | some cluster =>
        if cluster.isEmpty then rule
        else { rule with influxSql := rule.influxSql.replace "{clusterName}" cluster }
  else rule

/-- What the alert service of an environment is answered when it starts. -/
def getEffectAlertRulesByEnv (tables : Tables) (rules : Rules) (envId : EnvId) : List AlertRuleConfig :=
  ((selectEffectAlertRulesByEnvId rules envId).map (getClusterName tables envId)).filter fun rule =>
    !contains rule.influxSql "{clusterName}"

/-- The rows, a rule and the environments it is sent to. -/
structure Sending where
  rules : Rules
  envs : List EnvId
  rule : AlertRuleConfig

/-- `none` where the call fails: nothing is changed and nothing sent. -/
def insert (tables : Tables) (rules : Rules) (dto : AlertRuleDTO) : Option Sending :=
  if queryAlertRules tables rules.rows dto.rule.name dto.rule.field dto.rule.type = [] then do
    let refs ← tables.getEnvironmentRefDto dto
    let sql ← generateSql tables dto.rule (refs.head?.bind (·.serviceId))
    let rule := { alertRule dto sql with id := rules.nextId }
    let inserted := { rules with rows := rules.rows ++ [rule], nextId := rules.nextId + 1 }
    let envs := refs.map (·.environmentId)
    return ⟨inserted.insertAlertRuleEnvironmentRef rule.id envs, envs, rule⟩
  else none

/-- A row that is missing is an exception for a user who is not an administrator. -/
def mayModify (rules : Rules) (dto : AlertRuleDTO) (user : LdapUser) : Bool :=
  user.isAdmin || (selectByPrimaryKey rules.rows dto.rule.id).any fun row : AlertRuleConfig =>
    row.alertUser = user.realName

def update (tables : Tables) (rules : Rules) (dto : AlertRuleDTO) (user : LdapUser) : Option Sending :=
  if mayModify rules dto user then do
    let refs ← tables.getEnvironmentRefDto dto
    let sql ← generateSql tables dto.rule (refs.head?.bind (·.serviceId))
    let rule := alertRule dto sql
    if (selectByPrimaryKey rules.rows rule.id).isSome then
      let updated : Rules :=
        { rules with rows := rules.rows.map fun row => if row.id = rule.id then rule else row }
      let envs := refs.map (·.environmentId)
      return ⟨(updated.deleteAlertRuleId rule.id).insertAlertRuleEnvironmentRef rule.id envs, envs, rule⟩
    else none
  else none

/-- The rule a `DELETE` is about: the given one, or the row of its id. -/
def deletedRule (rules : Rules) (rule : AlertRuleConfig) : Option AlertRuleConfig :=
  if rule.name.isEmpty then selectByPrimaryKey rules.rows rule.id else some rule

def delete (rules : Rules) (rule : AlertRuleConfig) : Option Sending := do
  let rule ← deletedRule rules rule
  let envs := rules.envs rule.id
  let deleted := { rules with rows := rules.rows.filter fun row => row.id ≠ rule.id }
  let isDeleted := (selectByPrimaryKey rules.rows rule.id).isSome
  return ⟨deleted.deleteAlertRuleId rule.id, if isDeleted then envs else [], rule⟩

end Zms.Portal.AlertService
