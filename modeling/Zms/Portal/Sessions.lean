import Zms.Portal.AuthFilter
import Zms.Portal.Users
import Zms.Registry.Writes
import Zms.Transition.Guarded

/-! Requests beside each other: `AuthFilter` before, and `OperationAspect` around, the methods of the
controllers that carry `@Operation`.

The filter, the check of the role and the log each read the user of the session for themselves.
-/

set_option autoImplicit false

namespace Zms.Portal.Auth

open Zms.Transition
open Zms.Registry.Writes (update_eq_some_iff)

/-! ### The annotated methods -/

structure Operation where
  value : String
  isAdmin : Bool
  deriving DecidableEq, Repr

structure Method where
  className : String
  methodName : String
  operation : Operation
  patterns : List Pattern
  deriving DecidableEq, Repr

def methods (className : String) (base : List String) (annotated : List (String × Operation × List Pattern)) :
    List Method :=
  annotated.map fun (methodName, operation, patterns) =>
    ⟨className, methodName, operation, controller base [] patterns⟩

def operations : List Method :=
  methods "com.zto.zms.portal.controller.AlertController" ["api", "alert"]
    [("deleteAlert", ⟨"删除告警配置", true⟩, [[.literal "deleteAlert", .variable]])] ++
  methods "com.zto.zms.portal.controller.ConsumerController" ["api", "consumer"]
    [("approveConsumer", ⟨"消费组审批", true⟩, [[.literal "approve"]]),
     ("copyConsumers", ⟨"消费组同步到多环境", true⟩, [[.literal "copyConsumers"]]),
     ("deleteConsumer", ⟨"消费组删除", false⟩, [[.literal "delete"]]),
     ("updateGated", ⟨"消费组配置灰度测试", true⟩, [[.literal "updateGated"]])] ++
  methods "com.zto.zms.portal.controller.HostController" ["api", "master"]
    [("hostInit", ⟨"主机安装脚本链接", true⟩, [[.literal "env", .variable, .literal "hostInit"]]),
     ("hostEnabled", ⟨"启用主机", true⟩, [[.literal "env", .variable, .literal "hostEnabled"]]),
     ("hostDisabled", ⟨"停用主机", true⟩, [[.literal "env", .variable, .literal "hostDisabled"]])] ++
  methods "com.zto.zms.portal.controller.MigrationController" ["api", "migrate"]
    [("migrateZk", ⟨"主题迁移/消费组迁移", true⟩, [[.literal "migrateZk"]]),
     ("migrateClusterTopicZk", ⟨"集群迁移主题类型", true⟩, [[.literal "migrateClusterTopicZk"]]),
     ("migrateClusterConsumerZk", ⟨"集群迁移消费组类型", true⟩, [[.literal "migrateClusterConsumerZk"]])] ++
  methods "com.zto.zms.portal.controller.RecoverController" ["api", "recover"]
    [("clusterRecover", ⟨"集群重建", true⟩, [[.literal "clusterRecover"]])] ++
  methods "com.zto.zms.portal.controller.ServeController" ["api", "service"]
    [("renameService", ⟨"服务重命名", true⟩, [[.variable, .literal "rename"]]),
     ("deleteService", ⟨"删除服务", true⟩, [[.literal "deleteService", .variable]])] ++
  methods "com.zto.zms.portal.controller.ServeInstanceController" ["api", "service"]
    [("deleteServiceInstance", ⟨"删除服务实例", true⟩, [[.literal "deleteServiceInstance", .variable]]),
     ("getServiceInstanceConfig", ⟨"查询服务和实例配置", true⟩, [[.literal "getServiceInstanceConfig"]]),
     ("saveServiceInstanceConfig", ⟨"服务和实例配置修改", true⟩, [[.literal "saveServiceInstanceConfig"]]),
     ("getAddServiceInstanceConfig", ⟨"查询添加服务和实例配置", true⟩, 
      [[.literal "getAddServiceInstanceConfig", .variable, .variable, .variable],
       [.literal "getAddServiceInstanceConfig", .variable, .variable]]),
     ("addService", ⟨"添加服务", true⟩, [[.literal "addService"]]),
     ("addServiceInstance", ⟨"添加服务实例", true⟩, [[.literal "addServiceInstance"]]),
     ("stopServiceInstance", ⟨"停止服务实例", true⟩, [[.literal "stopServiceInstance"]]),
     ("startServiceInstance", ⟨"启动服务实例", true⟩, [[.literal "startServiceInstance"]]),
     ("compareServiceProperty", ⟨"对比服务实例配置", true⟩, [[.literal "compareServiceProperty", .variable, .variable]]),
     ("restartServiceInstance", ⟨"重启服务实例", true⟩, [[.literal "restartServiceInstance"]])] ++
  methods "com.zto.zms.portal.controller.TopicController" ["api", "topic"]
    [("deleteTopic", ⟨"删除主题", false⟩, [[.variable, .literal "delete"]]),
     ("approveTopic", ⟨"审批主题", true⟩, [[.variable, .literal "approve"]]),
     ("syncTopic", ⟨"同步主题", true⟩, [[.variable, .literal "syncTopic"]]),
     ("updateGated", ⟨"主题灰度配置", true⟩, [[.variable, .literal "updateGated"]]),
     ("sendMsg", ⟨"消息发送", false⟩, [[.literal "sendMsg"]])] ++
  methods "com.zto.zms.portal.controller.ZmsEnvironmentController" ["api", "env"]
    [("add", ⟨"新增环境", true⟩, [[.literal "add"]]),
     ("rename", ⟨"环境重命名", true⟩, [[.variable, .literal "rename"]]),
     ("setDatabase", ⟨"设置环境database", true⟩, [[.variable, .literal "loadDatabase"]])] ++
  methods "com.zto.zms.portal.controller.kafka.KafkaCmdController" ["api", "kafka", "cmd"]
    [("resetOffset", ⟨"Kafka消费重置", true⟩, [[.literal "resetOffset"]])] ++
  methods "com.zto.zms.portal.controller.rocketmq.RocketmqCmdController" ["api", "rocketmq", "cmd"]
    [("updatePerm", ⟨"主题权限修改", true⟩, [[.literal "updatePerm"]]),
     ("getPerm", ⟨"getPerm", true⟩, [[.literal "getPerm"]]),
     ("statsAll", ⟨"statsAll", true⟩, [[.literal "statsAll"]]),
     ("getBrokerConfig", ⟨"getBrokerConfig", true⟩, [[.literal "getBrokerConfig"]]),
     ("consumerStatusAll", ⟨"consumerStatusAll", true⟩, [[.literal "consumerStatusAll"]]),
     ("clusterList", ⟨"clusterList", true⟩, [[.literal "clusterList"]]),
     ("topicStatus", ⟨"topicStatus", true⟩, [[.literal "topicStatus"]]),
     ("topicInMsgTop", ⟨"topicInMsgTop", true⟩, [[.literal "topicInMsgTop"]]),
     ("resetOffset", ⟨"RocketMQ消费重置", true⟩, [[.literal "resetOffset"]])]

set_option maxRecDepth 8000 in
example : ∀ method ∈ operations, ∀ pattern ∈ method.patterns, pattern ∈ mappings := by decide

/-! ### Requests -/

inductive Phase where
  /-- Passed by the filter. -/
  | filtered
  /-- Ended by `validAdminRole`. -/
  | refused
  | validated
  /-- Ended by an exception of the method. -/
  | failed
  | returned
  | logged
  /-- Ended by an exception of `saveOperationLog`. -/
  | unlogged
  deriving DecidableEq

/-- Whether `validAdminRole` has let the request pass. -/
def Phase.checked : Phase → Bool
  | .filtered => false
  | .refused => false
  | _ => true

/-- Whether an aspect is still to come. -/
def Phase.inFlight : Phase → Bool
  | .filtered => true
  | .validated => true
  | .returned => true
  | _ => false

structure Request (S : Type) where
  session : S
  requestUri : String
  method : Method
  /-- The arguments of the method, in UTF-16. -/
  content : List UInt16
  phase : Phase := .filtered
  /-- The user that `validAdminRole` let pass. -/
  user : Option LdapUser := none
  /-- The user that the log names. -/
  opeartor : Option LdapUser := none
  deriving DecidableEq

structure OperationLog where
  operation : String
  name : String
  content : List UInt16
  opeartor : Option String
  deriving DecidableEq

structure Login (S : Type) where
  session : S
  userName : Option String
  password : Option String
  directory : Directory
  user : LdapUser

structure State (R S : Type) where
  /-- The attribute of each session. -/
  ldapUser : S → Option LdapUser
  requests : R → Option (Request S)
  log : List (R × OperationLog)
  /-- All logins so far. -/
  logins : List (Login S)

inductive Action (R S : Type) where
  | login (session : S) (requestUri : String) (userName password : Option String) (directory : Directory)
  | logout (session : S) (requestUri : String)
  | expire (session : S)
  | arrive (r : R) (session : S) (requestUri : String) (method : Method) (content : List UInt16)
  | validAdminRole (r : R)
  | proceed (r : R) (returns : Bool)
  | saveOperationLog (r : R) (inserted : Bool)

section Steps
variable {R S : Type} [DecidableEq R] [DecidableEq S]

/-- Without a user, the check of an administrator ends with an exception as well. -/
def Request.validAdminRole (q : Request S) (user : Option LdapUser) : Request S :=
  if q.method.operation.isAdmin && !user.any LdapUser.isAdmin then { q with phase := .refused }
  else { q with phase := .validated, user := user }

def operationLog (method : Method) (content : List UInt16) (opeartor : LdapUser) : OperationLog where
  operation := method.operation.value
  name := method.className ++ "." ++ method.methodName
  content := content.take 2000
  opeartor := opeartor.realName

namespace State

def setUser (s : State R S) (session : S) (user : Option LdapUser) : State R S :=
  { s with ldapUser := Function.update s.ldapUser session user }

def setLogin (s : State R S) (login : Login S) : State R S :=
  { s.setUser login.session (some login.user) with logins := login :: s.logins }

def setRequest (s : State R S) (r : R) (q : Request S) : State R S :=
  { s with requests := Function.update s.requests r (some q) }

def saveOperationLog (s : State R S) (r : R) (q : Request S) (opeartor : Option LdapUser) : State R S :=
  match opeartor with
  | some opeartor =>
      { s.setRequest r { q with phase := .logged, opeartor := some opeartor } with
        log := (r, operationLog q.method q.content opeartor) :: s.log }
  | none => s.setRequest r { q with phase := .unlogged }

end State

/-- The attribute as the filter looks at it. -/
def sessionUser (user : Option LdapUser) : Option String := user.map fun user => user.realName.getD ""

def effect (config : Config) (s : State R S) : Action R S → State R S
  | .login session _ userName password directory =>
      match authenticate config directory userName password with
      | some (some user) => s.setLogin ⟨session, userName, password, directory, user⟩
      | _ => s
  | .logout session _ => s.setUser session none
  | .expire session => s.setUser session none
  | .arrive r session requestUri method content =>
      s.setRequest r { session := session, requestUri := requestUri, method := method, content := content }
  | .validAdminRole r =>
      (s.requests r).elim s fun q => s.setRequest r (q.validAdminRole (s.ldapUser q.session))
  | .proceed r returns =>
      (s.requests r).elim s fun q => s.setRequest r { q with phase := if returns then .returned else .failed }
  | .saveOperationLog r inserted =>
      (s.requests r).elim s fun q =>
        s.saveOperationLog r q (if inserted then s.ldapUser q.session else none)

def Method.reachedBy (matcher : PathMatcher) (method : Method) (requestUri : String) : Bool :=
  (lookupPath requestUri).any fun path => method.patterns.any fun pattern => matcher pattern path

def InPhase (s : State R S) (r : R) (phase : Phase) : Prop := (s.requests r).map Request.phase = some phase

def guard (matcher : PathMatcher) (s : State R S) : Action R S → Prop
  | .login session requestUri _ _ _ => doFilter (sessionUser (s.ldapUser session)) requestUri = .login
  | .logout session requestUri => doFilter (sessionUser (s.ldapUser session)) requestUri = .logout
  | .expire _ => True
  | .arrive r session requestUri method _ => s.requests r = none ∧
      doFilter (sessionUser (s.ldapUser session)) requestUri = .chain ∧ method ∈ operations ∧
        method.reachedBy matcher requestUri = true
  | .validAdminRole r => InPhase s r .filtered
  | .proceed r _ => InPhase s r .validated
  | .saveOperationLog r _ => InPhase s r .returned

instance guardDecidable (matcher : PathMatcher) (s : State R S) (a : Action R S) : Decidable (guard matcher s a) :=
  Action.casesOn (motive := fun a => Decidable (guard matcher s a)) a
    (fun session requestUri _ _ _ =>
      inferInstanceAs (Decidable (doFilter (sessionUser (s.ldapUser session)) requestUri = .login)))
    (fun session requestUri =>
      inferInstanceAs (Decidable (doFilter (sessionUser (s.ldapUser session)) requestUri = .logout)))
    (fun _ => inferInstanceAs (Decidable True))
    (fun r session requestUri method _ =>
      inferInstanceAs (Decidable (s.requests r = none ∧
        doFilter (sessionUser (s.ldapUser session)) requestUri = .chain ∧ method ∈ operations ∧
          method.reachedBy matcher requestUri = true)))
    (fun r => inferInstanceAs (Decidable ((s.requests r).map Request.phase = some .filtered)))
    (fun r _ => inferInstanceAs (Decidable ((s.requests r).map Request.phase = some .validated)))
    (fun r _ => inferInstanceAs (Decidable ((s.requests r).map Request.phase = some .returned)))

def start : State R S where
  ldapUser _ := none
  requests _ := none
  log := []
  logins := []

def system (R S : Type) [DecidableEq R] [DecidableEq S] (config : Config) (matcher : PathMatcher) :
    Guarded (State R S) (Action R S) where
  init s := s = start
  guard := guard matcher
  effect := effect config

instance (config : Config) (matcher : PathMatcher) (s : State R S) (a : Action R S) :
    Decidable ((system R S config matcher).guard s a) := guardDecidable matcher s a

end Steps

/-! ### What holds in every run -/

section Requests
variable {R S : Type} {config : Config} {s t : State R S} {r : R} {q : Request S}

/-- Whose login put this user into the session. -/
def LoggedIn (s : State R S) (session : S) (user : LdapUser) : Prop :=
  ∃ login ∈ s.logins, login.session = session ∧ login.user = user

structure Request.Sound (s : State R S) (r : R) (q : Request S) : Prop where
  loggedIn : ∀ user, q.user = some user → LoggedIn s q.session user
  admin : q.phase.checked = true → q.method.operation.isAdmin = true → q.user.any LdapUser.isAdmin = true
  logged : q.phase = .logged ↔ ∃ opeartor, q.opeartor = some opeartor
  row : ∀ row, (r, row) ∈ s.log ↔
    ∃ opeartor, q.opeartor = some opeartor ∧ row = operationLog q.method q.content opeartor

structure Sound (config : Config) (s : State R S) : Prop where
  authenticated : ∀ login ∈ s.logins,
    authenticate config login.directory login.userName login.password = some (some login.user)
  loggedIn : ∀ session user, s.ldapUser session = some user → LoggedIn s session user
  requests : ∀ r q, s.requests r = some q → q.Sound s r
  rows : ∀ r row, (r, row) ∈ s.log → ∃ q, s.requests r = some q
  once : (s.log.map Prod.fst).Nodup

theorem sound_start : Sound config (start : State R S) where
  authenticated := by rintro _ ⟨⟩
  loggedIn := by rintro _ _ ⟨⟩
  requests := by rintro _ _ ⟨⟩
  rows := by rintro _ _ ⟨⟩
  once := List.nodup_nil

theorem Request.Sound.frame (sound : q.Sound s r) (log : ∀ row, (r, row) ∈ t.log ↔ (r, row) ∈ s.log)
    (logins : ∀ session user, LoggedIn s session user → LoggedIn t session user) : q.Sound t r where
  loggedIn user known := logins _ _ (sound.loggedIn user known)
  admin := sound.admin
  logged := sound.logged
  row row := (log row).trans (sound.row row)

theorem Request.Sound.validAdminRole (known : q.Sound s r)
    (loggedIn : ∀ user, s.ldapUser q.session = some user → LoggedIn s q.session user) (filtered : q.phase = .filtered) :
    (q.validAdminRole (s.ldapUser q.session)).Sound s r := by
  have unlogged : ¬ ∃ opeartor, q.opeartor = some opeartor := by
    rw [← known.logged, filtered]
    simp
  unfold Request.validAdminRole
  split
  · exact ⟨known.loggedIn, by rintro ⟨⟩, by simpa using unlogged, known.row⟩
  · next passed =>
    refine ⟨loggedIn, fun _ reserved => ?_, by simpa using unlogged, known.row⟩
    change q.method.operation.isAdmin = true at reserved
    simpa [reserved] using passed

theorem Request.Sound.proceed (known : q.Sound s r) (checked : q.phase.checked = true) (before : q.phase ≠ .logged)
    {phase : Phase} (notLogged : phase ≠ .logged) : Request.Sound s r { q with phase := phase } where
  loggedIn := known.loggedIn
  admin _ := known.admin checked
  logged := (iff_of_false notLogged before).trans known.logged
  row := known.row

theorem InPhase.exists {phase : Phase} (inPhase : InPhase s r phase) : ∃ q, s.requests r = some q ∧ q.phase = phase :=
  Option.map_eq_some_iff.mp inPhase

end Requests

section Sessions
variable {R S : Type} [DecidableEq S] {config : Config} {s : State R S}

theorem Sound.leave (sound : Sound config s) (session : S) : Sound config (s.setUser session none) where
  authenticated := sound.authenticated
  loggedIn := by
    intro other user found
    rcases update_eq_some_iff.mp found with ⟨-, ⟨⟩⟩ | ⟨-, found⟩
    exact sound.loggedIn other user found
  requests r q found := (sound.requests r q found).frame (fun _ => Iff.rfl) fun _ _ known => known
  rows := sound.rows
  once := sound.once

theorem Sound.setLogin (sound : Sound config s) {login : Login S}
    (authenticated : authenticate config login.directory login.userName login.password = some (some login.user)) :
    Sound config (s.setLogin login) := by
  have kept : ∀ session user, LoggedIn s session user → LoggedIn (s.setLogin login) session user := by
    rintro session user ⟨earlier, member, own, same⟩
    exact ⟨earlier, List.mem_cons_of_mem login member, own, same⟩
  constructor
  · intro other member
    rcases List.mem_cons.mp member with rfl | earlier
    · exact authenticated
    · exact sound.authenticated other earlier
  · intro session user found
    rcases update_eq_some_iff.mp found with ⟨rfl, same⟩ | ⟨-, found⟩
    · exact ⟨login, List.mem_cons_self, rfl, Option.some.inj same⟩
    · exact kept session user (sound.loggedIn session user found)
  · intro r q found
    exact (sound.requests r q found).frame (fun _ => Iff.rfl) kept
  · exact sound.rows
  · exact sound.once

end Sessions

section Reached
variable {R S : Type} [DecidableEq R] {config : Config} {s : State R S} {r : R} {q : Request S}

theorem requests_setRequest (s : State R S) (r : R) (q : Request S) : (s.setRequest r q).requests r = some q :=
  update_eq_some_iff.mpr (.inl ⟨rfl, rfl⟩)

theorem exists_setRequest {other : R} (held : ∃ p, s.requests other = some p) :
    ∃ p, (s.setRequest r q).requests other = some p := by
  obtain ⟨p, held⟩ := held
  by_cases own : other = r
  · exact ⟨q, update_eq_some_iff.mpr (.inl ⟨own, rfl⟩)⟩
  · exact ⟨p, update_eq_some_iff.mpr (.inr ⟨own, held⟩)⟩

theorem Sound.setRequest (sound : Sound config s) (known : q.Sound s r) : Sound config (s.setRequest r q) where
  authenticated := sound.authenticated
  loggedIn := sound.loggedIn
  requests := by
    intro other p found
    rcases update_eq_some_iff.mp found with ⟨rfl, same⟩ | ⟨-, found⟩
    · cases same
      exact known.frame (fun _ => Iff.rfl) fun _ _ known => known
    · exact (sound.requests other p found).frame (fun _ => Iff.rfl) fun _ _ known => known
  rows other row member := exists_setRequest (sound.rows other row member)
  once := sound.once

theorem Sound.saveOperationLog (sound : Sound config s) (found : s.requests r = some q)
    (returned : q.phase = .returned) (opeartor : Option LdapUser) :
    Sound config (s.saveOperationLog r q opeartor) := by
  have known := sound.requests r q found
  have checked : q.phase.checked = true := by rw [returned]; rfl
  have before : q.phase ≠ .logged := by simp [returned]
  cases opeartor with
  | none => exact sound.setRequest (known.proceed checked before (by simp))
  | some opeartor =>
    have noRow : ∀ row, (r, row) ∉ s.log := by
      intro row member
      obtain ⟨opeartor, named, -⟩ := (known.row row).mp member
      exact before (known.logged.mpr ⟨opeartor, named⟩)
    refine ⟨sound.authenticated, sound.loggedIn, ?_, ?_, ?_⟩
    · intro other p found
      rcases update_eq_some_iff.mp found with ⟨rfl, same⟩ | ⟨differ, found⟩
      · cases same
        refine ⟨known.loggedIn, fun _ => known.admin checked, by simp, fun row => ?_⟩
        simp [State.saveOperationLog, State.setRequest, noRow]
      · refine (sound.requests other p found).frame (fun row => ?_) fun _ _ known => known
        simp [State.saveOperationLog, State.setRequest, differ]
    · intro other row member
      rcases List.mem_cons.mp member with same | earlier
      · cases same
        exact ⟨_, requests_setRequest s r _⟩
      · exact exists_setRequest (sound.rows other row earlier)
    · refine List.nodup_cons.mpr ⟨fun member => ?_, sound.once⟩
      obtain ⟨⟨other, row⟩, held, rfl⟩ := List.mem_map.mp member
      exact noRow row held

variable [DecidableEq S] {matcher : PathMatcher}

theorem sound_effect (sound : Sound config s) (a : Action R S) (enabled : guard matcher s a) :
    Sound config (effect config s a) := by
  cases a with
  | login session requestUri userName password directory =>
    simp only [effect]
    split
    · next user accepted => exact sound.setLogin accepted
    · exact sound
  | logout session requestUri => exact sound.leave session
  | expire session => exact sound.leave session
  | arrive r session requestUri method content =>
    obtain ⟨free, -⟩ := enabled
    refine sound.setRequest ⟨by rintro _ ⟨⟩, by rintro ⟨⟩, by simp, fun row => iff_of_false ?_ (by simp)⟩
    intro member
    obtain ⟨q, held⟩ := sound.rows r row member
    rw [free] at held
    cases held
  | validAdminRole r =>
    obtain ⟨q, found, filtered⟩ := InPhase.exists enabled
    simp only [effect, found, Option.elim_some]
    exact sound.setRequest ((sound.requests r q found).validAdminRole (sound.loggedIn q.session) filtered)
  | proceed r returns =>
    obtain ⟨q, found, validated⟩ := InPhase.exists enabled
    simp only [effect, found, Option.elim_some]
    refine sound.setRequest ((sound.requests r q found).proceed (by rw [validated]; rfl) (by simp [validated]) ?_)
    cases returns <;> simp
  | saveOperationLog r inserted =>
    obtain ⟨q, found, returned⟩ := InPhase.exists enabled
    simp only [effect, found, Option.elim_some]
    exact sound.saveOperationLog found returned _

theorem sound_of_reachable (reached : (system R S config matcher).Reachable s) : Sound config s := by
  refine reached.invariant (Sound config) ?_ ?_
  · rintro _ rfl
    exact sound_start
  · intro s a sound enabled
    exact sound_effect sound a enabled

/-- A method that is reserved to administrators runs for a listed name only, which came with the
password that is listed with it, with no password at all, or by way of the directory. -/
theorem admin_of_checked (reached : (system R S config matcher).Reachable s) (found : s.requests r = some q)
    (checked : q.phase.checked = true) (reserved : q.method.operation.isAdmin = true) :
    ∃ user name, q.user = some user ∧ user.userId = some name ∧ name ∈ adminNames config.adminUser ∧
      ∃ login ∈ s.logins, login.session = q.session ∧ login.user = user ∧
        ((login.userName = some name ∧
            ∀ given, login.password = some given → ∃ more, name :: given :: more ∈ userPasses config.adminUser) ∨
          Accepted config login.directory login.userName login.password user) := by
  have sound := sound_of_reachable reached
  have known := sound.requests r q found
  obtain ⟨user, seen, admin⟩ := (Option.any_eq_true _ _).mp (known.admin checked reserved)
  obtain ⟨login, member, own, rfl⟩ := known.loggedIn user seen
  have authenticated := sound.authenticated login member
  obtain ⟨name, listed, same⟩ := (isAdmin_iff_of_authenticate authenticated).mp admin
  refine ⟨login.user, name, seen, same, listed, login, member, own, rfl, ?_⟩
  rcases authenticate_cases authenticated with ⟨configured, given⟩ | accepted
  · obtain ⟨other, -, named, password⟩ := listed_of_isAdminUser configured
    have identified : login.userName = some name := by
      rw [← same, given]
    obtain rfl : other = name := Option.some.inj (named.symm.trans identified)
    exact .inl ⟨identified, password⟩
  · exact .inr accepted

def adminOnly : Config := ⟨some "admin:secret", none, none⟩

def approveTopic : Method where
  className := "com.zto.zms.portal.controller.TopicController"
  methodName := "approveTopic"
  operation := ⟨"审批主题", true⟩
  patterns := [[.literal "api", .literal "topic", .variable, .literal "approve"]]

set_option maxRecDepth 8000 in
theorem admin_of_approval : ∃ s q, (system Unit Unit adminOnly bySegments).Reachable s ∧ s.requests () = some q ∧
    q.phase = .returned ∧ ∃ user name, q.user = some user ∧ user.userId = some name ∧
      name ∈ adminNames (some "admin:secret") ∧
      ∃ login ∈ s.logins, login.session = q.session ∧ login.user = user ∧
        ((login.userName = some name ∧
            ∀ given, login.password = some given → ∃ more, name :: given :: more ∈ userPasses (some "admin:secret")) ∨
          Accepted adminOnly login.directory login.userName login.password user) := by
  have run : ∃ s : State Unit Unit, (system Unit Unit adminOnly bySegments).Reachable s ∧
      (s.requests ()).map (fun q => (q.phase, q.method.operation.isAdmin)) = some (.returned, true) :=
    Guarded.exists_reachable
      [.login () "/api/login" (some "admin") (some "secret") ⟨fun _ _ => none, fun _ => none⟩,
        .arrive () () "/api/topic/7/approve" approveTopic [], .validAdminRole (), .proceed () true]
      rfl (by decide +kernel)
  obtain ⟨s, reached, facts⟩ := run
  obtain ⟨q, found, same⟩ := Option.map_eq_some_iff.mp facts
  have returned : q.phase = .returned := congrArg Prod.fst same
  have reserved : q.method.operation.isAdmin = true := congrArg Prod.snd same
  exact ⟨s, q, reached, found, returned, admin_of_checked reached found (by rw [returned]; rfl) reserved⟩

end Reached

/-! ### Logins without a password -/

section Wordless
variable {R S : Type} [DecidableEq R] [DecidableEq S] {config : Config} {matcher : PathMatcher} {method : Method}

/-- No login has a password, and the directory takes none. -/
def Wordless (_ : State R S) : Action R S → Prop
  | .login _ _ _ password directory =>
      password = none ∧ ∀ filter password, directory.authenticate filter password ≠ some true
  | _ => True

def closed : Directory := ⟨fun _ _ => some false, fun _ => some []⟩

theorem step_wordless {s : State R S} (run : ((system R S config matcher).restrict Wordless).Reachable s)
    (a : Action R S) (enabled : guard matcher s a) (wordless : Wordless s a) :
    ((system R S config matcher).restrict Wordless).Reachable (effect config s a) := .step run ⟨enabled, wordless⟩

theorem exists_returned {s : State R S} (run : ((system R S config matcher).restrict Wordless).Reachable s) {r : R}
    (free : s.requests r = none) {session : S} {user : LdapUser} (current : s.ldapUser session = some user)
    (admin : user.isAdmin = true) (known : method ∈ operations) {requestUri : String}
    (reached : method.reachedBy matcher requestUri = true) (passes : doFilter (some "") requestUri = .chain) :
    ∃ t, ((system R S config matcher).restrict Wordless).Reachable t ∧ ∃ q, t.requests r = some q ∧
      q.method = method ∧ q.phase = .returned ∧ q.user = some user := by
  have passed : doFilter (sessionUser (s.ldapUser session)) requestUri = .chain := by
    rw [current]
    exact passes
  let q : Request S := { session := session, requestUri := requestUri, method := method, content := [] }
  have arrived : ((system R S config matcher).restrict Wordless).Reachable (s.setRequest r q) :=
    step_wordless run (.arrive r session requestUri method []) ⟨free, passed, known, reached⟩ trivial
  have found := requests_setRequest s r q
  have validated : ((system R S config matcher).restrict Wordless).Reachable
      ((s.setRequest r q).setRequest r { q with phase := .validated, user := some user }) := by
    have inPhase : InPhase (s.setRequest r q) r .filtered := congrArg (Option.map Request.phase) found
    have checked : q.validAdminRole (some user) = { q with phase := .validated, user := some user } := by
      simp [Request.validAdminRole, admin]
    have step := step_wordless arrived (.validAdminRole r) inPhase trivial
    simp only [effect, found, Option.elim_some] at step
    rwa [← checked, ← current]
  have found := requests_setRequest (s.setRequest r q) r { q with phase := .validated, user := some user }
  have step := step_wordless validated (.proceed r true) (congrArg (Option.map Request.phase) found) trivial
  simp only [effect, found, Option.elim_some] at step
  exact ⟨_, step, _, requests_setRequest _ r _, rfl, rfl, rfl⟩

/-- Without any password and any directory, reserved methods run for exactly the listed names. -/
theorem wordless_iff (r : R) (session : S) (known : method ∈ operations) (reserved : method.operation.isAdmin = true)
    {requestUri : String} (reached : method.reachedBy matcher requestUri = true)
    (protected_ : doFilter (some "") requestUri = .chain)
    (each : ∀ userPass ∈ userPasses config.adminUser, userPass ≠ []) (name : String) :
    (∃ s, ((system R S config matcher).restrict Wordless).Reachable s ∧ ∃ r q user, s.requests r = some q ∧
      q.method = method ∧ q.phase = .returned ∧ q.user = some user ∧ user.userId = some name) ↔
    name ∈ adminNames config.adminUser := by
  constructor
  · rintro ⟨s, run, r, q, user, found, rfl, returned, seen, same⟩
    have sound := sound_of_reachable run.of_restrict
    have known := sound.requests r q found
    have admin := known.admin (by rw [returned]; rfl) reserved
    obtain ⟨login, member, -, rfl⟩ := known.loggedIn user seen
    rw [seen, Option.any_some] at admin
    obtain ⟨other, listed, also⟩ := (isAdmin_iff_of_authenticate (sound.authenticated login member)).mp admin
    obtain rfl : other = name := Option.some.inj (also.symm.trans same)
    exact listed
  · intro listed
    have admin := isAdminUser_of_listed each listed
    have accepted : authenticate config closed (some name) none =
        some (some { realName := some name, userId := some name, isAdmin := true }) := by
      simp [authenticate, admin]
    have asked : doFilter none "/api/login" = .login := by decide
    have loggedIn : ((system R S config matcher).restrict Wordless).Reachable (effect config start _) :=
      step_wordless (.start rfl) (.login session "/api/login" (some name) none closed) asked ⟨rfl, by simp [closed]⟩
    simp only [effect, accepted] at loggedIn
    obtain ⟨s, run, q, found, own, returned, seen⟩ :=
      exists_returned loggedIn rfl (update_eq_some_iff.mpr (.inl ⟨rfl, rfl⟩)) rfl known reached protected_
    exact ⟨s, run, r, q, _, found, own, returned, seen, rfl⟩

set_option maxRecDepth 8000 in
theorem wordless_approval : ∃ s, ((system Unit Unit adminOnly bySegments).restrict Wordless).Reachable s ∧
    ∃ r q user, s.requests r = some q ∧ q.method = approveTopic ∧ q.phase = .returned ∧ q.user = some user ∧
      user.userId = some "admin" :=
  (wordless_iff () () (by decide) rfl
    (by decide : approveTopic.reachedBy bySegments "/api/topic/7/approve" = true) (by decide) (by decide) "admin").mpr
      (by decide)

end Wordless

/-! ### What the log owes -/

section Logs
variable {R S : Type} {s : State R S} {r : R} {q : Request S}

def Quiet [DecidableEq S] (s : State R S) (session : S) : Prop :=
  ∀ r, (s.requests r).all (fun q => q.session != session || !q.phase.inFlight) = true

/-- A session keeps its user while a request of it is in flight, and the rows of the log are inserted. -/
def Careful [DecidableEq S] (s : State R S) : Action R S → Prop
  | .login session _ _ _ _ => Quiet s session
  | .logout session _ => Quiet s session
  | .expire session => Quiet s session
  | .saveOperationLog _ inserted => inserted = true
  | _ => True

instance [DecidableEq S] [Fintype R] (s : State R S) (session : S) : Decidable (Quiet s session) :=
  inferInstanceAs (Decidable (∀ r, (s.requests r).all (fun q => q.session != session || !q.phase.inFlight) = true))

instance [DecidableEq S] [Fintype R] (s : State R S) (a : Action R S) : Decidable (Careful s a) :=
  Action.casesOn (motive := fun a => Decidable (Careful s a)) a
    (fun session _ _ _ _ => inferInstanceAs (Decidable (Quiet s session)))
    (fun session _ => inferInstanceAs (Decidable (Quiet s session)))
    (fun session => inferInstanceAs (Decidable (Quiet s session)))
    (fun _ _ _ _ _ => inferInstanceAs (Decidable True)) (fun _ => inferInstanceAs (Decidable True))
    (fun _ _ => inferInstanceAs (Decidable True)) (fun _ inserted => inferInstanceAs (Decidable (inserted = true)))

/-- One and the same user at the filter, the check and the log. -/
structure Request.Steady (s : State R S) (q : Request S) : Prop where
  passed : q.phase.inFlight = true → doFilter (sessionUser (s.ldapUser q.session)) q.requestUri = .chain
  seen : q.phase.inFlight = true → q.phase.checked = true → q.user = s.ldapUser q.session
  logged : q.phase = .logged → q.opeartor = q.user
  unlogged : q.phase = .unlogged → q.user = none ∧ doFilter none q.requestUri = .chain

def Steady (s : State R S) : Prop := ∀ r q, s.requests r = some q → q.Steady s

theorem Steady.setUser [DecidableEq S] (steady : Steady s) {session : S} (quiet : Quiet s session)
    (user : Option LdapUser) : Steady (s.setUser session user) := by
  intro r q found
  change s.requests r = some q at found
  obtain ⟨passed, seen, logged, unlogged⟩ := steady r q found
  have settled := quiet r
  rw [found, Option.all_some, Bool.or_eq_true, Bool.not_eq_true'] at settled
  rcases settled with other | done
  · have same : (s.setUser session user).ldapUser q.session = s.ldapUser q.session := by
      change Function.update s.ldapUser session user q.session = _
      rw [Function.update_of_ne (bne_iff_ne.mp other)]
    exact ⟨by rwa [same], by rwa [same], logged, unlogged⟩
  · exact ⟨by simp [done], by simp [done], logged, unlogged⟩

variable [DecidableEq R]

theorem Steady.setRequest (steady : Steady s) (known : q.Steady s) : Steady (s.setRequest r q) := by
  intro other p found
  rcases update_eq_some_iff.mp found with ⟨rfl, same⟩ | ⟨-, found⟩
  · cases same
    exact ⟨known.passed, known.seen, known.logged, known.unlogged⟩
  · have before := steady other p found
    exact ⟨before.passed, before.seen, before.logged, before.unlogged⟩

theorem Steady.saveOperationLog (steady : Steady s) (found : s.requests r = some q) (returned : q.phase = .returned) :
    Steady (s.saveOperationLog r q (s.ldapUser q.session)) := by
  obtain ⟨passed, seen, -, -⟩ := steady r q found
  rw [returned] at passed seen
  have same := seen rfl rfl
  cases current : s.ldapUser q.session with
  | none =>
    refine steady.setRequest ⟨by rintro ⟨⟩, by rintro ⟨⟩, by rintro ⟨⟩, fun _ => ⟨same.trans current, ?_⟩⟩
    have open_ := passed rfl
    rwa [current] at open_
  | some opeartor =>
    have after : Steady (s.setRequest r { q with phase := .logged, opeartor := some opeartor }) :=
      steady.setRequest
        ⟨by rintro ⟨⟩, by rintro ⟨⟩, fun _ => (same.trans current).symm, by rintro ⟨⟩⟩
    intro other p held
    have before := after other p held
    exact ⟨before.passed, before.seen, before.logged, before.unlogged⟩

variable [DecidableEq S] {config : Config} {matcher : PathMatcher}

theorem steady_effect (steady : Steady s) (a : Action R S) (enabled : guard matcher s a) (careful : Careful s a) :
    Steady (effect config s a) := by
  cases a with
  | login session requestUri userName password directory =>
    simp only [effect]
    split
    · next user accepted =>
      intro r q found
      have after := steady.setUser careful (some user) r q found
      exact ⟨after.passed, after.seen, after.logged, after.unlogged⟩
    · exact steady
  | logout session requestUri => exact steady.setUser careful none
  | expire session => exact steady.setUser careful none
  | arrive r session requestUri method content =>
    obtain ⟨-, passed, -⟩ := enabled
    exact steady.setRequest ⟨fun _ => passed, by rintro - ⟨⟩, by rintro ⟨⟩, by rintro ⟨⟩⟩
  | validAdminRole r =>
    obtain ⟨q, found, filtered⟩ := InPhase.exists enabled
    obtain ⟨passed, -, -, -⟩ := steady r q found
    simp only [effect, found, Option.elim_some]
    refine steady.setRequest ?_
    unfold Request.validAdminRole
    split
    · exact ⟨by rintro ⟨⟩, by rintro ⟨⟩, by rintro ⟨⟩, by rintro ⟨⟩⟩
    · exact ⟨fun _ => passed (by rw [filtered]; rfl), fun _ _ => rfl, by rintro ⟨⟩, by rintro ⟨⟩⟩
  | proceed r returns =>
    obtain ⟨q, found, validated⟩ := InPhase.exists enabled
    obtain ⟨passed, seen, -, -⟩ := steady r q found
    rw [validated] at passed seen
    simp only [effect, found, Option.elim_some]
    refine steady.setRequest ?_
    cases returns with
    | true => exact ⟨fun _ => passed rfl, fun _ _ => seen rfl rfl, by rintro ⟨⟩, by rintro ⟨⟩⟩
    | false => exact ⟨by rintro ⟨⟩, by rintro ⟨⟩, by rintro ⟨⟩, by rintro ⟨⟩⟩
  | saveOperationLog r inserted =>
    obtain ⟨q, found, returned⟩ := InPhase.exists enabled
    obtain rfl : inserted = true := careful
    simp only [effect, found, Option.elim_some, if_true]
    exact steady.saveOperationLog found returned

theorem steady_of_reachable (reached : ((system R S config matcher).restrict Careful).Reachable s) : Steady s := by
  refine reached.invariant Steady ?_ ?_
  · rintro _ rfl r q ⟨⟩
  · rintro s a steady ⟨enabled, careful⟩
    exact steady_effect steady a enabled careful

def sendMsg : Method where
  className := "com.zto.zms.portal.controller.TopicController"
  methodName := "sendMsg"
  operation := ⟨"消息发送", false⟩
  patterns := [[.literal "api", .literal "topic", .literal "sendMsg"]]

end Logs

end Zms.Portal.Auth
