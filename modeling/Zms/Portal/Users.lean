import Zms.Text.Replacing
import Zms.Text.Splitting

/-! The users of the portal: the configured administrators, `ZmsConf.isAdminUser`, and the login of
`UserServiceImpl`.

Where a call throws, the outcome is `none`.
-/

set_option autoImplicit false

namespace Zms.Portal.Auth

open Zms.Text

structure LdapUser where
  realName : Option String
  userId : Option String
  email : Option String := none
  mobile : Option String := none
  isAdmin : Bool := false
  deriving DecidableEq, Repr

section Admins

/-- One entry of the configuration against a name and a password. -/
def isNamed (username password : Option String) (userPass : List String) : Option Bool :=
  match password with
  | some password =>
      match userPass with
      | first :: second :: _ => username.map fun username => username == first && password == second
      | _ => some false
  | none => userPass.head?.map fun first => username == some first

def anyNamed (username password : Option String) : List (List String) → Option Bool
  | [] => some false
  | userPass :: rest => do
      if ← isNamed username password userPass then return true
      anyNamed username password rest

/-- The entries of `zms.adminUser`, each a name and a password. -/
def userPasses (adminUser : Option String) : List (List String) :=
  adminUser.elim [] fun adminUser => (split ',' adminUser).map (split ':')

def isAdminUser (adminUser username password : Option String) : Option Bool :=
  anyNamed username password (userPasses adminUser)

def adminNames (adminUser : Option String) : List String := (userPasses adminUser).filterMap List.head?

variable {adminUser username password : Option String} {userPass : List String} {entries : List (List String)}

theorem exists_isNamed_of_anyNamed (found : anyNamed username password entries = some true) :
    ∃ userPass ∈ entries, isNamed username password userPass = some true := by
  induction entries with
  | nil => cases found
  | cons userPass rest ih =>
    cases named : isNamed username password userPass with
    | none => simp [anyNamed, named] at found
    | some answer =>
      cases answer with
      | true => exact ⟨userPass, List.mem_cons_self, named⟩
      | false =>
        simp only [anyNamed, named, Option.bind_eq_bind, Option.bind_some, Bool.false_eq_true, if_false] at found
        obtain ⟨later, member, named⟩ := ih found
        exact ⟨later, List.mem_cons_of_mem userPass member, named⟩

theorem isNamed_of_anyNamed_false (missed : anyNamed username password entries = some false)
    (member : userPass ∈ entries) : isNamed username password userPass = some false := by
  induction entries with
  | nil => cases member
  | cons entry rest ih =>
    cases named : isNamed username password entry with
    | none => simp [anyNamed, named] at missed
    | some answer =>
      cases answer with
      | true => simp [anyNamed, named] at missed
      | false =>
        simp only [anyNamed, named, Option.bind_eq_bind, Option.bind_some, Bool.false_eq_true, if_false] at missed
        rcases List.mem_cons.mp member with rfl | later
        · exact named
        · exact ih missed later

theorem anyNamed_of_named (each : ∀ userPass ∈ entries, userPass ≠ []) (member : userPass ∈ entries)
    (named : isNamed username none userPass = some true) : anyNamed username none entries = some true := by
  induction entries with
  | nil => cases member
  | cons entry rest ih =>
    obtain ⟨first, more, rfl⟩ := List.exists_cons_of_ne_nil (each entry List.mem_cons_self)
    rcases List.mem_cons.mp member with rfl | later
    · simp [anyNamed, named]
    · have further := ih (fun userPass known => each userPass (List.mem_cons_of_mem _ known)) later
      simp [anyNamed, isNamed, further]

theorem isNamed_none_iff (name : String) :
    isNamed (some name) none userPass = some true ↔ userPass.head? = some name := by
  cases userPass with
  | nil => simp [isNamed]
  | cons first more => simpa [isNamed] using eq_comm

theorem isNamed_some_iff (given : String) : isNamed username (some given) userPass = some true ↔
    ∃ name more, username = some name ∧ userPass = name :: given :: more := by
  rcases userPass with _ | ⟨first, _ | ⟨second, more⟩⟩
  · simp [isNamed]
  · simp [isNamed]
  · cases username with
    | none => simp [isNamed]
    | some name =>
      simp only [isNamed, Option.map_some, Option.some.injEq, Bool.and_eq_true, beq_iff_eq, List.cons.injEq]
      constructor
      · rintro ⟨rfl, rfl⟩
        exact ⟨name, more, rfl, rfl, rfl, rfl⟩
      · rintro ⟨_, _, rfl, rfl, rfl, -⟩
        exact ⟨rfl, rfl⟩

/-- With a password, a name and that password stand in one entry; without one, the name is enough. -/
theorem listed_of_isAdminUser (admin : isAdminUser adminUser username password = some true) :
    ∃ name ∈ adminNames adminUser, username = some name ∧
      ∀ given, password = some given → ∃ more, name :: given :: more ∈ userPasses adminUser := by
  obtain ⟨userPass, member, named⟩ := exists_isNamed_of_anyNamed admin
  cases password with
  | none =>
    cases username with
    | none => simp [isNamed] at named
    | some name =>
      rw [isNamed_none_iff] at named
      exact ⟨name, List.mem_filterMap.mpr ⟨userPass, member, named⟩, rfl, by rintro _ ⟨⟩⟩
  | some given =>
    obtain ⟨name, more, rfl, rfl⟩ := (isNamed_some_iff given).mp named
    refine ⟨name, List.mem_filterMap.mpr ⟨_, member, rfl⟩, rfl, ?_⟩
    rintro _ ⟨⟩
    exact ⟨more, member⟩

theorem notMem_of_isAdminUser_false (missed : isAdminUser adminUser username none = some false) {name : String}
    (listed : name ∈ adminNames adminUser) : username ≠ some name := by
  rintro rfl
  obtain ⟨userPass, member, first⟩ := List.mem_filterMap.mp listed
  have named := (isNamed_none_iff name).mpr first
  rw [isNamed_of_anyNamed_false missed member] at named
  cases named

theorem isAdminUser_of_listed (each : ∀ userPass ∈ userPasses adminUser, userPass ≠ []) {name : String}
    (listed : name ∈ adminNames adminUser) : isAdminUser adminUser (some name) none = some true := by
  obtain ⟨userPass, member, first⟩ := List.mem_filterMap.mp listed
  exact anyNamed_of_named each member ((isNamed_none_iff name).mpr first)

end Admins

section Login

structure Config where
  adminUser : Option String
  url : Option String
  searchFilter : Option String

structure Attributes where
  realName : Option String
  userId : Option String
  email : Option String
  mobile : Option String

/-- What the directory answers to one request. -/
structure Directory where
  authenticate : (filter : String) → (password : Option String) → Option Bool
  search : (filter : String) → Option (List Attributes)

def userMapper (config : Config) (attrs : Attributes) : Option LdapUser := do
  let isAdmin ← isAdminUser config.adminUser attrs.userId none
  return ⟨attrs.realName, attrs.userId, attrs.email, attrs.mobile, isAdmin⟩

def searchFilter (config : Config) (username : Option String) : Option String := do
  let filter ← config.searchFilter
  let username ← username
  return replace "\x7buser\x7d" username filter

def listUser (config : Config) (directory : Directory) (username : Option String) : Option (List LdapUser) := do
  let filter ← searchFilter config username
  let entries ← directory.search filter
  entries.mapM (userMapper config)

def findByUserId (config : Config) (directory : Directory) (username : Option String) : Option (Option LdapUser) := do
  let users ← listUser config directory username
  return users.head?

def isNotEmpty (text : Option String) : Bool := text.any fun text => text != ""

def authenticate (config : Config) (directory : Directory) (username password : Option String) :
    Option (Option LdapUser) := do
  if ← isAdminUser config.adminUser username password then
    return some { realName := username, userId := username, isAdmin := true }
  if isNotEmpty config.url then
    let filter ← searchFilter config username
    if ← directory.authenticate filter password then findByUserId config directory username
    else return none
  else return none

/-- The directory took name and password, and lists the user first. -/
def Accepted (config : Config) (directory : Directory) (username password : Option String) (user : LdapUser) : Prop :=
  ∃ filter, searchFilter config username = some filter ∧ directory.authenticate filter password = some true ∧
    findByUserId config directory username = some (some user)

variable {config : Config} {directory : Directory} {username password : Option String} {user : LdapUser}

theorem authenticate_cases (accepted : authenticate config directory username password = some (some user)) :
    (isAdminUser config.adminUser username password = some true ∧
      user = { realName := username, userId := username, isAdmin := true }) ∨
    Accepted config directory username password user := by
  unfold authenticate at accepted
  obtain ⟨admin, asked, accepted⟩ := Option.bind_eq_some_iff.mp accepted
  cases admin with
  | true =>
    rw [if_pos rfl] at accepted
    cases accepted
    exact .inl ⟨asked, rfl⟩
  | false =>
    rw [if_neg Bool.false_ne_true] at accepted
    split at accepted
    · obtain ⟨filter, spelled, accepted⟩ := Option.bind_eq_some_iff.mp accepted
      obtain ⟨taken, answered, accepted⟩ := Option.bind_eq_some_iff.mp accepted
      cases taken with
      | true => exact .inr ⟨filter, spelled, answered, accepted⟩
      | false => cases accepted
    · cases accepted

theorem isAdminUser_of_found (found : findByUserId config directory username = some (some user)) :
    isAdminUser config.adminUser user.userId none = some user.isAdmin := by
  obtain ⟨users, listed, first⟩ := Option.bind_eq_some_iff.mp found
  obtain ⟨filter, -, listed⟩ := Option.bind_eq_some_iff.mp listed
  obtain ⟨entries, -, mapped⟩ := Option.bind_eq_some_iff.mp listed
  cases entries with
  | nil =>
    cases mapped
    cases first
  | cons attrs rest =>
    obtain ⟨head, made, mapped⟩ := Option.bind_eq_some_iff.mp (by rwa [List.mapM_cons] at mapped)
    obtain ⟨more, -, mapped⟩ := Option.bind_eq_some_iff.mp mapped
    cases mapped
    cases first
    obtain ⟨admin, asked, made⟩ := Option.bind_eq_some_iff.mp made
    cases made
    exact asked

theorem isAdmin_iff_of_authenticate (accepted : authenticate config directory username password = some (some user)) :
    user.isAdmin = true ↔ ∃ name ∈ adminNames config.adminUser, user.userId = some name := by
  rcases authenticate_cases accepted with ⟨admin, rfl⟩ | ⟨filter, -, -, found⟩
  · obtain ⟨name, listed, same, -⟩ := listed_of_isAdminUser admin
    exact ⟨fun _ => ⟨name, listed, same⟩, fun _ => rfl⟩
  · have asked := isAdminUser_of_found found
    constructor
    · intro admin
      rw [admin] at asked
      obtain ⟨name, listed, same, -⟩ := listed_of_isAdminUser asked
      exact ⟨name, listed, same⟩
    · rintro ⟨name, listed, same⟩
      by_contra notAdmin
      rw [Bool.eq_false_of_not_eq_true notAdmin] at asked
      exact notMem_of_isAdminUser_false asked listed same

end Login

end Zms.Portal.Auth
