import Zms.Portal.Endpoints
import Zms.Text.PropertiesWeight
import Zms.Text.Regex

/-! `AuthFilter.doFilter`, which decides on the spelling of the request URI, beside the path
that the request is then dispatched on.
-/

set_option autoImplicit false

namespace Zms.Portal.Auth

open Zms.Text
open Zms.Text.Properties (bytesOfChar bytesOfChar_ascii)

/-- What `.` does not match. -/
def isLineTerminator (c : Char) : Bool :=
  c == '\n' || c == '\r' || c.toNat == 0x85 || c.toNat == 0x2028 || c.toNat == 0x2029

def dot : Regex Char := .one fun c => !isLineTerminator c

def text (chars : String) : Regex Char := .literal chars.toList

/-- One of the texts, in the order of the alternatives. -/
def oneOf : List (Regex Char) → Regex Char
  | [] => .fails
  | regex :: rest => .either regex (oneOf rest)

-- `matches` takes the whole URI, so that the anchors hold wherever they stand

def STATIC_RESOURCE_REGEX : Regex Char :=
  .either
    (.append (.many dot) (.append (text ".") (oneOf [text "js", text "png", text "css", text "woff2", text "ttf"])))
    (.append (.many dot) (.append (text "/favicon") (.append dot (text "ico"))))

def ALERT_RESOURCE_REGEX : Regex Char := text "/api/alert/getEffectAlertRulesByEnv"

def AGENT_RESOURCE_REGEX : Regex Char :=
  .either (.append (text "/api/process/") (.append dot (.many dot))) (text "/api/master/addHost")

def BACKUP_CLUSTER_REGEX : Regex Char := .either (text "/api/topic/backupMetadata") (text "/api/consumer/backupMetadata")

def isStaticResource (uri : String) : Bool := uri != "" && STATIC_RESOURCE_REGEX.matchesAll uri.toList

def isAlertResource (uri : String) : Bool := uri != "" && ALERT_RESOURCE_REGEX.matchesAll uri.toList

def isAgentResource (uri : String) : Bool := uri != "" && AGENT_RESOURCE_REGEX.matchesAll uri.toList

def isBackupClusterResource (uri : String) : Bool := uri != "" && BACKUP_CLUSTER_REGEX.matchesAll uri.toList

def startsWith (uri start : String) : Bool := start.toList.isPrefixOf uri.toList

inductive Outcome where
  /-- Passed down the chain. -/
  | chain
  | logout
  | login
  | unauthorized
  deriving DecidableEq, Repr

/-- `ldapUser` is the attribute of the session. -/
def doFilter (ldapUser : Option String) (requestUri : String) : Outcome :=
  if isStaticResource requestUri then .chain
  else if isAlertResource requestUri then .chain
  else if isAgentResource requestUri then .chain
  else if isBackupClusterResource requestUri then .chain
  else if requestUri != "" && startsWith requestUri "/api/package/script/download" then .chain
  else if requestUri != "" && startsWith requestUri "/api/logout" then .logout
  else if requestUri != "" && startsWith requestUri "/api/login" then .login
  else if ldapUser.isNone then .unauthorized
  else .chain

/-- Which patterns take a path. -/
abbrev PathMatcher := Pattern → List Char → Bool

/-- Without a user, no method is reached that the filter does not mean to leave open. -/
def Protects (matcher : PathMatcher) (requestUri : String) : Prop :=
  doFilter none requestUri = .chain → ∀ path, lookupPath requestUri = some path →
    ∀ mapping ∈ mappings, matcher mapping path = true → mapping ∈ opened

section Paths

theorem removePathParameters_append {first : List Char} (plain : ∀ c ∈ first, c ≠ ';') (rest : List Char) :
    removePathParameters false (first ++ rest) = first ++ removePathParameters false rest := by
  induction first with
  | nil => rfl
  | cons c more ih =>
    have notParameter := plain c List.mem_cons_self
    have tail := ih fun d member => plain d (List.mem_cons_of_mem c member)
    simp only [List.cons_append, removePathParameters, tail]
    split
    · rfl
    · simp [notParameter]

theorem percentDecode_cons {c : Char} (plain : c ≠ '%') (rest : List Char) :
    percentDecode (c :: rest) = (percentDecode rest).map fun path => bytesOfChar c ++ path := by
  rw [percentDecode.eq_def]
  split
  · next impossible => cases impossible
  · next same =>
    obtain ⟨rfl, -⟩ := List.cons.inj same
    exact absurd rfl plain
  · next d more _ same =>
    obtain ⟨rfl, rfl⟩ := List.cons.inj same
    simp only [plain, if_false]
    cases percentDecode rest <;> rfl

/-- Letters that stand for themselves in a URI and in UTF-8. -/
def Plain (letters : List Char) : Prop := ∀ c ∈ letters, c ≠ ';' ∧ c ≠ '%' ∧ c.toNat < 128

instance (letters : List Char) : Decidable (Plain letters) := List.decidableBAll _ _

theorem percentDecode_append {first : List Char} (plain : Plain first) (rest : List Char) :
    percentDecode (first ++ rest) = (percentDecode rest).map fun path => first ++ path := by
  induction first with
  | nil =>
    rw [List.nil_append]
    cases percentDecode rest <;> rfl
  | cons c more ih =>
    obtain ⟨-, noEscape, ascii⟩ := plain c List.mem_cons_self
    rw [List.cons_append, percentDecode_cons noEscape, ih fun d member => plain d (List.mem_cons_of_mem c member),
      bytesOfChar_ascii ascii]
    cases percentDecode rest <;> rfl

/-- The path keeps what stands before the first parameter and the first escape. -/
theorem lookupPath_append {requestUri : String} {first rest path : List Char} (spelled : requestUri.toList = first ++ rest)
    (plain : Plain first) (looked : lookupPath requestUri = some path) : ∃ after, path = first ++ after ∧
      percentDecode (removePathParameters false rest) = some after := by
  unfold lookupPath at looked
  rw [spelled, removePathParameters_append fun c member => (plain c member).1, percentDecode_append plain] at looked
  obtain ⟨after, decoded, rfl⟩ := Option.map_eq_some_iff.mp looked
  exact ⟨after, rfl, decoded⟩

end Paths

section Branches
variable {requestUri : String} {path : List Char} {mapping : Pattern}

def Pattern.based (pattern : Pattern) : Bool :=
  match pattern with
  | .literal _ :: .literal _ :: _ => true
  | _ => false

set_option maxRecDepth 8000 in
theorem based_of_mem (known : mapping ∈ mappings) : Pattern.based mapping = true := by
  have all : ∀ mapping ∈ mappings, Pattern.based mapping = true := by decide
  exact all mapping known

/-- The first two parts of a path decide on the controller. -/
theorem take_of_fits {first second : String} {more : List (List Char)} (known : mapping ∈ mappings)
    (fitted : fits mapping (first.toList :: second.toList :: more) = true) :
    mapping.take 2 = [.literal first, .literal second] := by
  have based := based_of_mem known
  unfold Pattern.based at based
  split at based
  · next a b rest =>
    simp only [fits, Bool.and_eq_true, beq_iff_eq, String.toList_inj] at fitted
    simp only [List.take_succ_cons, List.take_zero, ← fitted.1, ← fitted.2.1]
  · cases based

set_option maxRecDepth 8000 in
theorem opened_of_process (known : mapping ∈ mappings) (rest : List Char)
    (fitted : fits mapping (segments ("/api/process/".toList ++ rest)) = true) : mapping ∈ opened := by
  have all : ∀ mapping ∈ mappings, mapping.take 2 = [.literal "api", .literal "process"] → mapping ∈ opened := by decide
  exact all mapping known (take_of_fits known fitted)

set_option maxRecDepth 8000 in
theorem opened_of_download (known : mapping ∈ mappings) (rest : List Char)
    (fitted : fits mapping (segments ("/api/package/script/download".toList ++ rest)) = true) : mapping ∈ opened := by
  have all : ∀ mapping ∈ mappings, mapping.take 2 = [.literal "api", .literal "package"] → mapping ∈ opened := by decide
  have under : "/api/package/script/download".toList ++ rest = "/api/package/".toList ++ ("script/download".toList ++ rest) :=
    rfl
  rw [under] at fitted
  exact all mapping known (take_of_fits known fitted)

def openPaths : List String :=
  ["/api/alert/getEffectAlertRulesByEnv", "/api/master/addHost", "/api/topic/backupMetadata",
   "/api/consumer/backupMetadata"]

theorem lookupPath_plain {spelled : String} (plain : Plain spelled.toList) (same : requestUri.toList = spelled.toList)
    (looked : lookupPath requestUri = some path) : path = spelled.toList := by
  have whole : requestUri.toList = spelled.toList ++ [] := by rw [same, List.append_nil]
  obtain ⟨after, rfl, decoded⟩ := lookupPath_append whole plain looked
  cases decoded
  exact List.append_nil _

set_option maxRecDepth 8000 in
theorem opened_of_openPaths (spelled : String) (listed : spelled ∈ openPaths) (same : requestUri.toList = spelled.toList)
    (looked : lookupPath requestUri = some path) (known : mapping ∈ mappings)
    (fitted : fits mapping (segments path) = true) : mapping ∈ opened := by
  have plain : ∀ spelled ∈ openPaths, Plain spelled.toList := by decide
  have all : ∀ spelled ∈ openPaths, ∀ mapping ∈ mappings, fits mapping (segments spelled.toList) = true →
      mapping ∈ opened := by decide
  rw [lookupPath_plain (plain spelled listed) same looked] at fitted
  exact all spelled listed mapping known fitted

theorem opened_of_agent (agent : isAgentResource requestUri = true) (looked : lookupPath requestUri = some path)
    (known : mapping ∈ mappings) (fitted : fits mapping (segments path) = true) : mapping ∈ opened := by
  simp only [isAgentResource, AGENT_RESOURCE_REGEX, Bool.and_eq_true, Regex.matchesAll_iff, Regex.either_matches_iff,
    Regex.append_matches_iff, text, Regex.literal_matches_iff] at agent
  obtain ⟨before, rest, spelled, rfl, -⟩ | spelled := agent.2
  · have plain : Plain "/api/process/".toList := by decide
    obtain ⟨after, rfl, -⟩ := lookupPath_append spelled plain looked
    exact opened_of_process known after fitted
  · exact opened_of_openPaths "/api/master/addHost" (by decide) spelled looked known fitted

theorem opened_of_startsWith (starts : startsWith requestUri "/api/package/script/download" = true)
    (looked : lookupPath requestUri = some path) (known : mapping ∈ mappings)
    (fitted : fits mapping (segments path) = true) : mapping ∈ opened := by
  have plain : Plain "/api/package/script/download".toList := by decide
  obtain ⟨rest, spelled⟩ := List.isPrefixOf_iff_prefix.mp starts
  obtain ⟨after, rfl, -⟩ := lookupPath_append spelled.symm plain looked
  exact opened_of_download known after fitted

end Branches

/-- The filter protects the portal except where it takes the URI of a protected method for that of a
static file. -/
theorem protects_iff (matcher : PathMatcher)
    (documented : ∀ pattern path, matcher pattern path = true → fits pattern (segments path) = true)
    (requestUri : String) : Protects matcher requestUri ↔ (isStaticResource requestUri = true →
      ∀ path, lookupPath requestUri = some path → ∀ mapping ∈ mappings, mapping ∉ opened →
        matcher mapping path = false) := by
  constructor
  · intro protects isStatic path looked mapping known protected_
    by_contra reached
    have passed : doFilter none requestUri = .chain := if_pos isStatic
    exact protected_ (protects passed path looked mapping known (Bool.eq_true_of_not_eq_false reached))
  · intro noFile passed path looked mapping known reached
    have fitted := documented mapping path reached
    unfold doFilter at passed
    split at passed
    · next isStatic =>
      by_contra protected_
      have refused := noFile isStatic path looked mapping known protected_
      rw [reached] at refused
      cases refused
    split at passed
    · next alert =>
      simp only [isAlertResource, ALERT_RESOURCE_REGEX, text, Bool.and_eq_true, Regex.matchesAll_iff,
        Regex.literal_matches_iff] at alert
      exact opened_of_openPaths _ (by decide) alert.2 looked known fitted
    split at passed
    · next agent => exact opened_of_agent agent looked known fitted
    split at passed
    · next backup =>
      simp only [isBackupClusterResource, BACKUP_CLUSTER_REGEX, text, Bool.and_eq_true, Regex.matchesAll_iff,
        Regex.either_matches_iff, Regex.literal_matches_iff] at backup
      obtain topic | consumer := backup.2
      · exact opened_of_openPaths _ (by decide) topic looked known fitted
      · exact opened_of_openPaths _ (by decide) consumer looked known fitted
    split at passed
    · next download =>
      rw [Bool.and_eq_true] at download
      exact opened_of_startsWith download.2 looked known fitted
    -- what is left is answered by the filter
    split at passed
    · cases passed
    split at passed
    · cases passed
    split at passed
    · cases passed
    · next user => exact absurd rfl user

/-- A matcher that goes by the segments alone. -/
def bySegments : PathMatcher := fun pattern path => fits pattern (segments path)

theorem protects_delete : Protects bySegments "/api/topic/1/delete" :=
  (protects_iff bySegments (fun _ _ fitted => fitted) "/api/topic/1/delete").mpr fun isStatic => by
    have notStatic : isStaticResource "/api/topic/1/delete" = false := by decide
    rw [notStatic] at isStatic
    cases isStatic

set_option maxRecDepth 8000 in
/-- A path parameter makes the deletion of a topic look like a script. -/
theorem not_protects : ¬ ∀ requestUri : String, Protects bySegments requestUri := by
  intro always
  have passed : doFilter none "/api/topic/1/delete;x.js" = .chain := by decide
  have looked : lookupPath "/api/topic/1/delete;x.js" = some "/api/topic/1/delete".toList := by decide
  have leftOpen := always "/api/topic/1/delete;x.js" passed _ looked
    [.literal "api", .literal "topic", .variable, .literal "delete"] (by decide) (by decide)
  revert leftOpen
  decide

end Zms.Portal.Auth
