import Mathlib
import Zms.Portal.Resources

/-! What the requests of a call change: the rules for relations between the nodes,
or the databases, before and after.
-/

set_option autoImplicit false

namespace Zms.Portal.Resources

open Zms.Transition Zms.Transition.Throwing

/-- A relation between the nodes before and after; the clusters stay as they are. -/
def OnNodes (N : Nodes → Nodes → Prop) (s t : State) : Prop := N s.nodes t.nodes ∧ t.clusters = s.clusters

/-- A relation between the databases before and after. -/
def OnDb (D : Database → Database → Prop) (s t : State) : Prop := D s.db t.db

theorem put_self (nodes : Nodes) (env : EnvId) (type : ZmsType) (name : String) (data : Option Properties) :
    nodes.put env type name data env type name = data := by
  simp only [Nodes.put, Function.update_self]

theorem put_of_ne (nodes : Nodes) {env env' : EnvId} {type type' : ZmsType} {name name' : String}
    (data : Option Properties) (other : ¬(env' = env ∧ type' = type ∧ name' = name)) :
    nodes.put env type name data env' type' name' = nodes env' type' name' := by
  unfold Nodes.put
  by_cases sameEnv : env' = env
  · subst sameEnv
    rw [Function.update_self]
    by_cases sameType : type' = type
    · subst sameType
      rw [Function.update_self]
      apply Function.update_of_ne
      intro sameName
      exact other ⟨rfl, rfl, sameName⟩
    · rw [Function.update_of_ne sameType]
  · rw [Function.update_of_ne sameEnv]

theorem onNodes_transactional {N : Nodes → Nodes → Prop} {α : Type} {body : Call α}
    (respects : Respects (OnNodes N) body) : Respects (OnNodes N) (transactional body) := by
  constructor
  intro s
  have kept := respects.related s
  unfold transactional transaction
  cases result : body s with
  | mk answer t =>
      rw [result] at kept
      cases answer <;> exact kept

section Nodes
variable {N : Nodes → Nodes → Prop} [IsPreorder Nodes N]

instance : IsPreorder State (OnNodes N) where
  refl s := ⟨refl_of N s.nodes, rfl⟩
  trans _ _ _ first second := ⟨trans_of N first.1 second.1, second.2.trans first.2⟩

theorem onNodes_request : Respects (OnNodes N) request := ⟨fun s => ⟨refl_of N s.nodes, rfl⟩⟩

theorem onNodes_query {α : Type} (select : Database → α) : Respects (OnNodes N) (query select) :=
  onNodes_request.bind fun _ => respects_get.bind fun _ => respects_pure _

theorem onNodes_execute (statement : Database → Option Database) : Respects (OnNodes N) (execute statement) :=
  onNodes_request.bind fun _ => respects_get.bind fun _ => (respects_ofOption _).bind fun _ =>
    ⟨fun s => ⟨refl_of N s.nodes, rfl⟩⟩

theorem onNodes_readInfo (env : EnvId) (type : ZmsType) (name : String) :
    Respects (OnNodes N) (readInfo env type name) :=
  onNodes_request.bind fun _ => respects_get.bind fun _ => respects_ofOption _

theorem onNodes_checkPath (env : EnvId) (type : ZmsType) (name : String) :
    Respects (OnNodes N) (checkPath env type name) :=
  onNodes_request.bind fun _ => respects_get.bind fun _ => respects_pure _

theorem onNodes_writeInfo {env : EnvId} {type : ZmsType} {name : String} {data : Option Properties}
    (writes : ∀ properties, data = some properties → ∀ nodes, N nodes (nodes.put env type name (some properties))) :
    Respects (OnNodes N) (writeInfo env type name data) :=
  respects_ofOption_bind fun properties built => onNodes_request.bind fun _ =>
    ⟨fun s => ⟨writes properties built s.nodes, rfl⟩⟩

theorem onNodes_deleteInfo {env : EnvId} {type : ZmsType} {name : String}
    (deletes : ∀ nodes, N nodes (nodes.put env type name none)) : Respects (OnNodes N) (deleteInfo env type name) :=
  onNodes_request.bind fun _ => ⟨fun s => ⟨deletes s.nodes, rfl⟩⟩

end Nodes

section Db
variable {D : Database → Database → Prop} [IsPreorder Database D]

instance : IsPreorder State (OnDb D) where
  refl s := refl_of D s.db
  trans _ _ _ first second := trans_of D first second

theorem onDb_request : Respects (OnDb D) request := ⟨fun s => refl_of D s.db⟩

theorem onDb_query {α : Type} (select : Database → α) : Respects (OnDb D) (query select) :=
  onDb_request.bind fun _ => respects_get.bind fun _ => respects_pure _

theorem onDb_readInfo (env : EnvId) (type : ZmsType) (name : String) : Respects (OnDb D) (readInfo env type name) :=
  onDb_request.bind fun _ => respects_get.bind fun _ => respects_ofOption _

theorem onDb_checkPath (env : EnvId) (type : ZmsType) (name : String) : Respects (OnDb D) (checkPath env type name) :=
  onDb_request.bind fun _ => respects_get.bind fun _ => respects_pure _

theorem onDb_writeInfo (env : EnvId) (type : ZmsType) (name : String) (data : Option Properties) :
    Respects (OnDb D) (writeInfo env type name data) :=
  (respects_ofOption _).bind fun _ => onDb_request.bind fun _ => ⟨fun s => refl_of D s.db⟩

theorem onDb_deleteInfo (env : EnvId) (type : ZmsType) (name : String) : Respects (OnDb D) (deleteInfo env type name) :=
  onDb_request.bind fun _ => ⟨fun s => refl_of D s.db⟩

theorem ends_execute (statement : Database → Option Database) (s : State) :
    Ends (execute statement) s fun _ t => t.db = s.db ∨ statement s.db = some t.db := by
  apply Ends.bind (P := fun _ t => t.db = s.db) ⟨rfl⟩
  · intro t same
    exact .inl same
  · intro _ t same
    apply ends_get_bind
    apply ends_ofOption_bind
    · intro _
      exact .inl same
    · intro db changed
      exact ⟨.inr (same ▸ changed)⟩

theorem onDb_execute {statement : Database → Option Database} (changes : ∀ db db', statement db = some db' → D db db') :
    Respects (OnDb D) (execute statement) := by
  constructor
  intro s
  obtain same | changed := (ends_execute statement s).holds
  · unfold OnDb
    rw [same]
    exact refl_of D s.db
  · exact changes _ _ changed

theorem onDb_transactional {α : Type} {body : Call α} (respects : Respects (OnDb D) body) :
    Respects (OnDb D) (transactional body) := by
  constructor
  intro s
  have kept := respects.related s
  unfold transactional transaction
  cases result : body s with
  | mk answer t =>
      rw [result] at kept
      cases answer with
      | none => exact refl_of D s.db
      | some a => exact kept

end Db

theorem ends_transactional {α : Type} {body : Call α} {s : State} {post : State → Prop}
    (ends : Ends body s fun _ t => post t) (unchanged : ∀ t : State, t.db = s.db → post t) :
    Ends (transactional body) s fun _ t => post t := by
  have holds := ends.holds
  constructor
  unfold transactional transaction
  cases result : body s with
  | mk answer t =>
      rw [result] at holds
      cases answer with
      | none => exact unchanged _ rfl
      | some a => exact holds

theorem ends_query_bind {α β : Type} {select : Database → α} {next : α → Call β} {s : State}
    {post : Option β → State → Prop} (fails : ∀ t : State, t.db = s.db → post none t)
    (returns : ∀ t : State, t.db = s.db → Ends (next (select s.db)) t post) : Ends (query select >>= next) s post := by
  apply Ends.bind (P := fun a t => t.db = s.db ∧ ∀ value, a = some value → value = select s.db)
  · apply Ends.bind (P := fun _ t => t.db = s.db) ⟨rfl⟩
    · intro t same
      refine ⟨same, fun value impossible => ?_⟩
      cases impossible
    · intro _ t same
      apply ends_get_bind
      apply ends_pure
      refine ⟨same, fun value is => ?_⟩
      rw [← Option.some.inj is, same]
  · intro t unchanged
    exact fails t unchanged.1
  · intro value t selected
    rw [selected.2 value rfl]
    exact returns t selected.1

theorem ends_readInfo_bind {β : Type} {env : EnvId} {type : ZmsType} {name : String}
    {next : ConsumerGroupMetadata → Call β} {s : State} {post : Option β → State → Prop}
    (fails : ∀ answers, post none { s with answers := answers })
    (returns : ∀ answers metadata, readZkInfo (s.clusters env) type name (s.nodes env type name) = some metadata →
      Ends (next metadata) { s with answers := answers } post) : Ends (readInfo env type name >>= next) s post := by
  apply Ends.bind (P := fun a t => (∃ answers, t = { s with answers := answers }) ∧
    ∀ metadata, a = some metadata → readZkInfo (s.clusters env) type name (s.nodes env type name) = some metadata)
  · apply Ends.bind (P := fun _ t => ∃ answers, t = { s with answers := answers }) ⟨⟨_, rfl⟩⟩
    · intro t changed
      refine ⟨changed, fun metadata impossible => ?_⟩
      cases impossible
    · intro _ t changed
      obtain ⟨answers, rfl⟩ := changed
      exact ⟨⟨_, rfl⟩, fun metadata read => read⟩
  · intro t changed
    obtain ⟨⟨answers, rfl⟩, -⟩ := changed
    exact fails answers
  · intro metadata t read
    obtain ⟨⟨answers, rfl⟩, read⟩ := read
    exact returns answers metadata (read metadata rfl)

theorem ends_query_bind_frame {α β : Type} {select : Database → α} {next : α → Call β} {s : State}
    {post : Option β → State → Prop} (fails : ∀ answers, post none { s with answers := answers })
    (returns : ∀ answers, Ends (next (select s.db)) { s with answers := answers } post) :
    Ends (query select >>= next) s post := by
  apply Ends.bind (P := fun a t => (∃ answers, t = { s with answers := answers }) ∧
    ∀ value, a = some value → value = select s.db)
  · apply Ends.bind (P := fun _ t => ∃ answers, t = { s with answers := answers }) ⟨⟨_, rfl⟩⟩
    · intro t changed
      refine ⟨changed, fun value impossible => ?_⟩
      cases impossible
    · intro _ t changed
      obtain ⟨answers, rfl⟩ := changed
      exact ⟨⟨_, rfl⟩, fun value is => (Option.some.inj is).symm⟩
  · intro t changed
    obtain ⟨⟨answers, rfl⟩, -⟩ := changed
    exact fails answers
  · intro value t selected
    obtain ⟨⟨answers, rfl⟩, is⟩ := selected
    rw [is value rfl]
    exact returns answers

theorem ends_writeInfo (env : EnvId) (type : ZmsType) (name : String) (data : Properties) (s : State) :
    Ends (writeInfo env type name (some data)) s fun _ t =>
      t.clusters = s.clusters ∧ (t.nodes = s.nodes ∨ t.nodes = s.nodes.put env type name (some data)) := by
  apply ends_ofOption_bind
  · intro impossible
    cases impossible
  · intro value is
    obtain rfl := Option.some.inj is
    apply Ends.bind (P := fun _ t => t.clusters = s.clusters ∧ t.nodes = s.nodes) ⟨rfl, rfl⟩
    · intro t same
      exact ⟨same.1, .inl same.2⟩
    · intro _ t same
      refine ⟨same.1, .inr ?_⟩
      rw [← same.2]
      rfl

def Answering (s : State) : Prop := ∀ n, s.answers n = true

section Answering
variable {s : State} (answering : Answering s)
include answering

theorem request_of_answering : request s = (some (), s) := by
  have same : (fun n => s.answers (n + 1)) = s.answers := by
    funext n
    rw [answering n, answering (n + 1)]
  unfold request
  rw [answering 0, same]
  rfl

theorem query_of_answering {α : Type} (select : Database → α) : query select s = (some (select s.db), s) :=
  bind_of_returns (request_of_answering answering)

theorem execute_of_answering (statement : Database → Database) :
    execute (fun db => some (statement db)) s = (some (), { s with db := statement s.db }) :=
  bind_of_returns (request_of_answering answering)

theorem readInfo_of_answering (env : EnvId) (type : ZmsType) (name : String) :
    readInfo env type name s = (readZkInfo (s.clusters env) type name (s.nodes env type name), s) :=
  bind_of_returns (request_of_answering answering)

theorem writeInfo_of_answering (env : EnvId) (type : ZmsType) (name : String) (data : Properties) :
    writeInfo env type name (some data) s = (some (), { s with nodes := s.nodes.put env type name (some data) }) :=
  bind_of_returns (request_of_answering answering)

end Answering

/-- A part of the database that stays as it is. -/
def Leaves {α : Type} (part : Database → α) (db db' : Database) : Prop := part db' = part db

instance {α : Type} (part : Database → α) : IsPreorder Database (Leaves part) where
  refl _ := rfl
  trans _ _ _ first second := second.trans first

end Zms.Portal.Resources
