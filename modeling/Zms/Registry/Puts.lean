import Mathlib

/-! Maps as lists of entries: a put takes the old entry of its key away and adds the new one. -/

set_option autoImplicit false

namespace Zms.Registry.Puts

variable {K V : Type} [DecidableEq K]

def get (entries : List (K × V)) (key : K) : Option V := (entries.find? fun entry => entry.1 = key).map Prod.snd

def put (entries : List (K × V)) (key : K) (value : V) : List (K × V) :=
  entries.filter (fun entry => entry.1 ≠ key) ++ [(key, value)]

def remove (entries : List (K × V)) (keys : List K) : List (K × V) := entries.filter fun entry => entry.1 ∉ keys

variable {entries : List (K × V)} {key other : K} {value : V} {keys : List K}

theorem get_append (entries more : List (K × V)) (key : K) :
    get (entries ++ more) key = (get entries key).or (get more key) := by
  simp only [get, List.find?_append]
  cases entries.find? fun entry => entry.1 = key <;> rfl

theorem get_filter_other (other : K) (differs : key ≠ other) :
    get (entries.filter fun entry => entry.1 ≠ other) key = get entries key := by
  simp only [get, List.find?_filter]
  congr 2
  funext entry
  by_cases own : entry.1 = key
  · simp [own, differs]
  · simp [own]

@[simp] theorem get_put_self (entries : List (K × V)) (key : K) (value : V) :
    get (put entries key value) key = some value := by
  have absent : get (entries.filter fun entry => entry.1 ≠ key) key = none := by
    simp [get]
  rw [put, get_append, absent]
  simp [get]

theorem get_put_of_ne (differs : key ≠ other) : get (put entries other value) key = get entries key := by
  rw [put, get_append, get_filter_other other differs]
  simp [get, differs.symm]

theorem put_of_absent (absent : key ∉ entries.map Prod.fst) : put entries key value = entries ++ [(key, value)] := by
  rw [put, List.filter_eq_self.mpr]
  intro entry member
  rw [decide_eq_true_iff]
  rintro rfl
  exact absent (List.mem_map_of_mem member)

theorem remove_put_of_mem (member : key ∈ keys) : remove (put entries key value) keys = remove entries keys := by
  simp only [remove, put, List.filter_append, List.filter_filter]
  have last : [(key, value)].filter (fun entry => entry.1 ∉ keys) = [] := by simp [member]
  rw [last, List.append_nil]
  apply List.filter_congr
  intro entry _
  by_cases own : entry.1 = key
  · simp [own, member]
  · simp [own]

theorem remove_put_of_notMem (member : key ∉ keys) :
    remove (put entries key value) keys = put (remove entries keys) key value := by
  simp only [remove, put, List.filter_append, List.filter_filter]
  congr 1
  · apply List.filter_congr
    intro entry _
    rw [Bool.and_comm]
  · simp [member]

end Zms.Registry.Puts
