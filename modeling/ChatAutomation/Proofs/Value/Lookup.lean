import ChatAutomation.Value.Lookup
import Mathlib.Data.List.Basic

/-!
# What stands under a key

Values that come from outside are looked into one level after the other. `at?` and `listed` say what is
found, `listsObjects` and `holdsObject` what form it has to have for the look into it not to fail.
-/
namespace ChatAutomation

namespace Value

/-- What stands under a key, if the value is an object. -/
def at? (k : String) : Value → Option Value
  | object es => Entries.get? es k
  | _ => none

/-- The items of the list under a key. -/
def listed (k : String) (v : Value) : List Value :=
  match v.at? k with
  | some (list vs) => vs
  | _ => []

def isObject : Value → Bool
  | object _ => true
  | _ => false

/-- Is what stands under a key, if anything, a list of objects? -/
def listsObjects (k : String) (v : Value) : Bool :=
  match v.at? k with
  | none => true
  | some (list vs) => vs.all isObject
  | some _ => false

/-- Is what is given under a key, if anything, an object? -/
def holdsObject (k : String) (v : Value) : Bool :=
  match v.at? k with
  | none => true
  | some x => !x.isGiven || x.isObject

variable {v : Value} {k : String}

theorem entry_eq (h : v.isObject = true) (default : Value) :
    v.entry k default = .ok ((v.at? k).getD default) := by
  cases v with
  | object es => rfl
  | _ => cases h

theorem entry_eq_error (h : v.isObject = false) (default : Value) : ∃ e, v.entry k default = .error e := by
  cases v with
  | object es => cases h
  | _ => exact ⟨_, rfl⟩

theorem isObject_of_mem_listed (h : v.listsObjects k = true) {u : Value} (hu : u ∈ v.listed k) :
    u.isObject = true := by
  unfold listed at hu
  unfold listsObjects at h
  split at hu
  · rename_i vs hat
    rw [hat] at h
    exact List.all_eq_true.1 h u hu
  · cases hu

theorem items_eq (hv : v.isObject = true) (h : v.listsObjects k = true) :
    v.entry k (.list []) >>= items = .ok (v.listed k) := by
  rw [entry_eq hv, listed]
  unfold listsObjects at h
  split at h
  · rename_i hat
    rw [hat]
    rfl
  · rename_i vs hat
    rw [hat]
    rfl
  · cases h

theorem at?_eq_none_of_not_given (h : v.isGiven = false) (k : String) : v.at? k = none := by
  cases v with
  | object es =>
    obtain rfl : es = [] := List.isEmpty_iff.1 (by simpa [isGiven] using h)
    rfl
  | _ => rfl

/-- An entry of an entry can be read unless what holds either of them is something else than an object; the
inner one may be missing, or not given. -/
theorem inner_entry_cases (v : Value) (k j : String) (default : Value) :
    (v.isObject && v.holdsObject k) = true ∧
        (v.inner k >>= fun u => u.entry j default) = .ok (((v.at? k).bind (at? j)).getD default) ∨
      (v.isObject && v.holdsObject k) = false ∧
        ∃ e, (v.inner k >>= fun u => u.entry j default) = .error e := by
  cases hv : v.isObject with
  | false =>
    obtain ⟨e, hentry⟩ := entry_eq_error (k := k) hv .null
    exact .inr ⟨rfl, e, by rw [inner, hentry]; rfl⟩
  | true =>
    rw [inner, entry_eq hv, holdsObject]
    cases hat : v.at? k with
    | none => exact .inl ⟨rfl, rfl⟩
    | some x =>
      cases hgiven : x.isGiven with
      | false =>
        refine .inl ⟨by simp [hgiven], ?_⟩
        simp [Except.map, orEmpty, hgiven, at?_eq_none_of_not_given hgiven, bind, Except.bind, entry]
      | true =>
        have hinner : (Except.ok ((some x).getD .null)).map orEmpty = (.ok x : Except Fault Value) := by
          simp [Except.map, orEmpty, hgiven]
        rw [hinner]
        cases hx : x.isObject with
        | false => exact .inr ⟨by simp [hgiven, hx], entry_eq_error hx default⟩
        | true => exact .inl ⟨by simp [hgiven, hx], entry_eq hx default⟩

end Value
end ChatAutomation
