/-!
# Ordered entries

Keyed entries in insertion order. Writing an existing key keeps its place, a new key goes to the
end.
-/
namespace ChatAutomation

abbrev Entries (α : Type) := List (String × α)

namespace Entries
variable {α : Type}

def get? (es : Entries α) (k : String) : Option α := List.lookup k es

def has (es : Entries α) (k : String) : Bool := (es.get? k).isSome

/-- Writes one entry. -/
def put (k : String) (v : α) : Entries α → Entries α
  | [] => [(k, v)]
  | (k', v') :: es => if k' = k then (k, v) :: es else (k', v') :: put k v es

/-- Writes the entries one after the other. -/
def putAll (es new : Entries α) : Entries α := new.foldl (fun acc e => acc.put e.1 e.2) es

/-- Entries from a list in which a key may be repeated: the last value wins. -/
def ofList (es : List (String × α)) : Entries α := putAll [] es

def without (es : Entries α) (k : String) : Entries α := es.filter fun e => e.1 != k

def mapValues {β : Type} (f : α → β) (es : Entries α) : Entries β := es.map fun e => (e.1, f e.2)

@[simp] theorem get?_nil (k : String) : get? ([] : Entries α) k = none := rfl

theorem get?_cons (k k' : String) (v : α) (es : Entries α) :
    get? ((k', v) :: es) k = if k = k' then some v else get? es k := by
  by_cases h : k = k'
  · simp [get?, h]
  · simp [get?, List.lookup_cons, h, beq_eq_false_iff_ne.2 h]

@[simp] theorem get?_put_self (es : Entries α) (k : String) (v : α) :
    (es.put k v).get? k = some v := by
  induction es with
  | nil => simp [put, get?_cons]
  | cons e es ih =>
    obtain ⟨k', v'⟩ := e
    by_cases h : k' = k
    · simp [put, h, get?_cons]
    · simp [put, h, get?_cons, Ne.symm h, ih]

theorem get?_put_ne (es : Entries α) {k k' : String} (v : α) (h : k' ≠ k) :
    (es.put k v).get? k' = es.get? k' := by
  induction es with
  | nil => simp [put, get?_cons, h]
  | cons e es ih =>
    obtain ⟨k₀, v₀⟩ := e
    by_cases h₀ : k₀ = k
    · subst h₀; simp [put, get?_cons, h]
    · simp [put, h₀, get?_cons, ih]

theorem get?_put (es : Entries α) (k k' : String) (v : α) :
    (es.put k v).get? k' = if k' = k then some v else es.get? k' := by
  by_cases h : k' = k
  · subst h; simp
  · simp [get?_put_ne, h]

def keys (es : Entries α) : List String := es.map Prod.fst

theorem has_iff {es : Entries α} {k : String} : es.has k = true ↔ k ∈ es.keys := by
  induction es with
  | nil => simp [has, keys]
  | cons e es ih =>
    obtain ⟨k', v⟩ := e
    by_cases h : k = k'
    · simp [has, keys, get?_cons, h]
    · simpa [has, keys, get?_cons, h] using ih

/-- A new key goes to the end, an existing one stays where it is. -/
theorem keys_put (es : Entries α) (k : String) (v : α) :
    (es.put k v).keys = if k ∈ es.keys then es.keys else es.keys ++ [k] := by
  induction es with
  | nil => simp [put, keys]
  | cons e es ih =>
    obtain ⟨k', v'⟩ := e
    by_cases h : k' = k
    · subst h; simp [put, keys]
    · have hput : keys (put k v ((k', v') :: es)) = k' :: keys (put k v es) := by simp [put, keys, h]
      have hcons : keys ((k', v') :: es) = k' :: keys es := rfl
      rw [hput, hcons, ih]
      by_cases hk : k ∈ keys es <;> simp [hk, Ne.symm h]

theorem nodup_keys_put {es : Entries α} (h : es.keys.Nodup) (k : String) (v : α) :
    (es.put k v).keys.Nodup := by
  rw [keys_put]
  split
  · exact h
  · rename_i hk
    exact List.nodup_append.2 ⟨h, by simp, by
      intro a ha b hb
      rw [List.mem_singleton.1 hb]
      exact fun he => hk (he ▸ ha)⟩

@[simp] theorem keys_nil : keys ([] : Entries α) = [] := rfl

@[simp] theorem keys_cons (k : String) (v : α) (es : Entries α) :
    keys ((k, v) :: es) = k :: es.keys := rfl

theorem get?_eq_none_iff {es : Entries α} {k : String} : es.get? k = none ↔ k ∉ es.keys := by
  rw [← has_iff, has, Bool.not_eq_true, Option.isSome_eq_false_iff, Option.isNone_iff_eq_none]

theorem get?_append (es new : Entries α) (k : String) :
    get? (es ++ new) k = (es.get? k).or (new.get? k) := List.lookup_append

/-- Of entries that have each key once, a key that is written takes its new value. -/
theorem get?_putAll {new : Entries α} (h : new.keys.Nodup) (es : Entries α) (k : String) :
    (es.putAll new).get? k = (new.get? k).or (es.get? k) := by
  induction new generalizing es with
  | nil => rfl
  | cons e new ih =>
    obtain ⟨k', v⟩ := e
    rw [keys_cons, List.nodup_cons] at h
    have hstep : es.putAll ((k', v) :: new) = (es.put k' v).putAll new := rfl
    rw [hstep, ih h.2, get?_put, get?_cons]
    by_cases hk : k = k'
    · subst hk
      rw [get?_eq_none_iff.2 h.1, if_pos rfl, if_pos rfl]
      rfl
    · rw [if_neg hk, if_neg hk]

theorem get?_putAll_map (f : String → α) (ks : List String) (es : Entries α) (k : String) :
    (es.putAll (ks.map fun k => (k, f k))).get? k = if k ∈ ks then some (f k) else es.get? k := by
  induction ks generalizing es with
  | nil => rfl
  | cons k' ks ih =>
    have hstep : es.putAll ((k' :: ks).map fun k => (k, f k)) =
        (es.put k' (f k')).putAll (ks.map fun k => (k, f k)) := rfl
    rw [hstep, ih, get?_put]
    by_cases hk : k = k' <;> simp [hk]

end Entries
end ChatAutomation
