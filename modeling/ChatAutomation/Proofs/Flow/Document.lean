import ChatAutomation.Proofs.Flow.RoundTrip
import Mathlib.Data.List.Forall2

/-!
# Documents keep their graph

Nodes and edges are written back with the entries that they were read from, whatever those hold:
`Node.alike_document` and `Edge.alike_document`. An edge may give its handle under two keys, and the
document only knows the editor's one. `Flow.graph_kept` puts this together for the document of a flow,
which is also read as the same flow again, `Flow.ofDocument_document`.
-/
namespace ChatAutomation

/-! ## Objects with the same entries -/

namespace Entries
variable {α : Type}

theorem get?_filter_not_mem (es : Entries α) (own : List String) (k : String) :
    get? (es.filter fun x => !own.contains x.1) k = if k ∈ own then none else es.get? k := by
  induction es with
  | nil => simp
  | cons x es ih =>
    obtain ⟨k', v⟩ := x
    by_cases hown : k' ∈ own
    · rw [List.filter_cons_of_neg (by simpa using hown), ih, get?_cons]
      split <;> grind
    · rw [List.filter_cons_of_pos (by simpa using hown), get?_cons, ih, get?_cons]
      split <;> grind

/-- The same values under the same keys, and no key repeated that was not. -/
structure Alike (es fs : Entries α) : Prop where
  get?_eq : ∀ k, fs.get? k = es.get? k
  nodup : es.keys.Nodup → fs.keys.Nodup

/-- Entries whose own ones are written first, and the others behind them. -/
theorem alike_append_filter {es parts : Entries α} {own : List String}
    (hparts : ∀ k ∈ own, parts.get? k = es.get? k) (hown : parts.keys ⊆ own)
    (hnodup : parts.keys.Nodup) :
    Alike es (parts ++ es.filter fun x => !own.contains x.1) := by
  constructor
  · intro k
    rw [get?_append, get?_filter_not_mem]
    by_cases hk : k ∈ own
    · rw [if_pos hk, hparts k hk, Option.or_none]
    · rw [if_neg hk, get?_eq_none_iff.2 (fun h => hk (hown h)), Option.none_or]
  · intro hes
    have hrest : (keys (es.filter fun x => !own.contains x.1)).Nodup :=
      hes.sublist (List.filter_sublist.map _)
    rw [keys, List.map_append]
    refine List.nodup_append.2 ⟨hnodup, hrest, ?_⟩
    rintro k hk _ hother rfl
    obtain ⟨x, hx, rfl⟩ := List.mem_map.1 hother
    have hnot : x.1 ∉ own := by simpa using (List.mem_filter.1 hx).2
    exact hnot (hown hk)

end Entries

/-- Lists of objects with the same entries, object by object. -/
def Value.SameObjects (v w : Value) : Prop :=
  ∃ ess fss, v = .list (ess.map .object) ∧ w = .list (fss.map .object) ∧
    List.Forall₂ Entries.Alike ess fss

/-! ## Reading what can be written -/

namespace Schema
variable {α : Type}

theorem object_eq_ok_iff {v : Value} {es : Entries Value} :
    object v = .ok es ↔ v = .object es := by
  cases v <;> simp [object, Checked.issue]

/-- What is read from null or a value of a kind is written as it was. -/
theorem eq_elim_of_nullable {read : Value → Checked α} {write : α → Value}
    (hread : ∀ v a, read v = .ok a → v = write a) {v : Value} {o : Option α}
    (h : nullable read v = .ok o) : v = o.elim .null write := by
  cases v with
  | null =>
    obtain rfl : none = o := by simpa [nullable] using h
    rfl
  | _ =>
    obtain ⟨a, ha, rfl⟩ := Checked.map_eq_ok_iff.1 h
    exact hread _ a ha

theorem optional_eq_ok_cases {es : Entries Value} {k : String} {read : Value → Checked α}
    {default a : α} (h : optional es k read default = .ok a) :
    (es.get? k = none ∧ a = default) ∨ ∃ v, es.get? k = some v ∧ read v = .ok a := by
  unfold optional at h
  cases hget : es.get? k with
  | none => exact .inl ⟨rfl, by simpa [hget] using h.symm⟩
  | some v => exact .inr ⟨v, rfl, by simpa [hget] using h⟩

theorem forall₂_of_eachFrom {read : Value → Checked α} {vs : List Value} {as : List α} {n : Nat}
    (h : eachFrom read n vs = .ok as) : List.Forall₂ (fun v a => read v = .ok a) vs as := by
  induction vs generalizing n as with
  | nil =>
    obtain rfl : [] = as := by simpa [eachFrom] using h
    exact .nil
  | cons v vs ih =>
    obtain ⟨g, bs, hg, hbs, rfl⟩ := Checked.seq_eq_ok_iff.1 h
    obtain ⟨b, hb, rfl⟩ := Checked.map_eq_ok_iff.1 hg
    exact .cons (Checked.under_eq_ok_iff.1 hb) (ih hbs)

/-- A list that was read holds an object for each thing that came of it. -/
theorem forall₂_of_listOf_model {name : String} {read : Entries Value → Checked α} {v : Value}
    {as : List α} (h : listOf (model name read) v = .ok as) :
    ∃ ess, v = .list (ess.map .object) ∧ List.Forall₂ (fun es a => read es = .ok a) ess as := by
  cases v with
  | list vs =>
    have hall := forall₂_of_eachFrom h
    clear h
    induction hall with
    | nil => exact ⟨[], rfl, .nil⟩
    | @cons v a vs as hv _ ih =>
      obtain ⟨ess, hvs, hess⟩ := ih
      cases v with
      | object es => exact ⟨es :: ess, by simp_all, .cons hv hess⟩
      | _ => simp [model, Checked.issue] at hv
  | _ => simp [listOf, Checked.issue] at h

end Schema

namespace Node

theorem get?_of_remembered_some {α : Type} {read : Value → Checked α} {write : α → Value}
    (hread : ∀ v a, read v = .ok a → v = write a) {es : Entries Value} {k : String}
    {given : Option α} (h : remembered es k read = .ok given) :
    es.get? k = given.map write := by
  rcases Schema.optional_eq_ok_cases h with ⟨hnone, rfl⟩ | ⟨v, hv, hgiven⟩
  · exact hnone
  · obtain ⟨a, ha, rfl⟩ := Checked.map_eq_ok_iff.1 hgiven
    rw [hv, hread v a ha]
    rfl

theorem object_of_nullable {v : Value} {p : Option (Entries Value)}
    (h : Schema.nullable Schema.object v = .ok p) : v = nullableObject p := by
  obtain rfl := Schema.eq_elim_of_nullable (fun _ _ => Schema.object_eq_ok_iff.1) h
  cases p <;> rfl

/-- A node's document has the entries that the node was read from. -/
theorem alike_document {es : Entries Value} {n : Node} (h : ofEntries es = .ok n) :
    Entries.Alike es n.document := by
  obtain ⟨hid, hkind, hdata, hposition, hextra⟩ := ofEntries_eq_ok_iff.1 h
  obtain ⟨_, hid, hidText⟩ := Schema.required_eq_ok_iff.1 hid
  obtain ⟨_, hkind, hkindText⟩ := Schema.required_eq_ok_iff.1 hkind
  obtain rfl := Schema.text_eq_ok_iff.1 hidText
  obtain rfl := Schema.text_eq_ok_iff.1 hkindText
  have hdata := get?_of_remembered_some (fun _ _ => Schema.object_eq_ok_iff.1) hdata
  have hposition := get?_of_remembered_some (fun _ _ => object_of_nullable) hposition
  rw [document, hextra]
  refine Entries.alike_append_filter ?_ ?_ ?_
  · intro k hk
    simp only [ownKeys, List.mem_cons, List.not_mem_nil, or_false] at hk
    rcases hk with rfl | rfl | rfl | rfl <;>
      simp [Entries.get?_append, Entries.get?_cons, Entries.get?_toList_map, *]
  · cases n.givenData <;> cases n.givenPosition <;> simp [ownKeys]
  · cases n.givenData <;> cases n.givenPosition <;> simp

end Node

namespace Edge

/-- The handle is given under the editor's key, or not at all; beside it the other key is one of the
extra ones. -/
def UsesEditorKey (es : Entries Value) : Prop := es.has handleField = true → es.has handleKey = true

theorem text_of_nullable {v : Value} {s : Option String}
    (h : Schema.nullable Schema.text v = .ok s) : v = nullableText s := by
  obtain rfl := Schema.eq_elim_of_nullable (fun _ _ => Schema.text_eq_ok_iff.1) h
  cases s <;> rfl

theorem givenKey_cases {es : Entries Value} (hkey : UsesEditorKey es) :
    givenKey es = handleKey ∨
      givenKey es = handleField ∧ handleKey ∉ es.keys ∧ handleField ∉ es.keys := by
  by_cases hhas : es.has handleKey = true
  · exact .inl (if_pos hhas)
  · refine .inr ⟨if_neg hhas, fun h => hhas (Entries.has_iff.2 h), fun h => hhas ?_⟩
    exact hkey (Entries.has_iff.2 h)

theorem get?_handleKey {es : Entries Value} {given : Option (Option String)}
    (hkey : UsesEditorKey es)
    (h : Node.remembered es (givenKey es) (Schema.nullable Schema.text) = .ok given) :
    es.get? handleKey = given.map nullableText := by
  have hget := Node.get?_of_remembered_some (fun _ _ => text_of_nullable) h
  rcases givenKey_cases hkey with hgiven | ⟨hgiven, hnoKey, hnoField⟩
  · rw [← hget, hgiven]
  · rw [← hget, hgiven, Entries.get?_eq_none_iff.2 hnoKey, Entries.get?_eq_none_iff.2 hnoField]

theorem filter_own {es : Entries Value} (hkey : UsesEditorKey es) :
    es.filter (fun x => !(ownKeys (givenKey es)).contains x.1) =
      es.filter fun x => !(ownKeys handleKey).contains x.1 := by
  rcases givenKey_cases hkey with hgiven | ⟨hgiven, hnoKey, hnoField⟩
  · rw [hgiven]
  · rw [hgiven]
    refine List.filter_congr fun x hx => ?_
    have hx : x.1 ∈ es.keys := List.mem_map_of_mem hx
    have hne : x.1 ≠ handleKey ∧ x.1 ≠ handleField :=
      ⟨fun h => hnoKey (h ▸ hx), fun h => hnoField (h ▸ hx)⟩
    simp [ownKeys, hne]

/-- An edge's document has the entries that the edge was read from, if the handle is given under the
editor's key. -/
theorem alike_document {es : Entries Value} {e : Edge} (hkey : UsesEditorKey es)
    (h : ofEntries es = .ok e) : Entries.Alike es e.document := by
  obtain ⟨hid, hsource, htarget, hhandle, hlabel, hextra⟩ := ofEntries_eq_ok_iff.1 h
  obtain ⟨_, hid, hidText⟩ := Schema.required_eq_ok_iff.1 hid
  obtain ⟨_, hsource, hsourceText⟩ := Schema.required_eq_ok_iff.1 hsource
  obtain ⟨_, htarget, htargetText⟩ := Schema.required_eq_ok_iff.1 htarget
  obtain rfl := Schema.text_eq_ok_iff.1 hidText
  obtain rfl := Schema.text_eq_ok_iff.1 hsourceText
  obtain rfl := Schema.text_eq_ok_iff.1 htargetText
  have hhandle := get?_handleKey hkey hhandle
  have hlabel := Node.get?_of_remembered_some (fun _ _ => text_of_nullable) hlabel
  rw [handleKey] at hhandle
  rw [document, hextra, filter_own hkey]
  refine Entries.alike_append_filter ?_ ?_ ?_
  · intro k hk
    simp only [ownKeys, List.mem_cons, List.not_mem_nil, or_false] at hk
    rcases hk with rfl | rfl | rfl | rfl | rfl <;>
      simp [Entries.get?_append, Entries.get?_cons, Entries.get?_toList_map, handleKey, *]
  · cases e.givenHandle <;> cases e.givenLabel <;> simp [ownKeys]
  · cases e.givenHandle <;> cases e.givenLabel <;> simp [handleKey]

end Edge

/-! ## Flows -/

theorem Document.plainFields_ofEntries (es : Entries Value) :
    (Document.ofEntries es).plainFields = es := by
  induction es with
  | nil => rfl
  | cons x es ih =>
    obtain ⟨k, v⟩ := x
    have hcons : (Document.ofEntries ((k, v) :: es)).plainFields =
        (k, v) :: (Document.ofEntries es).plainFields := rfl
    rw [hcons, ih]

/-- A list that may be left out is written back with the objects that it was read from. -/
theorem Value.sameObjects_of_optional {α : Type} {name : String} {read : Entries Value → Checked α}
    {write : α → Entries Value} {es : Entries Value} {k : String} {as : List α}
    (h : Schema.optional es k (Schema.listOf (Schema.model name read)) [] = .ok as)
    (hwrite : ∀ vs, es.get? k = some (.list vs) → ∀ fs a, .object fs ∈ vs → read fs = .ok a →
      Entries.Alike fs (write a)) :
    ((es.get? k).getD (.list [])).SameObjects (.list (as.map fun a => .object (write a))) := by
  rcases Schema.optional_eq_ok_cases h with ⟨hnone, rfl⟩ | ⟨v, hv, hread⟩
  · exact ⟨[], [], by rw [hnone]; rfl, rfl, .nil⟩
  · obtain ⟨ess, rfl, hall⟩ := Schema.forall₂_of_listOf_model hread
    have hess : ∀ fs ∈ ess, ∀ a, read fs = .ok a → Entries.Alike fs (write a) := fun fs hfs a =>
      hwrite _ hv fs a (List.mem_map_of_mem hfs)
    refine ⟨ess, as.map write, by rw [hv]; rfl, by rw [List.map_map]; rfl, ?_⟩
    refine List.forall₂_map_right_iff.2 ?_
    exact ((List.forall₂_and_left _ _).2 ⟨hess, hall⟩).imp fun fs a h => h.1 a h.2

namespace Flow

theorem proper_of_ofDocument {now : Timestamp} {d : Document} {f : Flow}
    (h : ofDocument now d = .ok f) : f.Proper := by
  obtain ⟨-, -, -, hnodes, hedges, -⟩ := ofDocument_eq_ok_iff.1 h
  constructor
  · intro n hn
    rcases Schema.optional_eq_ok_cases hnodes with ⟨-, hnil⟩ | ⟨v, -, hread⟩
    · simp [hnil] at hn
    · obtain ⟨w, hw⟩ := Schema.exists_of_mem_listOf hread hn
      exact Node.proper_of_read hw
  · intro e he
    rcases Schema.optional_eq_ok_cases hedges with ⟨-, hnil⟩ | ⟨v, -, hread⟩
    · simp [hnil] at he
    · obtain ⟨w, hw⟩ := Schema.exists_of_mem_listOf hread he
      exact Edge.proper_of_read hw

/-- A flow's document is read as that flow, at any time. -/
theorem ofDocument_document {f : Flow} (hf : f.Proper) (now : Timestamp) :
    ofDocument now f.document = .ok f := by
  refine ofDocument_of_written hf rfl ?_ rfl rfl
  intro k v hk
  rw [changes_eq] at hk
  simp only [document, Entries.get?_cons, Entries.get?_nil] at hk ⊢
  grind

/-- The document of a flow that was read has the nodes and the edges of the one that it was read from,
entry by entry, if the edges give their handles under the editor's key; and it is read as a flow with
the same document. -/
theorem graph_kept {now : Timestamp} {es : Entries Value} {f : Flow}
    (h : read now (.object es) = .ok f)
    (hkeys : ∀ vs, es.get? "edges" = some (.list vs) →
      ∀ fs, .object fs ∈ vs → Edge.UsesEditorKey fs) :
    f.document.get? "nodes" = some (.plain f.nodeDocuments) ∧
      ((es.get? "nodes").getD (.list [])).SameObjects f.nodeDocuments ∧
      f.document.get? "edges" = some (.plain f.edgeDocuments) ∧
      ((es.get? "edges").getD (.list [])).SameObjects f.edgeDocuments ∧
      ∀ later, ∃ g, ofDocument later f.document = .ok g ∧ g.document = f.document := by
  have hread : ofDocument now (Document.ofEntries es) = .ok f := h
  have hproper := proper_of_ofDocument hread
  obtain ⟨-, -, -, hnodes, hedges, -⟩ := ofDocument_eq_ok_iff.1 hread
  rw [Document.plainFields_ofEntries] at hnodes hedges
  refine ⟨rfl, ?_, rfl, ?_, fun later => ⟨f, ofDocument_document hproper later, rfl⟩⟩
  · exact Value.sameObjects_of_optional hnodes fun _ _ _ _ _ => Node.alike_document
  · exact Value.sameObjects_of_optional hedges fun vs hvs fs _ hfs =>
      Edge.alike_document (hkeys vs hvs fs hfs)

/-- A flow as an editor sends it: with keys of its own, a null, and data in data. -/
def sent : Entries Value :=
  [("id", .text "f1"),
    ("nodes", .list
      [.object [("position", .null), ("id", .text "t"), ("type", .text "trigger")],
        .object [("selected", .bool true), ("id", .text "s"), ("type", .text "send_text"),
          ("data", .object [("text", .text "Oi"), ("style", .object [("tags", .list [.null])])])]]),
    ("edges", .list
      [.object [("sourceHandle", .null), ("id", .text "e"), ("source", .text "t"),
        ("target", .text "s"), ("animated", .bool true)]])]

theorem graph_kept_sent :
    ∃ f, read ⟨0, none⟩ (.object sent) = .ok f ∧
      (∀ vs, Entries.get? sent "edges" = some (.list vs) →
        ∀ fs, .object fs ∈ vs → Edge.UsesEditorKey fs) ∧
      ((Entries.get? sent "nodes").getD (.list [])).SameObjects f.nodeDocuments ∧
      ((Entries.get? sent "edges").getD (.list [])).SameObjects f.edgeDocuments := by
  have hread : ∃ f, read ⟨0, none⟩ (.object sent) = .ok f := ⟨_, rfl⟩
  obtain ⟨f, hf⟩ := hread
  have hkeys : ∀ vs, Entries.get? sent "edges" = some (.list vs) →
      ∀ fs, .object fs ∈ vs → Edge.UsesEditorKey fs := by
    intro vs hvs fs hfs
    obtain rfl := Value.list.inj (Option.some.inj hvs)
    obtain rfl := Value.object.inj (List.mem_singleton.1 hfs)
    exact fun _ => rfl
  have hkept := graph_kept hf hkeys
  exact ⟨f, hf, hkeys, hkept.2.1, hkept.2.2.2.1⟩

end Flow
end ChatAutomation
