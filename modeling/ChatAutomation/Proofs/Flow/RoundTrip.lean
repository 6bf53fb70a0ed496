import ChatAutomation.Automation

/-!
# Nodes, edges and flows read back

A node or an edge that was read holds none of its own keys among the extra ones. Its document
therefore reads back as the same node or edge: `Node.read_document` and `Edge.read_document`. So does
a document that holds what a flow of such nodes and edges writes, `Flow.ofDocument_of_written`.
-/
namespace ChatAutomation

/-- Reading a part that was written, or left out, remembers just that. -/
theorem Node.remembered_of_get? {α : Type} {read : Value → Checked α} (write : α → Value)
    {es : Entries Value} {k : String} {given : Option α} (hread : ∀ a, read (write a) = .ok a)
    (hget : es.get? k = given.map write) : Node.remembered es k read = .ok given := by
  unfold Node.remembered Schema.optional
  cases given with
  | none =>
    simp only [Option.map_none] at hget
    simp only [hget]
  | some a =>
    simp only [Option.map_some] at hget
    simp only [hget, hread, Checked.map, Checked.under]

/-- Only what is left out is remembered as such. -/
theorem Node.get?_of_remembered {α : Type} {read : Value → Checked α} {es : Entries Value}
    {k : String} (h : Node.remembered es k read = .ok none) : es.get? k = none := by
  unfold Node.remembered Schema.optional at h
  cases hget : es.get? k with
  | none => rfl
  | some v =>
    simp only [hget, Checked.under_eq_ok_iff] at h
    cases hread : read v <;> simp [hread, Checked.map] at h

/-- Looking into an entry that may be left out. -/
theorem Entries.get?_toList_map {α β : Type} (write : α → β) (given : Option α) (k k' : String) :
    Entries.get? (given.map fun a => (k', write a)).toList k =
      if k = k' then given.map write else none := by
  cases given with
  | none => simp
  | some a => simp [Entries.get?_cons]

theorem Entries.filter_toList_map {α β : Type} {own : List String} {k : String} (h : k ∈ own)
    (write : α → β) (given : Option α) :
    (given.map fun a => (k, write a)).toList.filter (fun x => !own.contains x.1) = [] := by
  cases given with
  | none => rfl
  | some a => simp [h]

theorem Entries.filter_eq_self_of_not_mem {α : Type} {es : Entries α} {own : List String}
    (h : ∀ x ∈ es, x.1 ∉ own) : es.filter (fun x => !own.contains x.1) = es :=
  List.filter_eq_self.2 fun x hx => by simpa using h x hx

theorem Entries.get?_of_forall_ne {α : Type} {es : Entries α} {k : String}
    (h : ∀ x ∈ es, x.1 ≠ k) : es.get? k = none := by
  rw [Entries.get?_eq_none_iff, Entries.keys, List.mem_map]
  rintro ⟨x, hx, hk⟩
  exact h x hx hk

namespace Node

/-- None of the extra entries has one of a node's own keys. -/
def Proper (n : Node) : Prop := ∀ x ∈ n.extra, x.1 ∉ ownKeys

theorem ofEntries_eq_ok_iff {es : Entries Value} {n : Node} :
    ofEntries es = .ok n ↔
      Schema.required es "id" Schema.text = .ok n.id ∧
      Schema.required es "type" Schema.text = .ok n.kindName ∧
      remembered es "data" Schema.object = .ok n.givenData ∧
      remembered es "position" (Schema.nullable Schema.object) = .ok n.givenPosition ∧
      n.extra = es.filter fun x => !ownKeys.contains x.1 := by
  constructor
  · intro h
    obtain ⟨_, extra, h₄, hextra, rfl⟩ := Checked.seq_eq_ok_iff.1 h
    obtain ⟨_, position, h₃, hposition, rfl⟩ := Checked.seq_eq_ok_iff.1 h₄
    obtain ⟨_, data, h₂, hdata, rfl⟩ := Checked.seq_eq_ok_iff.1 h₃
    obtain ⟨_, kind, h₁, hkind, rfl⟩ := Checked.seq_eq_ok_iff.1 h₂
    obtain ⟨id, hid, rfl⟩ := Checked.map_eq_ok_iff.1 h₁
    cases hextra
    exact ⟨hid, hkind, hdata, hposition, rfl⟩
  · obtain ⟨id, kind, data, position, extra⟩ := n
    rintro ⟨hid, hkind, hdata, hposition, rfl⟩
    rw [ofEntries, hid, hkind, hdata, hposition]
    rfl

theorem proper_of_ofEntries {es : Entries Value} {n : Node} (h : ofEntries es = .ok n) :
    n.Proper := by
  obtain ⟨-, -, -, -, hextra⟩ := ofEntries_eq_ok_iff.1 h
  intro x hx
  rw [hextra] at hx
  simpa using (List.mem_filter.1 hx).2

theorem proper_of_read {v : Value} {n : Node} (h : read v = .ok n) : n.Proper := by
  cases v with
  | object es => exact proper_of_ofEntries h
  | _ => simp [read, Schema.model, Checked.issue] at h

theorem ofEntries_document {n : Node} (h : n.Proper) : ofEntries n.document = .ok n := by
  have hextra (k : String) (hk : k ∈ ownKeys) : n.extra.get? k = none :=
    Entries.get?_of_forall_ne fun x hx he => h x hx (he ▸ hk)
  have hdata := hextra "data" (by simp [ownKeys])
  have hposition := hextra "position" (by simp [ownKeys])
  refine ofEntries_eq_ok_iff.2 ⟨?_, ?_, ?_, ?_, ?_⟩
  · exact Schema.required_eq_ok_iff.2 ⟨.text n.id, rfl, rfl⟩
  · exact Schema.required_eq_ok_iff.2 ⟨.text n.kindName, rfl, rfl⟩
  · refine remembered_of_get? .object (fun _ => rfl) ?_
    simp [document, Entries.get?_append, Entries.get?_cons, Entries.get?_toList_map, hdata]
  · refine remembered_of_get? nullableObject (fun p => by cases p <;> rfl) ?_
    simp [document, Entries.get?_append, Entries.get?_cons, Entries.get?_toList_map, hposition]
  · have hkept := Entries.filter_eq_self_of_not_mem h
    rw [document, List.filter_append, List.filter_append, List.filter_append, hkept,
      Entries.filter_toList_map (by simp [ownKeys]), Entries.filter_toList_map (by simp [ownKeys])]
    simp [ownKeys]

theorem read_document {n : Node} (h : n.Proper) : read (.object n.document) = .ok n :=
  ofEntries_document h

end Node

namespace Edge

/-- The keys of an edge's own parts, where the handle has the given key. -/
def ownKeys (handle : String) : List String := ["id", "source", "target", handle, "label"]

/-- The key under which a document gives the handle. -/
def givenKey (es : Entries Value) : String := if es.has handleKey then handleKey else handleField

/-- None of the extra entries has one of an edge's own keys, nor the other key of the handle where no
handle was given. -/
structure Proper (e : Edge) : Prop where
  own : ∀ x ∈ e.extra, x.1 ∉ ownKeys handleKey
  field : e.givenHandle = none → ∀ x ∈ e.extra, x.1 ≠ handleField

theorem ofEntries_eq_ok_iff {es : Entries Value} {e : Edge} :
    ofEntries es = .ok e ↔
      Schema.required es "id" Schema.text = .ok e.id ∧
      Schema.required es "source" Schema.text = .ok e.source ∧
      Schema.required es "target" Schema.text = .ok e.target ∧
      Node.remembered es (givenKey es) (Schema.nullable Schema.text) = .ok e.givenHandle ∧
      Node.remembered es "label" (Schema.nullable Schema.text) = .ok e.givenLabel ∧
      e.extra = es.filter fun x => !(ownKeys (givenKey es)).contains x.1 := by
  constructor
  · intro h
    obtain ⟨_, extra, h₅, hextra, rfl⟩ := Checked.seq_eq_ok_iff.1 h
    obtain ⟨_, label, h₄, hlabel, rfl⟩ := Checked.seq_eq_ok_iff.1 h₅
    obtain ⟨_, handle, h₃, hhandle, rfl⟩ := Checked.seq_eq_ok_iff.1 h₄
    obtain ⟨_, target, h₂, htarget, rfl⟩ := Checked.seq_eq_ok_iff.1 h₃
    obtain ⟨_, source, h₁, hsource, rfl⟩ := Checked.seq_eq_ok_iff.1 h₂
    obtain ⟨id, hid, rfl⟩ := Checked.map_eq_ok_iff.1 h₁
    cases hextra
    exact ⟨hid, hsource, htarget, hhandle, hlabel, rfl⟩
  · obtain ⟨id, source, target, handle, label, extra⟩ := e
    rintro ⟨hid, hsource, htarget, hhandle, hlabel, rfl⟩
    simp only [givenKey] at hhandle
    simp only [ofEntries, hid, hsource, htarget, hhandle, hlabel]
    rfl

theorem proper_of_ofEntries {es : Entries Value} {e : Edge} (h : ofEntries es = .ok e) :
    e.Proper := by
  obtain ⟨-, -, -, hhandle, -, hextra⟩ := ofEntries_eq_ok_iff.1 h
  have hmem : ∀ x ∈ e.extra, x ∈ es ∧ x.1 ∉ ownKeys (givenKey es) := by
    intro x hx
    rw [hextra] at hx
    simpa using List.mem_filter.1 hx
  by_cases hhas : es.has handleKey = true
  · have hkey : givenKey es = handleKey := if_pos hhas
    rw [hkey] at hhandle hmem
    refine ⟨fun x hx => (hmem x hx).2, fun hnone => ?_⟩
    have hget := Node.get?_of_remembered (hnone ▸ hhandle)
    simp [Entries.has, hget] at hhas
  · have hkey : givenKey es = handleField := if_neg hhas
    rw [hkey] at hmem
    have hfield : ∀ x ∈ e.extra, x.1 ≠ handleField := fun x hx he =>
      (hmem x hx).2 (by simp [he, ownKeys])
    have hother : ∀ x ∈ e.extra, x.1 ≠ handleKey := fun x hx he =>
      hhas (Entries.has_iff.2 (he ▸ List.mem_map_of_mem (hmem x hx).1))
    refine ⟨fun x hx => ?_, fun _ => hfield⟩
    have hown := (hmem x hx).2
    have hkey := hother x hx
    simp only [ownKeys, List.mem_cons, not_or] at hown ⊢
    exact ⟨hown.1, hown.2.1, hown.2.2.1, hkey, hown.2.2.2.2⟩

theorem proper_of_read {v : Value} {e : Edge} (h : read v = .ok e) : e.Proper := by
  cases v with
  | object es => exact proper_of_ofEntries h
  | _ => simp [read, Schema.model, Checked.issue] at h

theorem get?_extra {e : Edge} (h : e.Proper) {k : String} (hk : k ∈ ownKeys handleKey) :
    e.extra.get? k = none :=
  Entries.get?_of_forall_ne fun x hx he => h.own x hx (he ▸ hk)

theorem get?_document_handleKey {e : Edge} (h : e.Proper) :
    Entries.get? e.document handleKey = e.givenHandle.map nullableText := by
  have hextra := get?_extra h (k := handleKey) (by simp [ownKeys])
  simp only [handleKey] at hextra
  simp [document, Entries.get?_append, Entries.get?_cons, Entries.get?_toList_map, handleKey, hextra]

theorem givenKey_document {e : Edge} (h : e.Proper) :
    givenKey e.document = if e.givenHandle.isSome then handleKey else handleField := by
  rw [givenKey, Entries.has, get?_document_handleKey h, Option.isSome_map]

/-- A document is looked into under the key under which it was written. -/
theorem get?_document_givenKey {e : Edge} (h : e.Proper) :
    Entries.get? e.document (givenKey e.document) = e.givenHandle.map nullableText := by
  rw [givenKey_document h]
  cases hgiven : e.givenHandle with
  | none =>
    have hextra := Entries.get?_of_forall_ne (h.field hgiven)
    simp only [handleField] at hextra
    simp [document, Entries.get?_append, Entries.get?_cons, Entries.get?_toList_map, handleField,
      hextra, hgiven]
  | some handle => simpa [hgiven] using get?_document_handleKey h

theorem extra_not_own {e : Edge} (h : e.Proper) :
    ∀ x ∈ e.extra, x.1 ∉ ownKeys (givenKey e.document) := by
  intro x hx
  have hown := h.own x hx
  rw [givenKey_document h]
  cases hgiven : e.givenHandle with
  | none =>
    have hfield := h.field hgiven x hx
    simp only [ownKeys, List.mem_cons, not_or] at hown ⊢
    exact ⟨hown.1, hown.2.1, hown.2.2.1, hfield, hown.2.2.2.2⟩
  | some handle => exact hown

theorem filter_document {e : Edge} (h : e.Proper) :
    e.document.filter (fun x => !(ownKeys (givenKey e.document)).contains x.1) = e.extra := by
  have hkept := Entries.filter_eq_self_of_not_mem (extra_not_own h)
  have hhandle : (e.givenHandle.map fun s => (handleKey, nullableText s)).toList.filter
      (fun x => !(ownKeys (givenKey e.document)).contains x.1) = [] := by
    rw [givenKey_document h]
    cases e.givenHandle with
    | none => rfl
    | some handle => simp [ownKeys]
  generalize hown : ownKeys (givenKey e.document) = own at hkept hhandle ⊢
  have hmem : "id" ∈ own ∧ "source" ∈ own ∧ "target" ∈ own ∧ "label" ∈ own := by
    simp [← hown, ownKeys]
  rw [document, List.filter_append, List.filter_append, List.filter_append, hkept, hhandle,
    Entries.filter_toList_map hmem.2.2.2]
  simp [hmem]

theorem ofEntries_document {e : Edge} (h : e.Proper) : ofEntries e.document = .ok e := by
  have hlabel := get?_extra h (k := "label") (by simp [ownKeys])
  have hnullable : ∀ s, Schema.nullable Schema.text (nullableText s) = .ok s := by
    intro s
    cases s <;> rfl
  refine ofEntries_eq_ok_iff.2 ⟨?_, ?_, ?_, ?_, ?_, ?_⟩
  · exact Schema.required_eq_ok_iff.2 ⟨.text e.id, rfl, rfl⟩
  · exact Schema.required_eq_ok_iff.2 ⟨.text e.source, rfl, rfl⟩
  · exact Schema.required_eq_ok_iff.2 ⟨.text e.target, rfl, rfl⟩
  · exact Node.remembered_of_get? nullableText hnullable (get?_document_givenKey h)
  · refine Node.remembered_of_get? nullableText hnullable ?_
    simp [document, Entries.get?_append, Entries.get?_cons, Entries.get?_toList_map, handleKey,
      hlabel]
  · exact (filter_document h).symm

theorem read_document {e : Edge} (h : e.Proper) : read (.object e.document) = .ok e :=
  ofEntries_document h

end Edge

theorem Document.get?_plainFields {d : Document} {k : String} {v : Value}
    (h : d.get? k = some (.plain v)) : d.plainFields.get? k = some v := by
  induction d with
  | nil => simp at h
  | cons x d ih =>
    obtain ⟨k', field⟩ := x
    rw [Entries.get?_cons] at h
    by_cases hk : k = k'
    · subst hk
      rw [if_pos rfl, Option.some.injEq] at h
      subst h
      simp [Document.plainFields, Entries.get?_cons]
    · rw [if_neg hk] at h
      cases field with
      | plain w => simpa [Document.plainFields, Entries.get?_cons, hk] using ih h
      | moment t => simpa [Document.plainFields] using ih h

namespace Flow

/-- All nodes and edges read back. -/
structure Proper (f : Flow) : Prop where
  nodes : ∀ n ∈ f.nodes, n.Proper
  edges : ∀ e ∈ f.edges, e.Proper

theorem ofDocument_eq_ok_iff {now : Timestamp} {d : Document} {f : Flow} :
    ofDocument now d = .ok f ↔
      Schema.required d.plainFields "id" Schema.text = .ok f.id ∧
      Schema.optional d.plainFields "name" Schema.text defaultName = .ok f.name ∧
      Schema.optional d.plainFields "description" clearable "" = .ok f.description ∧
      Schema.optional d.plainFields "nodes" (Schema.listOf Node.read) [] = .ok f.nodes ∧
      Schema.optional d.plainFields "edges" (Schema.listOf Edge.read) [] = .ok f.edges ∧
      Schema.optional d.plainFields "trigger_type" Schema.text defaultTriggerType =
        .ok f.triggerType ∧
      Schema.optional d.plainFields "trigger_value" clearable "" = .ok f.triggerValue ∧
      Schema.optional d.plainFields "enabled" Schema.switch false = .ok f.enabled ∧
      optionalMoment d "created_at" now = .ok f.createdAt ∧
      optionalMoment d "updated_at" now = .ok f.updatedAt := by
  constructor
  · intro h
    obtain ⟨_, updated, h₉, hupdated, rfl⟩ := Checked.seq_eq_ok_iff.1 h
    obtain ⟨_, created, h₈, hcreated, rfl⟩ := Checked.seq_eq_ok_iff.1 h₉
    obtain ⟨_, enabled, h₇, henabled, rfl⟩ := Checked.seq_eq_ok_iff.1 h₈
    obtain ⟨_, value, h₆, hvalue, rfl⟩ := Checked.seq_eq_ok_iff.1 h₇
    obtain ⟨_, type, h₅, htype, rfl⟩ := Checked.seq_eq_ok_iff.1 h₆
    obtain ⟨_, edges, h₄, hedges, rfl⟩ := Checked.seq_eq_ok_iff.1 h₅
    obtain ⟨_, nodes, h₃, hnodes, rfl⟩ := Checked.seq_eq_ok_iff.1 h₄
    obtain ⟨_, description, h₂, hdescription, rfl⟩ := Checked.seq_eq_ok_iff.1 h₃
    obtain ⟨_, name, h₁, hname, rfl⟩ := Checked.seq_eq_ok_iff.1 h₂
    obtain ⟨id, hid, rfl⟩ := Checked.map_eq_ok_iff.1 h₁
    exact ⟨hid, hname, hdescription, hnodes, hedges, htype, hvalue, henabled, hcreated, hupdated⟩
  · rintro ⟨hid, hname, hdescription, hnodes, hedges, htype, hvalue, henabled, hcreated, hupdated⟩
    simp only [ofDocument, hid, hname, hdescription, hnodes, hedges, htype, hvalue, henabled,
      hcreated, hupdated]
    rfl

theorem changes_eq (f : Flow) : f.changes =
    [("name", .plain (.text f.name)), ("description", .plain (.text f.description)),
      ("trigger_type", .plain (.text f.triggerType)),
      ("trigger_value", .plain (.text f.triggerValue)), ("enabled", .plain (.bool f.enabled)),
      ("nodes", .plain f.nodeDocuments), ("edges", .plain f.edgeDocuments)] := by
  simp [changes, document]

/-- A document that holds what a flow writes is read as that flow. -/
theorem ofDocument_of_written {f : Flow} (hf : f.Proper) {d : Document} {now : Timestamp}
    (hid : d.get? "id" = some (.plain (.text f.id)))
    (hwritten : ∀ k v, f.changes.get? k = some v → d.get? k = some v)
    (hcreated : optionalMoment d "created_at" now = .ok f.createdAt)
    (hupdated : optionalMoment d "updated_at" now = .ok f.updatedAt) :
    ofDocument now d = .ok f := by
  have hplain (k : String) (v : Value) (h : f.changes.get? k = some (.plain v)) :
      d.plainFields.get? k = some v := Document.get?_plainFields (hwritten k _ h)
  rw [changes_eq] at hplain
  refine ofDocument_eq_ok_iff.2 ⟨?_, ?_, ?_, ?_, ?_, ?_, ?_, ?_, hcreated, hupdated⟩
  · exact Schema.required_eq_ok_iff.2 ⟨_, Document.get?_plainFields hid, rfl⟩
  · rw [Schema.optional_of_get? (hplain "name" _ rfl)]
    rfl
  · rw [Schema.optional_of_get? (hplain "description" _ rfl)]
    rfl
  · rw [Schema.optional_of_get? (hplain "nodes" _ rfl), Checked.under_eq_ok_iff]
    exact Schema.listOf_map fun n hn => Node.read_document (hf.nodes n hn)
  · rw [Schema.optional_of_get? (hplain "edges" _ rfl), Checked.under_eq_ok_iff]
    exact Schema.listOf_map fun e he => Edge.read_document (hf.edges e he)
  · rw [Schema.optional_of_get? (hplain "trigger_type" _ rfl)]
    rfl
  · rw [Schema.optional_of_get? (hplain "trigger_value" _ rfl)]
    rfl
  · rw [Schema.optional_of_get? (hplain "enabled" _ rfl)]
    rfl

end Flow
end ChatAutomation
