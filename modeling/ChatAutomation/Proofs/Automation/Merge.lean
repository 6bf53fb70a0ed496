import ChatAutomation.Proofs.Store.Reading

/-!
# Saving merges

Saving an update under the id of a readable flow stores the merge of the two: `save_existing`. The
rule that a merge should follow is `Merged`: what an update leaves out keeps its value, what it gives
takes the given one. `save_merges_iff` says when a save follows it. The graph is written in any case,
so the rule fails for nodes or edges that were stored and are left out, and an empty name or kind of
trigger counts as left out.
-/
namespace ChatAutomation

namespace Flow

theorem keys_changes (f : Flow) : f.changes.keys =
    ["name", "description", "trigger_type", "trigger_value", "enabled", "nodes", "edges"] := by
  rw [changes_eq]
  rfl

/-- The document that an update leaves behind. -/
def written (f : Flow) (now : Timestamp) (d : Document) : Document :=
  (d.putAll f.changes).put "updated_at" (.moment now)

theorem get?_written (f : Flow) (now : Timestamp) (d : Document) (k : String) :
    (f.written now d).get? k =
      if k = "updated_at" then some (.moment now) else (f.changes.get? k).or (d.get? k) := by
  have hkeys : f.changes.keys.Nodup := by
    rw [keys_changes]
    decide
  rw [written, Entries.get?_put, Entries.get?_putAll hkeys]

/-- What is not written of a flow stays in the document. -/
theorem get?_written_of_not_mem {k : String}
    (hk : k ∉ ["name", "description", "trigger_type", "trigger_value", "enabled", "nodes", "edges",
      "updated_at"]) (f : Flow) (now : Timestamp) (d : Document) :
    (f.written now d).get? k = d.get? k := by
  have hkeys : k ≠ "updated_at" ∧ k ∉ f.changes.keys := by
    rw [keys_changes]
    simp_all
  rw [get?_written, if_neg hkeys.1, Entries.get?_eq_none_iff.2 hkeys.2, Option.none_or]

@[simp] theorem hasId_written (f : Flow) (now : Timestamp) (d : Document) (id : String) :
    (f.written now d).hasId id = d.hasId id := by
  have hid : (f.written now d).get? "id" = d.get? "id" :=
    get?_written_of_not_mem (by decide) f now d
  rw [Bool.eq_iff_iff, Document.hasId_iff, Document.hasId_iff, hid]

theorem written_ne_nil (f : Flow) (now : Timestamp) (d : Document) : f.written now d ≠ [] := by
  intro h
  have hget := get?_written f now d "updated_at"
  rw [h] at hget
  simp at hget

/-- The document reads as the flow that was written, made when the document says. -/
theorem ofDocument_written {f : Flow} (hf : f.Proper) {now later t : Timestamp} {d : Document}
    (hid : d.hasId f.id = true) (hcreated : optionalMoment d "created_at" later = .ok t) :
    ofDocument later (f.written now d) = .ok { f with createdAt := t, updatedAt := now } := by
  have hchanges : Flow.changes { f with createdAt := t, updatedAt := now } = f.changes := by
    rw [changes_eq, changes_eq]
    rfl
  have hproper : Flow.Proper { f with createdAt := t, updatedAt := now } := ⟨hf.nodes, hf.edges⟩
  refine ofDocument_of_written hproper ?_ ?_ ?_ ?_
  · rw [get?_written_of_not_mem (by decide)]
    exact Document.hasId_iff.1 hid
  · intro k v hk
    rw [hchanges] at hk
    have hne : k ≠ "updated_at" := by
      rintro rfl
      rw [Entries.get?_eq_none_iff.2 (by rw [keys_changes]; decide)] at hk
      cases hk
    rw [get?_written, if_neg hne, hk, Option.some_or]
  · simpa [optionalMoment, get?_written_of_not_mem] using hcreated
  · simp [optionalMoment, get?_written, Field.readMoment, Checked.under]

/-- Whether a time can be read does not depend on the present one. -/
theorem exists_optionalMoment {d : Document} {k : String} {now t : Timestamp}
    (h : optionalMoment d k now = .ok t) (later : Timestamp) :
    ∃ t', optionalMoment d k later = .ok t' := by
  unfold optionalMoment at h ⊢
  cases hk : d.get? k with
  | none => exact ⟨later, rfl⟩
  | some field =>
    simp only [hk] at h
    exact ⟨t, h⟩

theorem optionalMoment_createdAt {now : Timestamp} {d : Document} {f : Flow}
    (h : ofDocument now d = .ok f) : optionalMoment d "created_at" now = .ok f.createdAt :=
  (ofDocument_eq_ok_iff.1 h).2.2.2.2.2.2.2.2.1

theorem id_of_ofDocument {now : Timestamp} {d : Document} {f : Flow} {id : String}
    (hid : d.hasId id = true) (h : ofDocument now d = .ok f) : f.id = id := by
  have hget := Document.get?_plainFields (Document.hasId_iff.1 hid)
  obtain ⟨v, hv, htext⟩ := Schema.required_eq_ok_iff.1 (ofDocument_eq_ok_iff.1 h).1
  obtain rfl := Schema.text_eq_ok_iff.1 htext
  rw [hget] at hv
  simpa using hv.symm

end Flow

theorem Store.update_changes {s : Store} (hfailure : s.failure = none)
    (hmiss : s.updatesMiss = false) (now : Timestamp) (id : String) (f : Flow) :
    s.update now id f.changes =
      .ok (((s.document? id).map (f.written now)).bind (Document.flow? now),
        { s with documents := updateFirst id (f.written now) s.documents }) := by
  simp only [update, within, hfailure, hmiss, Bool.false_eq_true, if_false]
  rfl

/-! ## The merge that is stored -/

namespace FlowUpdate

/-- All nodes and edges that an update gives read back. -/
structure Proper (u : FlowUpdate) : Prop where
  nodes : ∀ n ∈ u.nodes.getD [], n.Proper
  edges : ∀ e ∈ u.edges.getD [], e.Proper

theorem exists_of_mem_optional {α : Type} {read : Value → Checked α} {es : Entries Value}
    {k : String} {as : Option (List α)}
    (h : Schema.optional es k (Schema.nullable (Schema.listOf read)) none = .ok as) {a : α}
    (ha : a ∈ as.getD []) : ∃ v, read v = .ok a := by
  cases hget : es.get? k with
  | none =>
    simp only [Schema.optional, hget, Checked.ok.injEq] at h
    simp [← h] at ha
  | some v =>
    rw [Schema.optional_of_get? hget, Checked.under_eq_ok_iff] at h
    cases as with
    | none => cases ha
    | some as =>
      cases v with
      | list vs =>
        have hlist : Schema.listOf read (.list vs) = .ok as := by
          cases hread : Schema.listOf read (.list vs) <;>
            simp_all [Schema.nullable, Checked.map]
        exact Schema.exists_of_mem_listOf hlist ha
      | null => simp [Schema.nullable] at h
      | _ => simp [Schema.nullable, Schema.listOf, Checked.issue, Checked.map] at h

theorem proper_of_read {v : Value} {u : FlowUpdate} (h : read v = .ok u) : u.Proper := by
  cases v with
  | object es =>
    obtain ⟨_, enabled, h₇, -, rfl⟩ := Checked.seq_eq_ok_iff.1 h
    obtain ⟨_, value, h₆, -, rfl⟩ := Checked.seq_eq_ok_iff.1 h₇
    obtain ⟨_, type, h₅, -, rfl⟩ := Checked.seq_eq_ok_iff.1 h₆
    obtain ⟨_, edges, h₄, hedges, rfl⟩ := Checked.seq_eq_ok_iff.1 h₅
    obtain ⟨_, nodes, h₃, hnodes, rfl⟩ := Checked.seq_eq_ok_iff.1 h₄
    obtain ⟨_, description, h₂, -, rfl⟩ := Checked.seq_eq_ok_iff.1 h₃
    obtain ⟨_, name, h₁, -, rfl⟩ := Checked.seq_eq_ok_iff.1 h₂
    obtain ⟨id, -, rfl⟩ := Checked.map_eq_ok_iff.1 h₁
    constructor
    · intro n hn
      obtain ⟨w, hw⟩ := exists_of_mem_optional hnodes hn
      exact Node.proper_of_read hw
    · intro e he
      obtain ⟨w, hw⟩ := exists_of_mem_optional hedges he
      exact Edge.proper_of_read hw
  | _ => simp [read, Schema.model, Checked.issue] at h

theorem proper_create {u : FlowUpdate} (h : u.Proper) (now : Timestamp) :
    (u.create now).Proper := ⟨h.nodes, h.edges⟩

theorem proper_merge {u : FlowUpdate} (h : u.Proper) (now : Timestamp) (f : Flow) :
    (u.merge now f).Proper := ⟨h.nodes, h.edges⟩

end FlowUpdate

namespace Automation

theorem save_of_get {now : Timestamp} {u : FlowUpdate} {s : Store} {stored : Option Flow}
    (h : s.get now u.id = .ok stored) : save now u s = (Write.plan now u stored).apply now s := by
  rw [save, h]
  rfl

/-- Saving over a document that is read as a flow stores the merge; a look at it finds the time of
creation that the document gives. -/
theorem save_found {now : Timestamp} {u : FlowUpdate} {s : Store} {d : Document} {f : Flow}
    (hu : u.Proper) (hfailure : s.failure = none) (hmiss : s.updatesMiss = false)
    (hd : s.document? u.id = some d) (hflow : d.flow? now = some f) :
    ∃ s', save now u s = .ok (some (u.merge now f), s') ∧ f.id = u.id ∧
      ∀ later t, Flow.optionalMoment d "created_at" later = .ok t →
        s'.get later u.id = .ok (some { u.merge now f with createdAt := t }) := by
  obtain ⟨-, hread⟩ := Document.flow?_eq_some_iff.1 hflow
  have hhas : d.hasId u.id = true := by simpa using List.find?_some hd
  have hid : f.id = u.id := Flow.id_of_ofDocument hhas hread
  have hmerge : (u.merge now f).Proper := FlowUpdate.proper_merge hu now f
  have hmergeId : d.hasId (u.merge now f).id = true := hid ▸ hhas
  -- what a look at the changed document gives, now or later
  have hlook (later t : Timestamp) (ht : Flow.optionalMoment d "created_at" later = .ok t) :
      ((u.merge now f).written now d).flow? later = some { u.merge now f with createdAt := t } :=
    Document.flow?_eq_some_iff.2
      ⟨Flow.written_ne_nil _ _ _, Flow.ofDocument_written hmerge hmergeId ht⟩
  let s' : Store :=
    { s with documents := Store.updateFirst u.id ((u.merge now f).written now) s.documents }
  have hdocument : s'.document? u.id = some ((u.merge now f).written now d) := by
    rw [Store.document?] at hd ⊢
    rw [Store.find?_updateFirst (fun d => Flow.hasId_written _ _ _ _), hd, Option.map_some]
  refine ⟨s', ?_, hid, fun later t ht => ?_⟩
  · have hf : s.get now u.id = .ok (some f) :=
      Store.get_eq_ok_some_iff.2 ⟨hfailure, d, hd, hflow⟩
    have hplan : save now u s = s.update now f.id (u.merge now f).changes := save_of_get hf
    rw [hplan, hid, Store.update_changes hfailure hmiss, hd, Option.map_some, Option.bind_some,
      hlook now f.createdAt (Flow.optionalMoment_createdAt hread)]
    rfl
  · exact Store.get_eq_ok_some_iff.2 ⟨hfailure, _, hdocument, hlook later t ht⟩

/-- Saving under the id of a readable flow stores the merge; a later look at it may find another time
of creation only where the document has none. -/
theorem save_existing {now : Timestamp} {u : FlowUpdate} {s : Store} {f : Flow} (hu : u.Proper)
    (hmiss : s.updatesMiss = false) (hf : s.get now u.id = .ok (some f)) :
    ∃ s', save now u s = .ok (some (u.merge now f), s') ∧
      ∀ later, ∃ t, s'.get later u.id = .ok (some { u.merge now f with createdAt := t }) := by
  obtain ⟨hfailure, d, hd, hflow⟩ := Store.get_eq_ok_some_iff.1 hf
  obtain ⟨s', hsave, -, hlook⟩ := save_found hu hfailure hmiss hd hflow
  refine ⟨s', hsave, fun later => ?_⟩
  have hcreated := Flow.optionalMoment_createdAt (Document.flow?_eq_some_iff.1 hflow).2
  obtain ⟨t, ht⟩ := Flow.exists_optionalMoment hcreated later
  exact ⟨t, hlook later t ht⟩

end Automation

/-! ## The rule of a merge -/

namespace FlowUpdate

/-- What is left out keeps its value, what is given takes the given one, and the switch is off unless
it is given. -/
structure Merged (u : FlowUpdate) (before after : Flow) : Prop where
  name : after.name = u.name.getD before.name
  description : after.description = u.description.getD before.description
  nodes : after.nodes = u.nodes.getD before.nodes
  edges : after.edges = u.edges.getD before.edges
  triggerType : after.triggerType = u.triggerType.getD before.triggerType
  triggerValue : after.triggerValue = u.triggerValue.getD before.triggerValue
  enabled : after.enabled = u.enabled.getD false

/-- There are no nodes and no edges where they are left out, and no text where an empty one is given
for the name or the kind of trigger. -/
structure Spares (u : FlowUpdate) (f : Flow) : Prop where
  name : u.name = some "" → f.name = ""
  triggerType : u.triggerType = some "" → f.triggerType = ""
  nodes : u.nodes = none → f.nodes = []
  edges : u.edges = none → f.edges = []

theorem givenOr_eq_getD_iff (s : Option String) (default : String) :
    givenOr s default = s.getD default ↔ (s = some "" → default = "") := by
  cases s with
  | none => simp [givenOr]
  | some s => by_cases h : s = "" <;> simp [givenOr, h]

theorem getD_nil_eq_getD_iff {α : Type} (as : Option (List α)) (stored : List α) :
    as.getD [] = as.getD stored ↔ (as = none → stored = []) := by
  cases as with
  | none => simp [eq_comm]
  | some as => simp

theorem merged_merge_iff (u : FlowUpdate) (f : Flow) (now t : Timestamp) :
    u.Merged f { u.merge now f with createdAt := t } ↔ u.Spares f := by
  constructor
  · intro h
    exact ⟨(givenOr_eq_getD_iff _ _).1 h.name, (givenOr_eq_getD_iff _ _).1 h.triggerType,
      (getD_nil_eq_getD_iff _ _).1 h.nodes, (getD_nil_eq_getD_iff _ _).1 h.edges⟩
  · intro h
    exact ⟨(givenOr_eq_getD_iff _ _).2 h.name, rfl, (getD_nil_eq_getD_iff _ _).2 h.nodes,
      (getD_nil_eq_getD_iff _ _).2 h.edges, (givenOr_eq_getD_iff _ _).2 h.triggerType, rfl, rfl⟩

end FlowUpdate

namespace Automation

/-- Saving an update that was read under the id of a readable flow stores their merge, and that
follows the rule exactly when the update spares the flow. -/
theorem save_merges_iff {now : Timestamp} {v : Value} {u : FlowUpdate} {s : Store} {f : Flow}
    (hu : FlowUpdate.read v = .ok u) (hmiss : s.updatesMiss = false)
    (hf : s.get now u.id = .ok (some f)) :
    ∃ s', save now u s = .ok (some (u.merge now f), s') ∧
      ∀ later, ∃ g, s'.get later u.id = .ok (some g) ∧
        g = { u.merge now f with createdAt := g.createdAt } ∧
        (u.Merged f g ↔ u.Spares f) := by
  obtain ⟨s', hsave, hlater⟩ := save_existing (FlowUpdate.proper_of_read hu) hmiss hf
  refine ⟨s', hsave, fun later => ?_⟩
  obtain ⟨t, ht⟩ := hlater later
  exact ⟨_, ht, rfl, FlowUpdate.merged_merge_iff u f now t⟩

/-- A trigger that leads to a message. -/
def greeting : Flow :=
  { (default : Flow) with
    id := "f1"
    name := "Greeting"
    nodes := [⟨"t", "trigger", some [], none, []⟩,
      ⟨"s", "send_text", some [("text", .text "Oi")], none, []⟩]
    edges := [⟨"e0", "t", "s", none, none, []⟩]
    triggerType := "keyword"
    triggerValue := "oi" }

def shelf : Store where documents := [greeting.document]

/-- An update that gives a name and an empty graph, as it is written and as it is read. -/
def clearing : Value :=
  .object [("id", .text "f1"), ("name", .text "Oi"), ("nodes", .list []), ("edges", .list [])]

def cleared : FlowUpdate := ⟨"f1", some "Oi", none, some [], some [], none, none, none⟩

theorem save_merges_cleared :
    FlowUpdate.read clearing = .ok cleared ∧ shelf.updatesMiss = false ∧
      shelf.get ⟨0, none⟩ cleared.id = .ok (some greeting) ∧
      ∃ s', save ⟨0, none⟩ cleared shelf = .ok (some (cleared.merge ⟨0, none⟩ greeting), s') ∧
        ∀ later, ∃ g, s'.get later cleared.id = .ok (some g) ∧
          g = { cleared.merge ⟨0, none⟩ greeting with createdAt := g.createdAt } ∧
          (cleared.Merged greeting g ↔ cleared.Spares greeting) := by
  have hread : FlowUpdate.read clearing = .ok cleared := rfl
  exact ⟨hread, rfl, rfl, save_merges_iff hread rfl rfl⟩

/-- Switching the flow on, with nothing else in the update, drops its nodes and edges. -/
theorem graph_lost_by_switching_on :
    ∃ u g s', FlowUpdate.read (.object [("id", .text "f1"), ("enabled", .bool true)]) = .ok u ∧
      shelf.get ⟨0, none⟩ u.id = .ok (some greeting) ∧
      save ⟨1, none⟩ u shelf = .ok (some g, s') ∧ s'.get ⟨1, none⟩ u.id = .ok (some g) ∧
      u.nodes = none ∧ u.edges = none ∧ ¬ u.Merged greeting g := by
  refine ⟨⟨"f1", none, none, none, none, none, none, some true⟩, _, _, rfl, rfl, rfl, rfl, rfl, rfl,
    fun h => ?_⟩
  have hnodes := h.nodes
  cases hnodes

end Automation
end ChatAutomation
