import ChatAutomation.Proofs.Flow.Defect
import ChatAutomation.Proofs.Walk.Course

/-!
# Warnings and runs

A warning says what the engine will not do. It is about a part of the flow, and true whatever runs do
with that part, with one exception: an edge is said never to be followed if any node with the id of its
source is a condition, but a run looks at the first node with that id only. `warnings_true_iff` says that
this is the only way for a warning to be wrong.
-/
namespace ChatAutomation

theorem Trigger.Malformed.holds_eq {t : Trigger} {cause : Pattern.Error} (h : t.Malformed cause)
    (m : Incoming) : t.holds m = .ok false := by
  have hkind : t.kind? = some .regex := by
    rw [Trigger.kind?, h.isRegex]
    rfl
  simp only [Trigger.holds, hkind, Trigger.patternOccurs, h.refused, h.malformed, if_true]

namespace Flow
variable {f : Flow}

theorem not_matched_of_no_trigger (h : f.triggers = []) {m : Incoming} {fs : List Flow}
    {hit : TriggerMatch} (hm : firstMatch m fs = .ok (some hit)) : hit.flow ≠ f := by
  rintro rfl
  have hnode := (mem_candidates_iff.1 (mem_candidates_of_firstMatch hm).1).2.2
  rw [h] at hnode
  cases hnode

/-- Is the node that is found under an id a condition? -/
def FindsCondition (f : Flow) (id : String) : Prop := ∃ n, f.node? id = some n ∧ n.isCondition = true

end Flow

namespace Engine
variable {σ : Type} {e : Engine σ} {f : Flow} {start : Option String} {r : Run σ}

/-- A condition chooses only edges on one of its sides. -/
theorem hasSide_of_mem_branch {n : Node} (hn : n.isCondition = true) {edge : Edge}
    (h : edge ∈ e.branch f n r) : Flow.hasSide edge = true := by
  rw [branch_eq hn, List.mem_filter] at h
  have hhandle : edge.sourceHandle = some (chosenHandle (e.execute n r).2.vars) := by
    simpa using h.2
  rw [Flow.hasSide, hhandle, chosenHandle]
  split <;> rfl

/-- An edge on no side is followed exactly when a run visits its source and finds no condition there. -/
theorem mem_followed_iff_of_no_side {edge : Edge} (hedge : edge ∈ f.edges)
    (hside : Flow.hasSide edge = false) :
    edge ∈ e.followed f start r ↔
      edge.source ∈ (e.runFlow f start r).1.visited ∧ ¬ f.FindsCondition edge.source := by
  constructor
  · intro h
    obtain ⟨t, ht, hbranch⟩ := mem_followed_iff.1 h
    obtain ⟨hfound, hvisited⟩ := mem_executed_iff.1 (mem_executed_of_mem_course ht)
    have hsource := (Flow.mem_outgoing.1 (mem_outgoing_of_mem_branch hbranch)).2
    rw [hsource]
    refine ⟨hvisited, ?_⟩
    rintro ⟨n, hn, hcondition⟩
    obtain rfl := Option.some.inj (hfound.symm.trans hn)
    rw [hasSide_of_mem_branch hcondition hbranch] at hside
    cases hside
  · rintro ⟨hvisited, hnone⟩
    rw [(e.accounts_executed f start r).visited] at hvisited
    obtain ⟨n, hn, hid⟩ := List.mem_map.1 hvisited
    have hcondition : n.isCondition = false := by
      rw [← Bool.not_eq_true]
      exact fun h => hnone ⟨n, hid ▸ (mem_executed_iff.1 hn).1, h⟩
    exact mem_followed_of_not_condition hn hcondition (Flow.mem_outgoing.2 ⟨hedge, hid.symm⟩)

end Engine

namespace Defect
variable {σ : Type}

/-- Is it true of a run what the warning of the defect says? -/
def IsTrue (f : Flow) (e : Engine σ) (start : Option String) (r : Run σ) : Defect → Prop
  | noTrigger => ∀ m fs hit, Flow.firstMatch m fs = .ok (some hit) → hit.flow ≠ f
  | duplicateNode n => 1 < f.nodeIds.count n.id
  | unknownKind n => ∀ r' : Run σ,
      (e.execute n r').2.vars = r'.vars ∧ (e.execute n r').2.outside = r'.outside
  | danglingEnd _ id => f.node? id = none
  | missingHandle edge => edge ∉ e.followed f start r
  | malformedPattern n _ => ∀ m, (Trigger.ofNode n f).holds m = .ok false

end Defect

namespace Flow
variable {σ : Type}

/-- The warnings about a flow are those of its defects, and each is true of every run, unless it is about
an edge whose source the run visits and does not find to be a condition. -/
theorem warnings_true_iff {f : Flow} {ws : List Warning} (h : f.warnings = .ok ws) (e : Engine σ)
    (start : Option String) (r : Run σ) :
    (∀ w, w ∈ ws ↔ ∃ d, f.Has d ∧ d.warning f = w) ∧
      ∀ d, f.Has d → (d.IsTrue f e start r ↔ ∀ edge, d = .missingHandle edge →
        edge.source ∈ (e.runFlow f start r).1.visited → f.FindsCondition edge.source) := by
  refine ⟨fun w => mem_warnings_iff h, fun d hd => ?_⟩
  cases d with
  | noTrigger =>
    exact iff_of_true (fun m fs hit hm => not_matched_of_no_trigger hd hm) (fun _ hd => nomatch hd)
  | duplicateNode n => exact iff_of_true hd.2 (fun _ hd => nomatch hd)
  | unknownKind n =>
    refine iff_of_true (fun r' => ?_) (fun _ hd => nomatch hd)
    rw [e.execute_of_unknown r' hd.2]
    exact ⟨rfl, rfl⟩
  | danglingEnd edge id =>
    exact iff_of_true (node?_of_not_hasNode hd.2.2) (fun _ hd => nomatch hd)
  | missingHandle edge =>
    have hfollowed : edge ∈ e.followed f start r ↔
        edge.source ∈ (e.runFlow f start r).1.visited ∧ ¬ f.FindsCondition edge.source :=
      Engine.mem_followed_iff_of_no_side hd.1 hd.2.1
    rw [Defect.IsTrue, hfollowed, not_and, not_not]
    constructor
    · rintro htrue edge' hsame
      obtain rfl := Defect.missingHandle.inj hsame
      exact htrue
    · exact fun htrue => htrue edge rfl
  | malformedPattern n cause =>
    exact iff_of_true (fun m => hd.2.holds_eq m) (fun _ hd => nomatch hd)

/-- An edge without a handle, that leaves the id `c`. -/
def leave : Edge := ⟨"e1", "c", "x", none, none, []⟩

/-- A flow of a trigger and of nodes of given ids and kinds, the one `c` behind the trigger. -/
def behindTrigger (nodes : List (String × String)) : Flow :=
  { (default : Flow) with
    id := "f1"
    name := "F"
    nodes := (("t", "trigger") :: nodes).map fun (id, kindName) => ⟨id, kindName, none, none, []⟩
    edges := [⟨"e0", "t", "c", none, none, []⟩, leave] }

/-- The condition is the first node with its id, and the last node is of no known kind. -/
def shadowing : Flow :=
  behindTrigger [("c", "condition"), ("c", "send_text"), ("x", "carousel")]

theorem warnings_true_of_shadowing :
    shadowing.warnings =
      .ok [.duplicateNode "c", .unknownKind "x" "carousel", .missingHandle "e1" "c"] ∧
    (Defect.missingHandle leave).IsTrue shadowing Engine.idle (some "t") ⟨[], (), []⟩ := by
  have hwarnings : shadowing.warnings =
      .ok [.duplicateNode "c", .unknownKind "x" "carousel", .missingHandle "e1" "c"] := rfl
  have hleave : shadowing.Has (.missingHandle leave) :=
    ⟨by simp [shadowing, behindTrigger], rfl, _, List.mem_cons_of_mem _ List.mem_cons_self, rfl, rfl⟩
  have htrue := (warnings_true_iff hwarnings Engine.idle (some "t") ⟨[], (), []⟩).2 _ hleave
  refine ⟨hwarnings, htrue.2 ?_⟩
  rintro edge hedge -
  obtain rfl := Defect.missingHandle.inj hedge
  exact ⟨_, rfl, rfl⟩

/-- The condition is not found under its id: a text comes first. -/
def shadowed : Flow := behindTrigger [("c", "send_text"), ("c", "condition"), ("x", "send_text")]

/-- A run follows the edge of which a warning says that it is never followed. -/
theorem followed_of_shadowed_condition :
    shadowed.warnings = .ok [.duplicateNode "c", .missingHandle "e1" "c"] ∧
      shadowed.Has (.missingHandle leave) ∧
      ¬ (Defect.missingHandle leave).IsTrue shadowed Engine.idle (some "t") ⟨[], (), []⟩ := by
  refine ⟨rfl, ⟨by simp [shadowed, behindTrigger], rfl, _,
    List.mem_cons_of_mem _ (List.mem_cons_of_mem _ List.mem_cons_self), rfl, rfl⟩, ?_⟩
  have hfollowed : Engine.idle.followed shadowed (some "t") ⟨[], (), []⟩ =
    [⟨"e0", "t", "c", none, none, []⟩, leave] := rfl
  rw [Defect.IsTrue, hfollowed, not_not]
  exact List.mem_cons_of_mem _ List.mem_cons_self

end Flow
end ChatAutomation
