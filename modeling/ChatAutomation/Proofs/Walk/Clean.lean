import ChatAutomation.Proofs.Flow.Defect
import ChatAutomation.Proofs.Walk.Course

/-!
# Runs of a flow without warnings

There are many ways for a run to do less than its flow seems to say: no entry, a missing node, a node of
unknown kind, an edge that no condition ever chooses. Each warning rules out one of them. A run of a flow
without warnings therefore loses nothing, `losesNothing_of_clean`.
-/
namespace ChatAutomation

namespace Flow
variable {f : Flow}

/-- The flow can be entered, its nodes are of known kinds, its edges lead to nodes, and those that leave a
condition belong to one of its sides. -/
structure Clean (f : Flow) : Prop where
  triggers_ne_nil : f.triggers ≠ []
  known : ∀ n ∈ f.nodes, n.kind? ≠ none
  hasNode_target : ∀ edge ∈ f.edges, f.HasNode edge.target
  hasSide : ∀ edge ∈ f.edges, ∀ n ∈ f.nodes, n.isCondition = true → n.id = edge.source →
    hasSide edge = true

theorem clean_of_warnings (h : f.warnings = .ok []) : f.Clean := by
  have hnone : ∀ d, ¬ f.Has d := fun d hd =>
    List.not_mem_nil ((mem_warnings_iff h).2 ⟨d, hd, rfl⟩)
  constructor
  · exact fun htriggers => hnone .noTrigger htriggers
  · exact fun n hn hkind => hnone (.unknownKind n) ⟨hn, hkind⟩
  · intro edge hedge
    by_contra hnode
    exact hnone (.danglingEnd edge edge.target) ⟨hedge, .inr rfl, hnode⟩
  · intro edge hedge n hn hcondition hid
    by_contra hside
    exact hnone (.missingHandle edge)
      ⟨hedge, Bool.eq_false_iff.2 hside, n, hn, hcondition, hid⟩

end Flow

namespace Walk
variable {σ : Type} {e : Engine σ} {f : Flow}

/-- If all edges lead to nodes, a walk from a node never takes a missing id. -/
theorem hasNode_of_mem_met (htargets : ∀ edge ∈ f.edges, f.HasNode edge.target) {id : String}
    (hid : f.HasNode id) (r : Run σ) : ∀ x ∈ (fromId e f id r).met, f.HasNode x := by
  obtain ⟨_, -, hpops⟩ := pops_fromId e f id r
  have hinvariant := hpops.invariant
    (P := fun pending w => ∀ x, x ∈ pending ∨ x ∈ w.met → f.HasNode x)
  refine fun x hx => hinvariant ?met ?new ?start x (.inr hx)
  case met =>
    rintro y pending w - h x (hx | hx)
    · exact h x (.inl (List.mem_cons_of_mem _ hx))
    · exact h x (.inr hx)
  case new =>
    rintro y pending w - h x (hx | hx)
    · rcases List.mem_append.1 hx with hx | hx
      · obtain ⟨-, edge, hedge, -, rfl⟩ := leads_of_mem_targets hx
        exact htargets edge hedge
      · exact h x (.inl (List.mem_cons_of_mem _ hx))
    · rw [met_meet] at hx
      rcases List.mem_cons.1 hx with rfl | hx
      · exact h x (.inl List.mem_cons_self)
      · exact h x (.inr hx)
  case start =>
    rintro x (hx | hx)
    · rwa [List.mem_singleton.1 hx]
    · exact absurd hx List.not_mem_nil

end Walk

namespace Engine
variable {σ : Type}

/-- A run takes only ids of nodes, skips none of them, visits whatever an edge leads to that leaves a
node which is no condition, and behind a condition goes on with just the edges on the side of the stored
result, which all its edges have one of. -/
structure LosesNothing (e : Engine σ) (f : Flow) (start : Option String) (r : Run σ) : Prop where
  entered : ∃ id, f.entry? start = some id ∧ id ∈ (e.runFlow f start r).1.visited ∧
    ∀ x ∈ (Walk.fromId e f id r).met, f.HasNode x
  known : ∀ n ∈ e.executed f start r, n.kind? ≠ none
  continued : ∀ n ∈ e.executed f start r, n.isCondition = false →
    ∀ edge ∈ f.outgoing n.id, edge.target ∈ (e.runFlow f start r).1.visited
  sided : ∀ n ∈ e.executed f start r, n.isCondition = true →
    ∀ edge ∈ f.outgoing n.id, edge.sourceHandle = some "true" ∨ edge.sourceHandle = some "false"
  chosen : ∀ t ∈ e.course f start r, t.1.isCondition = true →
    e.branch f t.1 t.2 = (f.outgoing t.1.id).filter (fun edge =>
      edge.sourceHandle == some (chosenHandle (e.execute t.1 t.2).2.vars)) ∧
    ∀ edge ∈ e.branch f t.1 t.2, edge.target ∈ (e.runFlow f start r).1.visited

/-- A run of a flow without warnings loses nothing, wherever it starts in it. -/
theorem losesNothing_of_clean {f : Flow} (hclean : f.warnings = .ok []) {start : Option String}
    (hstart : ∀ id, start = some id → f.HasNode id) (e : Engine σ) (r : Run σ) :
    e.LosesNothing f start r := by
  have hf := Flow.clean_of_warnings hclean
  have hvisited : ∀ edge ∈ e.followed f start r,
      edge.target ∈ (e.runFlow f start r).1.visited := by
    intro edge hedge
    obtain ⟨t, -, hbranch⟩ := mem_followed_iff.1 hedge
    have hmem := (Flow.mem_outgoing.1 (mem_outgoing_of_mem_branch hbranch)).1
    exact visited_of_mem_followed hedge (hf.hasNode_target edge hmem)
  constructor
  case entered =>
    obtain ⟨id, hentry, hid⟩ := Flow.exists_entry hf.triggers_ne_nil hstart
    exact ⟨id, hentry, (e.accounts_executed f start r).begun id hentry hid,
      Walk.hasNode_of_mem_met hf.hasNode_target hid r⟩
  case known => exact fun n hn => hf.known n (mem_nodes_of_mem_executed hn)
  case continued =>
    exact fun n hn hcondition edge hedge =>
      hvisited edge (mem_followed_of_not_condition hn hcondition hedge)
  case sided =>
    intro n hn hcondition edge hedge
    obtain ⟨hmem, hsource⟩ := Flow.mem_outgoing.1 hedge
    have hside := hf.hasSide edge hmem n (mem_nodes_of_mem_executed hn) hcondition hsource.symm
    simpa [Flow.hasSide] using hside
  case chosen =>
    exact fun t ht hcondition => ⟨branch_eq hcondition e f t.2,
      fun edge hedge => hvisited edge (mem_followed_iff.2 ⟨t, ht, hedge⟩)⟩

/-- A trigger, a question and an answer on either side. -/
def survey : Flow :=
  { (default : Flow) with
    id := "f1"
    nodes := [⟨"t", "trigger", none, none, []⟩, asking, ⟨"yes", "delay", none, none, []⟩,
      ⟨"no", "delay", none, none, []⟩]
    edges := [⟨"e0", "t", "c", none, none, []⟩, ⟨"e1", "c", "yes", some (some "true"), none, []⟩,
      ⟨"e2", "c", "no", some (some "false"), none, []⟩] }

theorem losesNothing_survey :
    survey.warnings = .ok [] ∧ survey.HasNode "t" ∧
      idle.LosesNothing survey (some "t") ⟨[], (), []⟩ := by
  have hclean : survey.warnings = .ok [] := rfl
  have hnode : survey.HasNode "t" := ⟨_, List.mem_cons_self, rfl⟩
  refine ⟨hclean, hnode, losesNothing_of_clean hclean ?_ idle ⟨[], (), []⟩⟩
  rintro id hid
  rwa [← Option.some.inj hid]

end Engine
end ChatAutomation
