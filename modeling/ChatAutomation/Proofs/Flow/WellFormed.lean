import ChatAutomation.Proofs.Flow.Defect
import Mathlib.Data.Finset.Card
import Mathlib.Data.List.Perm.Basic

/-!
# Flows without warnings

A flow is given no warning exactly when it is well formed, `warnings_eq_nil_iff`. Each check says the same of
a flow whose nodes and edges stand in another order, so the warnings are the same ones in some order,
`warnings_of_perm`. Of the nodes under one id all but one are reported, whichever comes first.
-/
namespace ChatAutomation.Flow

/-- A flow in which everything fits together. -/
structure WellFormed (f : Flow) : Prop where
  triggered : ∃ n ∈ f.nodes, n.isTrigger = true
  distinct : f.nodeIds.Nodup
  known : ∀ n ∈ f.nodes, n.kind? ≠ none
  connected : ∀ edge ∈ f.edges, f.HasNode edge.source ∧ f.HasNode edge.target
  sided : ∀ edge ∈ f.edges, (∃ n ∈ f.nodes, n.isCondition = true ∧ n.id = edge.source) →
    edge.sourceHandle = some "true" ∨ edge.sourceHandle = some "false"
  compiled : ∀ n ∈ f.triggers, (Trigger.ofNode n f).kindName = TriggerKind.regex.name →
    ∃ p, Trigger.pattern (Trigger.ofNode n f).value = .ok p

variable {f : Flow} {ws : List Warning} {patterns : List (List Warning)}

/-! ## No defects -/

theorem hasSide_iff {edge : Edge} : hasSide edge = true ↔
    edge.sourceHandle = some "true" ∨ edge.sourceHandle = some "false" := by
  simp [hasSide]

theorem triggers_eq_nil_iff : f.triggers = [] ↔ ¬ ∃ n ∈ f.nodes, n.isTrigger = true := by
  simp [triggers]

/-- A pattern that can be checked compiles, or it is malformed. -/
theorem compiles_or_malformed {t : Trigger} (h : t.Checkable)
    (hregex : t.kindName = TriggerKind.regex.name) :
    (∃ p, Trigger.pattern t.value = .ok p) ∨ ∃ cause, t.Malformed cause := by
  cases hpattern : Trigger.pattern t.value with
  | ok p => exact .inl ⟨p, rfl⟩
  | error cause =>
    have hrefusal : Trigger.refusal? t.value = some cause := by rw [Trigger.refusal?, hpattern]
    exact .inr ⟨cause, hregex, hpattern, h hregex cause hrefusal⟩

/-- A flow is well formed if it has no defect. -/
theorem WellFormed.of_no_defect (hcheckable : ∀ n ∈ f.triggers, (Trigger.ofNode n f).Checkable)
    (h : ∀ d, ¬ f.Has d) : f.WellFormed where
  triggered := by
    by_contra hnone
    exact h .noTrigger (triggers_eq_nil_iff.2 hnone)
  distinct := by
    rw [List.nodup_iff_count_le_one]
    intro id
    by_contra hcount
    obtain ⟨n, hn, rfl⟩ := mem_nodeIds_iff.1 (List.count_pos_iff.1 (by omega : 0 < f.nodeIds.count id))
    exact h (.duplicateNode n) ⟨hn, by omega⟩
  known n hn hkind := h (.unknownKind n) ⟨hn, hkind⟩
  connected edge hedge := by
    constructor
    · by_contra hnode
      exact h (.danglingEnd edge edge.source) ⟨hedge, .inl rfl, hnode⟩
    · by_contra hnode
      exact h (.danglingEnd edge edge.target) ⟨hedge, .inr rfl, hnode⟩
  sided edge hedge hcondition := by
    rw [← hasSide_iff]
    by_contra hside
    exact h (.missingHandle edge) ⟨hedge, Bool.eq_false_iff.2 hside, hcondition⟩
  compiled n hn hregex := by
    refine (compiles_or_malformed (hcheckable n hn) hregex).resolve_right ?_
    rintro ⟨cause, hcause⟩
    exact h (.malformedPattern n cause) ⟨hn, hcause⟩

/-- Each part of being well formed rules out one kind of defect. -/
theorem WellFormed.no_defect (h : f.WellFormed) (d : Defect) : ¬ f.Has d := by
  cases d with
  | noTrigger => exact fun hd => triggers_eq_nil_iff.1 hd h.triggered
  | duplicateNode n =>
    rintro ⟨-, hcount⟩
    exact Nat.not_lt.2 (List.nodup_iff_count_le_one.1 h.distinct n.id) hcount
  | unknownKind n => exact fun ⟨hn, hkind⟩ => h.known n hn hkind
  | danglingEnd edge id =>
    rintro ⟨hedge, rfl | rfl, hnode⟩
    · exact hnode (h.connected edge hedge).1
    · exact hnode (h.connected edge hedge).2
  | missingHandle edge =>
    rintro ⟨hedge, hside, hcondition⟩
    rw [hasSide_iff.2 (h.sided edge hedge hcondition)] at hside
    cases hside
  | malformedPattern n cause =>
    rintro ⟨hn, hregex, hrefused, -⟩
    obtain ⟨p, hp⟩ := h.compiled n hn hregex
    rw [hp] at hrefused
    cases hrefused

theorem warnings_eq_nil_iff (hcheckable : ∀ n ∈ f.triggers, (Trigger.ofNode n f).Checkable)
    (h : f.warnings = .ok ws) : ws = [] ↔ f.WellFormed := by
  constructor
  · rintro rfl
    exact .of_no_defect hcheckable fun d hd => List.not_mem_nil ((mem_warnings_iff h).2 ⟨d, hd, rfl⟩)
  · intro hformed
    rw [List.eq_nil_iff_forall_not_mem]
    intro w hw
    obtain ⟨d, hd, -⟩ := (mem_warnings_iff h).1 hw
    exact hformed.no_defect d hd

/-! ## Ids that are used again -/

/-- Of the ids that were not met before, each has one use that is not reported. -/
theorem length_duplicates (before ids : List String) :
    (duplicates before ids).length + (ids.toFinset \ before.toFinset).card = ids.length := by
  induction ids generalizing before with
  | nil => simp [duplicates]
  | cons id ids ih =>
    rw [duplicates, List.toFinset_cons]
    by_cases hid : id ∈ before
    · rw [if_pos (List.contains_iff_mem.2 hid), Finset.insert_sdiff_of_mem _ (List.mem_toFinset.2 hid),
        List.length_cons, List.length_cons, ← ih before]
      omega
    · have hbefore : id ∉ before.toFinset := mt List.mem_toFinset.1 hid
      have hnew : insert id ids.toFinset \ before.toFinset =
          insert id (ids.toFinset \ (id :: before).toFinset) := by
        ext x
        by_cases hx : x = id <;> simp [hx, hid]
      rw [if_neg (by simpa using hid), hnew, Finset.card_insert_of_notMem (by simp), List.length_cons,
        ← ih (id :: before)]
      omega

/-- Does a warning report that an id is used again? -/
def reportsId (w : Warning) : Bool := w.code == "DUPLICATE_NODE_ID"

theorem reportsId_duplicateNode (id : String) : reportsId (.duplicateNode id) = true := rfl

/-- Only one check reports ids. -/
theorem countP_reportsId_others (h : f.triggers.mapM f.patternWarning = .ok patterns) :
    f.triggerWarnings.countP reportsId = 0 ∧ f.kindWarnings.countP reportsId = 0 ∧
      f.edgeWarnings.countP reportsId = 0 ∧ patterns.flatten.countP reportsId = 0 := by
  simp only [List.countP_eq_zero]
  refine ⟨fun w hw => ?_, fun w hw => ?_, fun w hw => ?_, fun w hw => ?_⟩
  · obtain ⟨-, rfl⟩ := mem_triggerWarnings_iff.1 hw
    exact Bool.false_ne_true
  · obtain ⟨n, -, -, rfl⟩ := mem_kindWarnings_iff.1 hw
    exact Bool.false_ne_true
  · obtain ⟨edge, -, hend | hhandle⟩ := mem_edgeWarnings_iff.1 hw
    · obtain ⟨id, -, -, rfl⟩ := mem_danglingEnds_iff.1 hend
      exact Bool.false_ne_true
    · obtain ⟨-, rfl⟩ := mem_handleWarnings_iff.1 hhandle
      exact Bool.false_ne_true
  · obtain ⟨n, -, cause, -, rfl⟩ := (mem_patternWarnings_iff h).1 hw
    exact Bool.false_ne_true

/-- As many ids are reported as there are nodes more than ids. -/
theorem countP_reportsId (h : f.warnings = .ok ws) :
    ws.countP reportsId = f.nodes.length - f.nodeIds.toFinset.card := by
  obtain ⟨patterns, hpatterns, rfl⟩ := warnings_eq_ok_iff.1 h
  obtain ⟨htrigger, hkind, hedge, hpattern⟩ := countP_reportsId_others hpatterns
  have hids : ((duplicates [] f.nodeIds).map Warning.duplicateNode).countP reportsId =
      (duplicates [] f.nodeIds).length := by
    rw [List.countP_eq_length.2, List.length_map]
    intro w hw
    obtain ⟨id, -, rfl⟩ := List.mem_map.1 hw
    exact reportsId_duplicateNode id
  have hlength : (duplicates [] f.nodeIds).length + f.nodeIds.toFinset.card = f.nodes.length := by
    simpa [nodeIds] using length_duplicates [] f.nodeIds
  simp only [List.countP_append, htrigger, hids, hkind, hedge, hpattern]
  omega

/-! ## Nodes and edges in another order -/

theorem perm_duplicates {ids ids' : List String} (h : ids.Perm ids') :
    (duplicates [] ids).Perm (duplicates [] ids') := by
  rw [List.perm_iff_count]
  intro id
  rw [count_duplicates, count_duplicates, h.count_eq]

/-- A check that comes to its end in one order does so in every other one. -/
theorem perm_mapM {α β ε : Type} {check : α → Except ε β} {xs xs' : List α} (hperm : xs.Perm xs') :
    ∀ {ys : List β}, xs.mapM check = .ok ys → ∃ ys', xs'.mapM check = .ok ys' ∧ ys'.Perm ys := by
  induction hperm with
  | nil => exact fun {ys} h => ⟨ys, h, .refl ys⟩
  | cons x _ ih =>
    intro ys h
    obtain ⟨y, rest, hx, hrest, rfl⟩ := mapM_cons_eq_ok_iff.1 h
    obtain ⟨rest', hrest', hsame⟩ := ih hrest
    exact ⟨y :: rest', mapM_cons_eq_ok_iff.2 ⟨y, rest', hx, hrest', rfl⟩, hsame.cons y⟩
  | swap x x' xs =>
    intro ys h
    obtain ⟨y', _, hx', hrest, rfl⟩ := mapM_cons_eq_ok_iff.1 h
    obtain ⟨y, rest, hx, hxs, rfl⟩ := mapM_cons_eq_ok_iff.1 hrest
    have hrest' := mapM_cons_eq_ok_iff.2 ⟨y', rest, hx', hxs, rfl⟩
    exact ⟨y :: y' :: rest, mapM_cons_eq_ok_iff.2 ⟨y, _, hx, hrest', rfl⟩, .swap y' y rest⟩
  | trans _ _ ih ih' =>
    intro ys h
    obtain ⟨middle, hmiddle, hsame⟩ := ih h
    obtain ⟨ys', hys', hsame'⟩ := ih' hmiddle
    exact ⟨ys', hys', hsame'.trans hsame⟩

/-- What is said of an edge depends on the nodes that there are, in whatever order. -/
theorem perm_edgeWarnings {nodes : List Node} {edges : List Edge} (hnodes : nodes.Perm f.nodes)
    (hedges : edges.Perm f.edges) :
    Flow.edgeWarnings { f with nodes, edges } |>.Perm f.edgeWarnings := by
  have hids (id : String) : (nodes.map Node.id).contains id = f.nodeIds.contains id :=
    (hnodes.map Node.id).contains_eq
  have hends (edge : Edge) : Flow.danglingEnds { f with nodes, edges } edge = f.danglingEnds edge := by
    simp only [danglingEnds, nodeIds, hids]
  have hhandle (edge : Edge) :
      Flow.handleWarnings { f with nodes, edges } edge = f.handleWarnings edge := by
    rw [handleWarnings, handleWarnings, hnodes.any_eq]
  simp only [edgeWarnings, hends, hhandle]
  exact hedges.flatMap_right _

/-- The check of a pattern sees neither nodes nor edges, but for the node that it looks at. -/
theorem patternWarning_with (f : Flow) (nodes : List Node) (edges : List Edge) :
    Flow.patternWarning { f with nodes, edges } = f.patternWarning := by
  have htrigger (n : Node) : Trigger.ofNode n { f with nodes, edges } = Trigger.ofNode n f := rfl
  funext n
  rw [patternWarning, patternWarning, htrigger]

/-- The warnings about a flow whose nodes and edges are put in another order are the same ones. -/
theorem warnings_of_perm (h : f.warnings = .ok ws) {nodes : List Node} {edges : List Edge}
    (hnodes : nodes.Perm f.nodes) (hedges : edges.Perm f.edges) :
    ∃ ws', Flow.warnings { f with nodes, edges } = .ok ws' ∧ ws'.Perm ws := by
  obtain ⟨patterns, hpatterns, rfl⟩ := warnings_eq_ok_iff.1 h
  have htriggers : (Flow.triggers { f with nodes, edges }).Perm f.triggers := hnodes.filter _
  obtain ⟨patterns', hpatterns', hsame⟩ := perm_mapM htriggers.symm hpatterns
  rw [← patternWarning_with f nodes edges] at hpatterns'
  refine ⟨_, warnings_eq_ok_iff.2 ⟨patterns', hpatterns', rfl⟩, ?_⟩
  have htrigger : Flow.triggerWarnings { f with nodes, edges } = f.triggerWarnings := by
    rw [triggerWarnings, triggerWarnings, htriggers.isEmpty_eq]
  rw [htrigger]
  exact ((((List.Perm.refl _).append ((perm_duplicates (hnodes.map _)).map _)).append
    (hnodes.filterMap _)).append (perm_edgeWarnings hnodes hedges)).append hsame.flatten

/-! ## All of it -/

/-- A flow whose patterns can be checked is warned of to the end. There is nothing to warn of exactly when
it is well formed; as many ids are reported as there are nodes more than ids; and the same warnings are given
whatever the order of the nodes and the edges. -/
theorem warnings_sound_and_complete (f : Flow)
    (hcheckable : ∀ n ∈ f.triggers, (Trigger.ofNode n f).Checkable) :
    ∃ ws, f.warnings = .ok ws ∧ (ws = [] ↔ f.WellFormed) ∧
      ws.countP reportsId = f.nodes.length - f.nodeIds.toFinset.card ∧
      ∀ nodes edges, nodes.Perm f.nodes → edges.Perm f.edges →
        ∃ ws', Flow.warnings { f with nodes, edges } = .ok ws' ∧ ws'.Perm ws := by
  obtain ⟨ws, hws⟩ := exists_warnings_iff.2 hcheckable
  exact ⟨ws, hws, warnings_eq_nil_iff hcheckable hws, countP_reportsId hws,
    fun _ _ => warnings_of_perm hws⟩

/-- A trigger whose pattern is malformed, three nodes under one id, and an edge from them to nowhere. -/
def tangled : Flow :=
  { (default : Flow) with
    id := "f1"
    nodes := rule "regex" "(oops" ::
      ["condition", "send_text", "send_text"].map fun kindName => ⟨"c", kindName, none, none, []⟩
    edges := [⟨"e1", "c", "x", none, none, []⟩] }

theorem warnings_of_tangled :
    (∀ n ∈ tangled.triggers, (Trigger.ofNode n tangled).Checkable) ∧
    ∃ ws, tangled.warnings = .ok ws ∧ ws ≠ [] ∧ ws.countP reportsId = 2 ∧
      ∃ ws', Flow.warnings { tangled with nodes := tangled.nodes.reverse } = .ok ws' ∧ ws'.Perm ws := by
  have hcheckable : ∀ n ∈ tangled.triggers, (Trigger.ofNode n tangled).Checkable := by
    intro n hn _ cause hcause
    obtain rfl : n = rule "regex" "(oops" := List.mem_singleton.1 hn
    have hmalformed : (Trigger.refusal? "(oops").all Pattern.Error.isMalformed = true := by
      decide +kernel
    rw [show Trigger.refusal? "(oops" = some cause from hcause] at hmalformed
    exact hmalformed
  obtain ⟨ws, hws, hformed, hcount, hsame⟩ := warnings_sound_and_complete tangled hcheckable
  have hids : ¬ tangled.nodeIds.Nodup := by decide
  exact ⟨hcheckable, ws, hws, fun hnone => hids (hformed.1 hnone).distinct, hcount,
    hsame _ _ (List.reverse_perm _) (.refl _)⟩

end ChatAutomation.Flow
