import ChatAutomation.Proofs.Trigger.Matching
import ChatAutomation.Proofs.Walk.Reachable
import ChatAutomation.Warning
import Mathlib.Data.List.Nodup

/-!
# Defects

A warning names a part of a flow by its id, which need not be unique. `Defect` is what a warning is
about: the flow, one of its nodes or one of its edges. The warnings about a flow are just those of its
defects, `mem_warnings_iff`, so a flow that has none has no defect. There are warnings to give exactly when
the patterns of the flow can be checked, `exists_warnings_iff`.
-/
namespace ChatAutomation

/-- What is wrong with a flow, and the part that it is wrong with. -/
inductive Defect where
  | noTrigger
  | duplicateNode (n : Node)
  | unknownKind (n : Node)
  | danglingEnd (edge : Edge) (id : String)
  | missingHandle (edge : Edge)
  | malformedPattern (n : Node) (cause : Pattern.Error)

/-- The warning that tells of a defect. -/
def Defect.warning (f : Flow) : Defect → Warning
  | noTrigger => .noTrigger f.name
  | duplicateNode n => .duplicateNode n.id
  | unknownKind n => .unknownKind n.id n.kindName
  | danglingEnd edge id => .danglingEdge edge.id id
  | missingHandle edge => .missingHandle edge.id edge.source
  | malformedPattern n cause =>
    .malformedPattern n.id (cause.message (Text.lower (Trigger.ofNode n f).value))

/-- The pattern of a trigger is malformed, for some cause. -/
structure Trigger.Malformed (t : Trigger) (cause : Pattern.Error) : Prop where
  isRegex : t.kindName = TriggerKind.regex.name
  refused : Trigger.pattern t.value = .error cause
  malformed : cause.isMalformed = true

/-- The pattern of a trigger is malformed if it is refused. -/
def Trigger.Checkable (t : Trigger) : Prop :=
  t.kindName = TriggerKind.regex.name → ∀ e, refusal? t.value = some e → e.isMalformed = true

namespace Flow
variable {f : Flow}

/-- What it means for a flow to have a defect: a part of the flow is wrong in the given way. -/
def Has (f : Flow) : Defect → Prop
  | .noTrigger => f.triggers = []
  | .duplicateNode n => n ∈ f.nodes ∧ 1 < f.nodeIds.count n.id
  | .unknownKind n => n ∈ f.nodes ∧ n.kind? = none
  | .danglingEnd edge id =>
    edge ∈ f.edges ∧ (id = edge.source ∨ id = edge.target) ∧ ¬ f.HasNode id
  | .missingHandle edge => edge ∈ f.edges ∧ hasSide edge = false ∧
      ∃ n ∈ f.nodes, n.isCondition = true ∧ n.id = edge.source
  | .malformedPattern n cause => n ∈ f.triggers ∧ (Trigger.ofNode n f).Malformed cause

/-! ## Each check -/

theorem mem_nodeIds_iff {id : String} : id ∈ f.nodeIds ↔ f.HasNode id := List.mem_map

theorem mem_triggerWarnings_iff {w : Warning} :
    w ∈ f.triggerWarnings ↔ f.triggers = [] ∧ .noTrigger f.name = w := by
  unfold triggerWarnings
  cases f.triggers with
  | nil => simp [eq_comm]
  | cons n ns => simp

/-- Every use of an id is a later one but the first, and that one too if the id was met before. -/
theorem count_duplicates (before ids : List String) (id : String) :
    (duplicates before ids).count id = ids.count id - if id ∈ before then 0 else 1 := by
  induction ids generalizing before with
  | nil => simp [duplicates]
  | cons head ids ih =>
    rw [duplicates]
    by_cases hhead : head ∈ before
    · rw [if_pos (List.contains_iff_mem.2 hhead), List.count_cons, List.count_cons, ih]
      by_cases hid : head = id
      · subst hid
        simp [hhead]
      · simp [hid]
    · rw [if_neg (by simpa using hhead), List.count_cons, ih]
      by_cases hid : head = id
      · subst hid
        simp [hhead]
      · simp [hid, Ne.symm hid]

/-- An id is used again if it was met before or stands twice in what follows. -/
theorem mem_duplicates_iff {before ids : List String} {id : String} :
    id ∈ duplicates before ids ↔ id ∈ before ∧ id ∈ ids ∨ 1 < ids.count id := by
  rw [← List.count_pos_iff, count_duplicates, ← List.count_pos_iff (l := ids)]
  by_cases hid : id ∈ before
  · rw [if_pos hid, Nat.sub_zero, and_iff_right hid]
    omega
  · rw [if_neg hid, Nat.sub_pos_iff_lt]
    simp [hid]

theorem mem_duplicateWarnings_iff {w : Warning} :
    w ∈ (duplicates [] f.nodeIds).map .duplicateNode ↔
      ∃ n ∈ f.nodes, 1 < f.nodeIds.count n.id ∧ .duplicateNode n.id = w := by
  simp only [List.mem_map, mem_duplicates_iff, List.not_mem_nil, false_and, false_or]
  constructor
  · rintro ⟨id, hcount, rfl⟩
    obtain ⟨n, hn, rfl⟩ := mem_nodeIds_iff.1 (List.count_pos_iff.1 (Nat.zero_lt_of_lt hcount))
    exact ⟨n, hn, hcount, rfl⟩
  · rintro ⟨n, -, hcount, rfl⟩
    exact ⟨n.id, hcount, rfl⟩

theorem mem_kindWarnings_iff {w : Warning} :
    w ∈ f.kindWarnings ↔ ∃ n ∈ f.nodes, n.kind? = none ∧ .unknownKind n.id n.kindName = w := by
  unfold kindWarnings
  rw [List.mem_filterMap]
  refine exists_congr fun n => and_congr_right fun _ => ?_
  cases n.kind? <;> simp

theorem mem_danglingEnds_iff {edge : Edge} {w : Warning} :
    w ∈ f.danglingEnds edge ↔ ∃ id, (id = edge.source ∨ id = edge.target) ∧ ¬ f.HasNode id ∧
      .danglingEdge edge.id id = w := by
  simp [danglingEnds, ← mem_nodeIds_iff, and_assoc]

theorem mem_handleWarnings_iff {edge : Edge} {w : Warning} :
    w ∈ f.handleWarnings edge ↔
      (hasSide edge = false ∧ ∃ n ∈ f.nodes, n.isCondition = true ∧ n.id = edge.source) ∧
        .missingHandle edge.id edge.source = w := by
  unfold handleWarnings
  have hreported : (f.nodes.any (fun n => n.isCondition && n.id == edge.source) &&
      !hasSide edge) = true ↔
      hasSide edge = false ∧ ∃ n ∈ f.nodes, n.isCondition = true ∧ n.id = edge.source := by
    simp [and_comm]
  rw [← hreported]
  split
  · rename_i h
    simp [h, eq_comm]
  · rename_i h
    simp [h]

theorem mem_edgeWarnings_iff {w : Warning} :
    w ∈ f.edgeWarnings ↔ ∃ edge ∈ f.edges, w ∈ f.danglingEnds edge ∨ w ∈ f.handleWarnings edge := by
  simp [edgeWarnings]

theorem patternWarning_of_malformed {n : Node} {cause : Pattern.Error}
    (h : (Trigger.ofNode n f).Malformed cause) :
    f.patternWarning n = .ok [(Defect.malformedPattern n cause).warning f] := by
  simp only [patternWarning, h.isRegex, if_true, h.refused, h.malformed, Defect.warning]

theorem exists_malformed_of_mem {n : Node} {ws : List Warning} (h : f.patternWarning n = .ok ws)
    {w : Warning} (hw : w ∈ ws) :
    ∃ cause, (Trigger.ofNode n f).Malformed cause ∧
      (Defect.malformedPattern n cause).warning f = w := by
  unfold patternWarning at h
  dsimp only at h
  split at h
  · rename_i hkind
    split at h
    · cases h
      cases hw
    · rename_i cause hpattern
      split at h
      · rename_i hmalformed
        cases h
        exact ⟨cause, ⟨hkind, hpattern, hmalformed⟩, (List.mem_singleton.1 hw).symm⟩
      · cases h
  · cases h
    cases hw

theorem mapM_cons_eq_ok_iff {α β ε : Type} {check : α → Except ε β} {x : α} {xs : List α} {ys : List β} :
    (x :: xs).mapM check = .ok ys ↔
      ∃ y rest, check x = .ok y ∧ xs.mapM check = .ok rest ∧ y :: rest = ys := by
  rw [List.mapM_cons]
  cases check x <;> cases xs.mapM check <;> simp [bind, Except.bind, pure, Except.pure]

theorem mem_iff_of_mapM {α β ε : Type} {check : α → Except ε β} {xs : List α} {ys : List β}
    (h : xs.mapM check = .ok ys) {y : β} : y ∈ ys ↔ ∃ x ∈ xs, check x = .ok y := by
  induction xs generalizing ys with
  | nil =>
    cases h
    simp
  | cons x xs ih =>
    obtain ⟨first, rest, hx, hxs, rfl⟩ := mapM_cons_eq_ok_iff.1 h
    simp [hx, ih hxs, eq_comm]

theorem exists_mapM_iff {α β ε : Type} {check : α → Except ε β} {xs : List α} :
    (∃ ys, xs.mapM check = .ok ys) ↔ ∀ x ∈ xs, ∃ y, check x = .ok y := by
  induction xs with
  | nil => simp [pure, Except.pure]
  | cons x xs ih =>
    rw [List.mapM_cons, List.forall_mem_cons, ← ih]
    cases check x <;> cases xs.mapM check <;> simp [bind, Except.bind, pure, Except.pure]

theorem exists_patternWarning_iff {n : Node} :
    (∃ ws, f.patternWarning n = .ok ws) ↔ (Trigger.ofNode n f).Checkable := by
  unfold patternWarning Trigger.Checkable Trigger.refusal?
  dsimp only
  by_cases hkind : (Trigger.ofNode n f).kindName = TriggerKind.regex.name
  · rw [if_pos hkind]
    cases Trigger.pattern (Trigger.ofNode n f).value with
    | ok p => simp
    | error e => by_cases he : e.isMalformed = true <;> simp [hkind, he]
  · rw [if_neg hkind]
    simp [hkind]

theorem mem_patternWarnings_iff {patterns : List (List Warning)}
    (h : f.triggers.mapM f.patternWarning = .ok patterns) {w : Warning} :
    w ∈ patterns.flatten ↔ ∃ n ∈ f.triggers, ∃ cause, (Trigger.ofNode n f).Malformed cause ∧
      (Defect.malformedPattern n cause).warning f = w := by
  rw [List.mem_flatten]
  constructor
  · rintro ⟨ws, hws, hw⟩
    obtain ⟨n, hn, hcheck⟩ := (mem_iff_of_mapM h).1 hws
    exact ⟨n, hn, exists_malformed_of_mem hcheck hw⟩
  · rintro ⟨n, hn, cause, hcause, rfl⟩
    exact ⟨_, (mem_iff_of_mapM h).2 ⟨n, hn, patternWarning_of_malformed hcause⟩,
      List.mem_singleton_self _⟩

/-! ## All checks -/

/-- The checks in their order; those of the patterns may come to no end. -/
theorem warnings_eq_ok_iff {ws : List Warning} : f.warnings = .ok ws ↔
    ∃ patterns, f.triggers.mapM f.patternWarning = .ok patterns ∧
      f.triggerWarnings ++ (duplicates [] f.nodeIds).map .duplicateNode ++ f.kindWarnings ++
        f.edgeWarnings ++ patterns.flatten = ws := by
  unfold warnings
  cases f.triggers.mapM f.patternWarning <;> simp [bind, Except.bind, pure, Except.pure]

/-- The warnings about a flow are those of its defects. -/
theorem mem_warnings_iff {ws : List Warning} (h : f.warnings = .ok ws) {w : Warning} :
    w ∈ ws ↔ ∃ d, f.Has d ∧ d.warning f = w := by
  obtain ⟨patterns, hpatterns, rfl⟩ := warnings_eq_ok_iff.1 h
  simp only [List.mem_append, mem_triggerWarnings_iff, mem_duplicateWarnings_iff,
    mem_kindWarnings_iff, mem_edgeWarnings_iff, mem_danglingEnds_iff, mem_handleWarnings_iff,
    mem_patternWarnings_iff hpatterns]
  constructor
  · rintro ((((⟨h, hw⟩ | ⟨n, hn, hcount, hw⟩) | ⟨n, hn, hkind, hw⟩) |
      ⟨edge, hedge, ⟨id, hend, hid, hw⟩ | ⟨hside, hw⟩⟩) | ⟨n, hn, cause, hcause, hw⟩)
    · exact ⟨.noTrigger, h, hw⟩
    · exact ⟨.duplicateNode n, ⟨hn, hcount⟩, hw⟩
    · exact ⟨.unknownKind n, ⟨hn, hkind⟩, hw⟩
    · exact ⟨.danglingEnd edge id, ⟨hedge, hend, hid⟩, hw⟩
    · exact ⟨.missingHandle edge, ⟨hedge, hside⟩, hw⟩
    · exact ⟨.malformedPattern n cause, ⟨hn, hcause⟩, hw⟩
  · rintro ⟨d, hd, hw⟩
    cases d with
    | noTrigger => exact .inl (.inl (.inl (.inl ⟨hd, hw⟩)))
    | duplicateNode n => exact .inl (.inl (.inl (.inr ⟨n, hd.1, hd.2, hw⟩)))
    | unknownKind n => exact .inl (.inl (.inr ⟨n, hd.1, hd.2, hw⟩))
    | danglingEnd edge id =>
      exact .inl (.inr ⟨edge, hd.1, .inl ⟨id, hd.2.1, hd.2.2, hw⟩⟩)
    | missingHandle edge => exact .inl (.inr ⟨edge, hd.1, .inr ⟨hd.2, hw⟩⟩)
    | malformedPattern n cause => exact .inr ⟨n, hd.1, cause, hd.2, hw⟩

/-- All checks come to their end exactly when the patterns of the triggers can be checked. -/
theorem exists_warnings_iff :
    (∃ ws, f.warnings = .ok ws) ↔ ∀ n ∈ f.triggers, (Trigger.ofNode n f).Checkable := by
  have hpatterns : (∃ ws, f.warnings = .ok ws) ↔
      ∃ patterns, f.triggers.mapM f.patternWarning = .ok patterns := by
    simp only [warnings_eq_ok_iff]
    exact ⟨fun ⟨_, patterns, h, _⟩ => ⟨patterns, h⟩, fun ⟨patterns, h⟩ => ⟨_, patterns, h, rfl⟩⟩
  rw [hpatterns, exists_mapM_iff]
  exact forall₂_congr fun n _ => exists_patternWarning_iff

end Flow
end ChatAutomation
