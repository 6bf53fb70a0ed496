import ChatAutomation.Automation
import ChatAutomation.Proofs.Trigger.Matching
import ChatAutomation.Proofs.Walk.Course
import ChatAutomation.Warning

/-!
# Where a matched flow starts

A match names the trigger that a message satisfies, and hands over its id as the start of the run. An
empty start stands for no start, so a trigger whose id is empty gives way to the first one of its flow:
`begins_at_match_iff`.
-/
namespace ChatAutomation

namespace Engine
variable {σ : Type}

/-- Where no id is used twice, a run that is started with the id of a trigger begins at that trigger,
unless the id is empty and the trigger is not the first one. -/
theorem head?_executed_trigger_iff {f : Flow} (hids : f.nodeIds.Nodup) {n : Node}
    (hn : n ∈ f.triggers) (e : Engine σ) (r : Run σ) :
    (e.executed f (some n.id) r).head? = some n ↔ n.id ≠ "" ∨ f.triggers.head? = some n := by
  have hmem : n ∈ f.nodes := List.mem_of_mem_filter hn
  rw [head?_executed_eq_iff hn, and_iff_left (Flow.node?_of_mem hids hmem)]
  by_cases hid : n.id = ""
  · rw [or_iff_right (not_not_intro hid), hid, Flow.entry?_empty, ← hid, Option.map_eq_some_iff]
    constructor
    · rintro ⟨first, hfirst, hsame⟩
      have hfirst' : first ∈ f.nodes := List.mem_of_mem_filter (List.mem_of_head? hfirst)
      rw [hfirst, List.inj_on_of_nodup_map hids hfirst' hmem hsame]
    · exact fun hfirst => ⟨n, hfirst, rfl⟩
  · exact iff_of_true (Flow.entry?_of_ne_empty hid f) (.inl hid)

end Engine

namespace Automation
variable {σ : Type}

/-- The trigger of a match holds, and the run that the match starts begins at that very trigger, unless
its id is empty and it is not the first trigger of its flow. -/
theorem begins_at_match_iff {fs : List Flow} (hids : ∀ f ∈ fs, f.nodeIds.Nodup) {m : Incoming}
    {hit : TriggerMatch} (h : Flow.firstMatch m fs = .ok (some hit)) (now : Timestamp) (e : Engine σ)
    (chat body : Value) (initial : Variables) (outside : σ) :
    (hit.flow ∈ fs ∧ hit.node ∈ hit.flow.triggers ∧ hit.trigger.holds m = .ok true) ∧
      let report := (execute now e hit.flow chat body (some hit.node.id) initial outside).1
      (report.nodes hit.flow).head? = some hit.node ↔
        hit.node.id ≠ "" ∨ hit.flow.triggers.head? = some hit.node := by
  obtain ⟨hcandidate, hholds⟩ := Flow.mem_candidates_of_firstMatch h
  obtain ⟨hflow, -, hnode⟩ := Flow.mem_candidates_iff.1 hcandidate
  exact ⟨⟨hflow, hnode, hholds⟩, Engine.head?_executed_trigger_iff (hids _ hflow) hnode e _⟩

/-- A trigger that any message satisfies. -/
def anyMessage (id : String) : Node :=
  ⟨id, "trigger", some [("trigger_type", .text "any_message")], none, []⟩

/-- A flow in which a trigger for any message stands behind one for media. -/
def reception (id : String) : Flow :=
  { (default : Flow) with
    id := "f1"
    nodes := [⟨"t", "trigger", some [("trigger_type", .text "media")], none, []⟩, anyMessage id]
    enabled := true }

theorem begins_at_second_trigger :
    Flow.firstMatch ⟨"oi", false, false⟩ [reception "u"] =
      .ok (some ⟨reception "u", anyMessage "u"⟩) ∧
    ((execute ⟨0, none⟩ Engine.idle (reception "u") (.text "jid") (.text "oi") (some "u") [] ()).1.nodes
      (reception "u")).head? = some (anyMessage "u") := by
  have hids : ∀ f ∈ [reception "u"], f.nodeIds.Nodup := by decide +kernel
  have hmatch : Flow.firstMatch ⟨"oi", false, false⟩ [reception "u"] =
      .ok (some ⟨reception "u", anyMessage "u"⟩) := rfl
  exact ⟨hmatch, (begins_at_match_iff hids hmatch ⟨0, none⟩ Engine.idle (.text "jid") (.text "oi") []
    ()).2.2 (.inl (by decide))⟩

/-- The trigger that a message satisfies has an empty id, and the run begins at another one. -/
theorem begins_elsewhere_of_empty_id :
    (reception "").nodeIds.Nodup ∧
    Flow.firstMatch ⟨"oi", false, false⟩ [reception ""] =
      .ok (some ⟨reception "", anyMessage ""⟩) ∧
    let report :=
      (execute ⟨0, none⟩ Engine.idle (reception "") (.text "jid") (.text "oi") (some "") [] ()).1
    report.visited = ["t"] ∧ (report.nodes (reception "")).head? ≠ some (anyMessage "") := by
  refine ⟨by decide +kernel, rfl, rfl, fun h => ?_⟩
  have hid : some "t" = some "" := congrArg (Option.map Node.id) h
  simp at hid

end Automation
end ChatAutomation
