import ChatAutomation.Proofs.Text.LowerCase
import ChatAutomation.Trigger

/-!
# Does a trigger fire on its own text?

The message is trimmed and the value of a trigger is not, so a value with a blank at an end finds
itself in no message that consists of it. All three comparisons of texts agree on that: a trimmed
text contains the text it was trimmed from only if nothing was cut off.
-/
namespace ChatAutomation

namespace Text

/-- Cutting blanks off leaves a text that contains the whole one only if there were none. -/
theorem trimList_eq_self_of_isInfix {cs : List Char} (h : cs <:+: trimList cs) : trimList cs = cs :=
  (isInfix_trimList cs).eq_of_length (Nat.le_antisymm (isInfix_trimList cs).length_le h.length_le)

theorem contains_trim_iff {s : String} : contains (trim s) s = true ↔ trim s = s := by
  constructor
  · intro h
    rw [contains_iff, trim, String.toList_ofList] at h
    exact trim_eq_self_iff.2 (trimList_eq_self_of_isInfix h)
  · intro h
    rw [h]
    exact contains_iff.2 (List.infix_refl _)

theorem beginsWith_trim_iff {s : String} : beginsWith (trim s) s = true ↔ trim s = s := by
  constructor
  · exact fun h => contains_trim_iff.1 (contains_of_beginsWith h)
  · intro h
    rw [h]
    exact beginsWith_iff.2 (List.prefix_refl _)

end Text

namespace Trigger

/-- A rule that compares texts fires on its own value if the value is trimmed already. -/
theorem holds_value_iff {k : TriggerKind} (hk : k ∈ [.exact, .startsWith, .keyword])
    {value : String} (isFirst hasMedia : Bool) :
    (⟨k.name, value⟩ : Trigger).holds ⟨value, isFirst, hasMedia⟩ = .ok true ↔
      Text.trim value = value := by
  rw [← Text.trim_lower_eq_self_iff]
  simp only [List.mem_cons, List.not_mem_nil, or_false] at hk
  rcases hk with rfl | rfl | rfl
  · change Except.ok (subject value == Text.lower value) = _ ↔ _
    rw [Except.ok.injEq, beq_iff_eq, subject]
  · change Except.ok (Text.beginsWith (subject value) (Text.lower value)) = _ ↔ _
    rw [Except.ok.injEq, subject, Text.beginsWith_trim_iff]
  · change Except.ok (Text.contains (subject value) (Text.lower value)) = _ ↔ _
    rw [Except.ok.injEq, subject, Text.contains_trim_iff]

/-- The rules for an exact text, a beginning and a keyword fire on a message that consists of their
own value exactly if the value neither begins nor ends in a blank. -/
theorem fires_on_own_text_iff (value : String) (isFirst hasMedia : Bool) :
    let fires := fun k : TriggerKind =>
      (⟨k.name, value⟩ : Trigger).holds ⟨value, isFirst, hasMedia⟩ = .ok true
    (fires .exact ↔ Text.trim value = value) ∧ (fires .startsWith ↔ Text.trim value = value) ∧
      (fires .keyword ↔ Text.trim value = value) :=
  ⟨holds_value_iff (by simp) .., holds_value_iff (by simp) .., holds_value_iff (by simp) ..⟩

/-- A blank in front of the value is cut off the message and not off the value. -/
theorem not_fires_on_own_blank :
    (⟨TriggerKind.exact.name, " oi"⟩ : Trigger).holds ⟨" oi", false, false⟩ ≠ .ok true ∧
    (⟨TriggerKind.startsWith.name, " oi"⟩ : Trigger).holds ⟨" oi", false, false⟩ ≠ .ok true ∧
    (⟨TriggerKind.keyword.name, " oi"⟩ : Trigger).holds ⟨" oi", false, false⟩ ≠ .ok true := by
  have hends : Text.trim " oi" ≠ " oi" := by
    intro htrim
    have hblank : Text.isBlank ' ' = true := by decide +kernel
    have hfirst := (Text.trimList_eq_self_iff.1 (Text.trim_eq_self_iff.1 htrim)).1
    exact hfirst (by simp [hblank])
  exact ⟨mt (holds_value_iff (by simp) _ _).1 hends, mt (holds_value_iff (by simp) _ _).1 hends,
    mt (holds_value_iff (by simp) _ _).1 hends⟩

end Trigger
end ChatAutomation
