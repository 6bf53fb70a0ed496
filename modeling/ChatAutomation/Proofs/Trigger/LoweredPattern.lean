import ChatAutomation.Proofs.Pattern.LowerForm
import ChatAutomation.Trigger

/-!
# The pattern of a rule in lower case

A rule for a pattern lower-cases the pattern before it reads it. That can change what the pattern means: behind
a backslash the case of a letter carries the meaning. What the rule answers is what the pattern as written
would have answered as long as the pattern outlasts lower case, which is a matter of its letters and escapes,
and of nothing in the message.
-/
namespace ChatAutomation
namespace Trigger

open Pattern (Letter OutlastsLowerCase Re SetItem Symbol)

/-- What triggers compare a message with is in lower case. -/
theorem simpleLower_of_mem_subject {body : String} {c : Char} (h : c ∈ (subject body).toList) :
    Text.simpleLower c = c := by
  rw [subject, Text.trim, String.toList_ofList, Text.lower, String.toList_ofList] at h
  exact Text.simpleLower_of_mem_lowerAfter ((Text.isInfix_trimList _).subset h)

/-- A rule for a pattern that outlasts lower case finds in every message what the pattern as it was written
would find there without regard to case. -/
theorem regex_holds_as_written {value : String} {p q : Pattern.Compiled}
    (hp : Pattern.compile true value = .ok p) (hq : pattern value = .ok q)
    (houtlasts : OutlastsLowerCase value p q) (m : Incoming) :
    ∃ found, p.search (subject m.body) = .ok found ∧
      (⟨TriggerKind.regex.name, value⟩ : Trigger).holds m = .ok found := by
  obtain ⟨found, hwritten, hlowered⟩ :=
    houtlasts.search_eq hp hq fun _ hc => simpleLower_of_mem_subject hc
  refine ⟨found, hwritten, ?_⟩
  change patternOccurs value (subject m.body) = _
  simp only [patternOccurs, hq, hlowered]
  rfl

/-- The number of an order, in capital letters: the pattern outlasts lower case, and its rule fires. -/
theorem regex_holds_as_written_order : ∃ p q,
    Pattern.compile true "^PEDIDO\\s[A-Z]\\d+$" = .ok p ∧ pattern "^PEDIDO\\s[A-Z]\\d+$" = .ok q ∧
      OutlastsLowerCase "^PEDIDO\\s[A-Z]\\d+$" p q ∧ p.search (subject " Pedido A12") = .ok true ∧
      (⟨TriggerKind.regex.name, "^PEDIDO\\s[A-Z]\\d+$"⟩ : Trigger).holds ⟨" Pedido A12", false, false⟩ =
        .ok true := by
  let one (c : Char) : Re := Pattern.Parse.oneOf { ignoreCase := true } c.toNat
  let among (i : SetItem) : Re := Pattern.Parse.letter { ignoreCase := true } (.among false [i])
  let order (word : List Char) (first last : Nat) : Pattern.Compiled :=
    ⟨.sequence (.anchor .textStart :: word.map one ++ [among (.category .space false),
      among (.span first last), .loop .greedy 1 none (.sequence [among (.category .digit false)]),
      .anchor .lastLineEnd]), 0⟩
  have hp : Pattern.compile true "^PEDIDO\\s[A-Z]\\d+$" = .ok (order "PEDIDO".toList 65 90) := by
    decide +kernel
  have hq : pattern "^PEDIDO\\s[A-Z]\\d+$" = .ok (order "pedido".toList 97 122) := by
    decide +kernel
  have houtlasts : OutlastsLowerCase "^PEDIDO\\s[A-Z]\\d+$" (order "PEDIDO".toList 65 90)
      (order "pedido".toList 97 122) := by
    refine ⟨by decide +kernel, by decide +kernel, ?_, ?_, by decide +kernel, by decide +kernel⟩
    · have hletters : (order "PEDIDO".toList 65 90).re.letters =
          ("PEDIDO".toList.map fun c => .ofSymbol true false (.one false c.toNat)) ++
            [SetItem.category .space false, .span 65 90, .category .digit false].map
              (.ofSymbol true false <| .among false [·]) := rfl
      rw [hletters]
      simp only [List.forall_mem_append, List.forall_mem_map, List.forall_mem_cons]
      have hbasic : ("PEDIDO".toList.all fun c => c.toNat < Pattern.upperPlanes) = true := by decide +kernel
      exact ⟨fun c hc => Letter.isSteady_one (of_decide_eq_true (List.all_eq_true.1 hbasic c hc)) false,
        Letter.isSteady_category _ _ _,
        Letter.isSteady_capitals (by decide) (by decide) (by decide) false, Letter.isSteady_category _ _ _,
        by simp⟩
    · decide +kernel
  obtain ⟨found, hwritten, hholds⟩ := regex_holds_as_written hp hq houtlasts ⟨" Pedido A12", false, false⟩
  have hfound : (order "PEDIDO".toList 65 90).search (subject " Pedido A12") = .ok true := by
    decide +kernel
  have htrue : found = true := Except.ok.inj (hwritten.symm.trans hfound)
  exact ⟨_, _, hp, hq, houtlasts, hfound, htrue ▸ hholds⟩

/-- What is no blank is a blank in lower case. -/
theorem not_regex_holds_as_written :
    (∃ p, Pattern.compile true "^\\S+$" = .ok p ∧ p.search (subject "oi") = .ok true) ∧
      (⟨TriggerKind.regex.name, "^\\S+$"⟩ : Trigger).holds ⟨"oi", false, false⟩ = .ok false := by
  refine ⟨⟨⟨.sequence [.anchor .textStart, .loop .greedy 1 none (.sequence
    [Pattern.Parse.letter { ignoreCase := true } (.among false [.category .space true])]),
    .anchor .lastLineEnd], 0⟩, ?_, ?_⟩, ?_⟩ <;> decide +kernel

end Trigger
end ChatAutomation
