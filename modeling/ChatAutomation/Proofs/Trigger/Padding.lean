import ChatAutomation.Proofs.Text.Caseless
import ChatAutomation.Trigger

/-!
# Blanks around a message

The message is put in lower case first and trimmed afterwards. Lower case looks at the neighbours of a
capital sigma, so blanks at the ends could in principle show in the middle of the text. They do not, since a
blank ends a word just as the end of the text does: it has no case, and a question about case does not skip it.
-/
namespace ChatAutomation

namespace Text

variable {front back cs : List Char} {c : Char}

/-! ## Blanks in lower case -/

theorem blanks_uncased : ∀ n ∈ within blankBoundaries,
    inBoundaries ignorableBoundaries n = false ∧ inBoundaries casedBoundaries n = false := by
  decide +kernel

theorem uncased_of_isBlank (h : isBlank c = true) : isCaseIgnorable c = false ∧ isCased c = false :=
  blanks_uncased _ (mem_within (by decide) h)

theorem lowerAfter_blanks_append (h : ∀ c ∈ front, isBlank c = true) (before cs : List Char) :
    lowerAfter before (front ++ cs) = front ++ lowerAfter (front.reverse ++ before) cs :=
  lowerAfter_append_of_caseless (fun c hc => caseless_of_isBlank (h c hc)) before cs

/-! ## Blanks and the neighbours of a sigma -/

/-- Behind a text, blanks give the same answer as its end. -/
theorem leadsCased_append_blanks (h : ∀ c ∈ back, isBlank c = true) (cs : List Char) :
    leadsCased (cs ++ back) = leadsCased cs := by
  induction cs with
  | nil =>
    cases back with
    | nil => rfl
    | cons c back =>
      -- the first blank settles the question: it is not skipped, and it has no case
      obtain ⟨hskipped, hcased⟩ := uncased_of_isBlank (h c List.mem_cons_self)
      simp [leadsCased, hskipped, hcased]
  | cons c cs ih =>
    by_cases hskipped : isCaseIgnorable c = true
    · simpa [leadsCased, hskipped] using ih
    · simp [leadsCased, hskipped]

theorem lowerAt_padded (hfront : ∀ c ∈ front, isBlank c = true) (hback : ∀ c ∈ back, isBlank c = true)
    (before : List Char) (c : Char) (after : List Char) :
    lowerAt (before ++ front) c (after ++ back) = lowerAt before c after := by
  simp only [lowerAt, lowerSigma, leadsCased_append_blanks hfront, leadsCased_append_blanks hback]

theorem lowerAfter_padded (hfront : ∀ c ∈ front, isBlank c = true)
    (hback : ∀ c ∈ back, isBlank c = true) (before cs : List Char) :
    lowerAfter (before ++ front) (cs ++ back) = lowerAfter before cs ++ back := by
  -- what was passed is kept nearest first, so the blanks in front of the text stand behind all of it
  induction cs generalizing before with
  | nil => simpa [lowerAfter] using lowerAfter_blanks_append hback (before ++ front) []
  | cons c cs ih =>
    rw [List.cons_append, lowerAfter_cons, lowerAfter_cons, lowerAt_padded hfront hback,
      ← List.cons_append, ih, List.append_assoc]

/-- Lower case leaves blanks at the ends of a text as they are, and what stands between them does not see
them. -/
theorem lowerList_padded (hfront : ∀ c ∈ front, isBlank c = true)
    (hback : ∀ c ∈ back, isBlank c = true) (cs : List Char) :
    lowerList (front ++ cs ++ back) = front ++ lowerList cs ++ back := by
  have hreverse : ∀ c ∈ front.reverse, isBlank c = true := fun c hc => hfront c (List.mem_reverse.1 hc)
  rw [lowerList, List.append_assoc, lowerAfter_blanks_append hfront, List.append_nil,
    ← List.nil_append front.reverse, lowerAfter_padded hreverse hback, List.append_assoc, lowerList]

end Text

namespace Trigger

theorem subject_padded {front back : String} (hfront : ∀ c ∈ front.toList, Text.isBlank c = true)
    (hback : ∀ c ∈ back.toList, Text.isBlank c = true) (body : String) :
    subject (front ++ body ++ back) = subject body := by
  simp only [subject, Text.trim, Text.lower, String.toList_ofList, String.toList_append,
    Text.lowerList_padded hfront hback, Text.trimList_padded hfront hback]

/-- A trigger sees the body of a message through its subject only. -/
theorem holds_eq_of_subject_eq {body body' : String} (h : subject body = subject body') (t : Trigger)
    (isFirst hasMedia : Bool) :
    t.holds ⟨body, isFirst, hasMedia⟩ = t.holds ⟨body', isFirst, hasMedia⟩ := by
  simp only [holds, h]

theorem startsWith_of_exact {value : String} {m : Incoming}
    (h : (⟨TriggerKind.exact.name, value⟩ : Trigger).holds m = .ok true) :
    (⟨TriggerKind.startsWith.name, value⟩ : Trigger).holds m = .ok true := by
  change Except.ok (subject m.body == Text.lower value) = _ at h
  change Except.ok (Text.beginsWith (subject m.body) (Text.lower value)) = _
  rw [beq_iff_eq.1 (Except.ok.inj h), Text.beginsWith_iff.2 (List.prefix_refl _)]

theorem keyword_of_startsWith {value : String} {m : Incoming}
    (h : (⟨TriggerKind.startsWith.name, value⟩ : Trigger).holds m = .ok true) :
    (⟨TriggerKind.keyword.name, value⟩ : Trigger).holds m = .ok true := by
  change Except.ok (Text.beginsWith (subject m.body) (Text.lower value)) = _ at h
  change Except.ok (Text.contains (subject m.body) (Text.lower value)) = _
  rw [Text.contains_of_beginsWith (Except.ok.inj h)]

/-- Blanks around a message change the answer of no rule, whatever its kind and value. What a rule for an
exact text accepts, one for a beginning accepts, and what that one accepts, one for a keyword does. -/
theorem holds_padded_and_nested (body : String) (isFirst hasMedia : Bool) :
    (∀ front back : String, (∀ c ∈ front.toList, Text.isBlank c = true) →
      (∀ c ∈ back.toList, Text.isBlank c = true) → ∀ t : Trigger,
        t.holds ⟨front ++ body ++ back, isFirst, hasMedia⟩ = t.holds ⟨body, isFirst, hasMedia⟩) ∧
    ∀ value : String,
      let fires := fun k : TriggerKind =>
        (⟨k.name, value⟩ : Trigger).holds ⟨body, isFirst, hasMedia⟩ = .ok true
      (fires .exact → fires .startsWith) ∧ (fires .startsWith → fires .keyword) :=
  ⟨fun _ _ hfront hback t => holds_eq_of_subject_eq (subject_padded hfront hback body) t isFirst hasMedia,
    fun _ => ⟨startsWith_of_exact, keyword_of_startsWith⟩⟩

/-- A word that ends in a capital sigma, between blanks of two kinds: it has the final form still, and all
three comparisons accept it. -/
theorem holds_padded_and_nested_final_sigma :
    (∀ c ∈ "\u00a0\n".toList, Text.isBlank c = true) ∧ (∀ c ∈ "\u3000".toList, Text.isBlank c = true) ∧
    (∀ k ∈ [TriggerKind.exact, .startsWith, .keyword],
      (⟨k.name, "ΟΔΟΣ"⟩ : Trigger).holds ⟨"\u00a0\n" ++ "ΟΔΟΣ" ++ "\u3000", false, false⟩ = .ok true) := by
  have hfront : "\u00a0\n".toList.all Text.isBlank = true := by decide +kernel
  have hback : "\u3000".toList.all Text.isBlank = true := by decide +kernel
  rw [List.all_eq_true] at hfront hback
  obtain ⟨hpadded, hnested⟩ := holds_padded_and_nested "ΟΔΟΣ" false false
  have hexact : (⟨TriggerKind.exact.name, "ΟΔΟΣ"⟩ : Trigger).holds ⟨"ΟΔΟΣ", false, false⟩ = .ok true := by
    decide +kernel
  obtain ⟨hstarts, hkeyword⟩ := hnested "ΟΔΟΣ"
  refine ⟨hfront, hback, fun k hk => ?_⟩
  rw [hpadded _ _ hfront hback]
  simp only [List.mem_cons, List.not_mem_nil, or_false] at hk
  rcases hk with rfl | rfl | rfl
  · exact hexact
  · exact hstarts hexact
  · exact hkeyword (hstarts hexact)

end Trigger
end ChatAutomation
