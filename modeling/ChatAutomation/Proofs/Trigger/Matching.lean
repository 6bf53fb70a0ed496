import ChatAutomation.Trigger

/-!
# Matching looks at one trigger after the other

A message is matched against the triggers of the flows that are switched on, in their order. A
pattern that is refused, for whatever reason, should be as one that occurs nowhere: `expected?` is
the match by that rule. `firstMatch_answers_iff` says when matching gives it. Only errors of syntax
are made up for; any other refusal of a pattern ends the matching, and the triggers behind it are
not looked at.
-/
namespace ChatAutomation

theorem Pattern.Compiled.eq_wrongSpan_of_search {p : Pattern.Compiled} {text : String}
    {e : Pattern.Error} (h : p.search text = .error e) : e = .wrongSpan := by
  unfold search at h
  extract_lets t at h
  split at h
  · cases h
  · split at h
    · cases h
    · split at h
      · exact (Except.error.inj h).symm
      · cases h

/-! ## One trigger -/

namespace Trigger

/-- Why a pattern is refused. -/
def refusal? (value : String) : Option Pattern.Error :=
  match pattern value with
  | .ok _ => none
  | .error e => some e

/-- The pattern is refused for another reason than its syntax, or the search for it fails. -/
inductive Faults (t : Trigger) (m : Incoming) : Pattern.Error → Prop
  | refused {e : Pattern.Error} (hkind : t.kind? = some .regex)
      (hrefusal : refusal? t.value = some e) (he : e.isMalformed = false) : Faults t m e
  | lost {p : Pattern.Compiled} (hkind : t.kind? = some .regex) (hpattern : pattern t.value = .ok p)
      (hsearch : p.search (subject m.body) = .error .wrongSpan) : Faults t m .wrongSpan

theorem mapError_eq_error_iff {r : Except Pattern.Error Bool} {x : Fault} :
    r.mapError .badPattern = .error x ↔ ∃ e, x = .badPattern e ∧ r = .error e := by
  cases r with
  | ok b =>
    constructor
    · intro h
      cases h
    · rintro ⟨e, -, h⟩
      cases h
  | error e =>
    constructor
    · intro h
      exact ⟨e, (Except.error.inj h).symm, rfl⟩
    · rintro ⟨e', rfl, h⟩
      rw [Except.error.inj h]
      rfl

theorem patternOccurs_eq_error_iff {value text : String} {x : Fault} :
    patternOccurs value text = .error x ↔ ∃ e, x = .badPattern e ∧
      ((refusal? value = some e ∧ e.isMalformed = false) ∨
        ∃ p, pattern value = .ok p ∧ p.search text = .error e) := by
  unfold patternOccurs refusal?
  cases pattern value with
  | ok p => simp [mapError_eq_error_iff]
  | error e =>
    by_cases he : e.isMalformed = true
    · simp only [he, if_true]
      constructor
      · intro h
        cases h
      · rintro ⟨e', -, ⟨h, he'⟩ | ⟨p, h, -⟩⟩
        · rw [← Option.some.inj h, he] at he'
          cases he'
        · cases h
    · simp only [he, Bool.false_eq_true, if_false]
      constructor
      · intro h
        exact ⟨e, (Except.error.inj h).symm, .inl ⟨rfl, Bool.not_eq_true _ ▸ he⟩⟩
      · rintro ⟨e', rfl, ⟨h, -⟩ | ⟨p, h, -⟩⟩
        · rw [Option.some.inj h]
        · cases h

theorem holds_eq_error_iff {t : Trigger} {m : Incoming} {x : Fault} :
    t.holds m = .error x ↔ ∃ e, x = .badPattern e ∧ t.Faults m e := by
  constructor
  · intro h
    unfold holds at h
    cases hkind : t.kind? with
    | none => simp [hkind] at h
    | some k =>
      cases k with
      | regex =>
        simp only [hkind] at h
        obtain ⟨e, rfl, ⟨hrefusal, he⟩ | ⟨p, hpattern, hsearch⟩⟩ := patternOccurs_eq_error_iff.1 h
        · exact ⟨e, rfl, .refused hkind hrefusal he⟩
        · obtain rfl := Pattern.Compiled.eq_wrongSpan_of_search hsearch
          exact ⟨_, rfl, .lost hkind hpattern hsearch⟩
      | _ => simp [hkind] at h
  · rintro ⟨e, rfl, hfault⟩
    cases hfault with
    | refused hkind hrefusal he =>
      have hoccurs : patternOccurs t.value (subject m.body) = _ :=
        patternOccurs_eq_error_iff.2 ⟨e, rfl, .inl ⟨hrefusal, he⟩⟩
      simpa [holds, hkind] using hoccurs
    | lost hkind hpattern hsearch =>
      have hoccurs := patternOccurs_eq_error_iff.2 ⟨_, rfl, .inr ⟨_, hpattern, hsearch⟩⟩
      simpa [holds, hkind] using hoccurs

/-- Does a message satisfy the trigger, if a pattern that is refused occurs nowhere? -/
def admits (t : Trigger) (m : Incoming) : Bool :=
  match t.holds m with
  | .ok b => b
  | .error _ => false

/-- The trigger either answers or faults. -/
theorem holds_cases (t : Trigger) (m : Incoming) :
    (t.holds m = .ok (t.admits m) ∧ ∀ e, ¬ t.Faults m e) ∨
      ∃ e, t.holds m = .error (.badPattern e) ∧ t.Faults m e ∧ t.admits m = false := by
  cases h : t.holds m with
  | ok b =>
    refine .inl ⟨by simp [admits, h], fun e hfault => ?_⟩
    have herror := holds_eq_error_iff.2 ⟨e, rfl, hfault⟩
    rw [h] at herror
    cases herror
  | error x =>
    obtain ⟨e, rfl, hfault⟩ := holds_eq_error_iff.1 h
    exact .inr ⟨e, rfl, hfault, by simp [admits, h]⟩

theorem holds_of_admits {t : Trigger} {m : Incoming} (h : t.admits m = true) :
    t.holds m = .ok true := by
  rcases t.holds_cases m with ⟨hholds, -⟩ | ⟨_, -, -, hrefused⟩
  · rw [hholds, h]
  · rw [hrefused] at h
    cases h

end Trigger

/-! ## All triggers of the flows -/

namespace TriggerMatch

/-- The first of some candidates whose trigger holds. -/
def first (m : Incoming) : List TriggerMatch → Except Fault (Option TriggerMatch)
  | [] => .ok none
  | c :: cs => do if ← c.trigger.holds m then return some c else first m cs

/-- The candidates that are looked at in vain before one is admitted, or all if none is. -/
def passed (m : Incoming) (cs : List TriggerMatch) : List TriggerMatch :=
  cs.takeWhile fun c => !c.trigger.admits m

def expected? (m : Incoming) (cs : List TriggerMatch) : Option TriggerMatch :=
  cs.find? fun c => c.trigger.admits m

theorem first_append (m : Incoming) (cs ds : List TriggerMatch) :
    first m (cs ++ ds) = (first m cs >>= fun
      | some hit => .ok (some hit)
      | none => first m ds) := by
  induction cs with
  | nil => rfl
  | cons c cs ih =>
    rw [List.cons_append, first, first, ih]
    cases c.trigger.holds m with
    | error x => rfl
    | ok b => cases b <;> rfl

/-- Looking at the candidates ends with the expected one, or with a fault of one before it. -/
theorem first_cases (m : Incoming) (cs : List TriggerMatch) :
    (first m cs = .ok (expected? m cs) ∧ ∀ c ∈ passed m cs, ∀ e, ¬ c.trigger.Faults m e) ∨
      ∃ e, first m cs = .error (.badPattern e) ∧ ∃ c ∈ passed m cs, c.trigger.Faults m e := by
  induction cs with
  | nil => exact .inl ⟨rfl, by simp [passed]⟩
  | cons c cs ih =>
    rcases c.trigger.holds_cases m with ⟨hholds, hsound⟩ | ⟨e, hholds, hfault, hadmits⟩
    · cases hadmits : c.trigger.admits m with
      | true =>
        rw [hadmits] at hholds
        refine .inl ⟨?_, by simp [passed, hadmits]⟩
        simp only [first, hholds, expected?, List.find?_cons, hadmits]
        rfl
      | false =>
        rw [hadmits] at hholds
        have hfirst : first m (c :: cs) = first m cs := by
          simp only [first, hholds]
          rfl
        have hexpected : expected? m (c :: cs) = expected? m cs := by simp [expected?, hadmits]
        have hpassed : passed m (c :: cs) = c :: passed m cs := by simp [passed, hadmits]
        rw [hfirst, hexpected, hpassed]
        rcases ih with ⟨hrest, hsoundRest⟩ | ⟨e, hrest, d, hd, hfault⟩
        · exact .inl ⟨hrest, List.forall_mem_cons.2 ⟨hsound, hsoundRest⟩⟩
        · exact .inr ⟨e, hrest, d, List.mem_cons_of_mem _ hd, hfault⟩
    · have hpassed : passed m (c :: cs) = c :: passed m cs := by simp [passed, hadmits]
      refine .inr ⟨e, ?_, c, ?_, hfault⟩
      · simp only [first, hholds]
        rfl
      · rw [hpassed]
        exact List.mem_cons_self

end TriggerMatch

namespace Flow

/-- The triggers of the flows that are switched on, in their order. -/
def candidates (fs : List Flow) : List TriggerMatch :=
  fs.flatMap fun f => if f.enabled then f.triggers.map (TriggerMatch.mk f) else []

theorem firstHolding_eq_first (f : Flow) (m : Incoming) (ns : List Node) :
    f.firstHolding m ns = TriggerMatch.first m (ns.map (TriggerMatch.mk f)) := by
  induction ns with
  | nil => rfl
  | cons n ns ih =>
    rw [firstHolding, List.map_cons, TriggerMatch.first, ih]
    rfl

theorem firstMatch_eq_first (m : Incoming) (fs : List Flow) :
    firstMatch m fs = TriggerMatch.first m (candidates fs) := by
  induction fs with
  | nil => rfl
  | cons f fs ih =>
    have hmatch : f.match? m =
        TriggerMatch.first m (if f.enabled then f.triggers.map (TriggerMatch.mk f) else []) := by
      unfold match?
      split
      · exact firstHolding_eq_first f m f.triggers
      · rfl
    rw [firstMatch, hmatch, candidates, List.flatMap_cons, TriggerMatch.first_append, ih]
    rfl

theorem mem_candidates_iff {fs : List Flow} {c : TriggerMatch} :
    c ∈ candidates fs ↔ c.flow ∈ fs ∧ c.flow.enabled = true ∧ c.node ∈ c.flow.triggers := by
  rw [candidates, List.mem_flatMap]
  constructor
  · rintro ⟨f, hf, hc⟩
    split at hc
    · rename_i henabled
      obtain ⟨n, hn, rfl⟩ := List.mem_map.1 hc
      exact ⟨hf, henabled, hn⟩
    · cases hc
  · rintro ⟨hf, henabled, hn⟩
    refine ⟨c.flow, hf, ?_⟩
    rw [if_pos henabled]
    exact List.mem_map.2 ⟨c.node, hn, rfl⟩

/-- A match is that of one of the candidates, whose trigger holds. -/
theorem mem_candidates_of_firstMatch {m : Incoming} {fs : List Flow} {hit : TriggerMatch}
    (h : firstMatch m fs = .ok (some hit)) :
    hit ∈ candidates fs ∧ hit.trigger.holds m = .ok true := by
  rw [firstMatch_eq_first] at h
  rcases TriggerMatch.first_cases m (candidates fs) with ⟨hfirst, -⟩ | ⟨_, hfirst, -⟩
  · rw [hfirst] at h
    have hfound : (candidates fs).find? (fun c => c.trigger.admits m) = some hit := Except.ok.inj h
    have hadmits := List.find?_some hfound
    exact ⟨List.mem_of_find?_eq_some hfound, Trigger.holds_of_admits hadmits⟩
  · rw [hfirst] at h
    cases h

/-- Matching gives the expected answer exactly when no trigger faults that is looked at, and fails
exactly when one does. -/
theorem firstMatch_answers_iff (m : Incoming) (fs : List Flow) :
    (firstMatch m fs = .ok (TriggerMatch.expected? m (candidates fs)) ↔
        ∀ c ∈ TriggerMatch.passed m (candidates fs), ∀ e, ¬ c.trigger.Faults m e) ∧
      ((∃ x, firstMatch m fs = .error x) ↔
        ∃ c ∈ TriggerMatch.passed m (candidates fs), ∃ e, c.trigger.Faults m e) := by
  rw [firstMatch_eq_first]
  rcases TriggerMatch.first_cases m (candidates fs) with ⟨hfirst, hsound⟩ | ⟨e, hfirst, c, hc, hfault⟩
  · refine ⟨iff_of_true hfirst hsound, iff_of_false ?_ ?_⟩
    · rintro ⟨x, hx⟩
      rw [hfirst] at hx
      cases hx
    · rintro ⟨c, hc, e, hfault⟩
      exact hsound c hc e hfault
  · refine ⟨iff_of_false ?_ fun h => h c hc e hfault, iff_of_true ⟨_, hfirst⟩ ⟨c, hc, e, hfault⟩⟩
    rw [hfirst]
    exact fun h => by cases h

def rule (kindName value : String) : Node :=
  ⟨"t", "trigger", some [("trigger_type", .text kindName), ("trigger_value", .text value)], none, []⟩

/-- A flow that is switched on and has one trigger. -/
def watching (id kindName value : String) : Flow :=
  { (default : Flow) with id, nodes := [rule kindName value], enabled := true }

def counting : Flow := watching "f1" "regex" "a{4294967295}"

def welcoming : Flow := watching "f2" "any_message" ""

theorem holds_counting (m : Incoming) :
    (Trigger.mk "regex" "a{4294967295}").holds m = .error (.badPattern .hugeRepetition) := by
  have hrefusal : Trigger.refusal? "a{4294967295}" = some .hugeRepetition := by decide +kernel
  exact Trigger.holds_eq_error_iff.2 ⟨_, rfl, .refused rfl hrefusal rfl⟩

/-- A repetition that is too large keeps a message from the flow behind it, which any message
starts. -/
theorem later_flow_lost_by_huge_repetition :
    firstMatch ⟨"a", false, false⟩ [counting, welcoming] = .error (.badPattern .hugeRepetition) ∧
      (TriggerMatch.expected? ⟨"a", false, false⟩ (candidates [counting, welcoming])).map
        (·.flow.id) = some "f2" := by
  have hcandidates : candidates [counting, welcoming] =
      [⟨counting, rule "regex" "a{4294967295}"⟩, ⟨welcoming, rule "any_message" ""⟩] := rfl
  have hcounting : (TriggerMatch.mk counting (rule "regex" "a{4294967295}")).trigger =
      ⟨"regex", "a{4294967295}"⟩ := rfl
  have hwelcoming : (TriggerMatch.mk welcoming (rule "any_message" "")).trigger.admits
      ⟨"a", false, false⟩ = true := rfl
  constructor
  · rw [firstMatch_eq_first, hcandidates, TriggerMatch.first, hcounting, holds_counting]
    rfl
  · have hrefused : (Trigger.mk "regex" "a{4294967295}").admits ⟨"a", false, false⟩ = false := by
      rw [Trigger.admits, holds_counting]
    rw [hcandidates, TriggerMatch.expected?, List.find?_cons, hcounting, hrefused, List.find?_cons,
      hwelcoming]
    rfl

end Flow
end ChatAutomation
