import ChatAutomation.Proofs.Inbox.History
import ChatAutomation.Proofs.Store.Reading
import ChatAutomation.Proofs.Trigger.Matching
import ChatAutomation.Proofs.Walk.Account
import Mathlib.Order.WithBot

/-!
# Which flow a message starts

A message is matched against the documents that are switched on. They are listed newest first, those that
are no flows are dropped, and their triggers are looked at one after the other: `match?_eq_first`. So the
answer should be the first hit among the triggers of the readable flows, ranked by when they were made.
`match?_first_hit_iff` says when it is: no trigger that is looked at may have a pattern that faults.
-/
namespace ChatAutomation

/-! ## The order of documents -/

/-- A float that is one: it is held as a multiple of the least float. -/
theorem Binary64.truncate?_one {x : Binary64} (h : x.multiple = some ((Nat.pow 2 1074 : Nat) : Int)) :
    x.isInteger = true ∧ x.truncate? = some 1 := by
  rw [isInteger, truncate?, h]
  -- the power is not to be computed
  generalize (1074 : Nat) = p
  refine ⟨?_, congrArg some (Int.tdiv_self (Int.natCast_ne_zero.2 (Nat.pow_pos Nat.two_pos).ne'))⟩
  simp only [Int.emod_self, beq_self_eq_true]

/-- Whatever counts as on when it is looked for is read as on. -/
theorem Schema.switch_of_same_true {v : Value} {b : Bool} (hv : v.same (.bool true) = true)
    (hb : switch v = .ok b) : b = true := by
  cases v with
  | bool b' =>
    obtain rfl : b' = b := by simpa [switch] using hb
    cases b'
    · simp [Value.same, Value.sameNumber, Value.whole?] at hv
    · rfl
  | int n =>
    obtain rfl : n = 1 := by simpa [Value.same, Value.sameNumber, Value.whole?] using hv
    simpa [switch, switchOfInt, eq_comm] using hb
  | float x =>
    have hone : x.multiple = some ((Nat.pow 2 1074 : Nat) : Int) := by
      cases hm : x.multiple with
      | none => simp [Value.same, Value.sameNumber, hm] at hv
      | some m =>
        simp only [Value.same, Value.sameNumber, Value.whole?, hm, if_true, Int.one_mul,
          beq_iff_eq] at hv
        rw [hv]
    obtain ⟨hinteger, htruncate⟩ := Binary64.truncate?_one hone
    have hread : switch (.float x) = .ok true := by
      simp only [switch, hinteger, htruncate, if_true]
      rfl
    rw [hread] at hb
    exact (Checked.ok.inj hb).symm
  | _ => simp [Value.same, Value.sameNumber, Value.whole?] at hv

namespace Document

/-- When a document was made; one without a date was made before all others. -/
def madeAt (d : Document) : WithBot Int :=
  match d.get? "created_at" with
  | some (.moment t) => (t.instant : Int)
  | _ => ⊥

/-- Is it known when the document was made, or is nothing said about it? -/
def Datable (d : Document) : Prop :=
  d.get? "created_at" = none ∨ d.get? "created_at" = some (.plain .null) ∨
    ∃ t, d.get? "created_at" = some (.moment t)

/-- The newest documents are those that were made last. -/
theorem ranked_newestFirst {ds : List Document} (hdates : ∀ d ∈ ds, d.Datable) :
    Ranked madeAt ds (Store.newestFirst ds) := by
  refine ranked_mergeSort fun a ha b hb => ?_
  unfold olderThan madeAt
  rcases hdates a ha with ha | ha | ⟨s, ha⟩ <;> rcases hdates b hb with hb | hb | ⟨t, hb⟩ <;>
    simp [ha, hb, dateRank, ← decide_not]

/-- A document that is looked for as switched on is no flow that is switched off. -/
theorem enabled_of_isEnabled {d : Document} {now : Timestamp} {f : Flow} (hd : d.isEnabled = true)
    (hf : d.flow? now = some f) : f.enabled = true := by
  unfold isEnabled at hd
  split at hd
  · rename_i v hget
    obtain ⟨-, -, -, -, -, -, -, henabled, -⟩ :=
      Flow.ofDocument_eq_ok_iff.1 (flow?_eq_some_iff.1 hf).2
    rw [Schema.optional_of_get? (get?_plainFields hget), Checked.under_eq_ok_iff] at henabled
    exact Schema.switch_of_same_true hd henabled
  · cases hd

end Document

/-! ## What is looked at -/

/-- The triggers of the flows that some documents hold, in their order. -/
def Document.candidates (now : Timestamp) (ds : List Document) : List TriggerMatch :=
  (ds.filterMap (Document.flow? now)).flatMap fun f => f.triggers.map (TriggerMatch.mk f)

namespace Store

/-- Of documents that are dated or not, as many as can be listed, those that are flows are listed by when
they were made. -/
theorem flows_ranked {s : Store} {p : Document → Bool}
    (hfew : (s.documents.filter p).length ≤ listLimit)
    (hdates : ∀ d ∈ s.documents, d.Datable) (now : Timestamp) :
    ∃ listed,
      Ranked Document.madeAt (s.documents.filter fun d => p d && d.isReadable now) listed ∧
      s.flows now p = listed.filterMap (Document.flow? now) := by
  have hranked : Ranked Document.madeAt (s.documents.filter p) (newestFirst (s.documents.filter p)) :=
    Document.ranked_newestFirst fun d hd => hdates d (List.mem_of_mem_filter hd)
  have hlength : (newestFirst (s.documents.filter p)).length ≤ listLimit := by
    rwa [hranked.perm.length_eq]
  refine ⟨(newestFirst (s.documents.filter p)).filter (Document.isReadable now), ?_, ?_⟩
  · simpa only [List.filter_filter, Bool.and_comm] using hranked.filter (Document.isReadable now)
  · rw [flows, List.take_of_length_le hlength, List.filterMap_filter]
    refine List.filterMap_congr fun d _ => ?_
    unfold Document.isReadable
    cases d.flow? now <;> rfl

end Store

namespace TriggerMatch

/-- The first of some candidates that a message satisfies, or none if it satisfies none of them. -/
def IsFirst (m : Incoming) (cs : List TriggerMatch) : Option TriggerMatch → Prop
  | some hit => hit.trigger.admits m = true ∧
      ∃ before after, cs = before ++ hit :: after ∧ ∀ c ∈ before, c.trigger.admits m = false
  | none => ∀ c ∈ cs, c.trigger.admits m = false

theorem isFirst_iff {m : Incoming} {cs : List TriggerMatch} {hit : Option TriggerMatch} :
    IsFirst m cs hit ↔ expected? m cs = hit := by
  cases hit with
  | none => simp [IsFirst, expected?]
  | some hit => simp [IsFirst, expected?, List.find?_eq_some_iff_append]

/-- Looking at some candidates gives the first hit unless one that is looked at faults. -/
theorem first_isFirst_iff (m : Incoming) (cs : List TriggerMatch) :
    ((∃ hit, first m cs = .ok hit ∧ IsFirst m cs hit) ↔
        ∀ c ∈ passed m cs, ∀ e, ¬ c.trigger.Faults m e) ∧
      ((∃ x, first m cs = .error x) ↔ ∃ c ∈ passed m cs, ∃ e, c.trigger.Faults m e) := by
  rcases first_cases m cs with ⟨hfirst, hsound⟩ | ⟨e, hfirst, c, hc, hfault⟩
  · refine ⟨iff_of_true ⟨_, hfirst, isFirst_iff.2 rfl⟩ hsound, iff_of_false ?_ ?_⟩
    · simp [hfirst]
    · rintro ⟨c, hc, e, hfault⟩
      exact hsound c hc e hfault
  · refine ⟨iff_of_false ?_ fun hsound => hsound c hc e hfault, iff_of_true ⟨_, hfirst⟩ ⟨c, hc, e, hfault⟩⟩
    simp [hfirst]

end TriggerMatch

namespace Automation

/-- Matching goes through the triggers of what is readable, by when it was made. -/
theorem match?_eq_first {s : Store} (hreached : s.failure = none)
    (hfew : (s.documents.filter Document.isEnabled).length ≤ Store.listLimit)
    (hdates : ∀ d ∈ s.documents, d.Datable) (now : Timestamp) (m : Incoming) :
    ∃ listed,
      Ranked Document.madeAt
        (s.documents.filter fun d => d.isEnabled && d.isReadable now) listed ∧
      match? now m s = TriggerMatch.first m (Document.candidates now listed) := by
  obtain ⟨listed, hlisted, hflows⟩ := Store.flows_ranked hfew hdates now
  refine ⟨listed, hlisted, ?_⟩
  have hcandidates : Flow.candidates (listed.filterMap (Document.flow? now)) =
      Document.candidates now listed := by
    refine List.flatMap_congr fun f hf => if_pos ?_
    obtain ⟨d, hd, hflow⟩ := List.mem_filterMap.1 hf
    have hon := (List.mem_filter.1 (hlisted.perm.mem_iff.1 hd)).2
    exact Document.enabled_of_isEnabled (Bool.and_eq_true_iff.1 hon).1 hflow
  rw [match?, Store.listEnabled, Store.within, hreached, hflows]
  dsimp only
  rw [Flow.firstMatch_eq_first, hcandidates]

/-- Documents that are no flows have no part in matching. -/
theorem match?_filter_isReadable {s : Store} (hreached : s.failure = none)
    (hfew : (s.documents.filter Document.isEnabled).length ≤ Store.listLimit)
    (hdates : ∀ d ∈ s.documents, d.Datable) (now : Timestamp) (m : Incoming) :
    match? now m { s with documents := s.documents.filter (Document.isReadable now) } =
      match? now m s := by
  obtain ⟨listed, hlisted, hfirst⟩ := match?_eq_first hreached hfew hdates now m
  let kept : Store := { s with documents := s.documents.filter (Document.isReadable now) }
  have hfewer : (kept.documents.filter Document.isEnabled).length ≤ Store.listLimit :=
    Nat.le_trans (List.filter_sublist.filter _).length_le hfew
  have hkeptDates : ∀ d ∈ kept.documents, d.Datable := fun d hd =>
    hdates d (List.mem_of_mem_filter hd)
  obtain ⟨listed', hlisted', hfirst'⟩ := match?_eq_first (s := kept) hreached hfewer hkeptDates now m
  have hsame : kept.documents.filter (fun d => d.isEnabled && d.isReadable now) =
      s.documents.filter fun d => d.isEnabled && d.isReadable now := by
    rw [List.filter_filter]
    exact List.filter_congr fun d _ => by
      cases d.isReadable now <;> simp
  rw [hsame] at hlisted'
  rw [hfirst, hfirst', hlisted.unique hlisted']

end Automation

/-! ## What is counted -/

/-- Does a sample count a match? -/
def Sample.isMatch : Sample → Bool
  | triggerMatch _ => true
  | _ => false

namespace Engine
variable {σ : Type} (e : Engine σ)

theorem matches_runAfter (nodes : List Node) (r : Run σ) :
    (e.runAfter nodes r).samples.filter Sample.isMatch = r.samples.filter Sample.isMatch := by
  induction nodes generalizing r with
  | nil => rfl
  | cons n nodes ih =>
    obtain ⟨type, outcome, hsamples, -⟩ := e.samples_execute r n
    rw [runAfter, ih, hsamples]
    simp [Sample.isMatch]

/-- A run of a flow counts no match. -/
theorem matches_runFlow (f : Flow) (start : Option String) (r : Run σ) :
    (e.runFlow f start r).2.samples.filter Sample.isMatch = r.samples.filter Sample.isMatch := by
  unfold runFlow
  cases f.entry? start with
  | none => simp [Run.count, Sample.isMatch]
  | some id =>
    obtain ⟨_, -, hpops⟩ := Walk.pops_fromId e f id r
    obtain ⟨nodes, hnodes⟩ := hpops.executed
    have hrun : (Walk.fromId e f id r).run = e.runAfter nodes r := hnodes.run
    simp [Run.count, Sample.isMatch, hrun, matches_runAfter]

end Engine

namespace Handling
variable {σ : Type}

/-- A message that hits counts one match, and one that hits nothing counts none. -/
theorem matches_handle (h : Handling σ) {inbound : Inbound} {d : Desk σ} {m : Incoming}
    {hit : Option TriggerMatch} (hm : d.incoming? inbound = some m)
    (hhit : Automation.match? h.now m h.store = .ok hit) :
    (h.handle inbound d).2.samples.filter Sample.isMatch =
      d.samples.filter Sample.isMatch ++ (hit.map TriggerMatch.sample).toList := by
  rw [handle_eq]
  simp only [hm, hhit]
  cases hit with
  | none => simp [samples_reply]
  | some hit =>
    have hsample : hit.sample.isMatch = true := rfl
    simp only [run, Automation.execute, List.filter_append, List.filter_cons_of_pos hsample,
      Engine.matches_runFlow]
    rfl

end Handling

namespace Automation

/-- The answer is the first hit among the readable flows that are switched on, newest first, exactly when
no trigger that is looked at faults; if one does, matching fails. Documents that are no flows play no part
in it, and a hit is counted once when its message is handled. -/
theorem match?_first_hit_iff {s : Store} (hreached : s.failure = none)
    (hfew : (s.documents.filter Document.isEnabled).length ≤ Store.listLimit)
    (hdates : ∀ d ∈ s.documents, d.Datable) (now : Timestamp) (m : Incoming) :
    ∃ listed,
      Ranked Document.madeAt
        (s.documents.filter fun d => d.isEnabled && d.isReadable now) listed ∧
      ((∃ hit, match? now m s = .ok hit ∧
          TriggerMatch.IsFirst m (Document.candidates now listed) hit) ↔
        ∀ c ∈ TriggerMatch.passed m (Document.candidates now listed), ∀ e, ¬ c.trigger.Faults m e) ∧
      ((∃ x, match? now m s = .error x) ↔
        ∃ c ∈ TriggerMatch.passed m (Document.candidates now listed), ∃ e, c.trigger.Faults m e) ∧
      match? now m { s with documents := s.documents.filter (Document.isReadable now) } =
        match? now m s ∧
      ∀ hit, match? now m s = .ok hit →
        ∀ (σ : Type) (h : Handling σ) (d : Desk σ) (inbound : Inbound), h.now = now → h.store = s →
          d.incoming? inbound = some m →
          (h.handle inbound d).2.samples.filter Sample.isMatch =
            d.samples.filter Sample.isMatch ++ (hit.map TriggerMatch.sample).toList := by
  obtain ⟨listed, hlisted, hfirst⟩ := match?_eq_first hreached hfew hdates now m
  obtain ⟨hanswers, hfails⟩ :=
    TriggerMatch.first_isFirst_iff m (Document.candidates now listed)
  refine ⟨listed, hlisted, hfirst ▸ hanswers, hfirst ▸ hfails,
    match?_filter_isReadable hreached hfew hdates now m, ?_⟩
  rintro hit hhit σ h d inbound rfl rfl hm
  exact h.matches_handle hm hhit

/-- A document without an id, and behind it a flow that any message starts. -/
def doorway : Store where
  documents := [[("enabled", .plain (.bool true))], (Flow.watching "f2" "any_message" "").document]

/-- The flow is the answer: the document in front of it is none. -/
theorem match?_first_hit_doorway :
    let now : Timestamp := ⟨0, none⟩
    let m : Incoming := ⟨"oi", false, false⟩
    doorway.failure = none ∧
      (doorway.documents.filter Document.isEnabled).length ≤ Store.listLimit ∧
      (∀ d ∈ doorway.documents, d.Datable) ∧
      ∃ hit, match? now m doorway = .ok hit ∧
        TriggerMatch.IsFirst m
          (Document.candidates now [(Flow.watching "f2" "any_message" "").document]) hit := by
  intro now m
  have hfew : (doorway.documents.filter Document.isEnabled).length ≤ Store.listLimit := by decide
  have hdates : ∀ d ∈ doorway.documents, d.Datable :=
    List.forall_mem_cons.2 ⟨.inl rfl, List.forall_mem_cons.2 ⟨.inr (.inr ⟨_, rfl⟩), by simp⟩⟩
  obtain ⟨listed, hlisted, hanswers, -⟩ := match?_first_hit_iff rfl hfew hdates now m
  have hranked : Ranked Document.madeAt
      (doorway.documents.filter fun d => d.isEnabled && d.isReadable now)
      [(Flow.watching "f2" "any_message" "").document] :=
    ⟨.refl _, List.pairwise_singleton .., fun _ => rfl⟩
  rw [hlisted.unique hranked] at hanswers
  refine ⟨rfl, hfew, hdates, hanswers.2 fun c hc => ?_⟩
  have hpassed : TriggerMatch.passed m
      (Document.candidates now [(Flow.watching "f2" "any_message" "").document]) = [] := rfl
  rw [hpassed] at hc
  cases hc

/-- A pattern that can be searched for and then fails keeps a message from the flow behind it. -/
theorem first_hit_lost_by_wrong_span :
    let s : Store := .ofFlows
      [Flow.watching "f1" "regex" "((x)|y|z)*+", Flow.watching "f2" "any_message" ""]
    let m : Incoming := ⟨"xyz", false, false⟩
    (Trigger.pattern "((x)|y|z)*+").toBool = true ∧
      match? ⟨0, none⟩ m s = .error (.badPattern .wrongSpan) ∧
      Ranked Document.madeAt
        (s.documents.filter fun d => d.isEnabled && d.isReadable ⟨0, none⟩) s.documents ∧
      TriggerMatch.IsFirst m (Document.candidates ⟨0, none⟩ s.documents)
        (some ⟨Flow.watching "f2" "any_message" "", Flow.rule "any_message" ""⟩) := by
  intro s m
  have hreached : s.failure = none := rfl
  have hfew : (s.documents.filter Document.isEnabled).length ≤ Store.listLimit := by decide
  have hdates : ∀ d ∈ s.documents, d.Datable := by
    intro d hd
    obtain ⟨f, -, rfl⟩ := List.mem_map.1 hd
    exact .inr (.inr ⟨_, rfl⟩)
  have hranked : Ranked Document.madeAt
      (s.documents.filter fun d => d.isEnabled && d.isReadable ⟨0, none⟩) s.documents :=
    ⟨.refl _, List.pairwise_pair.2 le_rfl, fun _ => rfl⟩
  have hcandidates : Document.candidates ⟨0, none⟩ s.documents =
      [⟨Flow.watching "f1" "regex" "((x)|y|z)*+", Flow.rule "regex" "((x)|y|z)*+"⟩,
        ⟨Flow.watching "f2" "any_message" "", Flow.rule "any_message" ""⟩] := rfl
  have htrigger : (TriggerMatch.mk (Flow.watching "f1" "regex" "((x)|y|z)*+")
      (Flow.rule "regex" "((x)|y|z)*+")).trigger = ⟨"regex", "((x)|y|z)*+"⟩ := rfl
  have hfails : (Trigger.mk "regex" "((x)|y|z)*+").holds m = .error (.badPattern .wrongSpan) := by
    decide +kernel
  have hrefused : (Trigger.mk "regex" "((x)|y|z)*+").admits m = false := by
    rw [Trigger.admits, hfails]
  obtain ⟨listed, hlisted, hfirst⟩ := match?_eq_first hreached hfew hdates ⟨0, none⟩ m
  refine ⟨by decide +kernel, ?_, hranked, ?_⟩
  · rw [hfirst, hlisted.unique hranked, hcandidates, TriggerMatch.first, htrigger, hfails]
    rfl
  · rw [hcandidates]
    refine ⟨rfl, [_], [], rfl, fun c hc => ?_⟩
    rw [List.mem_singleton.1 hc, htrigger, hrefused]

end Automation
end ChatAutomation
