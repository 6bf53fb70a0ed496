import ChatAutomation.Proofs.Api.Bundle
import ChatAutomation.Proofs.Automation.Merge
import ChatAutomation.Proofs.Flow.Defect

/-!
# Saving over HTTP

A call that saves a flow writes it first, then looks for what is wrong with it, and then writes the answer.
A failure behind the write is answered as one, but the flow stays stored. `save_all_or_nothing_iff` says
when that does not happen: the patterns of the flow are refused for their syntax at most, and every text in
the answer can be written.
-/
namespace ChatAutomation

theorem Call.exists_of_read {α : Type} {c : Call} {reader : Value → Checked α} {x : α}
    (h : c.read reader = .ok x) : ∃ v, reader v = .ok x := by
  unfold read at h
  generalize c.document = document at h
  rcases document with answer | _ | v
  · cases h
  · cases h
  · cases hreader : reader v with
    | ok y =>
      simp only [bind, Except.bind, hreader, pure, Except.pure, Except.ok.injEq] at h
      exact ⟨v, h ▸ hreader⟩
    | issues is => simp [bind, Except.bind, hreader] at h

namespace Automation

/-- A save that has no flow to give has left the store alone. -/
theorem store_of_save_none {now : Timestamp} {u : FlowUpdate} {s s' : Store} (hu : u.Proper)
    (h : save now u s = .ok (none, s')) : s' = s := by
  cases hget : s.get now u.id with
  | error x =>
    rw [save, hget] at h
    cases h
  | ok stored =>
    cases stored with
    | none =>
      have hinsert : (Write.insert (u.create now)).apply now s = .ok (none, s') :=
        (save_of_get hget).symm.trans h
      unfold Write.apply at hinsert
      cases hs : s.insert (u.create now) <;> simp [hs, Except.map] at hinsert
    | some f =>
      cases hmiss : s.updatesMiss with
      | false =>
        obtain ⟨_, hsave, -⟩ := save_existing hu hmiss hget
        rw [hsave] at h
        cases h
      | true =>
        have hupdate : s.update now f.id (u.merge now f).changes = .ok (none, s') :=
          (save_of_get hget).symm.trans h
        have hreached : s.failure = none := (Store.get_eq_ok_some_iff.1 hget).1
        simpa [Store.update, Store.within, hreached, hmiss, eq_comm] using hupdate

end Automation

namespace App
variable {σ : Type}

/-- The body of the answer to a save. -/
def savedBody (now : Timestamp) (f : Flow) (ws : List Warning) : Value :=
  .object (Envelope.fields ⟨true, "Flow saved successfully",
    some [("flow", f.bodyValue), ("warnings", .list (ws.map warningValue))], now, Route.apiVersion⟩)

theorem answer_eq_saveFlow (net : Network σ) (now : Timestamp) (clock : Binary64) {c : Call} (a : App σ)
    (hpost : c.method = "POST") (hpath : Route.ofPath? c.path = some .flows) :
    a.answer net now clock c = a.saveFlow now c := by
  have hroute : Route.ofCall c = .ok .flows := by
    rw [Route.ofCall, hpath, hpost]
    rfl
  rw [answer, hroute, hpost]
  simp [serve, hpost]

theorem le_status_failure : 400 ≤ Answer.failure.status := by decide

theorem le_status_notFound : 400 ≤ notFound.status := by decide +kernel

section
variable {now : Timestamp} {c : Call} {a : App σ} {u : FlowUpdate}

/-- Behind the write there are the checks and the answer; they cannot take the write back. -/
theorem saveFlow_of_save {f : Flow} {s' : Store} (hread : c.read FlowUpdate.read = .ok u)
    (hsave : Automation.save now u a.store = .ok (some f, s')) :
    a.saveFlow now c =
      (orFailure (fun ws => Answer.json 200 (savedBody now f ws)) f.warnings,
        { a with store := s' }) := by
  unfold saveFlow
  rw [hread]
  dsimp only
  rw [hsave]
  rfl

/-- A save that gives no flow changes nothing, and is answered with an error. -/
theorem saveFlow_of_unsaved (hread : c.read FlowUpdate.read = .ok u)
    (hunsaved : ∀ f s', Automation.save now u a.store ≠ .ok (some f, s')) :
    400 ≤ (a.saveFlow now c).1.status ∧ (a.saveFlow now c).2 = a := by
  obtain ⟨v, hv⟩ := c.exists_of_read hread
  unfold saveFlow
  rw [hread]
  dsimp only
  cases hsave : Automation.save now u a.store with
  | error x => exact ⟨le_status_failure, rfl⟩
  | ok saved =>
    obtain ⟨_ | f, s'⟩ := saved
    · have hsame : s' = a.store :=
        Automation.store_of_save_none (FlowUpdate.proper_of_read hv) hsave
      exact ⟨le_status_notFound, by rw [hsame]⟩
    · exact absurd hsave (hunsaved f s')

end

/-- A flow can be given with what is wrong with it: its patterns can be checked, and the texts in the answer
can be written. -/
structure Answerable (now : Timestamp) (f : Flow) : Prop where
  checkable : ∀ n ∈ f.triggers, (Trigger.ofNode n f).Checkable
  whole : ∀ ws, f.warnings = .ok ws → (savedBody now f ws).isWhole = true

theorem Answerable.answer {now : Timestamp} {f : Flow} (h : Answerable now f) :
    ∃ ws, f.warnings = .ok ws ∧
      orFailure (fun ws => Answer.json 200 (savedBody now f ws)) f.warnings =
        .given 200 (.json (Answer.writable (savedBody now f ws))) := by
  obtain ⟨ws, hws⟩ := Flow.exists_warnings_iff.2 h.checkable
  refine ⟨ws, hws, ?_⟩
  rw [hws, orFailure, Answer.json, if_pos (h.whole ws hws)]

theorem answer_of_not_answerable {now : Timestamp} {f : Flow} (h : ¬ Answerable now f) :
    orFailure (fun ws => Answer.json 200 (savedBody now f ws)) f.warnings = .failure := by
  cases hws : f.warnings with
  | error x => rfl
  | ok ws =>
    have hbroken : (savedBody now f ws).isWhole ≠ true := by
      intro hwhole
      refine h ⟨Flow.exists_warnings_iff.1 ⟨ws, hws⟩, fun ws' hws' => ?_⟩
      rw [hws] at hws'
      cases hws'
      exact hwhole
    rw [orFailure, Answer.json, if_neg hbroken]

/-- The flow was stored, and the answer gives it with the warnings about its defects. -/
structure Saved (now : Timestamp) (u : FlowUpdate) (a : App σ) (f : Flow) (ws : List Warning)
    (r : Answer × App σ) : Prop where
  stored : ∃ s', Automation.save now u a.store = .ok (some f, s') ∧ r.2 = { a with store := s' }
  answered : r.1 = .given 200 (.json (Answer.writable (savedBody now f ws)))
  warned : ∀ w, w ∈ ws ↔ ∃ d, f.Has d ∧ d.warning f = w

/-- A call that saves what an editor sent either stores the flow and gives it with the warnings about its
defects, or gives an error and leaves the store as it was, exactly when a flow whose storing changes
anything can be answered. One that cannot is stored, and the answer is a failure. -/
theorem save_all_or_nothing_iff (net : Network σ) (now : Timestamp) (clock : Binary64) (a : App σ)
    {c : Call} {u : FlowUpdate} (hpost : c.method = "POST")
    (hpath : Route.ofPath? c.path = some .flows) (hread : c.read FlowUpdate.read = .ok u) :
    ((∃ f ws, Saved now u a f ws (a.answer net now clock c)) ∨
        400 ≤ (a.answer net now clock c).1.status ∧ (a.answer net now clock c).2.store = a.store ↔
      ∀ f s', Automation.save now u a.store = .ok (some f, s') → s' ≠ a.store → Answerable now f) ∧
    ∀ f s', Automation.save now u a.store = .ok (some f, s') → ¬ Answerable now f →
      a.answer net now clock c = (.failure, { a with store := s' }) := by
  rw [answer_eq_saveFlow net now clock a hpost hpath]
  by_cases hsaved : ∃ f s', Automation.save now u a.store = .ok (some f, s')
  · obtain ⟨f, s', hsave⟩ := hsaved
    rw [saveFlow_of_save hread hsave]
    have hunique (g : Flow) (s₁ : Store) (h : Automation.save now u a.store = .ok (some g, s₁)) :
        g = f ∧ s₁ = s' := by simpa [eq_comm] using hsave.symm.trans h
    by_cases hanswerable : Answerable now f
    · obtain ⟨ws, hws, hanswer⟩ := hanswerable.answer
      refine ⟨iff_of_true (.inl ⟨f, ws, ⟨s', hsave, rfl⟩, hanswer, fun _ => Flow.mem_warnings_iff hws⟩)
        fun g s₁ h _ => ?_, fun g s₁ h hnot => ?_⟩
      · rwa [(hunique g s₁ h).1]
      · rw [(hunique g s₁ h).1] at hnot
        exact absurd hanswerable hnot
    · rw [answer_of_not_answerable hanswerable]
      refine ⟨⟨?_, fun hall => .inr ⟨le_status_failure, ?_⟩⟩, fun g s₁ h _ => ?_⟩
      · rintro (⟨g, ws, hg⟩ | ⟨-, hsame⟩) g' s₁ h hchanged
        · cases hg.answered
        · exact absurd ((hunique g' s₁ h).2.trans hsame) hchanged
      · by_contra hchanged
        exact hanswerable (hall f s' hsave hchanged)
      · rw [(hunique g s₁ h).2]
  · obtain ⟨hstatus, hsame⟩ := saveFlow_of_unsaved hread fun f s' h => hsaved ⟨f, s', h⟩
    exact ⟨iff_of_true (.inr ⟨hstatus, by rw [hsame]⟩) fun f s' h => absurd ⟨f, s', h⟩ hsaved,
      fun f s' h => absurd ⟨f, s', h⟩ hsaved⟩

def saving (body : String) : Call := ⟨"POST", "/api/v1/automation", [], some body⟩

theorem read_saving {body : String} {v : Value} {u : FlowUpdate}
    (hbody : ∃ cs, body.toList = '\x7b' :: '"' :: cs) (hparse : Json.parseValue body = .ok v)
    (hu : FlowUpdate.read v = .ok u) : (saving body).read FlowUpdate.read = .ok u := by
  have hfilled : body.isEmpty = false := by
    rw [String.isEmpty_eq_false_iff]
    rintro rfl
    obtain ⟨_, hnil⟩ := hbody
    cases hnil
  have hdocument : (saving body).document = .ok (some v) := by
    rw [Call.document, saving]
    dsimp only
    rw [hfilled, Json.parseBody_of_parseValue hbody hparse]
    rfl
  rw [Call.read, hdocument]
  simp only [bind, Except.bind, hu]
  rfl

/-- A flow with nothing but an id. -/
def bare : String := "\x7b\"id\":\"f1\"\x7d"

theorem parseValue_bare : Json.parseValue bare = .ok (.object [("id", .text "f1")]) := by
  cbv

/-- A flow whose trigger has a pattern with a repetition that is too large. -/
def counted : String :=
  "\x7b\"id\":\"f1\",\"nodes\":[\x7b\"id\":\"t\",\"type\":\"trigger\",\"data\":\x7b" ++
    "\"trigger_type\":\"regex\",\"trigger_value\":\"a\x7b4294967295\x7d\"\x7d\x7d]\x7d"

theorem parseValue_counted : Json.parseValue counted =
    .ok (.object [("id", .text "f1"), ("nodes", .list [.object [("id", .text "t"), ("type", .text "trigger"),
      ("data", .object [("trigger_type", .text "regex"),
        ("trigger_value", .text "a\x7b4294967295\x7d")])]])]) := by
  cbv

/-- A new flow without a trigger is stored, and answered with the warning about it. -/
theorem save_all_or_nothing_bare :
    let u : FlowUpdate := ⟨"f1", none, none, none, none, none, none, none⟩
    let r := fresh.answer reliable default .zero (saving bare)
    (saving bare).method = "POST" ∧ Route.ofPath? (saving bare).path = some .flows ∧
      (saving bare).read FlowUpdate.read = .ok u ∧
      ((∃ f ws, Saved default u fresh f ws r) ∨ 400 ≤ r.1.status ∧ r.2.store = fresh.store) := by
  intro u r
  have hpath : Route.ofPath? (saving bare).path = some .flows := by decide +kernel
  have hread : (saving bare).read FlowUpdate.read = .ok u := read_saving ⟨_, rfl⟩ parseValue_bare rfl
  obtain ⟨hall, -⟩ := save_all_or_nothing_iff reliable default .zero fresh (c := saving bare) rfl hpath hread
  refine ⟨rfl, hpath, hread, hall.2 fun f s' hsave _ => ?_⟩
  have hcreated : Automation.save default u fresh.store =
      .ok (some (u.create default), { documents := [(u.create default).document] }) := rfl
  obtain ⟨rfl, -⟩ : u.create default = f ∧ _ = s' := by simpa using hcreated.symm.trans hsave
  have hwarnings : (u.create default).warnings = .ok [.noTrigger Flow.defaultName] := by
    decide +kernel
  refine ⟨Flow.exists_warnings_iff.1 ⟨_, hwarnings⟩, fun ws hws => ?_⟩
  rw [hwarnings] at hws
  cases hws
  decide +kernel

/-- A pattern with a repetition that is too large: the flow is stored, and the answer is a failure. -/
theorem stored_behind_failure :
    let r := fresh.answer reliable default .zero (saving counted)
    (∃ u, (saving counted).read FlowUpdate.read = .ok u) ∧ r.1.status = 500 ∧
      fresh.store.documents.length = 0 ∧ r.2.store.documents.length = 1 := by
  intro r
  let u : FlowUpdate := ⟨"f1", none, none, some [⟨"t", "trigger",
    some [("trigger_type", .text "regex"), ("trigger_value", .text "a\x7b4294967295\x7d")],
    none, []⟩], none, none, none, none⟩
  have hbody : ∃ cs, counted.toList = '\x7b' :: '"' :: cs :=
    ⟨counted.toList.drop 2, by decide +kernel⟩
  have hread : (saving counted).read FlowUpdate.read = .ok u :=
    read_saving hbody parseValue_counted rfl
  have hsave : Automation.save default u fresh.store =
      .ok (some (u.create default), { documents := [(u.create default).document] }) := rfl
  have hrefused : ¬ Answerable default (u.create default) := by
    rintro ⟨hcheckable, -⟩
    have hmalformed := hcheckable _ (List.mem_singleton.2 rfl) rfl .hugeRepetition (by decide +kernel)
    cases hmalformed
  have hr : r = (.failure, { fresh with store := { documents := [(u.create default).document] } }) := by
    rw [← answer_of_not_answerable hrefused, ← saveFlow_of_save hread hsave]
    exact answer_eq_saveFlow reliable default .zero fresh rfl (by decide +kernel)
  refine ⟨⟨u, hread⟩, ?_, rfl, ?_⟩ <;> rw [hr] <;> rfl

end App
end ChatAutomation
