import ChatAutomation.Proofs.Breaker.Traffic

/-!
# What a breaker counts

A closed breaker counts the failures that came last without a success between them, and opens when there
are as many as its threshold. A half open one counts successes, and closes when they are as many as its
other threshold. How calls overlap makes no difference: `run_regular`.
-/
namespace ChatAutomation

/-- The changes from one phase to another. -/
inductive Phase.Leads : Phase → Phase → Prop
  | opens : Leads .closed .opened
  | probes : Leads .opened .halfOpen
  | closes : Leads .halfOpen .closed
  | reopens : Leads .halfOpen .opened

namespace Breaker

def Event.succeeded? : Event → Option Bool
  | entered _ => none
  | finished _ succeeded => some succeeded

/-- Did the breaker close? -/
def Entry.closes (x : Entry) : Bool := x.before != .closed && x.behind == .closed

namespace Traffic

/-- The outcomes since the breaker was last closed, or since it was made; the latest comes first. -/
def outcomes (s : Traffic) : List Bool :=
  (s.log.takeWhile fun x => !x.closes).filterMap fun x => x.event.succeeded?

/-- How many outcomes that came last were failures. -/
def failingRun (s : Traffic) : Nat := (s.outcomes.takeWhile fun succeeded => !succeeded).length

variable {s : Traffic} {limits : BreakerLimits} {call : Nat} {now : Binary64}

theorem failingRun_closed (h : s.phase ≠ .closed) {b : Breaker} (hb : b.phase = .closed)
    (event : Event) (inFlight : List Nat) : (s.note event b inFlight).failingRun = 0 := by
  have hcloses : Entry.closes ⟨event, s.phase, b.phase⟩ = true := by simp [Entry.closes, h, hb]
  simp [failingRun, outcomes, note, hcloses]

theorem outcomes_note {b : Breaker} (h : s.phase = .closed ∨ b.phase ≠ .closed) (event : Event)
    (inFlight : List Nat) :
    (s.note event b inFlight).outcomes = event.succeeded?.toList ++ s.outcomes := by
  have hcloses : Entry.closes ⟨event, s.phase, b.phase⟩ = false := by
    rcases h with h | h <;> simp [Entry.closes, h]
  cases event <;> simp [outcomes, note, hcloses, Event.succeeded?]

theorem failingRun_entered {b : Breaker} (h : s.phase = .closed ∨ b.phase ≠ .closed)
    (inFlight : List Nat) : (s.note (.entered call) b inFlight).failingRun = s.failingRun := by
  rw [failingRun, outcomes_note h]
  rfl

theorem failingRun_succeeded {b : Breaker} (h : s.phase = .closed ∨ b.phase ≠ .closed)
    (inFlight : List Nat) : (s.note (.finished call true) b inFlight).failingRun = 0 := by
  rw [failingRun, outcomes_note h]
  rfl

theorem failingRun_failed {b : Breaker} (h : s.phase = .closed ∨ b.phase ≠ .closed)
    (inFlight : List Nat) :
    (s.note (.finished call false) b inFlight).failingRun = s.failingRun + 1 := by
  rw [failingRun, outcomes_note h]
  rfl

/-- The counts of a breaker are those of its log, and they are below the thresholds as long as they
matter. -/
structure Regular (limits : BreakerLimits) (s : Traffic) : Prop where
  limits_eq : s.breaker.limits = limits
  failures_eq : s.phase = .closed → s.breaker.failures = s.failingRun
  failures_lt : s.phase = .closed → (s.breaker.failures : Int) < limits.failureThreshold
  successes_lt : s.phase = .halfOpen → (s.breaker.successes : Int) < limits.successThreshold
  lastFailure : s.phase ≠ .closed → s.breaker.lastFailure.isSome

theorem regular_start (hf : 1 ≤ limits.failureThreshold) : Regular limits (start limits) where
  limits_eq := rfl
  failures_eq _ := rfl
  failures_lt _ := by
    change ((0 : Nat) : Int) < _
    omega
  successes_lt h := nomatch h
  lastFailure h := absurd rfl h

theorem Regular.entered (h : Regular limits s) (hs : 1 ≤ limits.successThreshold) {b : Breaker}
    (hb : s.breaker.enter now = .ok b) (inFlight : List Nat) :
    Regular limits (s.note (.entered call) b inFlight) := by
  rcases enter_eq_ok_iff.1 hb with ⟨-, rfl⟩ | ⟨hphase, -, rfl⟩
  · have hrun (hclosed : s.phase = .closed) :
        (s.note (.entered call) s.breaker inFlight).failingRun = s.failingRun :=
      failingRun_entered (.inl hclosed) inFlight
    exact { h with failures_eq := fun hclosed => (h.failures_eq hclosed).trans (hrun hclosed).symm }
  · exact {
      limits_eq := h.limits_eq
      failures_eq := nofun
      failures_lt := nofun
      successes_lt := fun _ => show ((0 : Nat) : Int) < limits.successThreshold by omega
      lastFailure := fun _ => h.lastFailure (by rw [phase, hphase]; decide) }

theorem Regular.succeeded (h : Regular limits s) (hf : 1 ≤ limits.failureThreshold)
    (inFlight : List Nat) :
    Regular limits (s.note (.finished call true) s.breaker.succeed inFlight) := by
  have hlimits : s.breaker.succeed.limits = limits := by rw [limits_succeed, h.limits_eq]
  have hnone : ((0 : Nat) : Int) < limits.failureThreshold := by omega
  rcases s.breaker.succeed_cases with ⟨hhalf, -, hb⟩ | ⟨hhalf, hfew, hb⟩ | ⟨hhalf, hb⟩ <;>
    rw [hb] at hlimits ⊢
  · have hleft : s.phase ≠ .closed := ne_of_eq_of_ne hhalf (by decide)
    exact {
      limits_eq := hlimits
      failures_eq := fun _ => (failingRun_closed hleft rfl _ _).symm
      failures_lt := fun _ => hnone
      successes_lt := nofun
      lastFailure := fun hphase => absurd rfl hphase }
  · have hstays : s.phase ≠ .closed := ne_of_eq_of_ne hhalf (by decide)
    exact {
      limits_eq := hlimits
      failures_eq := fun hclosed => absurd hclosed hstays
      failures_lt := fun hclosed => absurd hclosed hstays
      successes_lt := fun _ => by
        rw [h.limits_eq] at hfew
        exact_mod_cast hfew
      lastFailure := h.lastFailure }
  · exact {
      limits_eq := hlimits
      failures_eq := fun hclosed =>
        have hwas : s.phase = .closed := hclosed
        (failingRun_succeeded (.inl hwas) inFlight).symm
      failures_lt := fun _ => hnone
      successes_lt := fun hphase => absurd hphase hhalf
      lastFailure := h.lastFailure }

theorem Regular.failed (h : Regular limits s) (inFlight : List Nat) :
    Regular limits (s.note (.finished call false) (s.breaker.fail now) inFlight) := by
  rcases s.breaker.phase_fail_cases now with ⟨-, hopened⟩ | ⟨hhalf, hfew, hsame⟩
  · exact {
      limits_eq := h.limits_eq
      failures_eq := fun hclosed => absurd hclosed (ne_of_eq_of_ne hopened (by decide))
      failures_lt := fun hclosed => absurd hclosed (ne_of_eq_of_ne hopened (by decide))
      successes_lt := fun hhalf => absurd hhalf (ne_of_eq_of_ne hopened (by decide))
      lastFailure := fun _ => rfl }
  · exact {
      limits_eq := h.limits_eq
      failures_eq := fun hclosed => by
        have hwas : s.phase = .closed := hsame.symm.trans hclosed
        rw [failingRun_failed (.inl hwas), ← h.failures_eq hwas]
        rfl
      failures_lt := fun _ => by
        rw [h.limits_eq] at hfew
        exact_mod_cast hfew
      successes_lt := fun hphase => absurd (hsame.symm.trans hphase) hhalf
      lastFailure := fun _ => rfl }

theorem Regular.step (h : Regular limits s) (hf : 1 ≤ limits.failureThreshold)
    (hs : 1 ≤ limits.successThreshold) (t : Turn) : Regular limits (s.step t) := by
  obtain hsame | ⟨_, _, b, -, -, hb, hnext⟩ | ⟨_, _, -, -, hnext⟩ | ⟨_, _, _, -, -, hnext⟩ :=
    s.step_cases t
  · rwa [hsame]
  · exact hnext ▸ h.entered hs hb _
  · exact hnext ▸ h.succeeded hf _
  · exact hnext ▸ h.failed _

theorem Regular.run (h : Regular limits s) (hf : 1 ≤ limits.failureThreshold)
    (hs : 1 ≤ limits.successThreshold) (turns : List Turn) : Regular limits (s.run turns) := by
  induction turns generalizing s with
  | nil => exact h
  | cons t turns ih => exact ih (h.step hf hs t)

/-- Only a failure takes a breaker out of the closed phase. -/
theorem failed_of_closed (hclosed : s.phase = .closed) {t : Turn} (h : (s.step t).phase ≠ .closed) :
    s.breaker.limits.failureThreshold ≤ s.breaker.failures + 1 ∧ (s.step t).phase = .opened ∧
      (s.step t).failingRun = s.failingRun + 1 := by
  have hwas : s.breaker.phase = .closed := hclosed
  obtain hsame | ⟨_, _, b, -, -, hb, hnext⟩ | ⟨_, _, -, -, hnext⟩ | ⟨_, now, _, -, -, hnext⟩ :=
    s.step_cases t
  · exact absurd ((congrArg phase hsame).trans hclosed) h
  · rw [enter_of_ne_opened (by rw [hwas]; decide)] at hb
    cases hb
    exact absurd (hnext ▸ hclosed) h
  · have hstays : s.breaker.succeed.phase = .closed := by
      rw [succeed, if_neg (by rw [hwas]; decide), hwas]
    exact absurd (hnext ▸ hstays) h
  · rw [hnext] at h ⊢
    rcases s.breaker.phase_fail_cases now with ⟨hopens, hopened⟩ | ⟨-, -, hsame⟩
    · exact ⟨hopens.resolve_left (by rw [hwas]; decide), hopened, failingRun_failed (.inl hclosed) _⟩
    · exact absurd (hsame.trans hwas) h

theorem Regular.opens_iff (h : Regular limits s) (hf : 1 ≤ limits.failureThreshold)
    (hs : 1 ≤ limits.successThreshold) (hclosed : s.phase = .closed) (t : Turn) :
    (s.step t).phase = .opened ↔ ((s.step t).failingRun : Int) = limits.failureThreshold := by
  by_cases hstays : (s.step t).phase = .closed
  · have hnext := h.step hf hs t
    have hfew := hnext.failures_lt hstays
    rw [hnext.failures_eq hstays] at hfew
    exact iff_of_false (ne_of_eq_of_ne hstays (by decide)) (by omega)
  · obtain ⟨henough, hopened, hrun⟩ := failed_of_closed hclosed hstays
    have hfew := h.failures_lt hclosed
    rw [h.limits_eq] at henough
    rw [h.failures_eq hclosed] at henough hfew
    exact iff_of_true hopened (by omega)

/-- The phase stays, or it changes in one of the four ways. -/
theorem step_leads (s : Traffic) (t : Turn) :
    (s.step t).phase = s.phase ∨ s.phase.Leads (s.step t).phase := by
  obtain hsame | ⟨_, _, b, -, -, hb, hnext⟩ | ⟨_, _, -, -, hnext⟩ | ⟨_, now, _, -, -, hnext⟩ :=
    s.step_cases t
  · exact .inl (congrArg phase hsame)
  · rw [hnext, phase_note, phase]
    rcases enter_eq_ok_iff.1 hb with ⟨-, rfl⟩ | ⟨hphase, -, rfl⟩
    · exact .inl rfl
    · exact .inr (by rw [hphase]; exact .probes)
  · rw [hnext, phase_note, phase]
    rcases s.breaker.succeed_cases with ⟨hphase, -, hb⟩ | ⟨-, -, hb⟩ | ⟨-, hb⟩ <;> rw [hb]
    · exact .inr (by rw [hphase]; exact .closes)
    · exact .inl rfl
    · exact .inl rfl
  · rw [hnext, phase_note, phase]
    rcases s.breaker.phase_fail_cases now with ⟨-, hopened⟩ | ⟨-, -, hsame⟩
    · rw [hopened]
      cases s.breaker.phase with
      | closed => exact .inr .opens
      | opened => exact .inl rfl
      | halfOpen => exact .inr .reopens
    · exact .inl hsame

/-- However calls overlap, a closed breaker counts the failures that came last and opens as soon as they
are as many as the threshold; a refused call leaves everything as it was. -/
theorem run_regular (hf : 1 ≤ limits.failureThreshold) (hs : 1 ≤ limits.successThreshold)
    (turns : List Turn) :
    let s := (start limits).run turns
    Regular limits s ∧
    (s.phase = .closed → ∀ t,
      ((s.step t).phase = .opened ↔ ((s.step t).failingRun : Int) = limits.failureThreshold)) ∧
    (∀ now x, s.breaker.enter now = .error x →
      (∀ call, s.step (.ask call now) = s) ∧
      ∀ (α σ : Type) (f : σ → Except Fault α × σ) (outside : σ),
        s.breaker.call now f outside = (.error x, s.breaker, outside)) ∧
    ∀ t, (s.step t).phase = s.phase ∨ s.phase.Leads (s.step t).phase := by
  intro s
  have hregular : Regular limits s := (regular_start hf).run hf hs turns
  refine ⟨hregular, hregular.opens_iff hf hs, fun now x hrefused => ⟨?_, ?_⟩, step_leads s⟩
  · exact fun call => step_ask_refused hrefused
  · exact fun α σ f outside => call_refused hrefused f outside

/-- Two calls overlap, and both fail. -/
theorem run_regular_overlapping :
    let limits : BreakerLimits := { name := "mail", failureThreshold := 2 }
    let x : Fault := .connection "ConnectionError" "down"
    let s := (start limits).run [.ask 0 .zero, .ask 1 .zero, .finish 1 .zero (.error x)]
    s.phase = .closed ∧ s.failingRun = 1 ∧ (s.step (.finish 0 .zero (.error x))).phase = .opened := by
  intro limits x s
  have hclosed : s.phase = .closed := by decide
  have hf : 1 ≤ limits.failureThreshold := by decide
  have hs : 1 ≤ limits.successThreshold := by decide
  obtain ⟨-, hopens, -, -⟩ :=
    run_regular hf hs [.ask 0 .zero, .ask 1 .zero, .finish 1 .zero (.error x)]
  exact ⟨hclosed, by rfl, (hopens hclosed _).2 (by rfl)⟩

end Traffic
end Breaker
end ChatAutomation
