import ChatAutomation.Proofs.Binary64.Rounding
import ChatAutomation.Proofs.Breaker.Traffic

/-!
# Recovery of an open breaker

Once more than the timeout has passed since the last failure that was recorded, an open breaker should let
the next call through. `recovers_iff` says when it does, for any traffic and limits: a failure that was
recorded at the reading zero of the clock does not count, and a breaker that was opened by one stays open
for good if nothing is in flight, `run_of_stuck`.
-/
namespace ChatAutomation
namespace Breaker

def Turn.now : Turn → Binary64
  | ask _ now => now
  | finish _ now _ => now

/-- The readings of a clock that starts at zero and never goes back. -/
def Clock (readings : List Binary64) : Prop := (Binary64.zero :: readings).Pairwise Binary64.NotAbove

instance (readings : List Binary64) : Decidable (Clock readings) :=
  inferInstanceAs (Decidable ((Binary64.zero :: readings).Pairwise Binary64.NotAbove))

namespace Traffic

/-- Does a turn record a failure? -/
def fails (s : Traffic) : Turn → Bool
  | .finish call _ (.error _) => call ∈ s.inFlight
  | _ => false

/-- When failures are recorded in some turns. -/
def failureTimes (s : Traffic) : List Turn → List Binary64
  | [] => []
  | t :: turns => (if s.fails t then [t.now] else []) ++ (s.step t).failureTimes turns

/-- The call that asks next is let through, and what it is about is done. -/
structure Admits (s : Traffic) (now : Binary64) : Prop where
  enters : ∀ call ∉ s.inFlight, call ∈ (s.step (.ask call now)).inFlight
  runs : ∀ {α σ : Type} (f : σ → Except Fault α × σ) (outside : σ),
    ∃ b, s.breaker.call now f outside = ((f outside).1, b, (f outside).2)

variable {s : Traffic} {now : Binary64}

theorem admits_iff : s.Admits now ↔ ∃ b, s.breaker.enter now = .ok b := by
  constructor
  · intro h
    cases hb : s.breaker.enter now with
    | ok b => exact ⟨b, rfl⟩
    | error x =>
      obtain ⟨_, hruns⟩ := h.runs (fun _ : Unit => (Except.ok (), ())) ()
      rw [call_refused hb] at hruns
      cases hruns
  · rintro ⟨b, hb⟩
    constructor
    · intro call hnew
      rw [step_ask hnew hb]
      exact List.mem_cons_self
    · intro α σ f outside
      exact ⟨_, callBy_entered (fun _ => now) hb f⟩

theorem limits_step (s : Traffic) (t : Turn) : (s.step t).breaker.limits = s.breaker.limits := by
  obtain hsame | ⟨_, _, b, -, -, hb, hnext⟩ | ⟨_, _, -, -, hnext⟩ | ⟨_, _, _, -, -, hnext⟩ :=
    s.step_cases t
  · rw [hsame]
  · rw [hnext]
    rcases enter_eq_ok_iff.1 hb with ⟨-, rfl⟩ | ⟨-, -, rfl⟩ <;> rfl
  · rw [hnext]
    exact limits_succeed s.breaker
  · rw [hnext]
    exact limits_fail s.breaker _

theorem limits_run (s : Traffic) (turns : List Turn) :
    (s.run turns).breaker.limits = s.breaker.limits := by
  induction turns generalizing s with
  | nil => rfl
  | cons t turns ih => exact (ih (s.step t)).trans (s.limits_step t)

theorem lastFailure_step (s : Traffic) (t : Turn) :
    (s.step t).breaker.lastFailure = if s.fails t then some t.now else s.breaker.lastFailure := by
  cases t with
  | ask call now =>
    obtain hsame | ⟨_, _, b, -, -, hb, hnext⟩ | ⟨_, _, ht, -⟩ | ⟨_, _, _, ht, -⟩ :=
      s.step_cases (.ask call now)
    · rw [hsame]
      rfl
    · rw [hnext]
      rcases enter_eq_ok_iff.1 hb with ⟨-, rfl⟩ | ⟨-, -, rfl⟩ <;> rfl
    · cases ht
    · cases ht
  | finish call now outcome =>
    by_cases hin : call ∈ s.inFlight
    · rw [step_finish outcome hin]
      cases outcome with
      | ok _ =>
        rcases s.breaker.succeed_cases with ⟨-, -, hb⟩ | ⟨-, -, hb⟩ | ⟨-, hb⟩ <;>
          simp [note, record, fails, hb]
      | error x => simp [note, record, fails, hin, Turn.now]
    · have hnone : s.fails (.finish call now outcome) = false := by
        cases outcome <;> simp [fails, hin]
      rw [hnone, step, if_neg hin]
      rfl

/-- The last failure of a breaker is the last one that was recorded. -/
theorem lastFailure_run (s : Traffic) (turns : List Turn) :
    (s.run turns).breaker.lastFailure =
      (s.failureTimes turns).getLast?.or s.breaker.lastFailure := by
  induction turns generalizing s with
  | nil => rfl
  | cons t turns ih =>
    rw [run, List.foldl_cons, ← run, ih, lastFailure_step, failureTimes, List.getLast?_append]
    by_cases hfails : s.fails t = true
    · simp [hfails]
    · simp [hfails]

theorem mem_of_mem_failureTimes {turns : List Turn} {time : Binary64}
    (h : time ∈ s.failureTimes turns) : time ∈ turns.map Turn.now := by
  induction turns generalizing s with
  | nil => cases h
  | cons t turns ih =>
    rw [failureTimes] at h
    rcases List.mem_append.1 h with h | h
    · by_cases hfails : s.fails t = true
      · simp only [hfails, if_true, List.mem_singleton] at h
        exact h ▸ List.mem_cons_self
      · simp only [hfails, Bool.false_eq_true, if_false, List.not_mem_nil] at h
    · exact List.mem_cons_of_mem _ (ih h)

theorem lastFailure_isSome_step (h : s.phase ≠ .closed → s.breaker.lastFailure.isSome) (t : Turn)
    (hleft : (s.step t).phase ≠ .closed) : (s.step t).breaker.lastFailure.isSome := by
  obtain hsame | ⟨_, _, b, -, -, hb, hnext⟩ | ⟨_, _, -, -, hnext⟩ | ⟨_, _, _, -, -, hnext⟩ :=
    s.step_cases t
  · rw [hsame] at hleft ⊢
    exact h hleft
  · rw [hnext] at hleft ⊢
    rcases enter_eq_ok_iff.1 hb with ⟨-, rfl⟩ | ⟨hopened, -, rfl⟩
    · exact h hleft
    · exact h (ne_of_eq_of_ne hopened (by decide))
  · rw [hnext, phase_note] at hleft
    rw [hnext]
    rcases s.breaker.succeed_cases with ⟨-, -, hb⟩ | ⟨-, -, hb⟩ | ⟨-, hb⟩ <;>
      rw [hb] at hleft <;> rw [note, hb]
    · exact absurd rfl hleft
    · exact h hleft
    · exact h hleft
  · rw [hnext]
    rfl

/-- A breaker that is not closed has seen a failure. -/
theorem lastFailure_isSome_run (h : s.phase ≠ .closed → s.breaker.lastFailure.isSome)
    (turns : List Turn) (hleft : (s.run turns).phase ≠ .closed) :
    (s.run turns).breaker.lastFailure.isSome := by
  induction turns generalizing s with
  | nil => exact h hleft
  | cons t turns ih => exact ih (lastFailure_isSome_step h t) hleft

theorem exists_last_failureTimes {limits : BreakerLimits} {turns : List Turn}
    (hopened : ((start limits).run turns).phase = .opened) :
    ∃ failed, ((start limits).failureTimes turns).getLast? = some failed ∧
      ((start limits).run turns).breaker.lastFailure = some failed := by
  have hleft : ((start limits).run turns).phase ≠ .closed := ne_of_eq_of_ne hopened (by decide)
  have hsome := lastFailure_isSome_run (by simp) turns hleft
  have hrun := (start limits).lastFailure_run turns
  rw [show (start limits).breaker.lastFailure = none from rfl, Option.or_none] at hrun
  obtain ⟨failed, hfailed⟩ := Option.isSome_iff_exists.1 hsome
  exact ⟨failed, hrun.symm.trans hfailed, hfailed⟩

/-- An open breaker lets a call through if its last failure is old enough and was not recorded at zero. -/
theorem admits_opened_iff (hopened : s.phase = .opened) {failed : Binary64}
    (hfailed : s.breaker.lastFailure = some failed) :
    s.Admits now ↔ failed.isZero = false ∧ s.breaker.limits.timeout.lt (now.sub failed) = true := by
  have hphase : s.breaker.phase = .opened := hopened
  have hover : s.breaker.isOver now =
      (!failed.isZero && s.breaker.limits.timeout.lt (now.sub failed)) := by rw [isOver, hfailed]
  rw [admits_iff, ← Bool.not_eq_true', ← Bool.and_eq_true_iff, ← hover]
  constructor
  · rintro ⟨b, hb⟩
    rcases enter_eq_ok_iff.1 hb with ⟨hclosed, -⟩ | ⟨-, h, -⟩
    · exact absurd hphase hclosed
    · exact h
  · exact fun h => ⟨_, enter_eq_ok_iff.2 (.inr ⟨hphase, h, rfl⟩)⟩

/-- A breaker that was opened by a failure at zero stays open if nothing is in flight. -/
theorem run_of_stuck (hopened : s.phase = .opened) {failed : Binary64}
    (hfailed : s.breaker.lastFailure = some failed) (hzero : failed.isZero = true)
    (hidle : s.inFlight = []) (later : List Turn) : s.run later = s := by
  have hstep (t : Turn) : s.step t = s := by
    cases t with
    | ask call now =>
      cases hb : s.breaker.enter now with
      | ok b =>
        have hadmits := admits_iff.2 ⟨b, hb⟩
        rw [admits_opened_iff hopened hfailed, hzero] at hadmits
        cases hadmits.1
      | error x => exact step_ask_refused hb
    | finish call now outcome => simp [step, hidle]
  induction later with
  | nil => rfl
  | cons t later ih => rw [run, List.foldl_cons, hstep t, ← run, ih]

/-- An open breaker lets the next call through, more than the timeout after the last failure, if that was
not recorded at zero and the time between is not rounded to the timeout. Nothing else keeps it open. -/
theorem recovers_iff {limits : BreakerLimits} (hlimit : limits.timeout.Fits) {turns : List Turn}
    {now : Binary64} (hclock : Clock (turns.map Turn.now ++ [now]))
    (hopened : ((start limits).run turns).phase = .opened) :
    ∃ failed, ((start limits).failureTimes turns).getLast? = some failed ∧
      (limits.timeout.Exceeds failed now →
        (((start limits).run turns).Admits now ↔
          failed.isZero = false ∧ (now.sub failed).eq limits.timeout = false)) := by
  obtain ⟨failed, hlast, hfailed⟩ := exists_last_failureTimes hopened
  have hbefore : failed.NotAbove now := by
    have hmem : failed ∈ turns.map Turn.now :=
      mem_of_mem_failureTimes (List.mem_of_getLast? hlast)
    obtain ⟨-, -, horder⟩ := List.pairwise_append.1 (List.pairwise_cons.1 hclock).2
    exact horder failed hmem now List.mem_cons_self
  refine ⟨failed, hlast, fun hlate => ?_⟩
  have hlimits : ((start limits).run turns).breaker.limits = limits := limits_run _ turns
  rw [admits_opened_iff hopened hfailed, hlimits, Binary64.lt_sub_iff hlimit hbefore hlate]

/-- A breaker that was opened at one second, with a timeout of ten, lets a call through at twelve. -/
theorem recovers_after_failure_at_one :
    let limits : BreakerLimits :=
      { name := "mail", failureThreshold := 1, timeout := .ofDecimal false 10 0 }
    let one : Binary64 := .ofDecimal false 1 0
    let now : Binary64 := .ofDecimal false 12 0
    let turns : List Turn :=
      [.ask 0 one, .finish 0 one (.error (.connection "ConnectionError" "down"))]
    limits.timeout.Fits ∧ Clock (turns.map Turn.now ++ [now]) ∧
      ((start limits).run turns).phase = .opened ∧ ((start limits).run turns).Admits now := by
  intro limits one now turns
  have hlimit : limits.timeout.Fits := by decide +kernel
  have hclock : Clock (turns.map Turn.now ++ [now]) := by decide +kernel
  have hopened : ((start limits).run turns).phase = .opened := by decide +kernel
  obtain ⟨failed, hlast, hadmits⟩ := recovers_iff hlimit hclock hopened
  obtain rfl : one = failed := Option.some.inj hlast
  have hlate : limits.timeout.Exceeds one now := by decide +kernel
  exact ⟨hlimit, hclock, hopened, (hadmits hlate).2 (by decide +kernel)⟩

/-- A breaker that is opened at the reading zero lets no call through at eleven seconds, nor ever after. -/
theorem stuck_after_failure_at_zero :
    let limits : BreakerLimits :=
      { name := "mail", failureThreshold := 1, timeout := .ofDecimal false 10 0 }
    let now : Binary64 := .ofDecimal false 11 0
    let turns : List Turn :=
      [.ask 0 .zero, .finish 0 .zero (.error (.connection "ConnectionError" "down"))]
    let s := (start limits).run turns
    Clock (turns.map Turn.now ++ [now]) ∧ s.phase = .opened ∧
      limits.timeout.Exceeds .zero now ∧ ¬ s.Admits now ∧ ∀ later, s.run later = s := by
  intro limits now turns s
  have hopened : s.phase = .opened := by decide +kernel
  have hfailed : s.breaker.lastFailure = some .zero := rfl
  refine ⟨by decide +kernel, hopened, by decide +kernel, fun h => ?_, ?_⟩
  · exact absurd ((admits_opened_iff hopened hfailed).1 h).1 (by decide)
  · exact run_of_stuck hopened hfailed rfl rfl

end Traffic
end Breaker
end ChatAutomation
