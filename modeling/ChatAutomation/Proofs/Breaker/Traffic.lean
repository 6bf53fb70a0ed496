import ChatAutomation.Breaker
import Mathlib.Data.List.Basic

/-!
# Calls through a breaker

Calls overlap: each asks to enter at some time, and later, when others may have come and gone, its outcome
is recorded. `Traffic` is a breaker with the calls that are in flight and a log of what took effect, and
`Traffic.run` takes the turns of any number of calls in any order, at any times. A call that nobody comes
between takes its two turns: `breaker_run_call`.
-/
namespace ChatAutomation

namespace Breaker

/-- What is let through leaves the breaker as it is, or makes an open one half open. -/
theorem enter_eq_ok_iff {b b' : Breaker} {now : Binary64} :
    b.enter now = .ok b' ↔
      b.phase ≠ .opened ∧ b' = b ∨
        b.phase = .opened ∧ b.isOver now = true ∧ b' = { b with phase := .halfOpen, successes := 0 } := by
  by_cases hphase : b.phase = .opened
  · by_cases hover : b.isOver now = true <;> simp [enter, hphase, hover, eq_comm (a := b')]
  · simp [enter, hphase, eq_comm (a := b')]

theorem fault_of_enter {b : Breaker} {now : Binary64} {x : Fault} (h : b.enter now = .error x) :
    x = .circuitOpen b.limits.name := by
  unfold enter at h
  split at h
  · split at h
    · cases h
    · exact (Except.error.inj h).symm
  · cases h

/-- How a call came to its end counts; what it gave back does not. -/
@[simp] theorem record_map {α β : Type} (b : Breaker) (now : Binary64) (outcome : Except Fault α)
    (f : α → β) : b.record now (outcome.map f) = b.record now outcome := by
  cases outcome <;> rfl

/-- All that a success can do. -/
theorem succeed_cases (b : Breaker) :
    (b.phase = .halfOpen ∧ b.limits.successThreshold ≤ b.successes + 1 ∧
      b.succeed = { b with phase := .closed, failures := 0, successes := b.successes + 1 }) ∨
    (b.phase = .halfOpen ∧ b.successes + 1 < b.limits.successThreshold ∧
      b.succeed = { b with successes := b.successes + 1 }) ∨
    b.phase ≠ .halfOpen ∧ b.succeed = { b with failures := 0 } := by
  by_cases hphase : b.phase = .halfOpen
  · by_cases henough : b.limits.successThreshold ≤ b.successes + 1
    · exact .inl ⟨hphase, henough, by rw [succeed, if_pos hphase, if_pos henough]⟩
    · exact .inr (.inl ⟨hphase, Int.not_le.1 henough, by rw [succeed, if_pos hphase, if_neg henough]⟩)
  · exact .inr (.inr ⟨hphase, by rw [succeed, if_neg hphase]⟩)

/-- All that a failure can do to the phase. -/
theorem phase_fail_cases (b : Breaker) (now : Binary64) :
    ((b.phase = .halfOpen ∨ b.limits.failureThreshold ≤ b.failures + 1) ∧
      (b.fail now).phase = .opened) ∨
    b.phase ≠ .halfOpen ∧ b.failures + 1 < b.limits.failureThreshold ∧
      (b.fail now).phase = b.phase := by
  by_cases hopens : b.phase = .halfOpen ∨ b.limits.failureThreshold ≤ b.failures + 1
  · exact .inl ⟨hopens, if_pos hopens⟩
  · have ⟨hphase, hfew⟩ := not_or.1 hopens
    exact .inr ⟨hphase, Int.not_le.1 hfew, if_neg hopens⟩

/-- A turn of a call: it asks to enter, or its outcome is recorded. -/
inductive Turn where
  | ask (call : Nat) (now : Binary64)
  | finish (call : Nat) (now : Binary64) (outcome : Except Fault Unit)

/-- What took effect at a breaker. -/
inductive Event where
  | entered (call : Nat)
  | finished (call : Nat) (succeeded : Bool)
  deriving DecidableEq, Repr

/-- An event with the phases before and behind it. -/
structure Entry where
  event : Event
  before : Phase
  behind : Phase
  deriving DecidableEq, Repr

/-- A breaker, the calls in flight through it, and the log, the latest entry first. -/
structure Traffic where
  breaker : Breaker
  inFlight : List Nat
  log : List Entry

namespace Traffic

def phase (s : Traffic) : Phase := s.breaker.phase

def start (limits : BreakerLimits) : Traffic := ⟨.new limits, [], []⟩

/-- The traffic behind an event. -/
def note (s : Traffic) (event : Event) (b : Breaker) (inFlight : List Nat) : Traffic :=
  ⟨b, inFlight, ⟨event, s.phase, b.phase⟩ :: s.log⟩

/-- Takes a turn. A call that is in flight does not ask, and one that is not has no outcome. -/
def step (s : Traffic) : Turn → Traffic
  | .ask call now =>
    if call ∈ s.inFlight then s
    else
      match s.breaker.enter now with
      | .ok b => s.note (.entered call) b (call :: s.inFlight)
      | .error _ => s
  | .finish call now outcome =>
    if call ∈ s.inFlight then
      s.note (.finished call outcome.toBool) (s.breaker.record now outcome) (s.inFlight.erase call)
    else s

/-- Takes some turns, one after the other. -/
def run (s : Traffic) (turns : List Turn) : Traffic := turns.foldl step s

theorem run_append (s : Traffic) (turns later : List Turn) :
    s.run (turns ++ later) = (s.run turns).run later := List.foldl_append

variable {s : Traffic} {call : Nat} {now : Binary64}

theorem step_ask {b : Breaker} (hnew : call ∉ s.inFlight) (h : s.breaker.enter now = .ok b) :
    s.step (.ask call now) = s.note (.entered call) b (call :: s.inFlight) := by
  simp only [step, hnew, h, if_false]

theorem step_ask_refused {x : Fault} (h : s.breaker.enter now = .error x) :
    s.step (.ask call now) = s := by
  simp only [step, h, ite_self]

theorem step_finish (outcome : Except Fault Unit) (h : call ∈ s.inFlight) :
    s.step (.finish call now outcome) =
      s.note (.finished call outcome.toBool) (s.breaker.record now outcome)
        (s.inFlight.erase call) := by
  simp only [step, h, if_true]

@[simp] theorem phase_start (limits : BreakerLimits) : (start limits).phase = .closed := rfl

@[simp] theorem phase_note (event : Event) (b : Breaker) (inFlight : List Nat) :
    (s.note event b inFlight).phase = b.phase := rfl

/-- All that a turn can do: nothing, let a call enter, or record its success or its failure. -/
theorem step_cases (s : Traffic) (t : Turn) :
    s.step t = s ∨
    (∃ call now b, t = .ask call now ∧ call ∉ s.inFlight ∧ s.breaker.enter now = .ok b ∧
      s.step t = s.note (.entered call) b (call :: s.inFlight)) ∨
    (∃ call now, t = .finish call now (.ok ()) ∧ call ∈ s.inFlight ∧
      s.step t = s.note (.finished call true) s.breaker.succeed (s.inFlight.erase call)) ∨
    ∃ call now x, t = .finish call now (.error x) ∧ call ∈ s.inFlight ∧
      s.step t = s.note (.finished call false) (s.breaker.fail now) (s.inFlight.erase call) := by
  cases t with
  | ask call now =>
    by_cases hnew : call ∈ s.inFlight
    · exact .inl (by simp only [step, hnew, if_true])
    · cases h : s.breaker.enter now with
      | error x => exact .inl (step_ask_refused h)
      | ok b => exact .inr (.inl ⟨call, now, b, rfl, hnew, h, step_ask hnew h⟩)
  | finish call now outcome =>
    by_cases h : call ∈ s.inFlight
    · cases outcome with
      | ok _ => exact .inr (.inr (.inl ⟨call, now, rfl, h, step_finish _ h⟩))
      | error x => exact .inr (.inr (.inr ⟨call, now, x, rfl, h, step_finish _ h⟩))
    · exact .inl (by simp only [step, h, if_false])

/-- The two turns of a call that is let through. -/
theorem run_call {b : Breaker} (hnew : call ∉ s.inFlight) (h : s.breaker.enter now = .ok b)
    (later : Binary64) (outcome : Except Fault Unit) :
    s.run [.ask call now, .finish call later outcome] =
      (s.note (.entered call) b (call :: s.inFlight)).note (.finished call outcome.toBool)
        (b.record later outcome) s.inFlight := by
  have hin : call ∈ (s.note (.entered call) b (call :: s.inFlight)).inFlight := List.mem_cons_self
  rw [run, List.foldl_cons, List.foldl_cons, List.foldl_nil, step_ask hnew h, step_finish _ hin]
  simp only [note, List.erase_cons_head]

/-- A call that nobody comes between takes its two turns. -/
theorem breaker_run_call {α σ : Type} {clock : σ → Binary64} (hnew : call ∉ s.inFlight)
    (f : σ → Except Fault α × σ) (outside : σ) :
    (s.breaker.callBy clock f outside).2.1 =
      (s.run [.ask call (clock outside),
        .finish call (clock (f outside).2) ((f outside).1.map fun _ => ())]).breaker := by
  cases h : s.breaker.enter (clock outside) with
  | error x =>
    rw [callBy_refused clock h, run, List.foldl_cons, List.foldl_cons, List.foldl_nil, step_ask_refused h,
      step, if_neg hnew]
  | ok b =>
    rw [run_call hnew h, callBy_entered clock h, record_map]
    rfl

end Traffic
end Breaker
end ChatAutomation
