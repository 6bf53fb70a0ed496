import ChatAutomation.Fault

/-!
# Circuit breakers

A breaker stands in front of a service that may fail. After enough failures in a row it opens and
refuses calls; once the timeout has passed since the last failure it lets a trial through. Every
call is an admission, and later the record of how it went.
-/
namespace ChatAutomation

/-- How a breaker is set up. -/
structure BreakerLimits where
  name : String
  failureThreshold : Int := 5
  timeout : Binary64 := .ofDecimal false 60 0
  successThreshold : Int := 1
  deriving Repr

/-- Does a breaker let calls through? -/
inductive Phase where
  | closed
  | opened
  | halfOpen
  deriving DecidableEq, Repr

def Phase.name : Phase → String
  | closed => "closed"
  | opened => "open"
  | halfOpen => "half_open"

structure Breaker where
  limits : BreakerLimits
  phase : Phase
  failures : Nat
  successes : Nat
  lastFailure : Option Binary64
  deriving Repr

namespace Breaker

def new (limits : BreakerLimits) : Breaker := ⟨limits, .closed, 0, 0, none⟩

/-- Has the timeout passed since the last failure? A failure at the time zero does not count. -/
def isOver (b : Breaker) (now : Binary64) : Bool :=
  match b.lastFailure with
  | some t => !t.isZero && b.limits.timeout.lt (now.sub t)
  | none => false

/-- A call asks to enter; it is let through or refused. -/
def enter (now : Binary64) (b : Breaker) : Except Fault Breaker :=
  if b.phase = .opened then
    if b.isOver now then .ok { b with phase := .halfOpen, successes := 0 }
    else .error (.circuitOpen b.limits.name)
  else .ok b

/-- Records that a call succeeded. -/
def succeed (b : Breaker) : Breaker :=
  if b.phase = .halfOpen then
    if b.limits.successThreshold ≤ b.successes + 1 then
      { b with phase := .closed, failures := 0, successes := b.successes + 1 }
    else { b with successes := b.successes + 1 }
  else { b with failures := 0 }

/-- Records that a call failed. -/
def fail (now : Binary64) (b : Breaker) : Breaker :=
  let opens := b.phase = .halfOpen ∨ b.limits.failureThreshold ≤ b.failures + 1
  { b with
    phase := if opens then .opened else b.phase
    failures := b.failures + 1
    lastFailure := some now }

def record {α : Type} (now : Binary64) (outcome : Except Fault α) (b : Breaker) : Breaker :=
  match outcome with
  | .ok _ => b.succeed
  | .error _ => b.fail now

/-- A call through the breaker, by a clock that is read before and after it. What is outside changes
only if the call is let through. -/
def callBy {α σ : Type} (clock : σ → Binary64) (f : σ → Except Fault α × σ) (b : Breaker)
    (outside : σ) : Except Fault α × Breaker × σ :=
  match b.enter (clock outside) with
  | .error e => (.error e, b, outside)
  | .ok b =>
    let (outcome, outside) := f outside
    (outcome, b.record (clock outside) outcome, outside)

/-- A call that takes no time. -/
def call {α σ : Type} (now : Binary64) (f : σ → Except Fault α × σ) (b : Breaker) (outside : σ) :
    Except Fault α × Breaker × σ :=
  b.callBy (fun _ => now) f outside

theorem enter_of_ne_opened {b : Breaker} {now : Binary64} (h : b.phase ≠ .opened) :
    b.enter now = .ok b := by
  simp [enter, h]

theorem phase_of_enter {b b' : Breaker} {now : Binary64} (h : b.enter now = .ok b') :
    b'.phase ≠ .opened := by
  unfold enter at h
  split at h
  · split at h
    · cases h
      simp
    · cases h
  · rename_i hp
    cases h
    exact hp

@[simp] theorem lastFailure_fail (b : Breaker) (now : Binary64) :
    (b.fail now).lastFailure = some now := rfl

@[simp] theorem failures_fail (b : Breaker) (now : Binary64) :
    (b.fail now).failures = b.failures + 1 := rfl

@[simp] theorem limits_succeed (b : Breaker) : b.succeed.limits = b.limits := by
  unfold succeed
  split
  · split <;> rfl
  · rfl

@[simp] theorem limits_fail (b : Breaker) (now : Binary64) : (b.fail now).limits = b.limits := rfl

section
variable {α σ : Type} {b b' : Breaker} {outside : σ}

theorem callBy_refused (clock : σ → Binary64) {e : Fault} (h : b.enter (clock outside) = .error e)
    (f : σ → Except Fault α × σ) : b.callBy clock f outside = (.error e, b, outside) := by
  simp only [callBy, h]

theorem callBy_entered (clock : σ → Binary64) (h : b.enter (clock outside) = .ok b')
    (f : σ → Except Fault α × σ) :
    b.callBy clock f outside =
      ((f outside).1, b'.record (clock (f outside).2) (f outside).1, (f outside).2) := by
  simp only [callBy, h]

/-- A refused call leaves everything as it was. -/
theorem call_refused {now : Binary64} {e : Fault} (h : b.enter now = .error e)
    (f : σ → Except Fault α × σ) (outside : σ) :
    b.call now f outside = (.error e, b, outside) := callBy_refused (fun _ => now) h f

end

end Breaker
end ChatAutomation
