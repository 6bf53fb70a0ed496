import ChatAutomation.Proofs.Action.Effects
import ChatAutomation.Proofs.Binary64.Whole
import ChatAutomation.Proofs.Template.ReadBack
import ChatAutomation.Settings

/-!
# How long a delay takes

A delay lasts as long as its input says, if that is a positive finite number, and else as long as the settings
say. The settings take care that their number is positive, but not that it is a finite one:
`Settings.isSensible_iff`. And a whole number beyond the range of floating point is no reason to fall back, but
ends the node before the timer is asked: `execute_delay`.
-/
namespace ChatAutomation

namespace Settings
variable {given environment : Entries Value} {s : Settings}

theorem defaultDelay_of_ofEntries {es : Entries Value} (h : ofEntries es = .ok s) :
    Schema.optional es "default_delay_seconds" readDelay (.ofDecimal false 1 0) = .ok s.defaultDelay := by
  obtain ⟨settings, seconds, hothers, hseconds, rfl⟩ := Checked.seq_eq_ok_iff.1 h
  -- the other settings are in front of this one
  have hlast : (settings seconds).defaultDelay = seconds := by
    clear h hseconds
    repeat
      rw [Checked.seq_eq_ok_iff] at hothers
      obtain ⟨_, _, hothers, -, rfl⟩ := hothers
    rw [Checked.map_eq_ok_iff] at hothers
    obtain ⟨_, -, rfl⟩ := hothers
    rfl
  rwa [hlast]

/-- Settings that were read do not have a negative delay or none. -/
theorem defaultDelay_of_read (h : read given environment = .ok s) :
    s.defaultDelay.lt .zero = false ∧ s.defaultDelay.isZero = false := by
  have hdelay := defaultDelay_of_ofEntries h
  unfold Schema.optional at hdelay
  split at hdelay
  · rename_i v _
    rw [Checked.under_eq_ok_iff, readDelay] at hdelay
    cases hv : Schema.number v with
    | issues is =>
      rw [hv] at hdelay
      cases hdelay
    | ok x =>
      rw [hv, Checked.refine] at hdelay
      split at hdelay
      · rename_i hpositive
        obtain rfl := Checked.ok.inj hdelay
        simpa using hpositive
      · cases hdelay
  · rw [← Checked.ok.inj hdelay]
    decide +kernel

/-- The delay of settings that were read is sensible if it is finite. -/
theorem isSensible_iff (h : read given environment = .ok s) :
    Delay.isSensible s.defaultDelay = true ↔ s.defaultDelay.isFinite = true := by
  obtain ⟨hpositive, hzero⟩ := defaultDelay_of_read h
  rw [Delay.isSensible, Bool.and_eq_true]
  refine ⟨And.left, fun hfinite => ⟨hfinite, ?_⟩⟩
  cases hx : s.defaultDelay with
  | finite negative significand exponent =>
    rw [hx, Bool.eq_false_iff, ne_eq, Binary64.finite_lt_zero] at hpositive
    rw [hx] at hzero
    have hsignificand : 0 < significand := Nat.pos_of_ne_zero (by simpa [Binary64.isZero] using hzero)
    exact Binary64.zero_lt_finite.2 ⟨by simpa [hsignificand] using hpositive, hsignificand⟩
  | _ =>
    rw [hx] at hfinite
    cases hfinite

end Settings

namespace Delay
variable {v : Value}

/-- A whole number that is no floating point number. -/
def isHuge : Value → Bool
  | .int n => Binary64.overflow ≤ n.natAbs
  | _ => false

/-- The number of seconds that a value asks for, if one can wait for so long. -/
def own (v : Value) : Option Binary64 :=
  match written v with
  | .ok (some x) => if isSensible x then some x else none
  | _ => none

theorem isHuge_int {n : Int} : isHuge (.int n) = true ↔ Binary64.ofInt? n = none := by
  rw [isHuge, decide_eq_true_eq, Binary64.ofInt?_eq_none_iff]

theorem written_eq_error_iff : written v = .error () ↔ isHuge v = true := by
  cases v with
  | int n =>
    rw [isHuge_int, written]
    cases Binary64.ofInt? n <;> simp
  | _ => simp [written, isHuge]

theorem own_eq_some_iff {x : Binary64} : own v = some x ↔ written v = .ok (some x) ∧ isSensible x = true := by
  unfold own
  rcases written v with _ | _ | y
  · simp
  · simp
  · by_cases hy : isSensible y = true
    · simp only [hy, if_true, Except.ok.injEq, Option.some.injEq]
      exact ⟨fun h => ⟨h, h ▸ hy⟩, And.left⟩
    · simp only [hy, Except.ok.injEq, Option.some.injEq]
      exact iff_of_false (by simp) fun h => hy (h.1 ▸ h.2)

theorem isSensible_getD_own {default : Binary64} :
    isSensible ((own v).getD default) = true ↔ (own v).isSome = true ∨ isSensible default = true := by
  cases h : own v with
  | none => simp
  | some x => simp [(own_eq_some_iff.1 h).2]

/-- A whole number is waited for if it is positive and not huge. -/
theorem own_int {n : Int} : (own (.int n)).isSome = true ↔ 0 < n ∧ isHuge (.int n) = false := by
  cases hx : Binary64.ofInt? n with
  | none =>
    have hown : own (.int n) = none := by simp only [own, written, hx]
    rw [hown, isHuge_int.2 hx]
    simp
  | some x =>
    have hhuge : isHuge (.int n) = false := by
      rw [Bool.eq_false_iff, ne_eq, isHuge_int, hx]
      exact Option.some_ne_none x
    obtain ⟨hfinite, hsign⟩ := Binary64.zero_lt_iff_of_ofInt? hx
    have hown : own (.int n) = if isSensible x then some x else none := by simp only [own, written, hx]
    rw [hown, hhuge, isSensible, hfinite, Bool.true_and, ← hsign]
    split <;> simp [*]

/-- A value that is not huge asks for its own number of seconds, or means the default. -/
theorem seconds_eq (v default : Value) : seconds v default =
    if isHuge v then .error () else .ok (((own v).map Value.float).getD default) := by
  split
  · rename_i hhuge
    rw [seconds, written_eq_error_iff.2 hhuge]
    rfl
  · rename_i hhuge
    rw [← written_eq_error_iff] at hhuge
    rw [seconds, own]
    rcases hv : written v with _ | _ | x
    · exact absurd hv hhuge
    · rfl
    · by_cases hx : isSensible x = true <;> simp [hx, Except.map]

end Delay

/-! ## The timer -/

namespace Engine
variable {σ : Type}

/-- The same engine with a record of how long it was asked to wait. -/
def timed (e : Engine σ) : Engine (σ × List Value) where
  collaborators :=
    { send := fun chat m => unnoted (e.collaborators.send chat m)
      respond := fun prompt said => unnoted (e.collaborators.respond prompt said)
      fetch := fun q => unnoted (e.collaborators.fetch q)
      sleep := fun seconds s =>
        ((e.collaborators.sleep seconds s.1).1, (e.collaborators.sleep seconds s.1).2, s.2 ++ [seconds]) }
  defaultDelay := e.defaultDelay
where
  unnoted {α : Type} (call : σ → α × σ) (s : σ × List Value) : α × σ × List Value :=
    ((call s.1).1, (call s.1).2, s.2)

end Engine

namespace Run
variable {σ : Type}

/-- The times that were waited for. -/
def slept (r : Run (σ × List Value)) : List Value := r.outside.2

end Run

namespace Node

/-- The input of a delay; null stands for none. -/
def seconds (n : Node) : Value := (n.data.get? "seconds").getD .null

theorem ofNode_delay (n : Node) : Payload.ofNode .delay n = .ok (.delay n.seconds) := by
  rw [Payload.ofNode, Payload.ofData, Payload.input, seconds]
  rcases n.data.get? "seconds" with _ | v
  · rfl
  · cases v <;> rfl

end Node

namespace Engine
variable {σ : Type} (e : Engine σ) {n : Node} (r : Run (σ × List Value))

theorem slept_execute_delay (hkind : n.kind? = some .delay) {w : Value}
    (hw : Delay.seconds n.seconds e.defaultDelay = .ok w) :
    (e.timed.execute n r).2.slept = r.slept ++ [w] := by
  have hattempt : e.timed.attempt .delay n r = r.ask (e.timed.collaborators.sleep w) := by
    have hw' : Delay.seconds n.seconds e.timed.defaultDelay = .ok w := hw
    simp only [attempt, Node.ofNode_delay, perform, message?, wait, hw']
  obtain ⟨outcome, hrun⟩ := run_execute e.timed r hkind
  rw [hrun, hattempt]
  rfl

theorem execute_delay_of_huge (hkind : n.kind? = some .delay)
    (hhuge : Delay.seconds n.seconds e.defaultDelay = .error ()) :
    (e.timed.execute n r).2.slept = r.slept ∧
      (e.timed.execute n r).1.error = some Fault.hugeDelay.report := by
  have hattempt : e.timed.attempt .delay n r = (.error .hugeDelay, r) := by
    have hhuge' : Delay.seconds n.seconds e.timed.defaultDelay = .error () := hhuge
    simp only [attempt, Node.ofNode_delay, perform, message?, wait, hhuge']
  rw [execute_of_error _ _ hkind hattempt]
  exact ⟨rfl, rfl⟩

/-- With settings that were read, a delay whose input is not huge is waited for: as many seconds as the input
asks for, or else as many as the settings say. With a huge input the node fails, and nothing is waited for. So
the timer is asked for a sensible time exactly if the input is not huge, and asks for one of its own or the
settings' number is finite. -/
theorem execute_delay {given environment : Entries Value} {s : Settings}
    (hs : Settings.read given environment = .ok s) (he : e.defaultDelay = .float s.defaultDelay)
    (hkind : n.kind? = some .delay) :
    (Delay.isHuge n.seconds = false →
      Delay.seconds n.seconds e.defaultDelay = .ok (.float ((Delay.own n.seconds).getD s.defaultDelay)) ∧
      (e.timed.execute n r).2.slept =
        r.slept ++ [.float ((Delay.own n.seconds).getD s.defaultDelay)]) ∧
    (Delay.isHuge n.seconds = true →
      Delay.seconds n.seconds e.defaultDelay = .error () ∧ (e.timed.execute n r).2.slept = r.slept ∧
      (e.timed.execute n r).1.error = some Fault.hugeDelay.report) ∧
    ((∃ x, (e.timed.execute n r).2.slept = r.slept ++ [.float x] ∧ Delay.isSensible x = true) ↔
      Delay.isHuge n.seconds = false ∧
        ((Delay.own n.seconds).isSome = true ∨ s.defaultDelay.isFinite = true)) := by
  have hseconds := Delay.seconds_eq n.seconds e.defaultDelay
  by_cases hhuge : Delay.isHuge n.seconds = true
  · rw [if_pos hhuge] at hseconds
    obtain ⟨hslept, herror⟩ := e.execute_delay_of_huge r hkind hseconds
    refine ⟨fun h => absurd hhuge (by simp [h]), fun _ => ⟨hseconds, hslept, herror⟩,
      iff_of_false ?_ fun h => absurd hhuge (by simp [h.1])⟩
    rintro ⟨x, hx, -⟩
    simp [hslept] at hx
  · rw [Bool.not_eq_true] at hhuge
    rw [hhuge, if_neg Bool.false_ne_true, he] at hseconds
    have hwaited : ((Delay.own n.seconds).map Value.float).getD (.float s.defaultDelay) =
        .float ((Delay.own n.seconds).getD s.defaultDelay) := by
      cases Delay.own n.seconds <;> rfl
    rw [hwaited, ← he] at hseconds
    have hslept := e.slept_execute_delay r hkind hseconds
    refine ⟨fun _ => ⟨hseconds, hslept⟩, fun h => absurd h (by simp [hhuge]), ?_⟩
    rw [hslept]
    simp only [List.append_cancel_left_eq, List.cons.injEq, Value.float.injEq, and_true, exists_eq_left',
      Delay.isSensible_getD_own, Settings.isSensible_iff hs, hhuge, true_and]

def pause (seconds : Value) : Node := ⟨"d", "delay", some [("seconds", seconds)], none, []⟩

/-- An engine without anything outside, with the delay of the settings. -/
def waiting (s : Settings) : Engine Unit := { storing with defaultDelay := .float s.defaultDelay }

def resting : Run (Unit × List Value) := ⟨[], ((), []), []⟩

/-- With standard settings, a number in a text. -/
theorem execute_delay_text : ∃ s, Settings.read [] [] = .ok s ∧
    (pause (.text " 2.5 ")).kind? = some .delay ∧
      ((waiting s).timed.execute (pause (.text " 2.5 ")) resting).2.slept =
        [.float (.finite false 5629499534213120 (-51))] := by
  obtain ⟨s, hs⟩ : ∃ s, Settings.read [] [] = .ok s := ⟨_, rfl⟩
  have hkind : (pause (.text " 2.5 ")).kind? = some .delay := by decide +kernel
  have hown : Delay.own (pause (.text " 2.5 ")).seconds = some (.finite false 5629499534213120 (-51)) := by
    decide +kernel
  have hslept := ((execute_delay (waiting s) resting hs rfl hkind).1 rfl).2
  rw [hown] at hslept
  exact ⟨s, hs, hkind, hslept⟩

/-- A whole number of 401 digits. -/
def huge : Value := .int (Nat.pow 10 400)

/-- A huge number of seconds ends the node before the timer is asked, and settings may say to wait for ever. -/
theorem not_sensible_huge_infinite :
    (Delay.seconds huge (.float (.ofDecimal false 1 0)) = .error () ∧
      (storing.timed.execute (pause huge) resting).1.ok = false ∧
      (storing.timed.execute (pause huge) resting).2.slept = []) ∧
    ∃ s, Settings.read [("default_delay_seconds", .float (.infinite false))] [] = .ok s ∧
      Delay.seconds .null (.float s.defaultDelay) = .ok (.float (.infinite false)) := by
  have hseconds (default : Value) : Delay.seconds huge default = .error () := by
    rw [Delay.seconds_eq, if_pos (by decide +kernel)]
  have hkind : (pause huge).kind? = some .delay := by decide +kernel
  obtain ⟨hslept, herror⟩ := storing.execute_delay_of_huge resting hkind (hseconds _)
  refine ⟨⟨hseconds _, ?_, hslept⟩, _, rfl, rfl⟩
  rw [NodeResult.ok, herror]
  rfl

end Engine
end ChatAutomation
