import ChatAutomation.Numeral
import ChatAutomation.Value

/-!
# Length of a delay

A delay is written as a number or as text with a number. What is no positive finite number means the
default.
-/
namespace ChatAutomation.Delay

/-- The written number of seconds, none where there is none. A whole number beyond the range of
floating point is an error. -/
def written : Value → Except Unit (Option Binary64)
  | .int n =>
    match Binary64.ofInt? n with
    | some x => .ok (some x)
    | none => .error ()
  | .bool b => .ok (some (if b then .ofDecimal false 1 0 else .zero))
  | .float x => .ok (some x)
  | .text s => .ok (readNumber s)
  | _ => .ok none

/-- Can one wait for so long? -/
def isSensible (x : Binary64) : Bool := x.isFinite && Binary64.zero.lt x

def seconds (v default : Value) : Except Unit Value :=
  (written v).map fun
    | some x => if isSensible x then .float x else default
    | none => default

/-- What is waited for is the default, or a positive finite number. -/
theorem seconds_eq_ok {v default w : Value} (h : seconds v default = .ok w) :
    w = default ∨ ∃ x, w = .float x ∧ isSensible x = true := by
  unfold seconds at h
  cases hw : written v with
  | error e => simp [hw, Except.map] at h
  | ok o =>
    cases o with
    | none =>
      left
      simpa [hw, Except.map] using h.symm
    | some x =>
      by_cases hx : isSensible x = true
      · right
        exact ⟨x, by simpa [hw, Except.map, hx] using h.symm, hx⟩
      · left
        simpa [hw, Except.map, hx] using h.symm

end ChatAutomation.Delay
