/-!
# Bytes as text

Bytes are read as text in UTF-8. Bytes that are no text are replaced: one replacement character
stands for the longest run of them that begins a character, or for a byte that begins none.
-/
namespace ChatAutomation.Text

/-- What a lead byte announces: the bits that it holds, the number of bytes that follow, and the
bounds of the first of them. -/
def announced (b : Nat) : Option (Nat × Nat × Nat × Nat) :=
  if b < 0x80 then some (b, 0, 0, 0)
  else if b < 0xC2 then none
  else if b < 0xE0 then some (b - 0xC0, 1, 0x80, 0xBF)
  else if b = 0xE0 then some (0, 2, 0xA0, 0xBF)
  else if b = 0xED then some (0xD, 2, 0x80, 0x9F)
  else if b < 0xF0 then some (b - 0xE0, 2, 0x80, 0xBF)
  else if b = 0xF0 then some (0, 3, 0x90, 0xBF)
  else if b < 0xF4 then some (b - 0xF0, 3, 0x80, 0xBF)
  else if b = 0xF4 then some (4, 3, 0x80, 0x8F)
  else none

/-- Takes `n` bytes off the front, the first of them between `low` and `high`, and adds their bits to
the code. There is no code where a byte is missing. -/
def takeContinuation : (n low high code : Nat) → List UInt8 → Option Nat × List UInt8
  | 0, _, _, code, bs => (some code, bs)
  | _ + 1, _, _, _, [] => (none, [])
  | n + 1, low, high, code, b :: bs =>
    if low ≤ b.toNat ∧ b.toNat ≤ high then
      takeContinuation n 0x80 0xBF (code * 64 + (b.toNat - 0x80)) bs
    else (none, b :: bs)

theorem length_takeContinuation_le (n low high code : Nat) (bs : List UInt8) :
    (takeContinuation n low high code bs).2.length ≤ bs.length := by
  induction n generalizing low high code bs with
  | zero => simp [takeContinuation]
  | succ n ih =>
    cases bs with
    | nil => simp [takeContinuation]
    | cons b bs =>
      unfold takeContinuation
      split
      · exact Nat.le_succ_of_le (ih ..)
      · simp

def replacement : Char := Char.ofNat 0xFFFD

def decodeBytes : List UInt8 → List Char
  | [] => []
  | b :: bs =>
    match announced b.toNat with
    | none => replacement :: decodeBytes bs
    | some (code, n, low, high) =>
      ((takeContinuation n low high code bs).1.map Char.ofNat).getD replacement ::
        decodeBytes (takeContinuation n low high code bs).2
termination_by bs => bs.length
decreasing_by
  · simp
  · exact Nat.lt_succ_of_le (length_takeContinuation_le ..)

end ChatAutomation.Text
