import ChatAutomation.Proofs.Binary64.Rounding

/-!
# Whole numbers in floating point

A whole number is rounded to 53 binary digits, so one of up to 1023 digits always has a floating point number
next to it. One of 1024 digits has none if its leading 53 digits are rounded up to the next power of two:
`ofInt?_eq_none_iff`. What is found is positive exactly for positive numbers: `zero_lt_iff_of_ofInt?`.
-/
namespace ChatAutomation.Binary64

/-- The least number of `54 + k` digits whose leading 53 digits are rounded up to a power of two. -/
def carried (k : Nat) : Nat := 2 * hiddenBit * (2 * Nat.pow 2 k) - Nat.pow 2 k

/-- The least whole number that is rounded to infinity. -/
def overflow : Nat := carried 970

example : overflow + Nat.pow 2 970 = Nat.pow 2 1024 := by decide +kernel

theorem nearestQuotient_one (num : Nat) : nearestQuotient num 1 = num := by
  simp [nearestQuotient, Nat.mod_one]

/-- A number of 53 digits and some more is rounded up to the next power of two in the last half unit. -/
theorem nearestQuotient_eq_carry_iff {num half : Nat} (hhalf : 0 < half)
    (hnum : num < 2 * hiddenBit * (2 * half)) :
    nearestQuotient num (2 * half) = 2 * hiddenBit ↔ 2 * hiddenBit * (2 * half) - half ≤ num := by
  have hdiv : 2 * half * (num / (2 * half)) + num % (2 * half) = num := Nat.div_add_mod _ _
  have hmod : num % (2 * half) < 2 * half := Nat.mod_lt _ (by omega)
  have hlt : num / (2 * half) < 2 * hiddenBit := Nat.div_lt_of_lt_mul (by rwa [Nat.mul_comm])
  unfold nearestQuotient
  dsimp only
  generalize num / (2 * half) = q at *
  generalize num % (2 * half) = r at *
  by_cases hlast : q = 2 * hiddenBit - 1
  · -- the last quotient is odd, so that a half is rounded up
    subst hlast
    have hodd : ¬ (2 * hiddenBit - 1) % 2 = 0 := by decide
    rw [if_neg hodd]
    unfold hiddenBit at *
    split_ifs <;> omega
  · have hbelow : q + 1 ≤ 2 * hiddenBit - 1 := by omega
    have hle : 2 * half * (q + 1) ≤ 2 * half * (2 * hiddenBit - 1) := Nat.mul_le_mul_left _ hbelow
    simp only [hiddenBit, Nat.mul_add, Nat.mul_one] at *
    split_ifs <;> omega

/-- A whole number is rounded to the precision of its own size, and carried to the next size if need be. -/
theorem ofRatio_one {d : Nat} (hd : d ≠ 0) (negative : Bool) :
    ofRatio negative d 1 =
      let s := scaleDown d 1 (d.log2 - 52)
      let c := if s = 2 * hiddenBit then (hiddenBit, (d.log2 : Int) - 52 + 1) else (s, (d.log2 : Int) - 52)
      if maxExponent < c.2 then .infinite negative else .finite negative c.1 c.2 := by
  have hbelow : ratioBelow d 1 (d.log2 - 0) = false := ratioBelow_log2 hd 0
  have hexponent : max ((d.log2 : Int) - 0 - 52) minExponent = d.log2 - 52 := by
    simp only [minExponent]
    omega
  have hlog : (1 : Nat).log2 = 0 := rfl
  simp only [ofRatio, hd, if_false, hlog, Int.natCast_zero, hbelow, Bool.false_eq_true, hexponent]

/-- A whole number is beyond the format if it has too many digits, or as many as there may be and is
carried to one more. -/
theorem infinite_ofRatio_one_iff_log2 {d : Nat} (hd : d ≠ 0) (negative : Bool) :
    ofRatio negative d 1 = .infinite negative ↔
      1023 < d.log2 ∨ d.log2 = 1023 ∧ scaleDown d 1 (d.log2 - 52) = 2 * hiddenBit := by
  rw [ofRatio_one hd]
  generalize scaleDown d 1 (d.log2 - 52) = s
  by_cases hcarry : s = 2 * hiddenBit <;> simp only [hcarry, if_true, if_false, maxExponent]
  · split_ifs <;> simp <;> omega
  · split_ifs <;> simp <;> omega

theorem two_pow_add_eq_hiddenBit (k : Nat) : 2 ^ (k + 54) = 2 * hiddenBit * (2 * 2 ^ k) := by
  have hcarry : 2 * hiddenBit = 2 ^ 53 := rfl
  rw [hcarry, ← pow_succ', ← pow_add]
  exact congrArg (2 ^ ·) (by omega)

/-- Numbers of more than 1024 digits are beyond the format, and of 1024 digits those that are carried. -/
theorem infinite_ofRatio_one_iff {d k : Nat} (hd : d ≠ 0) (hk : k = 970) (negative : Bool) :
    ofRatio negative d 1 = .infinite negative ↔ carried k ≤ d := by
  have hlow : 2 ^ d.log2 ≤ d := Nat.log2_self_le hd
  have hhigh : d < 2 ^ (d.log2 + 1) := Nat.lt_log2_self
  have hcarried : carried k = 2 * hiddenBit * (2 * 2 ^ k) - 2 ^ k := rfl
  have hpow := two_pow_add_eq_hiddenBit k
  have hhalf : 0 < 2 ^ k := Nat.two_pow_pos k
  rw [infinite_ofRatio_one_iff_log2 hd]
  rcases Nat.lt_trichotomy d.log2 1023 with hfew | hlast | hmany
  · have hbelow : 2 * d < 2 * hiddenBit * (2 * 2 ^ k) := by
      have hle : 2 ^ (d.log2 + 1 + 1) ≤ 2 ^ (k + 54) := Nat.pow_le_pow_right (by decide) (by omega)
      rw [pow_succ] at hle
      omega
    unfold hiddenBit at *
    omega
  · have hscale : scaleDown d 1 (d.log2 - 52) = nearestQuotient d (2 * 2 ^ k) := by
      have hexponent : (d.log2 : Int) - 52 = (k + 1 : Nat) := by omega
      rw [hexponent, scaleDown, if_pos (Int.natCast_nonneg _), Int.toNat_natCast, one_mul, ← pow_succ']
      rfl
    have hbelow : d < 2 * hiddenBit * (2 * 2 ^ k) := by
      rw [← hpow]
      exact hhigh.trans_eq (congrArg (2 ^ ·) (by omega))
    rw [hscale, nearestQuotient_eq_carry_iff hhalf hbelow, hcarried]
    exact ⟨fun h => h.elim (by omega) And.right, fun h => .inr ⟨hlast, h⟩⟩
  · have habove : 2 * hiddenBit * (2 * 2 ^ k) ≤ d := by
      rw [← hpow]
      exact (Nat.pow_le_pow_right (by decide) (by omega)).trans hlow
    exact iff_of_true (.inl hmany) ((Nat.sub_le _ _).trans habove)

theorem scaleDown_pos {d : Nat} (hd : d ≠ 0) : 0 < scaleDown d 1 (d.log2 - 52) := by
  rcases Nat.lt_or_ge d.log2 52 with hfew | hmany
  · have hfactor : 0 < Nat.pow 2 (-((d.log2 : Int) - 52)).toNat := Nat.two_pow_pos _
    rw [scaleDown, if_neg (by omega), nearestQuotient_one]
    exact Nat.mul_pos (Nat.pos_of_ne_zero hd) hfactor
  · obtain ⟨k, hk⟩ := Nat.exists_eq_add_of_le hmany
    have hexponent : (d.log2 : Int) - 52 = k - (0 : Nat) := by omega
    have hlow : 2 ^ k ≤ d :=
      (Nat.pow_le_pow_right (by decide) (by omega)).trans (Nat.log2_self_le hd)
    rw [hexponent]
    exact (Nat.div_pos hlow (Nat.two_pow_pos k)).trans_le (div_le_scaleDown d k 0)

/-- What is found for a number that is not zero is infinite, or has a significand. -/
theorem ofRatio_one_cases {d : Nat} (hd : d ≠ 0) (negative : Bool) :
    ofRatio negative d 1 = .infinite negative ∨
      ∃ s e, ofRatio negative d 1 = .finite negative s e ∧ 0 < s := by
  have hhidden : 0 < hiddenBit := by decide
  have hpos := scaleDown_pos hd
  rw [ofRatio_one hd]
  generalize scaleDown d 1 (d.log2 - 52) = s at *
  dsimp only
  split_ifs
  · exact .inl rfl
  · exact .inr ⟨_, _, rfl, hhidden⟩
  · exact .inl rfl
  · exact .inr ⟨_, _, rfl, hpos⟩

/-- Every whole number short of the bound is rounded to a finite number, and no other one is. -/
theorem ofInt?_eq_none_iff {n : Int} : ofInt? n = none ↔ overflow ≤ n.natAbs := by
  by_cases hn : n.natAbs = 0
  · have hoverflow : 0 < overflow := by decide +kernel
    rw [ofInt?, ofRatio, if_pos hn, hn]
    simpa using hoverflow.ne'
  · rw [overflow, ← infinite_ofRatio_one_iff hn rfl (decide (n < 0)), ofInt?]
    rcases ofRatio_one_cases hn (decide (n < 0)) with h | ⟨s, e, h, -⟩ <;> simp [h]

section Sign
variable {negative : Bool} {s : Nat} {e : Int}

theorem magnitude_pos_iff : 0 < s * Nat.pow 2 (e - minExponent).toNat ↔ 0 < s :=
  Nat.mul_pos_iff_of_pos_right (Nat.two_pow_pos _)

theorem zero_lt_finite : zero.lt (.finite negative s e) = true ↔ negative = false ∧ 0 < s := by
  rw [← magnitude_pos_iff (e := e)]
  simp only [zero, lt, multiple, Nat.zero_mul, decide_eq_true_eq]
  generalize s * Nat.pow 2 (e - minExponent).toNat = m
  cases negative <;> simp

theorem finite_lt_zero : (finite negative s e).lt zero = true ↔ negative = true ∧ 0 < s := by
  rw [← magnitude_pos_iff (e := e)]
  simp only [zero, lt, multiple, Nat.zero_mul, decide_eq_true_eq]
  generalize s * Nat.pow 2 (e - minExponent).toNat = m
  cases negative <;> simp

end Sign

/-- The floating point number that is found has the sign of the whole number. -/
theorem zero_lt_iff_of_ofInt? {n : Int} {x : Binary64} (h : ofInt? n = some x) :
    x.isFinite = true ∧ (zero.lt x = true ↔ 0 < n) := by
  by_cases hn : n.natAbs = 0
  · obtain rfl : n = 0 := Int.natAbs_eq_zero.1 hn
    obtain rfl : zero = x := Option.some.inj h
    decide
  · rw [ofInt?] at h
    rcases ofRatio_one_cases hn (decide (n < 0)) with hx | ⟨s, e, hx, hs⟩ <;> rw [hx] at h
    · cases h
    · obtain rfl := Option.some.inj h
      refine ⟨rfl, zero_lt_finite.trans ?_⟩
      simp only [decide_eq_false_iff_not]
      omega

end ChatAutomation.Binary64
