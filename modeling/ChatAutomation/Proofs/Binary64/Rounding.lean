import ChatAutomation.Binary64
import Mathlib.Tactic.Positivity
import Mathlib.Tactic.Ring

/-!
# Rounding a difference

A difference is rounded to the nearest number of the format. The rounding does not take it below a number
of the format that it is not below: `le_ofMultiple`. So a difference that is above a bound is measured as
above the bound, unless it is rounded to the bound itself: `lt_sub_iff`.
-/
namespace ChatAutomation.Binary64

/-- The significand has 53 binary digits at most. -/
def Fits : Binary64 → Prop
  | .finite _ s _ => s < 2 * hiddenBit
  | _ => True

instance (x : Binary64) : Decidable x.Fits :=
  match x with
  | .finite _ s _ => inferInstanceAs (Decidable (s < 2 * hiddenBit))
  | .nan | .infinite _ => .isTrue trivial

/-- Both numbers are finite, and the first is not above the second. -/
def NotAbove (x y : Binary64) : Prop :=
  ∃ m n, x.multiple = some m ∧ y.multiple = some n ∧ m ≤ n

instance (x y : Binary64) : Decidable (x.NotAbove y) :=
  match hx : x.multiple, hy : y.multiple with
  | some m, some n => decidable_of_iff (m ≤ n) (by simp [NotAbove, hx, hy])
  | none, _ => .isFalse (by simp [NotAbove, hx])
  | some _, none => .isFalse (by simp [NotAbove, hy])

/-- The second number is above the first by more than the bound, to the last binary digit. -/
def Exceeds (bound x y : Binary64) : Prop :=
  ∃ m n, x.multiple = some m ∧ y.multiple = some n ∧
    (bound = .infinite true ∨ ∃ k, bound.multiple = some k ∧ k < n - m)

instance (bound x y : Binary64) : Decidable (bound.Exceeds x y) :=
  match hx : x.multiple, hy : y.multiple with
  | some m, some n =>
    match hbound : bound.multiple with
    | some k =>
      decidable_of_iff (bound = .infinite true ∨ k < n - m) (by simp [Exceeds, hx, hy, hbound])
    | none => decidable_of_iff (bound = .infinite true) (by simp [Exceeds, hx, hy, hbound])
  | none, _ => .isFalse (by simp [Exceeds, hx])
  | some _, none => .isFalse (by simp [Exceeds, hy])

theorem div_le_nearestQuotient (num den : Nat) : num / den ≤ nearestQuotient num den := by
  unfold nearestQuotient
  dsimp only
  split_ifs <;> omega

/-- Scaling by `2 ^ (a - p)` multiplies a denominator `2 ^ p`, or else the numerator over it. -/
theorem scale_cases (a p : Nat) :
    (0 : Int) ≤ a - p ∧ Nat.pow 2 p * Nat.pow 2 (a - p : Int).toNat = 2 ^ a ∨
      ¬ (0 : Int) ≤ a - p ∧ Nat.pow 2 p = 2 ^ a * Nat.pow 2 (-(a - p : Int)).toNat := by
  by_cases hsign : (0 : Int) ≤ a - p
  · have ha : p + (a - p : Int).toNat = a := by omega
    refine .inl ⟨hsign, ?_⟩
    conv_rhs => rw [← ha]
    exact (pow_add 2 p _).symm
  · have hp : p = a + (-(a - p : Int)).toNat := by omega
    refine .inr ⟨hsign, ?_⟩
    conv_lhs => rw [hp]
    exact pow_add 2 a _

theorem div_le_scaleDown (num a p : Nat) : num / 2 ^ a ≤ scaleDown num (Nat.pow 2 p) (a - p) := by
  unfold scaleDown
  rcases scale_cases a p with ⟨hsign, hden⟩ | ⟨hsign, hden⟩
  · rw [if_pos hsign, hden]
    exact div_le_nearestQuotient num (2 ^ a)
  · have hpos : 0 < Nat.pow 2 (-(a - p : Int)).toNat := Nat.pow_pos (by decide)
    rw [if_neg hsign, ← Nat.mul_div_mul_right num (2 ^ a) hpos, ← hden]
    exact div_le_nearestQuotient _ _

theorem ratioBelow_log2 {num : Nat} (hnum : num ≠ 0) (p : Nat) :
    ratioBelow num (Nat.pow 2 p) (num.log2 - p) = false := by
  have hlead : 2 ^ num.log2 ≤ num := Nat.log2_self_le hnum
  unfold ratioBelow
  rcases scale_cases num.log2 p with ⟨hsign, hden⟩ | ⟨hsign, hden⟩
  · rw [if_pos hsign, hden]
    exact decide_eq_false (Nat.not_lt.2 hlead)
  · rw [if_neg hsign, hden]
    exact decide_eq_false (Nat.not_lt.2 (Nat.mul_le_mul_right _ hlead))

theorem multiple_finite (s k : Nat) :
    (Binary64.finite false s (k + minExponent)).multiple = some ((s * 2 ^ k : Nat) : Int) := by
  have hk : ((k : Int) + minExponent - minExponent).toNat = k := by omega
  simp only [multiple, hk]
  rfl

/-- A multiple of the least number is rounded to the precision of its own size, unless it is too large. -/
theorem ofRatio_cases {d p : Nat} (hd : d ≠ 0) (hp : minExponent = -p) :
    let x := ofRatio false d (Nat.pow 2 p)
    let k := d.log2 - 52
    x = .infinite false ∨ ∃ s, d / 2 ^ k ≤ s ∧ x.multiple = some ((s * 2 ^ k : Nat) : Int) := by
  intro x k
  have hlog : (Nat.pow 2 p).log2 = p := Nat.log2_two_pow
  have hexponent : max ((d.log2 : Int) - p - 52) minExponent = k - p := by omega
  have hx : x =
      let s := scaleDown d (Nat.pow 2 p) (k - p)
      let c := if s = 2 * hiddenBit then (hiddenBit, (k : Int) - p + 1) else (s, (k : Int) - p)
      if maxExponent < c.2 then .infinite false else .finite false c.1 c.2 := by
    simp only [x, ofRatio, hd, if_false, hlog, ratioBelow_log2 hd, Bool.false_eq_true, hexponent]
  have hle : d / 2 ^ k ≤ scaleDown d (Nat.pow 2 p) (k - p) := div_le_scaleDown d k p
  generalize scaleDown d (Nat.pow 2 p) (k - p) = s at hx hle
  have hgiven (s' k' : Nat) (hsame : s' * 2 ^ k' = s * 2 ^ k)
      (h : x = if maxExponent < (k' + minExponent : Int) then .infinite false
        else .finite false s' (k' + minExponent)) :
      x = .infinite false ∨ ∃ s, d / 2 ^ k ≤ s ∧ x.multiple = some ((s * 2 ^ k : Nat) : Int) := by
    by_cases hlarge : maxExponent < (k' + minExponent : Int)
    · exact .inl (h.trans (if_pos hlarge))
    · refine .inr ⟨s, hle, ?_⟩
      rw [h, if_neg hlarge, multiple_finite, hsame]
  by_cases hcarry : s = 2 * hiddenBit
  · apply hgiven hiddenBit (k + 1)
    · rw [hcarry, pow_succ]
      ring
    · simp only [hx, hcarry, if_true, hp, Nat.cast_add, Nat.cast_one]
      ring_nf
  · apply hgiven s k rfl
    simp only [hx, hcarry, if_false, hp]
    rfl

/-- What is rounded does not go below a number of the format that it is not below. -/
theorem le_ofRatio {s j d p : Nat} (hp : minExponent = -p) (hs : s < 2 * hiddenBit) (hd : d ≠ 0)
    (hle : s * 2 ^ j ≤ d) :
    ofRatio false d (Nat.pow 2 p) = .infinite false ∨
      ∃ r : Nat, (ofRatio false d (Nat.pow 2 p)).multiple = some (r : Int) ∧ s * 2 ^ j ≤ r := by
  rcases ofRatio_cases hd hp with hlarge | ⟨r, hr, hvalue⟩
  · exact .inl hlarge
  · refine .inr ⟨_, hvalue, ?_⟩
    generalize hk : d.log2 - 52 = k at *
    by_cases hfine : k ≤ j
    · -- the bound lies on the grid to which `d` is rounded
      obtain ⟨i, rfl⟩ := Nat.exists_eq_add_of_le hfine
      have hgrid : s * 2 ^ (k + i) = s * 2 ^ i * 2 ^ k := by ring
      rw [hgrid] at hle ⊢
      have hquotient : s * 2 ^ i ≤ d / 2 ^ k := (Nat.le_div_iff_mul_le (by positivity)).2 hle
      exact Nat.mul_le_mul_right _ (hquotient.trans hr)
    · -- the bound has fewer digits than `d`
      have hlead : 2 ^ (52 + k) ≤ d := by
        have hlog : 52 + k = d.log2 := by omega
        exact hlog ▸ Nat.log2_self_le hd
      have hquotient : hiddenBit ≤ d / 2 ^ k := by
        rw [Nat.le_div_iff_mul_le (by positivity)]
        exact (pow_add 2 52 k) ▸ hlead
      calc s * 2 ^ j ≤ (2 * hiddenBit) * 2 ^ j := Nat.mul_le_mul_right _ hs.le
        _ = hiddenBit * 2 ^ (j + 1) := by ring
        _ ≤ hiddenBit * 2 ^ k := Nat.mul_le_mul_left _ (Nat.pow_le_pow_right (by decide) (by omega))
        _ ≤ r * 2 ^ k := Nat.mul_le_mul_right _ (hquotient.trans hr)

theorem multiple_neg (x : Binary64) : x.neg.multiple = x.multiple.map (-·) := by
  cases x with
  | finite negative s e => cases negative <;> simp [neg, multiple]
  | _ => rfl

theorem eq_finite_of_multiple {x : Binary64} {m : Int} (h : x.multiple = some m) :
    ∃ negative s e, x = .finite negative s e := by
  cases x with
  | finite negative s e => exact ⟨negative, s, e, rfl⟩
  | _ => cases h

theorem sub_eq_of_multiple {x y : Binary64} {m n : Int} (hx : x.multiple = some m)
    (hy : y.multiple = some n) :
    y.sub x = if n - m = 0 then .finite (y.isNegative && x.neg.isNegative) 0 minExponent
      else ofMultiple (n - m) := by
  have hneg : x.neg.multiple = some (-m) := by rw [multiple_neg, hx, Option.map_some]
  obtain ⟨b, t, f, hxneg⟩ := eq_finite_of_multiple hneg
  obtain ⟨a, s, e, rfl⟩ := eq_finite_of_multiple hy
  rw [hxneg] at hneg
  rw [sub, hxneg]
  simp only [add, hy, hneg, sub_eq_add_neg]

theorem ofRatio_natCast (d den : Nat) :
    ofRatio (decide ((d : Int) < 0)) (d : Int).natAbs den = ofRatio false d den := by
  rw [decide_eq_false (by omega), Int.natAbs_natCast]

theorem le_ofMultiple {bound : Binary64} {k d : Int} (hfits : bound.Fits)
    (hbound : bound.multiple = some k) (hle : k ≤ d) (hd : 0 < d) :
    ofMultiple d = .infinite false ∨ ∃ r, (ofMultiple d).multiple = some r ∧ k ≤ r := by
  obtain ⟨D, rfl⟩ := Int.eq_ofNat_of_zero_le hd.le
  -- a negative bound is below zero, which is a number of the format
  have hcovered : ∃ s j, s < 2 * hiddenBit ∧ s * 2 ^ j ≤ D ∧ k ≤ (s * 2 ^ j : Nat) := by
    obtain ⟨negative, s, e, rfl⟩ := eq_finite_of_multiple hbound
    cases negative with
    | false =>
      obtain rfl : ((s * Nat.pow 2 (e - minExponent).toNat : Nat) : Int) = k := Option.some.inj hbound
      exact ⟨s, _, hfits, Int.ofNat_le.1 hle, Int.le_refl _⟩
    | true =>
      obtain rfl : -((s * Nat.pow 2 (e - minExponent).toNat : Nat) : Int) = k := Option.some.inj hbound
      exact ⟨0, 0, by decide, by omega, by omega⟩
  obtain ⟨s, j, hs, hsD, hk⟩ := hcovered
  obtain ⟨p, hp, hround⟩ : ∃ p : Nat, minExponent = -p ∧
      ofMultiple D = ofRatio false D (Nat.pow 2 p) := ⟨1074, rfl, ofRatio_natCast D _⟩
  rw [hround]
  rcases le_ofRatio hp hs (by omega) hsD with hlarge | ⟨r, hr, hle⟩
  · exact .inl hlarge
  · exact .inr ⟨r, hr, by omega⟩

/-- A difference is not rounded to what is below a number of the format that it is not below. -/
theorem le_sub {bound x y : Binary64} {k m n : Int} (hfits : bound.Fits)
    (hbound : bound.multiple = some k) (hx : x.multiple = some m) (hy : y.multiple = some n)
    (hle : m ≤ n) (hk : k ≤ n - m) :
    y.sub x = .infinite false ∨ ∃ r, (y.sub x).multiple = some r ∧ k ≤ r := by
  rw [sub_eq_of_multiple hx hy]
  by_cases hzero : n - m = 0
  · rw [if_pos hzero]
    exact .inr ⟨0, by cases y.isNegative && x.neg.isNegative <;> rfl, by omega⟩
  · rw [if_neg hzero]
    exact le_ofMultiple hfits hbound hk (by omega)

/-- A difference above the bound is measured as above the bound, unless it is rounded to the bound. -/
theorem lt_sub_iff {bound x y : Binary64} (hfits : bound.Fits) (hxy : x.NotAbove y)
    (h : bound.Exceeds x y) : bound.lt (y.sub x) = true ↔ (y.sub x).eq bound = false := by
  obtain ⟨m, n, hx, hy, hle⟩ := hxy
  obtain ⟨m', n', hx', hy', hbound⟩ := h
  obtain rfl : m = m' := Option.some.inj (hx.symm.trans hx')
  obtain rfl : n = n' := Option.some.inj (hy.symm.trans hy')
  rcases hbound with rfl | ⟨k, hk, hlt⟩
  · rcases le_sub (show zero.Fits by decide) rfl hx hy hle (by omega) with hlarge | ⟨r, hr, -⟩
    · rw [hlarge]
      decide
    · obtain ⟨negative, s, e, hfinite⟩ := eq_finite_of_multiple hr
      rw [hfinite]
      exact iff_of_true rfl rfl
  · obtain ⟨a, s, e, rfl⟩ := eq_finite_of_multiple hk
    rcases le_sub hfits hk hx hy hle hlt.le with hlarge | ⟨r, hr, hkr⟩
    · rw [hlarge]
      exact iff_of_true rfl rfl
    · obtain ⟨b, t, f, hfinite⟩ := eq_finite_of_multiple hr
      rw [hfinite] at hr ⊢
      simp only [lt, eq, hk, hr, decide_eq_true_eq, beq_eq_false_iff_ne, ne_eq, Option.some.injEq]
      omega

end ChatAutomation.Binary64
