import ChatAutomation.Proofs.Pattern.Arms
import ChatAutomation.Proofs.Text.LowerCase

/-!
# Letters and lower case

How a letter matches a character in lower case. Such a character is not changed by folding, so a letter
matches it if one of the parts that the letter is written with does: `fits_among` and `fits_one`. A letter is
steady if it matches the same characters in lower case once it is written in lower case itself. Single
characters for which case does not count are steady, but a range whose ends are moved need not be.
-/
namespace ChatAutomation.Text

/-! ## Codes -/

theorem code_of_lt {c : Char} (h : c.toNat < standInOffset) : code c = c.toNat := by
  have hnone : loneHalf? c = none := by
    unfold loneHalf?
    rw [if_neg (by simp; omega)]
  rw [code, hnone]
  rfl

theorem toNat_charOfCode {n : Nat} (h : n < standInOffset) :
    (charOfCode n).toNat = if isSurrogate n then n + standInOffset else n := by
  have hrange := h
  unfold charOfCode
  rw [toNat_ofNat_of_isValid]
  unfold standInOffset at hrange ⊢
  split_ifs with hsurrogate
  · exact .inr ⟨by omega, by omega⟩
  · unfold isSurrogate at hsurrogate
    simp only [Bool.and_eq_true, decide_eq_true_eq] at hsurrogate
    unfold Nat.isValidChar
    omega

theorem code_charOfCode {n : Nat} (h : n < standInOffset) : code (charOfCode n) = n := by
  have hnat := toNat_charOfCode h
  by_cases hsurrogate : isSurrogate n = true
  · rw [if_pos hsurrogate] at hnat
    have hsome : loneHalf? (charOfCode n) = some n := by
      unfold loneHalf?
      simp [hnat, hsurrogate]
    rw [code, hsome]
    rfl
  · rw [if_neg hsurrogate] at hnat
    rw [code_of_lt (by rwa [hnat]), hnat]

@[simp] theorem charOfCode_code (c : Char) : charOfCode (code c) = c := by
  unfold code
  cases h : loneHalf? c with
  | none =>
    have hplain : isSurrogate c.toNat = false := by
      have := c.valid
      simp only [isSurrogate, Bool.and_eq_false_iff, decide_eq_false_iff_not]
      unfold UInt32.isValidChar Nat.isValidChar at this
      change ¬ 0xD800 ≤ c.val.toNat ∨ ¬ c.val.toNat < 0xE000
      omega
    simp [charOfCode, hplain, Char.ofNat_toNat]
  | some n =>
    unfold loneHalf? at h
    split_ifs at h with hhalf
    simp only [Bool.and_eq_true, decide_eq_true_eq] at hhalf
    obtain rfl := Option.some.inj h
    rw [Option.getD_some, charOfCode, if_pos hhalf.2, Nat.sub_add_cancel hhalf.1, Char.ofNat_toNat]

/-- A character in lower case is not changed by the lower case of ASCII. -/
theorem toLower_of_simpleLower {c : Char} (h : simpleLower c = c) : c.toLower = c := by
  unfold simpleLower at h
  split_ifs at h with hascii
  · exact h
  all_goals
    rcases toLower_cases c with h | ⟨⟨-, hupper⟩, -⟩
    · exact h
    · omega

end ChatAutomation.Text

namespace ChatAutomation.Pattern

open Text

theorem Folding.apply_of_simpleLower (f : Folding) {c : Char} (h : simpleLower c = c) : f.apply c = c := by
  cases f with
  | exact => rfl
  | ascii => exact toLower_of_simpleLower h
  | full => exact h

/-- The lower case form of a code has itself as its lower case form. -/
theorem lowerCode_lowerCode (ascii : Bool) (n : Nat) :
    lowerCode ascii (lowerCode false n) = lowerCode false n := by
  have hlower : simpleLower (simpleLower (charOfCode n)) = simpleLower (charOfCode n) :=
    simpleLower_simpleLower _
  unfold lowerCode
  cases ascii
  · simp [Folding.apply]
  · simp [Folding.apply, toLower_of_simpleLower hlower]

@[simp] theorem holds_point (n : Nat) (c : Char) : (point n).holds c = (code c == n) := by
  simp only [point, Member.holds, Nat.mod_one]
  grind

/-! ## Codes without case -/

/-- A number that a run covers lies in every range around it. -/
theorem isSome_caseSlice_of_covers {r : CaseRun} (hstep : 0 < r.step) {n : Nat} (h : r.Covers n) :
    (caseSlice r n n).isSome = true := by
  obtain ⟨hfirst, hlast, hmod⟩ := h
  obtain ⟨k, hk⟩ := Nat.dvd_of_mod_eq_zero hmod
  have hlo : (n - r.first + r.step - 1) / r.step = k := by
    rw [hk, Nat.add_sub_assoc hstep, Nat.mul_add_div hstep, Nat.div_eq_of_lt (by omega), Nat.add_zero]
  have hhi : (min n r.last - r.first) / r.step = k := by
    rw [Nat.min_eq_left hlast, hk, Nat.mul_div_cancel_left k hstep]
  unfold caseSlice
  simp only [if_neg (Nat.not_lt.2 hfirst), Option.bind_some, hhi, hlo]
  split <;> simp

theorem isSome_caseSlice_mono {r : CaseRun} {first last n : Nat} (hfirst : first ≤ n) (hlast : n ≤ last)
    (h : (caseSlice r n n).isSome = true) : (caseSlice r first last).isSome = true := by
  have hlo : (first - r.first + r.step - 1) / r.step ≤ (n - r.first + r.step - 1) / r.step :=
    Nat.div_le_div_right (by omega)
  have hhi : (min n r.last - r.first) / r.step ≤ (min last r.last - r.first) / r.step :=
    Nat.div_le_div_right (by omega)
  unfold caseSlice at h ⊢
  grind

theorem anyCased_mono {first last n : Nat} (hfirst : first ≤ n) (hlast : n ≤ last)
    (h : anyCased n n = true) : anyCased first last = true := by
  unfold anyCased at h ⊢
  simp only [Bool.or_eq_true, List.any_eq_true, Array.any_eq_true'] at h ⊢
  obtain (⟨r, hr, h⟩ | ⟨r, hr, h⟩) | ⟨p, hp, h⟩ := h
  · exact .inl (.inl ⟨r, hr, isSome_caseSlice_mono hfirst hlast h⟩)
  · exact .inl (.inr ⟨r, hr, isSome_caseSlice_mono hfirst hlast h⟩)
  · refine .inr ⟨p, hp, ?_⟩
    simp only [Bool.and_eq_true, decide_eq_true_eq] at h ⊢
    omega

theorem anyCased_of_covers {r : CaseRun} (hr : r ∈ upperRuns) (hstep : 0 < r.step) {n : Nat}
    (h : r.Covers n) : anyCased n n = true := by
  simp only [anyCased, Bool.or_eq_true, Array.any_eq_true']
  exact .inl (.inr ⟨r, hr, isSome_caseSlice_of_covers hstep h⟩)

/-- Most of the characters that share an upper case form lie in a run; the others have a longer one. -/
theorem anyCased_sharedUpper : (sharedUpper.all fun p => anyCased p.1 p.1) = true := by
  have hcovered : (sharedUpper.all fun p => upperRuns.toList.any (fun r =>
      Nat.blt 0 r.step && Nat.ble r.first p.1 && Nat.ble p.1 r.last &&
        Nat.beq ((p.1 - r.first) % r.step) 0) || longUpper.any fun q => q.1 == p.1) = true := by
    decide +kernel
  refine List.all_eq_true.2 fun p hp => ?_
  rcases Bool.or_eq_true_iff.1 (List.all_eq_true.1 hcovered p hp) with h | h
  · obtain ⟨r, hr, h⟩ := List.any_eq_true.1 h
    simp only [Bool.and_eq_true, Nat.blt_eq, Nat.ble_eq, Nat.beq_eq] at h
    exact anyCased_of_covers (Array.mem_toList_iff.1 hr) h.1.1.1 ⟨h.1.1.2, h.1.2, h.2⟩
  · obtain ⟨q, hq, h⟩ := List.any_eq_true.1 h
    simp only [anyCased, Bool.or_eq_true, List.any_eq_true]
    exact .inr ⟨q, hq, by simp [beq_iff_eq.1 h]⟩

theorem lowerRuns_below : (lowerRuns.toList.all fun r => 0 < r.step && r.last < standInOffset) = true := by
  decide

/-- A code that has no other case is its own lower case form. -/
theorem simpleLower_charOfCode {n : Nat} (hn : n < standInOffset) (h : anyCased n n = false) :
    simpleLower (charOfCode n) = charOfCode n := by
  have hruns : ∀ r ∈ allLowerRuns, caseSlice r n n = none := by
    simp only [anyCased, Bool.or_eq_false_iff, List.any_eq_false] at h
    exact fun r hr => Option.not_isSome_iff_eq_none.1 (h.1.1 r hr)
  have hplane := List.all_eq_true.1 lowerRuns_below
  have hnat := toNat_charOfCode hn
  rcases simpleLower_cases (charOfCode n) with h | ⟨hdotted, -⟩ | ⟨r, hr, hcovers, -⟩
  · exact h
  · split_ifs at hnat with hsurrogate
    · unfold standInOffset at hnat
      omega
    · have := hruns dottedCapital List.mem_cons_self
      rw [← hnat, hdotted] at this
      exact absurd this (by decide)
  · have hbelow := hplane r hr
    simp only [Bool.and_eq_true, decide_eq_true_eq] at hbelow
    split_ifs at hnat
    · have := hcovers.2.1
      omega
    · rw [hnat] at hcovers
      have := isSome_caseSlice_of_covers hbelow.1 hcovers
      rw [hruns r (List.mem_cons_of_mem _ hr)] at this
      cases this

theorem lowerCode_of_not_anyCased {n : Nat} (hn : n < standInOffset) (h : anyCased n n = false) :
    lowerCode false n = n := by
  simp [lowerCode, Folding.apply, simpleLower_charOfCode hn h, code_charOfCode hn]

theorem lowerCode_of_not_hasCases {ascii : Bool} {n : Nat} (hn : n < standInOffset)
    (h : hasCases ascii n n = false) : lowerCode ascii n = n := by
  cases ascii with
  | false => exact lowerCode_of_not_anyCased hn h
  | true =>
    have hlower : (charOfCode n).toLower = charOfCode n := by
      rcases toLower_cases (charOfCode n) with h | ⟨⟨hlo, hhi⟩, -⟩
      · exact h
      · have hnat := toNat_charOfCode hn
        unfold standInOffset at hnat
        simp [hasCases] at h
        split_ifs at hnat <;> omega
    simp [lowerCode, Folding.apply, hlower, code_charOfCode hn]

theorem code_sharedUpper : (sharedUpper.all fun p => code (Char.ofNat p.1) == p.1) = true := by
  decide

theorem withShared_eq (ms : List Member) : withShared ms =
    ms ++ (sharedUpper.filter fun p => ms.any (·.holds (Char.ofNat p.1))).flatMap (·.2.map point) := rfl

/-- Members without case share no upper case form with others. -/
theorem withShared_of_not_anyCased {ms : List Member}
    (h : ∀ c, ms.any (·.holds c) = true → anyCased (code c) (code c) = false) : withShared ms = ms := by
  have hnone : (sharedUpper.filter fun p => ms.any (·.holds (Char.ofNat p.1))) = [] := by
    refine List.filter_eq_nil_iff.2 fun p hp hany => ?_
    have hcode := beq_iff_eq.1 (List.all_eq_true.1 code_sharedUpper p hp)
    have hcased := List.all_eq_true.1 anyCased_sharedUpper p hp
    have huncased := h _ hany
    rw [hcode, hcased] at huncased
    cases huncased
  rw [withShared_eq, hnone, List.flatMap_nil, List.append_nil]

theorem sharedUpper_below : (sharedUpper.all fun p => p.1 < upperPlanes) = true := by
  decide

/-- Nor do characters of the upper planes. -/
theorem withShared_point_of_le {n : Nat} (h : upperPlanes ≤ n) : withShared [point n] = [point n] := by
  have hnone : (sharedUpper.filter fun p => [point n].any (·.holds (Char.ofNat p.1))) = [] := by
    refine List.filter_eq_nil_iff.2 fun p hp hany => ?_
    have hcode := beq_iff_eq.1 (List.all_eq_true.1 code_sharedUpper p hp)
    have hbelow := of_decide_eq_true (List.all_eq_true.1 sharedUpper_below p hp)
    simp only [List.any_cons, List.any_nil, holds_point, Bool.or_false, beq_iff_eq] at hany
    omega
  rw [withShared_eq, hnone, List.flatMap_nil, List.append_nil]

/-! ## Parts of sets -/

/-- Does a part of a set hold a character in lower case? -/
def SetItem.holds (ignoreCase ascii : Bool) (i : SetItem) (c : Char) : Bool :=
  if ignoreCase then (i.folded ascii).any (·.holds c) else (i.plain ascii).holds c

theorem lowerImages_of_not_anyCased {first last : Nat} (h : anyCased first last = false) :
    lowerImages first last = [] := by
  simp only [anyCased, Bool.or_eq_false_iff, List.any_eq_false] at h
  refine List.filterMap_eq_nil_iff.2 fun r hr => ?_
  rw [Option.not_isSome_iff_eq_none.1 (h.1.1 r hr)]
  rfl

theorem SetItem.folded_one_of_not_isCased {ascii : Bool} {n : Nat} (h : (one n).isCased ascii = false) :
    (one n).folded ascii = [(one n).plain ascii] := by
  simp only [isCased, Bool.or_eq_false_iff, decide_eq_false_iff_not] at h
  obtain ⟨hplane, hcases⟩ := h
  have hn : n < standInOffset := by
    unfold upperPlanes at hplane
    unfold standInOffset
    omega
  rw [folded, if_neg hplane, lowerCode_of_not_hasCases hn hcases]
  cases ascii with
  | true => rfl
  | false =>
    refine withShared_of_not_anyCased fun c hc => ?_
    simp only [List.any_cons, List.any_nil, holds_point, Bool.or_false, beq_iff_eq] at hc
    rw [hc]
    exact hcases

theorem SetItem.folded_span_of_not_isCased {ascii : Bool} {first last : Nat}
    (h : (span first last).isCased ascii = false) :
    (span first last).folded ascii = [(span first last).plain ascii] := by
  simp only [isCased, Bool.or_eq_false_iff, decide_eq_false_iff_not] at h
  obtain ⟨hplane, hcases⟩ := h
  have hlast : min last (upperPlanes - 1) = last := by omega
  rw [folded, if_neg hplane, hlast, List.append_nil]
  cases ascii with
  | true =>
    have hout : ¬ (first ≤ 90 ∧ 65 ≤ last) := by
      simp [hasCases] at hcases
      omega
    simp only [if_true, if_neg hout]
    rfl
  | false =>
    have hcased : anyCased first last = false := hcases
    simp only [Bool.false_eq_true, if_false, lowerImages_of_not_anyCased hcased]
    refine withShared_of_not_anyCased fun c hc => ?_
    by_contra hany
    simp only [List.any_cons, List.any_nil, Member.holds, Bool.or_false, Bool.and_eq_true,
      decide_eq_true_eq] at hc
    have := anyCased_mono hc.1.1 hc.1.2 (by simpa using hany)
    rw [hcased] at this
    cases this

/-- A part without case is not changed where case does not count. -/
theorem SetItem.folded_of_not_isCased {ascii : Bool} {i : SetItem} (h : i.isCased ascii = false) :
    i.folded ascii = [i.plain ascii] := by
  cases i with
  | category k negated => rfl
  | one n => exact folded_one_of_not_isCased h
  | span first last => exact folded_span_of_not_isCased h

theorem SetItem.holds_of_not_isCased {ascii : Bool} {i : SetItem} (h : i.isCased ascii = false)
    (ignoreCase : Bool) (c : Char) : i.holds ignoreCase ascii c = (i.plain ascii).holds c := by
  cases ignoreCase <;> simp [holds, folded_of_not_isCased h]

section contains
variable {ignoreCase ascii negated : Bool} {c : Char}

/-- A set holds a character in lower case if one of its parts does. -/
theorem CharSet.contains_ofItems (hc : simpleLower c = c) (items : List SetItem) :
    (ofItems ignoreCase ascii negated items).contains c =
      (items.any (·.holds ignoreCase ascii c) != negated) := by
  unfold ofItems
  split
  · rename_i hcased
    have hic : ignoreCase = true := (Bool.and_eq_true_iff.1 hcased).1
    subst hic
    simp only [contains, Folding.apply_of_simpleLower _ hc, List.any_flatMap, SetItem.holds, if_true]
  · rename_i hcased
    have hplain : ∀ i ∈ items, (i.plain ascii).holds c = i.holds ignoreCase ascii c := by
      intro i hi
      cases ignoreCase with
      | false => rfl
      | true =>
        refine (SetItem.holds_of_not_isCased ?_ true c).symm
        by_contra h
        exact hcased (List.any_eq_true.2 ⟨i, hi, eq_true_of_ne_false h⟩)
    simp only [contains, Folding.apply, List.any_map]
    congr 1
    rw [Bool.eq_iff_iff, List.any_eq_true, List.any_eq_true]
    exact exists_congr fun i => and_congr_right fun hi => by rw [Function.comp_apply, hplain i hi]

theorem CharSet.contains_exact (n : Nat) :
    (CharSet.mk negated .exact [point n]).contains c = ((point n).holds c != negated) := by
  simp only [contains, List.any_cons, List.any_nil, Bool.or_false, Folding.apply]

theorem CharSet.contains_ofCode_of_lt (hc : simpleLower c = c) {n : Nat} (hn : n < upperPlanes) :
    (ofCode ignoreCase ascii negated n).contains c =
      ((SetItem.one n).holds ignoreCase ascii c != negated) := by
  unfold ofCode
  split
  · rename_i hcased
    have hic : ignoreCase = true := (Bool.and_eq_true_iff.1 hcased).1
    subst hic
    cases ascii <;>
      simp [contains, SetItem.holds, SetItem.folded, if_neg (Nat.not_le.2 hn),
        Folding.apply_of_simpleLower _ hc]
  · rename_i hcased
    rw [contains_exact]
    cases ignoreCase with
    | false => rfl
    | true =>
      have huncased : (SetItem.one n).isCased ascii = false := by
        simp only [SetItem.isCased, Bool.or_eq_false_iff, decide_eq_false_iff_not]
        exact ⟨Nat.not_le.2 hn, by simpa using hcased⟩
      rw [SetItem.holds_of_not_isCased huncased]
      rfl

theorem CharSet.contains_ofCode_of_le (hc : simpleLower c = c) {n : Nat} (hn : upperPlanes ≤ n)
    (hlower : lowerCode false n = n) : (ofCode ignoreCase ascii negated n).contains c =
      ((SetItem.one n).holds ignoreCase ascii c != negated) := by
  have hholds : (SetItem.one n).holds ignoreCase ascii c = (point n).holds c := by
    cases ignoreCase <;> simp [SetItem.holds, SetItem.folded, SetItem.plain, hn]
  rw [hholds]
  unfold ofCode
  split
  · rename_i hcased
    cases ascii with
    | true =>
      unfold upperPlanes at hn
      simp [hasCases] at hcased
      omega
    | false =>
      simp only [Bool.false_eq_true, if_false, hlower, withShared_point_of_le hn, contains, List.any_cons,
        List.any_nil, Bool.or_false, Folding.apply_of_simpleLower _ hc]
  · exact contains_exact n

/-- So does the set of a single character, unless it is one of the upper planes in upper case. -/
theorem CharSet.contains_ofCode (hc : simpleLower c = c) {n : Nat}
    (hn : n < upperPlanes ∨ lowerCode false n = n) : (ofCode ignoreCase ascii negated n).contains c =
      ((SetItem.one n).holds ignoreCase ascii c != negated) := by
  rcases Nat.lt_or_ge n upperPlanes with hlow | hhigh
  · exact contains_ofCode_of_lt hc hlow
  · exact contains_ofCode_of_le hc hhigh (hn.resolve_left (Nat.not_lt.2 hhigh))

end contains

end ChatAutomation.Pattern
