import Mathlib.Data.Bool.AllAny
import Mathlib.Data.List.Basic
import Mathlib.Data.List.TakeWhile
import ChatAutomation.Text.Blank
import ChatAutomation.Text.Case

/-!
# What lower case leaves alone

A character that lower case changes lies in one of the runs of `lowerRuns`, so a property of the
changed characters and of their images is a property of the runs, and there are few of them. Lower
case moves no blank and makes none; the lower case form of a character is in lower case.
-/
namespace ChatAutomation.Text

/-! ## Looking up a number -/

theorem searchAbove_bounds (entry : Nat → Nat) (x : Nat) {lo hi : Nat} (h : lo ≤ hi) :
    (lo < searchAbove entry x lo hi → entry (searchAbove entry x lo hi - 1) ≤ x) ∧
      (searchAbove entry x lo hi < hi → x < entry (searchAbove entry x lo hi)) ∧
      lo ≤ searchAbove entry x lo hi ∧ searchAbove entry x lo hi ≤ hi := by
  fun_induction searchAbove entry x lo hi with
  | case1 lo hi hlt mid hmid ih =>
    obtain ⟨hbelow, habove, hlo, hhi⟩ := ih (by omega)
    refine ⟨fun _ => ?_, habove, by omega, hhi⟩
    rcases Nat.lt_or_eq_of_le hlo with hlo | hlo
    · exact hbelow hlo
    · rwa [← hlo, Nat.add_sub_cancel]
  | case2 lo hi hlt mid hmid ih =>
    obtain ⟨hbelow, habove, hlo, hhi⟩ := ih (by omega)
    refine ⟨hbelow, fun _ => ?_, hlo, by omega⟩
    rcases Nat.lt_or_eq_of_le hhi with hhi | hhi
    · exact habove hhi
    · rw [hhi]
      omega
  | case3 lo hi hlt => exact ⟨by omega, by omega, by omega, by omega⟩

/-- A number in a set lies between a boundary at an even place and the one after it. -/
theorem exists_between_of_inBoundaries {boundaries : Array Nat} {x : Nat}
    (h : inBoundaries boundaries x = true) (heven : boundaries.size % 2 = 0) :
    ∃ k < boundaries.size / 2,
      boundaries.getD (2 * k) 0 ≤ x ∧ x < boundaries.getD (2 * k + 1) 0 := by
  obtain ⟨hbelow, habove, -, hhi⟩ :=
    searchAbove_bounds (fun i => boundaries.getD i 0) x (Nat.zero_le boundaries.size)
  simp only [inBoundaries, beq_iff_eq] at h
  generalize searchAbove (fun i => boundaries.getD i 0) x 0 boundaries.size = i at *
  refine ⟨i / 2, by omega, ?_, ?_⟩
  · simpa [show 2 * (i / 2) = i - 1 by omega] using hbelow (by omega)
  · simpa [show 2 * (i / 2) + 1 = i by omega] using habove (by omega)

/-! ## Sets of numbers -/

/-- A set of numbers, as the number that has these bits. -/
def bits (ns : List Nat) : Nat := ns.foldr (fun n m => 1 <<< n ||| m) 0

theorem testBit_bits {ns : List Nat} {n : Nat} : (bits ns).testBit n = true ↔ n ∈ ns := by
  induction ns with
  | nil => simp [bits]
  | cons k ns ih =>
    have hcons : bits (k :: ns) = 1 <<< k ||| bits ns := rfl
    rw [hcons, Nat.testBit_or, Bool.or_eq_true, ih, Nat.one_shiftLeft, Nat.testBit_two_pow,
      decide_eq_true_eq, List.mem_cons, eq_comm]

/-- Sets whose numbers have no bit in common are disjoint. Comparing each member of one with each of the
other would take longer. -/
theorem not_mem_of_bits {ms ns : List Nat} (h : bits ms &&& bits ns = 0) {n : Nat} (hm : n ∈ ms) :
    n ∉ ns := by
  intro hn
  have hboth : (bits ms &&& bits ns).testBit n = true := by
    rw [Nat.testBit_and, testBit_bits.2 hm, testBit_bits.2 hn, Bool.and_self]
  rw [h, Nat.zero_testBit] at hboth
  cases hboth

/-- The numbers between the boundaries of a set, which has no last range without an end. -/
def within (boundaries : Array Nat) : List Nat :=
  (List.range (boundaries.size / 2)).flatMap fun k =>
    List.range' (boundaries.getD (2 * k) 0) (boundaries.getD (2 * k + 1) 0 - boundaries.getD (2 * k) 0)

theorem mem_within {boundaries : Array Nat} (heven : boundaries.size % 2 = 0) {x : Nat}
    (h : inBoundaries boundaries x = true) : x ∈ within boundaries := by
  obtain ⟨k, hk, hlo, hhi⟩ := exists_between_of_inBoundaries h heven
  refine List.mem_flatMap.2 ⟨k, List.mem_range.2 hk, List.mem_range'_1.2 ⟨hlo, ?_⟩⟩
  omega

/-! ## The characters that change -/

namespace CaseRun

def Covers (r : CaseRun) (n : Nat) : Prop := r.first ≤ n ∧ n ≤ r.last ∧ (n - r.first) % r.step = 0

def imageOf (r : CaseRun) (n : Nat) : Nat := r.image + (n - r.first)

def codes (r : CaseRun) : List Nat :=
  (List.range ((r.last - r.first) / r.step + 1)).map fun i => r.first + r.step * i

theorem Covers.mem_codes {r : CaseRun} {n : Nat} (h : r.Covers n) : n ∈ r.codes := by
  obtain ⟨hfirst, hlast, hstep⟩ := h
  refine List.mem_map.2 ⟨(n - r.first) / r.step, List.mem_range.2 ?_, ?_⟩
  · exact Nat.lt_succ_of_le (Nat.div_le_div_right (Nat.sub_le_sub_right hlast _))
  · rw [Nat.mul_div_cancel' (Nat.dvd_of_mod_eq_zero hstep), Nat.add_sub_cancel' hfirst]

/-- The run and its images lie outside of a range. -/
def outside (lo hi : Nat) (r : CaseRun) : Bool :=
  (r.last < lo || hi ≤ r.first) && (r.image + (r.last - r.first) < lo || hi ≤ r.image)

theorem outside_iff_of_covers {r : CaseRun} {lo hi n : Nat} (h : r.outside lo hi = true)
    (hr : r.Covers n) : ¬ (lo ≤ n ∧ n < hi) ∧ ¬ (lo ≤ r.imageOf n ∧ r.imageOf n < hi) := by
  obtain ⟨hfirst, hlast, -⟩ := hr
  simp only [outside, imageOf, Bool.or_eq_true, Bool.and_eq_true, decide_eq_true_eq] at h ⊢
  omega

end CaseRun

theorem mapRuns_cases (runs : Array CaseRun) (c : Char) :
    mapRuns runs c = c ∨
      ∃ r ∈ runs.toList, r.Covers c.toNat ∧ mapRuns runs c = Char.ofNat (r.imageOf c.toNat) := by
  unfold mapRuns
  extract_lets n i
  split
  · rename_i r hr
    split_ifs with hcovers
    · exact .inr ⟨r, Array.mem_toList_iff.2 (Array.mem_of_getElem? hr), hcovers, rfl⟩
    · exact .inl rfl
  · exact .inl rfl

theorem toNat_ofNat_of_isValid {n : Nat} (h : n.isValidChar) : (Char.ofNat n).toNat = n := by
  rw [Char.ofNat, dif_pos h]
  rfl

/-- The images of the runs are characters below the surrogates or above them. -/
theorem isValidChar_image : ∀ r ∈ lowerRuns.toList, r.outside 0xd800 0xe000 = true ∧
    r.image + (r.last - r.first) < 0x110000 := by
  decide +kernel

theorem isValidChar_imageOf {r : CaseRun} (h : r ∈ lowerRuns.toList) {n : Nat} (hr : r.Covers n) :
    (r.imageOf n).isValidChar := by
  obtain ⟨hout, hlt⟩ := isValidChar_image r h
  have hrange := (CaseRun.outside_iff_of_covers hout hr).2
  obtain ⟨hfirst, hlast, -⟩ := hr
  unfold CaseRun.imageOf at hrange ⊢
  unfold Nat.isValidChar
  omega

theorem isUpper_iff {c : Char} : c.isUpper = true ↔ 65 ≤ c.toNat ∧ c.toNat ≤ 90 :=
  decide_eq_true_iff

theorem isLower_iff {c : Char} : c.isLower = true ↔ 97 ≤ c.toNat ∧ c.toNat ≤ 122 :=
  Bool.and_eq_true_iff.trans (and_congr decide_eq_true_iff decide_eq_true_iff)

theorem isAlpha_iff {c : Char} : c.isAlpha = true ↔
    (65 ≤ c.toNat ∧ c.toNat ≤ 90) ∨ (97 ≤ c.toNat ∧ c.toNat ≤ 122) :=
  Bool.or_eq_true_iff.trans (or_congr isUpper_iff isLower_iff)

theorem isDigit_iff {c : Char} : c.isDigit = true ↔ 48 ≤ c.toNat ∧ c.toNat ≤ 57 :=
  Bool.and_eq_true_iff.trans (and_congr decide_eq_true_iff decide_eq_true_iff)

theorem toLower_cases (c : Char) : c.toLower = c ∨
    (65 ≤ c.toNat ∧ c.toNat ≤ 90) ∧ c.toLower.toNat = 97 + (c.toNat - 65) := by
  unfold Char.toLower
  split_ifs with hupper
  · have hlo : 65 ≤ c.toNat := hupper.1
    have hhi : c.toNat ≤ 90 := hupper.2
    refine .inr ⟨⟨hlo, hhi⟩, ?_⟩
    have hshift : ('a'.val - 'A'.val).toNat = 32 := by decide
    simp only [Char.toNat, UInt32.toNat_add, hshift] at hlo hhi ⊢
    omega
  · exact .inl rfl

/-- A character that lower case changes, other than the dotted capital I, is in a run. -/
theorem simpleLower_cases (c : Char) :
    simpleLower c = c ∨ (c.toNat = 0x130 ∧ simpleLower c = 'i') ∨
      ∃ r ∈ lowerRuns.toList, r.Covers c.toNat ∧ (simpleLower c).toNat = r.imageOf c.toNat := by
  unfold simpleLower
  split_ifs with hascii hdotted
  · rcases toLower_cases c with h | ⟨hupper, h⟩
    · exact .inl h
    · refine .inr (.inr ⟨⟨65, 90, 1, 97⟩, List.Mem.head _, ⟨hupper.1, hupper.2, ?_⟩, h⟩)
      exact Nat.mod_one _
  · exact .inr (.inl ⟨hdotted, rfl⟩)
  · rcases mapRuns_cases lowerRuns c with h | ⟨r, hr, hcovers, h⟩
    · exact .inl h
    · refine .inr (.inr ⟨r, hr, hcovers, ?_⟩)
      rw [h, toNat_ofNat_of_isValid (isValidChar_imageOf hr hcovers)]

def loweredCodes : List Nat := lowerRuns.toList.flatMap CaseRun.codes

theorem mem_loweredCodes {r : CaseRun} (hr : r ∈ lowerRuns.toList) {n : Nat} (h : r.Covers n) :
    n ∈ loweredCodes :=
  List.mem_flatMap.2 ⟨r, hr, h.mem_codes⟩

def imageCodes : List Nat := lowerRuns.toList.flatMap fun r => r.codes.map r.imageOf

theorem mem_imageCodes {r : CaseRun} (hr : r ∈ lowerRuns.toList) {n : Nat} (h : r.Covers n) :
    r.imageOf n ∈ imageCodes :=
  List.mem_flatMap.2 ⟨r, hr, List.mem_map_of_mem h.mem_codes⟩

theorem images_apart : bits imageCodes &&& bits loweredCodes = 0 := by
  decide +kernel

/-- No image under one run is covered by another. -/
theorem not_covers_imageOf {r q : CaseRun} (hr : r ∈ lowerRuns.toList) (hq : q ∈ lowerRuns.toList)
    {n : Nat} (h : r.Covers n) : ¬ q.Covers (r.imageOf n) :=
  fun hcovers => not_mem_of_bits images_apart (mem_imageCodes hr h) (mem_loweredCodes hq hcovers)

theorem outside_dotted : ∀ r ∈ lowerRuns.toList, r.outside 0x130 0x131 = true := by
  decide +kernel

theorem simpleLower_i : simpleLower 'i' = 'i' := by decide

/-- The lower case form of a character is in lower case. -/
@[simp] theorem simpleLower_simpleLower (c : Char) : simpleLower (simpleLower c) = simpleLower c := by
  rcases simpleLower_cases c with h | ⟨-, h⟩ | ⟨r, hr, hcovers, himage⟩
  · rw [h, h]
  · rw [h, simpleLower_i]
  · rcases simpleLower_cases (simpleLower c) with h | ⟨h, -⟩ | ⟨q, hq, hcovers', -⟩
    · exact h
    · have hout := (CaseRun.outside_iff_of_covers (outside_dotted r hr) hcovers).2
      omega
    · rw [himage] at hcovers'
      exact absurd hcovers' (not_covers_imageOf hr hq hcovers)

/-! ## Characters without case -/

/-- What a text in lower case has in the place of a character. -/
def lowerAt (before : List Char) (c : Char) (after : List Char) : List Char :=
  if c == 'Σ' then [lowerSigma before after] else lowerChar c

theorem lowerAfter_cons (before : List Char) (c : Char) (cs : List Char) :
    lowerAfter before (c :: cs) = lowerAt before c cs ++ lowerAfter (c :: before) cs := rfl

theorem lowerAt_ne_nil (before : List Char) (c : Char) (after : List Char) :
    lowerAt before c after ≠ [] := by
  unfold lowerAt lowerChar
  split_ifs <;> simp

theorem lowerSigma_cases (before after : List Char) :
    lowerSigma before after = 'ς' ∨ lowerSigma before after = 'σ' := by
  unfold lowerSigma
  split_ifs
  · exact .inl rfl
  · exact .inr rfl

/-- Lower case leaves the character alone, and puts it in the place of no other. -/
structure Caseless (c : Char) : Prop where
  kept (before after : List Char) : lowerAt before c after = [c]
  alone {before after : List Char} {d : Char} (h : c ∈ lowerAt before d after) : d = c

/-- The characters that lower case changes, and those that it puts in their place. -/
def shiftedCodes : List Nat := 0x130 :: 0x307 :: 0x3C2 :: (loweredCodes ++ imageCodes)

theorem mem_shiftedCodes_of_mem_chars :
    ∀ c ∈ ['Σ', 'ς', 'σ', 'i', Char.ofNat 0x307], c.toNat ∈ shiftedCodes :=
  List.all_iff_forall_prop.1 (by decide +kernel)

theorem caseless_of_not_mem {c : Char} (h : c.toNat ∉ shiftedCodes) : Caseless c where
  kept before after := by
    have hdotted : c.toNat ≠ 0x130 := fun hc => h (hc ▸ List.mem_cons_self)
    have hsigma : c ≠ 'Σ' := fun hc => h (mem_shiftedCodes_of_mem_chars c (by simp [hc]))
    rw [lowerAt, if_neg (by simpa using hsigma), lowerChar, if_neg hdotted]
    rcases simpleLower_cases c with hc | ⟨hc, -⟩ | ⟨r, hr, hcovers, -⟩
    · rw [hc]
    · exact absurd hc hdotted
    · exact absurd (by simp [shiftedCodes, mem_loweredCodes hr hcovers]) h
  alone {before after d} hmem := by
    have hother : c ∉ ['Σ', 'ς', 'σ', 'i', Char.ofNat 0x307] :=
      fun hc => h (mem_shiftedCodes_of_mem_chars c hc)
    unfold lowerAt lowerChar at hmem
    split_ifs at hmem
    · rcases lowerSigma_cases before after with hd | hd <;>
        exact absurd (by simp [List.mem_singleton.1 hmem, hd]) hother
    · rcases List.mem_pair.1 hmem with rfl | rfl <;> simp at hother
    · obtain rfl := List.mem_singleton.1 hmem
      rcases simpleLower_cases d with hd | ⟨-, hd⟩ | ⟨r, hr, hcovers, himage⟩
      · exact hd.symm
      · exact absurd (by simp [hd]) hother
      · exact absurd (by simp [shiftedCodes, himage, mem_imageCodes hr hcovers]) h

/-! ## Characters in lower case -/

/-- A character that lower case leaves as it is on its own is left so in every text. -/
theorem lowerAt_of_simpleLower {c : Char} (h : simpleLower c = c) (before after : List Char) :
    lowerAt before c after = [c] := by
  have hsigma : c ≠ 'Σ' := by
    rintro rfl
    exact absurd h (by decide +kernel)
  have hdotted : c.toNat ≠ 0x130 := by
    intro hc
    have hi : simpleLower c = 'i' := by rw [simpleLower, if_neg (by omega), if_pos hc]
    rw [← h, hi] at hc
    exact absurd hc (by decide)
  rw [lowerAt, if_neg (by simpa using hsigma), lowerChar, if_neg hdotted, h]

theorem simpleLower_of_mem_lowerAt {before after : List Char} {c d : Char}
    (h : d ∈ lowerAt before c after) : simpleLower d = d := by
  unfold lowerAt lowerChar at h
  split_ifs at h with hsigma hdotted
  · rcases lowerSigma_cases before after with hs | hs <;> rw [List.mem_singleton.1 h, hs] <;>
      decide +kernel
  · rcases List.mem_pair.1 h with rfl | rfl <;> decide +kernel
  · rw [List.mem_singleton.1 h, simpleLower_simpleLower]

/-- A text in lower case consists of characters in lower case. -/
theorem simpleLower_of_mem_lowerAfter {before cs : List Char} {d : Char}
    (h : d ∈ lowerAfter before cs) : simpleLower d = d := by
  induction cs generalizing before with
  | nil => cases h
  | cons c cs ih =>
    rw [lowerAfter_cons, List.mem_append] at h
    exact h.elim simpleLower_of_mem_lowerAt ih

/-- A text is its own lower case form if its characters are. -/
theorem lowerAfter_eq_self_iff {before cs : List Char} :
    lowerAfter before cs = cs ↔ ∀ c ∈ cs, simpleLower c = c := by
  constructor
  · intro h c hc
    rw [← h] at hc
    exact simpleLower_of_mem_lowerAfter hc
  · intro h
    induction cs generalizing before with
    | nil => rfl
    | cons c cs ih =>
      obtain ⟨hc, hcs⟩ := List.forall_mem_cons.1 h
      rw [lowerAfter_cons, lowerAt_of_simpleLower hc, ih hcs, List.singleton_append]

/-! ## Blanks -/

theorem isBlank_eq_false {c : Char} (h : ∀ k < blankBoundaries.size / 2,
    ¬ (blankBoundaries.getD (2 * k) 0 ≤ c.toNat ∧ c.toNat < blankBoundaries.getD (2 * k + 1) 0)) :
    isBlank c = false := by
  by_contra hblank
  obtain ⟨k, hk, hbetween⟩ := exists_between_of_inBoundaries (eq_true_of_ne_false hblank) (by decide)
  exact h k hk hbetween

theorem blanks_apart : bits (within blankBoundaries) &&& bits shiftedCodes = 0 := by
  decide +kernel

theorem caseless_of_isBlank {c : Char} (h : isBlank c = true) : Caseless c :=
  caseless_of_not_mem (not_mem_of_bits blanks_apart (mem_within (by decide) h))

/-- Lower case keeps the blanks and makes none. -/
theorem isBlank_of_mem_lowerAt {before after : List Char} {c d : Char}
    (h : d ∈ lowerAt before c after) : isBlank d = isBlank c := by
  by_cases hc : isBlank c = true
  · rw [(caseless_of_isBlank hc).kept, List.mem_singleton] at h
    rw [h]
  · by_contra hne
    have hd : isBlank d = true := by
      rw [eq_false_of_ne_true hc] at hne
      exact eq_true_of_ne_false hne
    exact hne (by rw [(caseless_of_isBlank hd).alone h])

theorem lowerAfter_eq_nil {before cs : List Char} : lowerAfter before cs = [] ↔ cs = [] := by
  cases cs with
  | nil => simp [lowerAfter]
  | cons c cs => simp [lowerAfter_cons, lowerAt_ne_nil]

/-- A text and its lower case form begin with a blank alike. -/
theorem head?_lowerAfter (before cs : List Char) :
    (lowerAfter before cs).head?.map isBlank = cs.head?.map isBlank := by
  cases cs with
  | nil => rfl
  | cons c cs =>
    obtain ⟨d, ds, h⟩ := List.exists_cons_of_ne_nil (lowerAt_ne_nil before c cs)
    have hd : d ∈ lowerAt before c cs := h ▸ List.mem_cons_self
    simp [lowerAfter_cons, h, isBlank_of_mem_lowerAt hd]

/-- A text and its lower case form end in a blank alike. -/
theorem getLast?_lowerAfter (before cs : List Char) :
    (lowerAfter before cs).getLast?.map isBlank = cs.getLast?.map isBlank := by
  induction cs generalizing before with
  | nil => rfl
  | cons c cs ih =>
    rw [lowerAfter_cons]
    cases cs with
    | nil =>
      obtain ⟨ds, d, h⟩ :=
        (List.eq_nil_or_concat' (lowerAt before c [])).resolve_left (lowerAt_ne_nil before c [])
      have hd : d ∈ lowerAt before c [] := h ▸ List.mem_append_right _ List.mem_cons_self
      simp [lowerAfter, h, isBlank_of_mem_lowerAt hd]
    | cons c' cs =>
      rw [List.getLast?_append_of_ne_nil _ (by simp [lowerAfter_eq_nil]), ih, List.getLast?_cons_cons]

/-! ## Trimming -/

theorem dropWhile_isBlank_eq_self {cs : List Char} (h : cs.head?.map isBlank ≠ some true) :
    cs.dropWhile isBlank = cs := by
  cases cs with
  | nil => rfl
  | cons c cs => simp_all

theorem trimList_eq_self_iff {cs : List Char} : trimList cs = cs ↔
    cs.head?.map isBlank ≠ some true ∧ cs.getLast?.map isBlank ≠ some true := by
  constructor
  · intro h
    by_cases hne : cs = []
    · simp [hne]
    · have hne' : trimList cs ≠ [] := h.symm ▸ hne
      have hhead := isBlank_head_trimList hne'
      have hlast := isBlank_getLast_trimList hne'
      simp only [h] at hhead hlast
      simp [List.head?_eq_some_head hne, List.getLast?_eq_some_getLast hne, hhead, hlast]
  · rintro ⟨hhead, hlast⟩
    rw [trimList, dropWhile_isBlank_eq_self hhead, dropWhile_isBlank_eq_self (by simpa using hlast),
      List.reverse_reverse]

theorem trimList_append_blanks {back : List Char} (hback : ∀ c ∈ back, isBlank c = true) (cs : List Char) :
    trimList (cs ++ back) = trimList cs := by
  have hreverse : ∀ c ∈ back.reverse, isBlank c = true := fun c hc => hback c (List.mem_reverse.1 hc)
  rw [trimList, trimList, List.dropWhile_append]
  split_ifs with hblank
  · -- nothing but blanks: the ones behind the text are dropped from the front
    rw [List.isEmpty_iff.1 hblank, List.dropWhile_eq_nil_iff.2 hback]
  · rw [List.reverse_append, List.dropWhile_append_of_pos hreverse]

theorem trimList_padded {front back : List Char} (hfront : ∀ c ∈ front, isBlank c = true)
    (hback : ∀ c ∈ back, isBlank c = true) (cs : List Char) :
    trimList (front ++ cs ++ back) = trimList cs := by
  rw [trimList_append_blanks hback, trimList, List.dropWhile_append_of_pos hfront, trimList]

/-- What is cut off a text at either end is blank. -/
theorem exists_eq_padded_trimList (cs : List Char) :
    ∃ front back, (∀ c ∈ front, isBlank c = true) ∧ (∀ c ∈ back, isBlank c = true) ∧
      cs = front ++ trimList cs ++ back := by
  refine ⟨cs.takeWhile isBlank, ((cs.dropWhile isBlank).reverse.takeWhile isBlank).reverse,
    fun c hc => List.mem_takeWhile_imp hc,
    fun c hc => List.mem_takeWhile_imp (List.mem_reverse.1 hc), ?_⟩
  rw [List.append_assoc, trimList, ← List.reverse_append, List.takeWhile_append_dropWhile,
    List.reverse_reverse, List.takeWhile_append_dropWhile]

/-- Blanks at the ends are there in lower case as well, and no others. -/
theorem trimList_lowerList {cs : List Char} :
    trimList (lowerList cs) = lowerList cs ↔ trimList cs = cs := by
  rw [trimList_eq_self_iff, trimList_eq_self_iff, lowerList, head?_lowerAfter, getLast?_lowerAfter]

theorem trim_eq_self_iff {s : String} : trim s = s ↔ trimList s.toList = s.toList := by
  simp [trim, ← String.toList_inj]

theorem trim_lower_eq_self_iff (s : String) : trim (lower s) = lower s ↔ trim s = s := by
  simp [trim, lower, ← String.toList_inj, trimList_lowerList]

theorem isInfix_trimList (cs : List Char) : trimList cs <:+: cs :=
  (trimList_prefix_dropWhile cs).isInfix.trans (List.dropWhile_suffix _).isInfix

end ChatAutomation.Text
