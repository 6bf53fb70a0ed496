import ChatAutomation.Proofs.Text.LowerCase
import ChatAutomation.Text.Digit

/-!
# Text without case

Blanks, digits and the marks of ASCII have no case, so they stand in the lower case form of a text just where
they stand in the text. The two can be cut at such a character, and the parts belong together again. Letters of
ASCII come from their own capitals alone, but for two: the dotted capital I leads to one, and the sign of the
Kelvin to the other.
-/
namespace ChatAutomation.Text

/-- Is the character one of ASCII, but no letter? -/
def isMark (c : Char) : Bool := c.toNat < 128 && !c.isAlpha

theorem toNat_lt_of_isDigit {x : Char} (h : x.isDigit = true) : x.toNat < 128 := by
  have := (isDigit_iff.1 h).2
  omega

theorem isMark_of_isDigit {c : Char} (h : c.isDigit = true) : isMark c = true := by
  have hbounds := isDigit_iff.1 h
  have halpha : ¬ c.isAlpha = true := by
    rw [isAlpha_iff]
    omega
  simp [isMark, halpha, toNat_lt_of_isDigit h]

def markCodes : List Nat := (List.range 128).filter fun n => !(Char.ofNat n).isAlpha

theorem marks_digits_apart :
    bits (markCodes ++ within decimalBoundaries) &&& bits shiftedCodes = 0 := by
  decide +kernel

theorem caseless_of_isMark {c : Char} (h : isMark c = true) : Caseless c := by
  have hcode : c.toNat ∈ markCodes := by simpa [markCodes, isMark] using h
  exact caseless_of_not_mem (not_mem_of_bits marks_digits_apart (List.mem_append_left _ hcode))

theorem caseless_of_isDecimal {c : Char} (h : isDecimal c = true) : Caseless c := by
  unfold isDecimal at h
  split at h
  · exact caseless_of_isMark (isMark_of_isDigit h)
  · exact caseless_of_not_mem (not_mem_of_bits marks_digits_apart
      (List.mem_append_right _ (mem_within (by simp [decimalBoundaries]) h)))

/-! ## Cutting a text -/

section
variable {front before cs rest : List Char} {c : Char}

theorem lowerAfter_append_of_caseless (h : ∀ c ∈ front, Caseless c) (before cs : List Char) :
    lowerAfter before (front ++ cs) = front ++ lowerAfter (front.reverse ++ before) cs := by
  induction front generalizing before with
  | nil => rfl
  | cons c front ih =>
    obtain ⟨hc, hfront⟩ := List.forall_mem_cons.1 h
    rw [List.cons_append, lowerAfter_cons, hc.kept, ih hfront, List.reverse_cons, List.append_assoc,
      List.singleton_append, List.singleton_append, List.cons_append]

/-- A text whose lower case form begins without case begins with the same characters. -/
theorem exists_eq_append_of_lowerAfter (h : ∀ c ∈ front, Caseless c)
    (heq : lowerAfter before cs = front ++ rest) :
    ∃ cs', cs = front ++ cs' ∧ lowerAfter (front.reverse ++ before) cs' = rest := by
  induction front generalizing before cs with
  | nil => exact ⟨cs, rfl, heq⟩
  | cons c front ih =>
    obtain ⟨hc, hfront⟩ := List.forall_mem_cons.1 h
    cases cs with
    | nil => cases heq
    | cons d cs =>
      obtain ⟨e, es, hlower⟩ := List.exists_cons_of_ne_nil (lowerAt_ne_nil before d cs)
      rw [lowerAfter_cons, hlower] at heq
      obtain ⟨rfl, hbehind⟩ := List.cons.inj heq
      have hmem : e ∈ lowerAt before d cs := by
        rw [hlower]
        exact List.mem_cons_self
      obtain rfl := hc.alone hmem
      obtain rfl : es = [] := by
        rw [hc.kept] at hlower
        exact (List.cons.inj hlower).2.symm
      obtain ⟨cs', rfl, hrest⟩ := ih hfront hbehind
      exact ⟨cs', rfl, by simpa using hrest⟩

/-- A character without case cuts a text where it cuts the lower case form. -/
theorem exists_eq_append_cons_of_lowerAfter (hc : Caseless c)
    (heq : lowerAfter before cs = front ++ c :: rest) :
    ∃ front' rest', cs = front' ++ c :: rest' ∧
      lowerAfter (c :: (front'.reverse ++ before)) rest' = rest := by
  induction cs generalizing before front with
  | nil => simp [lowerAfter] at heq
  | cons d cs ih =>
    -- the cut falls behind what stands for the first character, or into it
    rw [lowerAfter_cons] at heq
    obtain ⟨front', -, hbehind⟩ | ⟨part, hpart, hbehind⟩ := List.append_eq_append_iff.1 heq
    · obtain ⟨front'', rest', rfl, hrest⟩ := ih hbehind
      exact ⟨d :: front'', rest', rfl, by simpa using hrest⟩
    · cases part with
      | nil =>
        have hlater : lowerAfter (d :: before) cs = [] ++ c :: rest := hbehind.symm
        obtain ⟨front'', rest', rfl, hrest⟩ := ih hlater
        exact ⟨d :: front'', rest', rfl, by simpa using hrest⟩
      | cons e part =>
        obtain ⟨rfl, hrest⟩ := List.cons.inj hbehind
        obtain rfl := hc.alone (hpart ▸ List.mem_append_right _ List.mem_cons_self)
        rw [hc.kept] at hpart
        obtain ⟨rfl, rfl⟩ : front = [] ∧ part = [] := by
          cases front <;> simp_all
        exact ⟨[], cs, rfl, hrest.symm⟩

theorem exists_lowerAfter_append (before front cs : List Char) :
    ∃ ds, lowerAfter before (front ++ cs) = ds ++ lowerAfter (front.reverse ++ before) cs := by
  induction front generalizing before with
  | nil => exact ⟨[], rfl⟩
  | cons c front ih =>
    obtain ⟨ds, hds⟩ := ih (c :: before)
    refine ⟨lowerAt before c (front ++ cs) ++ ds, ?_⟩
    rw [List.cons_append, lowerAfter_cons, hds, List.reverse_cons, List.append_assoc, List.append_assoc]
    rfl

end

/-! ## Letters of ASCII -/

theorem images_above : (lowerRuns.toList.all fun r => r.last < 128 ||
    128 ≤ r.first && (128 ≤ r.image || r.image == 107 && r.first == r.last)) = true := by
  decide

section
variable {before after cs ds : List Char} {c d : Char}

theorem lowerAt_of_ascii (h : c.toNat < 128) (before after : List Char) :
    lowerAt before c after = [c.toLower] := by
  have hsigma : c ≠ 'Σ' := by
    rintro rfl
    exact absurd h (by decide)
  rw [lowerAt, if_neg (by simpa using hsigma), lowerChar, if_neg (by omega), simpleLower, if_pos h]

theorem ascii_of_simpleLower (hdotted : c.toNat ≠ 0x130) (h : (simpleLower c).toNat < 128) :
    c.toNat < 128 ∨ simpleLower c = 'k' := by
  rcases simpleLower_cases c with hc | ⟨hc, -⟩ | ⟨r, hr, ⟨hfirst, hlast, -⟩, himage⟩
  · exact .inl (hc ▸ h)
  · exact absurd hc hdotted
  · have habove := List.all_eq_true.1 images_above r hr
    simp only [Bool.or_eq_true, Bool.and_eq_true, decide_eq_true_eq, beq_iff_eq] at habove
    unfold CaseRun.imageOf at himage
    rcases habove with habove | ⟨-, habove | ⟨hk, hone⟩⟩
    · exact .inl (by omega)
    · omega
    · right
      have hnat : (simpleLower c).toNat = 107 := by omega
      rw [← Char.ofNat_toNat (simpleLower c), hnat]

theorem ascii_of_mem_lowerAt (h : d ∈ lowerAt before c after) (hd : d.toNat < 128) :
    c.toNat < 128 ∨ d = 'i' ∨ d = 'k' := by
  unfold lowerAt lowerChar at h
  split_ifs at h with hsigma hdotted
  · rcases lowerSigma_cases before after with hs | hs <;> rw [List.mem_singleton.1 h, hs] at hd <;>
      exact absurd hd (by decide)
  · rcases List.mem_pair.1 h with rfl | rfl
    · exact .inr (.inl rfl)
    · exact absurd hd (by decide)
  · obtain rfl := List.mem_singleton.1 h
    exact (ascii_of_simpleLower hdotted hd).imp_right .inr

theorem lowerAfter_of_ascii (h : ∀ c ∈ cs, c.toNat < 128) (before : List Char) :
    lowerAfter before cs = cs.map Char.toLower := by
  induction cs generalizing before with
  | nil => rfl
  | cons c cs ih =>
    obtain ⟨hc, hcs⟩ := List.forall_mem_cons.1 h
    rw [lowerAfter_cons, lowerAt_of_ascii hc, ih hcs]
    rfl

/-- A lower case form in ASCII without the two letters that come from elsewhere is the one of ASCII. -/
theorem map_toLower_of_lowerAfter (hds : ∀ d ∈ ds, d.toNat < 128 ∧ d ≠ 'i' ∧ d ≠ 'k')
    (h : lowerAfter before cs = ds) : cs.map Char.toLower = ds := by
  rw [← h, lowerAfter_of_ascii]
  induction cs generalizing before ds with
  | nil => exact List.forall_mem_nil _
  | cons c cs ih =>
    rw [lowerAfter_cons] at h
    obtain ⟨d, rest, hd⟩ := List.exists_cons_of_ne_nil (lowerAt_ne_nil before c cs)
    have hmem : d ∈ lowerAt before c cs := hd ▸ List.mem_cons_self
    obtain ⟨hascii, hi, hk⟩ := hds d (h ▸ List.mem_append_left _ hmem)
    refine List.forall_mem_cons.2 ⟨?_, ih (fun e he => hds e (h ▸ List.mem_append_right _ he)) rfl⟩
    simpa [hi, hk] using ascii_of_mem_lowerAt hmem hascii

end

end ChatAutomation.Text
