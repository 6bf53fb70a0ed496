import ChatAutomation.Proofs.Numeral.Spelling
import ChatAutomation.Proofs.Text.LowerCase

/-!
# The number at the front of a text

What is read off the front of a text is the longest part there that is blanks and then a number. Such a part is
always a number when it is read as a whole, with infinity under its short name; what has none is not a number:
`leadingNumber_eq_iff`.
-/
namespace ChatAutomation

namespace Text
variable {part new front : List Char} {c : Char}

/-- Each occurrence of a part is replaced, from the front on. -/
def replaceAll (part new : List Char) : List Char → List Char
  | [] => []
  | c :: cs =>
    if part.isPrefixOf (c :: cs) then new ++ replaceAll part new (cs.drop (part.length - 1))
    else c :: replaceAll part new cs
termination_by cs => cs.length
decreasing_by
  · rw [List.length_drop, List.length_cons]
    omega
  · exact Nat.lt_succ_self _

theorem replaceAll_append (h : c ∉ front) (cs : List Char) :
    replaceAll (c :: part) new (front ++ cs) = front ++ replaceAll (c :: part) new cs := by
  induction front with
  | nil => rfl
  | cons d front ih =>
    obtain ⟨hd, hfront⟩ := not_or.1 (mt List.mem_cons.2 h)
    have hno : ¬ (c :: part).isPrefixOf (d :: (front ++ cs)) = true := by
      simp [List.isPrefixOf, hd]
    rw [List.cons_append, replaceAll, if_neg hno, ih hfront, List.cons_append]

theorem replaceAll_self (c : Char) (part new : List Char) : replaceAll (c :: part) new (c :: part) = new := by
  have hyes : (c :: part).isPrefixOf (c :: part) = true := List.isPrefixOf_iff_prefix.2 (List.prefix_refl _)
  have hrest : part.drop ((c :: part).length - 1) = [] := by simp
  rw [replaceAll, if_pos hyes, hrest, replaceAll, List.append_nil]

theorem not_isDecimal_of_blanks : ∀ n ∈ within blankBoundaries, isDecimal (Char.ofNat n) = false := by
  decide +kernel

theorem isBlank_of_isDecimal (h : isDecimal c = true) : isBlank c = false := by
  by_contra hblank
  have hno := not_isDecimal_of_blanks c.toNat (mem_within (by decide) (eq_true_of_ne_false hblank))
  rw [Char.ofNat_toNat, h] at hno
  cases hno

end Text

namespace Binary64

theorem ofRatio_ne_nan (negative : Bool) (num den : Nat) : ofRatio negative num den ≠ .nan := by
  intro h
  unfold ofRatio at h
  split_ifs at h
  dsimp only at h
  split_ifs at h

theorem ofDecimal_ne_nan (negative : Bool) (digits : Nat) (exponent : Int) :
    ofDecimal negative digits exponent ≠ .nan := by
  intro h
  unfold ofDecimal at h
  split_ifs at h
  · dsimp only at h
    split_ifs at h
    exact ofRatio_ne_nan _ _ _ h
  · dsimp only at h
    split_ifs at h
    exact ofRatio_ne_nan _ _ _ h

end Binary64

open Numeral Text

/-- The numbers at the front of a text: numerals, and infinity under its long name. -/
inductive SpellsNumber : Binary64 → List Char → Prop
  | numeral {n : Numeral} {text : List Char} (h : SpellsNumeral n text) : SpellsNumber n.value text
  | infinity {negative : Bool} {sign : List Char} (hsign : SpellsSign negative sign) :
      SpellsNumber (.infinite negative) (sign ++ "Infinity".toList)

/-- A front part of a text that is blanks and then a number. -/
structure IsFront (cs blanks text : List Char) : Prop where
  isPrefix : blanks ++ text <+: cs
  isBlank : ∀ c ∈ blanks, isBlank c = true
  isNumber : ∃ x, SpellsNumber x text

/-- No other part of the kind is longer. -/
structure IsLongestFront (cs blanks text : List Char) : Prop extends IsFront cs blanks text where
  longest {blanks' text' : List Char} (h : IsFront cs blanks' text') :
    (blanks' ++ text').length ≤ (blanks ++ text).length

/-- A number with infinity under its short name. -/
def shortName (text : List Char) : String :=
  String.ofList (replaceAll "Infinity".toList "inf".toList text)

/-! ## The characters of a number -/

/-- The characters of numbers other than digits. -/
def numberMarks : List Char := marks ++ "Infinity".toList

section
variable {c : Char} {cs rest sign text : List Char} {negative : Bool} {n : Numeral} {x : Binary64}

theorem SpellsNumber.mem (h : SpellsNumber x text) (hc : c ∈ text) :
    isDecimal c = true ∨ c ∈ numberMarks := by
  cases h with
  | numeral h => exact (h.mem hc).imp_right (List.mem_append_left _)
  | infinity hsign =>
    exact .inr ((List.mem_append.1 hc).elim
      (fun hc => List.mem_append_left _ (List.mem_append_left _ (hsign.mem hc)))
      (List.mem_append_right _))

theorem SpellsNumber.isBlank (h : SpellsNumber x text) : ∀ c ∈ text, isBlank c = false := by
  have hall : numberMarks.all (! Text.isBlank ·) = true := by decide +kernel
  exact fun c hc => (h.mem hc).elim isBlank_of_isDecimal fun hmark => by
    simpa using List.all_eq_true.1 hall c hmark

theorem SpellsNumber.ne_nil (h : SpellsNumber x text) : text ≠ [] := by
  cases h with
  | numeral h =>
    obtain ⟨hsign, hmantissa, hexponent⟩ := h
    obtain ⟨c, cs, rfl, -⟩ := hmantissa.exists_cons
    simp
  | infinity hsign => simp

/-! ## Reading a number as a whole -/

theorem trimNumber_eq_self (h : ∀ c ∈ cs, isBlank c = false) : trimNumber cs = cs := by
  have hdrop {ds : List Char} (hds : ∀ c ∈ ds, isBlank c = false) : ds.dropWhile isNumberBlank = ds := by
    cases ds with
    | nil => rfl
    | cons c ds => simp [isNumberBlank, hds c List.mem_cons_self]
  rw [trimNumber, hdrop h, hdrop fun c hc => h c (List.mem_reverse.1 hc), List.reverse_reverse]

theorem dropUnderscores_eq_self (h : '_' ∉ cs) {previous : Option Char} (hprevious : previous ≠ some '_') :
    dropUnderscores previous cs = some cs := by
  induction cs generalizing previous with
  | nil => simp [dropUnderscores, hprevious]
  | cons c cs ih =>
    obtain ⟨hc, hcs⟩ := not_or.1 (mt List.mem_cons.2 h)
    have hc' : some c ≠ some '_' := fun h => hc (Option.some.inj h).symm
    simp [dropUnderscores, Ne.symm hc, hprevious, ih hcs hc']

theorem readNumber_of_isBlank (hblank : ∀ c ∈ cs, isBlank c = false) (hunderscore : '_' ∉ cs) :
    readNumber (String.ofList cs) = readWhole cs := by
  rw [readNumber, String.toList_ofList, trimNumber_eq_self hblank,
    dropUnderscores_eq_self hunderscore (by simp), Option.bind_some]

theorem not_mem_of_spellsNumeral (h : SpellsNumeral n text) (hc : isDecimal c = false)
    (hmark : c ∉ marks) : c ∉ text := by
  intro hmem
  rcases h.mem hmem with hdecimal | hmem
  · rw [hc] at hdecimal
    cases hdecimal
  · exact hmark hmem

theorem replaceAll_infinity_append {front : List Char} (h : 'I' ∉ front) (cs : List Char) :
    replaceAll "Infinity".toList "inf".toList (front ++ cs) =
      front ++ replaceAll "Infinity".toList "inf".toList cs :=
  @replaceAll_append "nfinity".toList "inf".toList front 'I' h cs

/-- Whatever the number at the front of a text, it is a number as a whole. -/
theorem readNumber_shortName (h : SpellsNumber x text) : readNumber (shortName text) = some x := by
  cases h with
  | @numeral n _ hn =>
    have hlong : 'I' ∉ text := not_mem_of_spellsNumeral hn (by decide) (by decide)
    have hunderscore : '_' ∉ text := not_mem_of_spellsNumeral hn (by decide) (by decide)
    have hsame : replaceAll "Infinity".toList "inf".toList text = text := by
      simpa [replaceAll] using replaceAll_infinity_append hlong []
    rw [shortName, hsame, readNumber_of_isBlank (SpellsNumber.numeral hn).isBlank hunderscore, readWhole,
      scan_of_spellsNumeral hn]
  | @infinity negative sign hsign =>
    have hlong : 'I' ∉ sign := fun hmem => absurd (hsign.mem hmem) (by decide)
    have hshort : replaceAll "Infinity".toList "inf".toList (sign ++ "Infinity".toList) =
        sign ++ "inf".toList := by
      rw [replaceAll_infinity_append hlong]
      exact congrArg (sign ++ ·) (replaceAll_self 'I' "nfinity".toList "inf".toList)
    rw [shortName, hshort]
    cases hsign <;> decide +kernel

theorem SpellsNumber.ne_nan (h : SpellsNumber x text) : x ≠ .nan := by
  cases h with
  | @numeral n _ hn => exact Binary64.ofDecimal_ne_nan n.negative n.digits n.exponent
  | infinity => nofun

/-! ## Taking a number off the front -/

/-- Takes a number off the front. -/
def takeNumber (cs : List Char) : Option (Binary64 × List Char) :=
  match scan cs with
  | some (n, rest) => some (n.value, rest)
  | none =>
    if "Infinity".toList.isPrefixOf (scanSign cs).2 then
      some (.infinite (scanSign cs).1, (scanSign cs).2.drop "Infinity".length)
    else none

theorem leadingNumber_eq (s : String) :
    leadingNumber s = ((takeNumber (s.toList.dropWhile isBlank)).map Prod.fst).getD .nan := by
  unfold leadingNumber takeNumber
  dsimp only
  generalize s.toList.dropWhile Text.isBlank = cs
  cases scan cs with
  | some m => rfl
  | none => dsimp only; split_ifs <;> rfl

theorem scan_infinity (hsign : SpellsSign negative sign) (rest : List Char) :
    scanSign (sign ++ "Infinity".toList ++ rest) = (negative, "Infinity".toList ++ rest) ∧
      scan (sign ++ "Infinity".toList ++ rest) = none := by
  have hscan : scanSign (sign ++ "Infinity".toList ++ rest) = (negative, "Infinity".toList ++ rest) := by
    rw [List.append_assoc]
    exact scanSign_append hsign (by decide) _
  refine ⟨hscan, ?_⟩
  have hletter : Stops ("Infinity".toList ++ rest) := stops_cons (by decide) _
  have hmantissa := scanMantissa_digits areDigits_nil hletter (by simp)
  rw [if_pos rfl, List.nil_append] at hmantissa
  rw [scan_eq, hscan, hmantissa, Option.map_none]

theorem spellsNumber_of_takeNumber (h : takeNumber cs = some (x, rest)) :
    ∃ text, SpellsNumber x text ∧ cs = text ++ rest := by
  unfold takeNumber at h
  split at h
  · rename_i n behind hscan
    cases h
    obtain ⟨text, htext, hcs⟩ := spellsNumeral_of_scan hscan
    exact ⟨text, .numeral htext, hcs⟩
  · split_ifs at h with hlong
    cases h
    obtain ⟨sign, hsign, hcs⟩ := exists_spellsSign cs
    obtain ⟨behind, hbehind⟩ := List.isPrefixOf_iff_prefix.1 hlong
    refine ⟨_, .infinity hsign, ?_⟩
    have hdrop : ("Infinity".toList ++ behind).drop "Infinity".length = behind :=
      List.drop_left' String.length_toList
    rw [← hbehind, hdrop, List.append_assoc, hbehind, ← hcs]

theorem takeNumber_infinity (hsign : SpellsSign negative sign) (rest : List Char) :
    takeNumber (sign ++ "Infinity".toList ++ rest) = some (.infinite negative, rest) := by
  obtain ⟨hscanSign, hscan⟩ := scan_infinity hsign rest
  have hlong : "Infinity".toList.isPrefixOf ("Infinity".toList ++ rest) = true :=
    List.isPrefixOf_iff_prefix.2 (List.prefix_append _ _)
  have hdrop : ("Infinity".toList ++ rest).drop "Infinity".length = rest :=
    List.drop_left' String.length_toList
  rw [takeNumber, hscan, hscanSign]
  dsimp only
  rw [if_pos hlong, hdrop]

theorem takeNumber_of_spells (h : SpellsNumber x text) : takeNumber text = some (x, []) := by
  cases h with
  | numeral h => rw [takeNumber, scan_of_spellsNumeral h]
  | infinity hsign => simpa using takeNumber_infinity hsign []

/-- Whatever comes behind a number, a number is taken that is no shorter. -/
theorem takeNumber_append (h : SpellsNumber x text) (rest : List Char) :
    ∃ x' rest', takeNumber (text ++ rest) = some (x', rest') ∧ rest'.length ≤ rest.length := by
  cases h with
  | numeral h =>
    obtain ⟨n', rest', hscan, hlength⟩ := scan_append h rest
    exact ⟨n'.value, rest', by rw [takeNumber, hscan], hlength⟩
  | infinity hsign => exact ⟨_, rest, takeNumber_infinity hsign rest, Nat.le_refl _⟩

/-- A text spells no more than one number. -/
theorem SpellsNumber.unique {y : Binary64} (h : SpellsNumber x text) (h' : SpellsNumber y text) : x = y := by
  have htake := takeNumber_of_spells h
  rw [takeNumber_of_spells h'] at htake
  cases htake
  rfl

/-! ## Front parts -/

variable {blanks : List Char}

/-- No number begins with a blank, so the blanks of a front part are all those at the front. -/
theorem IsFront.blanks_eq (h : IsFront cs blanks text) :
    blanks = cs.takeWhile Text.isBlank ∧ text <+: cs.dropWhile Text.isBlank := by
  obtain ⟨⟨rest, rfl⟩, hblanks, x, hx⟩ := h
  obtain ⟨c, text, rfl⟩ := List.exists_cons_of_ne_nil hx.ne_nil
  have hc : Text.isBlank c = false := hx.isBlank c List.mem_cons_self
  rw [List.append_assoc, List.takeWhile_append_of_pos hblanks, List.dropWhile_append_of_pos hblanks,
    List.cons_append, List.takeWhile_cons_of_neg (by simp [hc]), List.dropWhile_cons_of_neg (by simp [hc]),
    List.append_nil]
  exact ⟨rfl, rest, by simp⟩

theorem isFront_of_isPrefix (hx : SpellsNumber x text) (h : text <+: cs.dropWhile Text.isBlank) :
    IsFront cs (cs.takeWhile Text.isBlank) text where
  isPrefix := by
    conv_rhs => rw [← List.takeWhile_append_dropWhile (p := Text.isBlank) (l := cs)]
    exact (List.prefix_append_right_inj _).2 h
  isBlank _ := List.mem_takeWhile_imp
  isNumber := ⟨x, hx⟩

/-- What is taken behind the blanks is the longest that there is. -/
theorem isLongestFront_of_takeNumber (h : takeNumber (cs.dropWhile Text.isBlank) = some (x, rest))
    (hx : SpellsNumber x text) (hcs : cs.dropWhile Text.isBlank = text ++ rest) :
    IsLongestFront cs (cs.takeWhile Text.isBlank) text where
  toIsFront := isFront_of_isPrefix hx ⟨rest, hcs.symm⟩
  longest {blanks' text'} hfront := by
    obtain ⟨rfl, rest', hrest'⟩ := hfront.blanks_eq
    obtain ⟨x', hx'⟩ := hfront.isNumber
    obtain ⟨y, behind, htake, hlength⟩ := takeNumber_append hx' rest'
    rw [hrest', h] at htake
    cases htake
    have htotal := congrArg List.length (hrest'.trans hcs)
    simp only [List.length_append] at htotal ⊢
    omega

/-- The longest front part of a text and what is read off the text; with no front part, that is not a number. -/
theorem leadingNumber_cases (s : String) :
    (∃ blanks text, IsLongestFront s.toList blanks text ∧ SpellsNumber (leadingNumber s) text) ∨
      (¬ ∃ blanks text, IsFront s.toList blanks text) ∧ leadingNumber s = .nan := by
  rw [leadingNumber_eq]
  cases htake : takeNumber (s.toList.dropWhile Text.isBlank) with
  | some m =>
    obtain ⟨x, rest⟩ := m
    obtain ⟨text, hx, hcs⟩ := spellsNumber_of_takeNumber htake
    exact .inl ⟨_, text, isLongestFront_of_takeNumber htake hx hcs, hx⟩
  | none =>
    refine .inr ⟨?_, rfl⟩
    rintro ⟨blanks, text, hfront⟩
    obtain ⟨-, rest, hrest⟩ := hfront.blanks_eq
    obtain ⟨x, hx⟩ := hfront.isNumber
    obtain ⟨y, behind, hsome, -⟩ := takeNumber_append hx rest
    rw [hrest, htake] at hsome
    cases hsome

theorem IsLongestFront.unique {blanks' text' : List Char} (h : IsLongestFront cs blanks text)
    (h' : IsLongestFront cs blanks' text') : text = text' := by
  obtain ⟨hblanks, hfront⟩ := h.blanks_eq
  obtain ⟨hblanks', hfront'⟩ := h'.blanks_eq
  have hle := h.longest h'.toIsFront
  have hge := h'.longest h.toIsFront
  rw [hblanks, hblanks'] at hle hge
  simp only [List.length_append] at hle hge
  exact (List.prefix_of_prefix_length_le hfront hfront' (by omega)).eq_of_length_le (by omega)

/-- Reading a number off the front of a text takes the longest part there that is blanks and then a number. The
number is the one that the text of this part is when it is read as a whole, which never fails. Where there is no
such part, and only there, the result is not a number. -/
theorem leadingNumber_eq_iff :
    (∀ x text, SpellsNumber x text → readNumber (shortName text) = some x ∧ x ≠ .nan) ∧
    (∀ s x, leadingNumber s = x ↔
      (∃ blanks text, IsLongestFront s.toList blanks text ∧ readNumber (shortName text) = some x) ∨
        (¬ ∃ blanks text, IsFront s.toList blanks text) ∧ x = .nan) ∧
    ∀ s, leadingNumber s = .nan ↔ ¬ ∃ blanks text, IsFront s.toList blanks text := by
  refine ⟨fun x text h => ⟨readNumber_shortName h, h.ne_nan⟩, fun s x => ?_, fun s => ?_⟩
  · obtain ⟨blanks, text, hlongest, hx⟩ | ⟨hnone, hnan⟩ := leadingNumber_cases s
    · constructor
      · rintro rfl
        exact .inl ⟨blanks, text, hlongest, readNumber_shortName hx⟩
      · rintro (⟨blanks', text', hlongest', hread⟩ | ⟨hnone, -⟩)
        · rw [← hlongest.unique hlongest', readNumber_shortName hx] at hread
          exact Option.some.inj hread
        · exact absurd ⟨blanks, text, hlongest.toIsFront⟩ hnone
    · rw [hnan]
      constructor
      · exact fun h => .inr ⟨hnone, h.symm⟩
      · rintro (⟨blanks, text, hlongest, -⟩ | ⟨-, rfl⟩)
        · exact absurd ⟨blanks, text, hlongest.toIsFront⟩ hnone
        · rfl
  · obtain ⟨blanks, text, hlongest, hx⟩ | ⟨hnone, hnan⟩ := leadingNumber_cases s
    · exact iff_of_false hx.ne_nan (not_not_intro ⟨blanks, text, hlongest.toIsFront⟩)
    · exact iff_of_true hnan hnone

end

/-- Digits of another script behind a blank, with a unit behind the exponent. -/
theorem leadingNumber_of_other_digits :
    let text := "-١٢.5e1".toList
    let x := Binary64.ofDecimal true 125 0
    SpellsNumber x text ∧ readNumber (shortName text) = some x ∧ leadingNumber " -١٢.5e1kg" = x := by
  intro text x
  have hspelled : SpellsNumber x text := by
    have hall : takeNumber text = some (x, []) := by decide +kernel
    obtain ⟨text', hspelled, hsame⟩ := spellsNumber_of_takeNumber hall
    rwa [hsame, List.append_nil]
  have htake : takeNumber (" -١٢.5e1kg".toList.dropWhile isBlank) = some (x, ['k', 'g']) := by
    decide +kernel
  have hlongest := isLongestFront_of_takeNumber htake hspelled (by decide +kernel)
  obtain ⟨hwhole, hleading, -⟩ := leadingNumber_eq_iff
  have hread := (hwhole x text hspelled).1
  exact ⟨hspelled, hread, (hleading _ x).2 (.inl ⟨_, text, hlongest, hread⟩)⟩

end ChatAutomation
