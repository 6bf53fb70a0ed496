import ChatAutomation.Numeral
import Mathlib.Data.List.TakeWhile
import Mathlib.Data.Option.Basic

/-!
# How numerals are spelled

The grammar of numerals, part by part, with what each part means. Scanning a text takes a numeral off its front
just if there is one, and takes as much as any numeral there would: `spellsNumeral_of_scan`, `scan_append`. So a
text that is a numeral as a whole is taken as a whole: `scan_of_spellsNumeral`.
-/
namespace ChatAutomation.Numeral

open Text

/-! ## The grammar -/

def signMarks : List Char := ['+', '-']

/-- The characters of numerals other than digits. -/
def marks : List Char := signMarks ++ ['.', 'e', 'E']

/-- A sign that may be left out, and whether it is a minus. -/
inductive SpellsSign : Bool → List Char → Prop
  | absent : SpellsSign false []
  | plus : SpellsSign false ['+']
  | minus : SpellsSign true ['-']

/-- Digits of whatever script. -/
def AreDigits (ds : List Char) : Prop := ∀ c ∈ ds, isDecimal c = true

/-- Digits with a point and a fraction that may be left out, or a point and digits. -/
inductive SpellsMantissa : (whole fraction : List Char) → List Char → Prop
  | digits {whole : List Char} (hne : whole ≠ []) (hwhole : AreDigits whole) :
      SpellsMantissa whole [] whole
  | pointed {whole fraction : List Char} (hne : whole ≠ []) (hwhole : AreDigits whole)
      (hfraction : AreDigits fraction) : SpellsMantissa whole fraction (whole ++ '.' :: fraction)
  | point {fraction : List Char} (hne : fraction ≠ []) (hfraction : AreDigits fraction) :
      SpellsMantissa [] fraction ('.' :: fraction)

/-- An exponent that may be left out. -/
inductive SpellsExponent : Int → List Char → Prop
  | absent : SpellsExponent 0 []
  | present {mark : Char} {negative : Bool} {sign ds : List Char} (hmark : mark = 'e' ∨ mark = 'E')
      (hsign : SpellsSign negative sign) (hne : ds ≠ []) (hds : AreDigits ds) :
      SpellsExponent (if negative then -(digitsValue ds : Int) else digitsValue ds) (mark :: (sign ++ ds))

/-- The digits of the fraction count into the exponent. -/
inductive SpellsNumeral : Numeral → List Char → Prop
  | intro {negative : Bool} {e : Int} {whole fraction sign mantissa exponent : List Char}
      (hsign : SpellsSign negative sign) (hmantissa : SpellsMantissa whole fraction mantissa)
      (hexponent : SpellsExponent e exponent) :
      SpellsNumeral ⟨negative, digitsValue (whole ++ fraction), e - fraction.length⟩
        (sign ++ (mantissa ++ exponent))

section
variable {c : Char} {cs ds fs rest sign whole fraction mantissa exponent text : List Char}
  {negative : Bool} {e : Int} {n : Numeral}

/-! ## Signs -/

theorem scanSign_cons (h : c ∉ signMarks) (cs : List Char) : scanSign (c :: cs) = (false, c :: cs) := by
  unfold scanSign
  split
  · rename_i heq
    exact absurd (List.cons.inj heq).1 fun hc => h (by simp [hc, signMarks])
  · rename_i heq
    exact absurd (List.cons.inj heq).1 fun hc => h (by simp [hc, signMarks])
  · rfl

theorem scanSign_append (hsign : SpellsSign negative sign) (h : c ∉ signMarks) (cs : List Char) :
    scanSign (sign ++ c :: cs) = (negative, c :: cs) := by
  cases hsign with
  | absent => exact scanSign_cons h cs
  | plus => rfl
  | minus => rfl

theorem exists_spellsSign (cs : List Char) :
    ∃ sign, SpellsSign (scanSign cs).1 sign ∧ cs = sign ++ (scanSign cs).2 := by
  unfold scanSign
  split
  · exact ⟨_, .plus, rfl⟩
  · exact ⟨_, .minus, rfl⟩
  · exact ⟨_, .absent, rfl⟩

/-! ## Runs of digits -/

/-- No digit comes first. -/
def Stops (cs : List Char) : Prop := ∀ c, cs.head? = some c → isDecimal c = false

theorem stops_nil : Stops [] := by
  simp [Stops]

theorem stops_cons (h : isDecimal c = false) (cs : List Char) : Stops (c :: cs) := by
  simp [Stops, h]

theorem scanDigits_append (hds : AreDigits ds) (hrest : Stops rest) :
    scanDigits (ds ++ rest) = (ds, rest) := by
  rw [scanDigits, List.takeWhile_append_of_pos hds, List.dropWhile_append_of_pos hds]
  cases rest with
  | nil => simp
  | cons c rest => simp [hrest c rfl]

/-- A text begins with digits, none or more, behind which there is none. -/
theorem exists_digits (cs : List Char) : ∃ ds rest, AreDigits ds ∧ Stops rest ∧ cs = ds ++ rest := by
  refine ⟨cs.takeWhile isDecimal, cs.dropWhile isDecimal, fun _ => List.mem_takeWhile_imp,
    fun c hc => ?_, List.takeWhile_append_dropWhile.symm⟩
  have hne : cs.dropWhile isDecimal ≠ [] := fun h => by simp [h] at hc
  rw [List.head?_eq_some_head hne, Option.some.injEq] at hc
  exact hc ▸ List.head_dropWhile_not isDecimal hne

theorem isDecimal_marks : ∀ c ∈ marks, isDecimal c = false := by
  have hall : marks.all (! isDecimal ·) = true := by decide
  simpa using hall

theorem mem_marks_of_exponent (h : c = 'e' ∨ c = 'E') : c ∈ marks := by
  rcases h with rfl | rfl <;> decide

theorem areDigits_nil : AreDigits [] := List.forall_mem_nil _

theorem AreDigits.append (hds : AreDigits ds) (hfs : AreDigits fs) : AreDigits (ds ++ fs) :=
  List.forall_mem_append.2 ⟨hds, hfs⟩

/-! ## Mantissas -/

theorem scanMantissa_pointed (hds : AreDigits ds) (hfs : AreDigits fs) (hrest : Stops rest) :
    scanMantissa (ds ++ '.' :: (fs ++ rest)) =
      if ds = [] ∧ fs = [] then none else some ((ds, fs), rest) := by
  have hpoint : Stops ('.' :: (fs ++ rest)) := stops_cons (isDecimal_marks '.' (by decide)) _
  simp only [scanMantissa, scanDigits_append hds hpoint, scanDigits_append hfs hrest, Bool.and_eq_true,
    List.isEmpty_iff]

theorem scanMantissa_digits (hds : AreDigits ds) (hrest : Stops rest) (hpoint : rest.head? ≠ some '.') :
    scanMantissa (ds ++ rest) = if ds = [] then none else some ((ds, []), rest) := by
  simp only [scanMantissa, scanDigits_append hds hrest]
  split
  · simp at hpoint
  · simp only [List.isEmpty_iff]

theorem spellsMantissa_of_scanMantissa (h : scanMantissa cs = some ((whole, fraction), rest)) :
    ∃ mantissa, SpellsMantissa whole fraction mantissa ∧ cs = mantissa ++ rest := by
  obtain ⟨ds, behind, hds, hbehind, rfl⟩ := exists_digits cs
  by_cases hpoint : behind.head? = some '.'
  · obtain ⟨behind, rfl⟩ := List.head?_eq_some_iff.1 hpoint
    obtain ⟨fs, last, hfs, hlast, rfl⟩ := exists_digits behind
    rw [scanMantissa_pointed hds hfs hlast] at h
    split_ifs at h with hnone
    cases h
    by_cases hwhole : whole = []
    · subst hwhole
      exact ⟨_, .point (fun hfraction => hnone ⟨rfl, hfraction⟩) hfs, rfl⟩
    · exact ⟨_, .pointed hwhole hds hfs, by simp⟩
  · rw [scanMantissa_digits hds hbehind hpoint] at h
    split_ifs at h with hnone
    cases h
    exact ⟨_, .digits hnone hds, rfl⟩

/-- A mantissa is taken as a whole if nothing behind it goes on with it. -/
theorem scanMantissa_of_spells (h : SpellsMantissa whole fraction mantissa) (hrest : Stops rest)
    (hpoint : rest.head? ≠ some '.') : scanMantissa (mantissa ++ rest) = some ((whole, fraction), rest) := by
  cases h with
  | digits hne hwhole => rw [scanMantissa_digits hwhole hrest hpoint, if_neg hne]
  | pointed hne hwhole hfraction =>
    rw [List.append_assoc, List.cons_append, scanMantissa_pointed hwhole hfraction hrest,
      if_neg fun h => hne h.1]
  | point hne hfraction =>
    have hscan := scanMantissa_pointed areDigits_nil hfraction hrest
    rwa [if_neg fun h => hne h.2] at hscan

/-- Whatever comes behind a mantissa, no less than the mantissa is taken. -/
theorem scanMantissa_append (h : SpellsMantissa whole fraction mantissa) (rest : List Char) :
    ∃ m rest', scanMantissa (mantissa ++ rest) = some (m, rest') ∧ rest'.length ≤ rest.length := by
  obtain ⟨ds, behind, hds, hbehind, rfl⟩ := exists_digits rest
  cases h with
  | digits hne hwhole =>
    have hmore : whole ++ ds ≠ [] := fun h => hne (List.append_eq_nil_iff.1 h).1
    rw [← List.append_assoc]
    by_cases hpoint : behind.head? = some '.'
    · -- the digits that follow may have a point behind them, and a fraction
      obtain ⟨behind, rfl⟩ := List.head?_eq_some_iff.1 hpoint
      obtain ⟨fs, last, hfs, hlast, rfl⟩ := exists_digits behind
      rw [scanMantissa_pointed (hwhole.append hds) hfs hlast, if_neg fun h => hmore h.1]
      exact ⟨_, last, rfl, by simp only [List.length_append, List.length_cons]; omega⟩
    · rw [scanMantissa_digits (hwhole.append hds) hbehind hpoint, if_neg hmore]
      exact ⟨_, behind, rfl, by simp only [List.length_append]; omega⟩
  | pointed hne hwhole hfraction =>
    rw [List.append_assoc, List.cons_append, ← List.append_assoc fraction,
      scanMantissa_pointed hwhole (hfraction.append hds) hbehind, if_neg fun h => hne h.1]
    exact ⟨_, behind, rfl, by simp only [List.length_append]; omega⟩
  | point hne hfraction =>
    have hscan := scanMantissa_pointed areDigits_nil (hfraction.append hds) hbehind
    rw [if_neg fun h => hne (List.append_eq_nil_iff.1 h.2).1, List.append_assoc] at hscan
    exact ⟨_, behind, hscan, by simp only [List.length_append]; omega⟩

theorem SpellsMantissa.exists_cons (h : SpellsMantissa whole fraction mantissa) :
    ∃ c cs, mantissa = c :: cs ∧ (isDecimal c = true ∨ c = '.') := by
  cases h with
  | digits hne hwhole =>
    obtain ⟨d, ds, rfl⟩ := List.exists_cons_of_ne_nil hne
    exact ⟨d, ds, rfl, .inl (hwhole d List.mem_cons_self)⟩
  | pointed hne hwhole =>
    obtain ⟨d, ds, rfl⟩ := List.exists_cons_of_ne_nil hne
    exact ⟨d, _, rfl, .inl (hwhole d List.mem_cons_self)⟩
  | point => exact ⟨'.', _, rfl, .inr rfl⟩

/-- A mantissa is no sign. -/
theorem not_sign_of_mantissa (h : isDecimal c = true ∨ c = '.') : c ∉ signMarks := by
  intro hmem
  rcases h with h | rfl
  · rw [isDecimal_marks c (List.mem_append_left _ hmem)] at h
    cases h
  · exact absurd hmem (by decide)

/-! ## Exponents -/

/-- Digits behind a mark and a sign are taken as far as they go. -/
theorem scanExponent_present (hmark : c = 'e' ∨ c = 'E') (hsign : SpellsSign negative sign)
    (hne : ds ≠ []) (hds : AreDigits ds) (hrest : Stops rest) :
    scanExponent (c :: (sign ++ ds) ++ rest) =
      (if negative then -(digitsValue ds : Int) else digitsValue ds, rest) := by
  obtain ⟨d, ds', rfl⟩ := List.exists_cons_of_ne_nil hne
  have hd : d ∉ signMarks := not_sign_of_mantissa (.inl (hds d List.mem_cons_self))
  have hscan : scanSign (sign ++ d :: ds' ++ rest) = (negative, d :: ds' ++ rest) := by
    rw [List.append_assoc]
    exact scanSign_append hsign hd _
  simp only [scanExponent, List.cons_append, hmark, if_true]
  rw [← List.cons_append, hscan]
  dsimp only
  rw [scanDigits_append hds hrest]
  simp

theorem exists_spellsExponent (cs : List Char) :
    ∃ exponent, SpellsExponent (scanExponent cs).1 exponent ∧ cs = exponent ++ (scanExponent cs).2 := by
  -- whatever is no exponent is left alone
  have habsent (h : scanExponent cs = (0, cs)) :
      ∃ exponent, SpellsExponent (scanExponent cs).1 exponent ∧ cs = exponent ++ (scanExponent cs).2 := by
    rw [h]
    exact ⟨[], .absent, rfl⟩
  cases cs with
  | nil => exact habsent rfl
  | cons c cs =>
    by_cases hmark : c = 'e' ∨ c = 'E'
    · obtain ⟨sign, hsign, hcs⟩ := exists_spellsSign cs
      obtain ⟨ds, rest, hds, hrest, hbehind⟩ := exists_digits (scanSign cs).2
      by_cases hne : ds = []
      · have hscan : scanDigits (scanSign cs).2 = (ds, rest) := hbehind ▸ scanDigits_append hds hrest
        exact habsent (by simp only [scanExponent, hmark, hscan, hne, if_true, List.isEmpty_nil])
      · rw [hbehind, ← List.append_assoc] at hcs
        have hscan := scanExponent_present hmark hsign hne hds hrest
        rw [List.cons_append, ← hcs] at hscan
        rw [hscan]
        exact ⟨_, .present hmark hsign hne hds, by rw [List.cons_append, ← hcs]⟩
    · exact habsent (if_neg hmark)

theorem scanExponent_append (h : SpellsExponent e exponent) (rest : List Char) :
    (scanExponent (exponent ++ rest)).2.length ≤ rest.length := by
  cases h with
  | absent =>
    obtain ⟨exponent, -, hrest⟩ := exists_spellsExponent rest
    have hlength := congrArg List.length hrest
    rw [List.length_append] at hlength
    rw [List.nil_append]
    omega
  | @present mark negative sign ds hmark hsign hne hds =>
    obtain ⟨more, behind, hmore, hbehind, rfl⟩ := exists_digits rest
    have hne' : ds ++ more ≠ [] := fun h => hne (List.append_eq_nil_iff.1 h).1
    have hscan := scanExponent_present hmark hsign hne' (hds.append hmore) hbehind
    have hassoc : mark :: (sign ++ ds) ++ (more ++ behind) = mark :: (sign ++ (ds ++ more)) ++ behind := by
      simp
    rw [hassoc, hscan, List.length_append]
    exact Nat.le_add_left _ _

theorem scanExponent_of_spells (h : SpellsExponent e exponent) : scanExponent exponent = (e, []) := by
  cases h with
  | absent => rfl
  | present hmark hsign hne hds => simpa using scanExponent_present hmark hsign hne hds stops_nil

/-- The mark of an exponent goes on with no mantissa. -/
theorem mark_stops (hmark : c = 'e' ∨ c = 'E') (cs : List Char) :
    Stops (c :: cs) ∧ (c :: cs).head? ≠ some '.' := by
  refine ⟨stops_cons (isDecimal_marks c (mem_marks_of_exponent hmark)) cs, ?_⟩
  rcases hmark with rfl | rfl <;> simp

theorem SpellsExponent.stops (h : SpellsExponent e exponent) :
    Stops exponent ∧ exponent.head? ≠ some '.' := by
  cases h with
  | absent => exact ⟨stops_nil, by simp⟩
  | present hmark => exact mark_stops hmark _

/-! ## Numerals -/

theorem SpellsSign.mem (h : SpellsSign negative sign) (hc : c ∈ sign) : c ∈ signMarks := by
  cases h with
  | absent => cases hc
  | plus => exact List.mem_append_left ['-'] hc
  | minus => exact List.mem_append_right ['+'] hc

/-- A numeral is made of digits and marks. -/
theorem SpellsNumeral.mem (h : SpellsNumeral n text) (hc : c ∈ text) : isDecimal c = true ∨ c ∈ marks := by
  have hpointed {fs : List Char} (hfs : AreDigits fs) (hc : c ∈ '.' :: fs) :
      isDecimal c = true ∨ c ∈ marks := by
    rcases List.mem_cons.1 hc with rfl | hc
    · exact .inr (by decide)
    · exact .inl (hfs c hc)
  obtain ⟨hsign, hmantissa, hexponent⟩ := h
  rcases List.mem_append.1 hc with hc | hc
  · exact .inr (List.mem_append_left _ (hsign.mem hc))
  rcases List.mem_append.1 hc with hc | hc
  · cases hmantissa with
    | digits hne hwhole => exact .inl (hwhole c hc)
    | pointed hne hwhole hfraction =>
      exact (List.mem_append.1 hc).elim (fun hc => .inl (hwhole c hc)) (hpointed hfraction)
    | point hne hfraction => exact hpointed hfraction hc
  · cases hexponent with
    | absent => cases hc
    | present hmark hsign hne hds =>
      rcases List.mem_cons.1 hc with rfl | hc
      · exact .inr (mem_marks_of_exponent hmark)
      · exact (List.mem_append.1 hc).elim (fun hc => .inr (List.mem_append_left _ (hsign.mem hc)))
          fun hc => .inl (hds c hc)

theorem scan_eq (cs : List Char) : scan cs = (scanMantissa (scanSign cs).2).map fun m =>
    (⟨(scanSign cs).1, digitsValue (m.1.1 ++ m.1.2), (scanExponent m.2).1 - m.1.2.length⟩,
      (scanExponent m.2).2) := rfl

theorem scanSign_mantissa (hsign : SpellsSign negative sign) (h : SpellsMantissa whole fraction mantissa)
    (behind : List Char) : scanSign (sign ++ (mantissa ++ behind)) = (negative, mantissa ++ behind) := by
  obtain ⟨c, cs, rfl, hc⟩ := h.exists_cons
  exact scanSign_append hsign (not_sign_of_mantissa hc) _

theorem spellsNumeral_of_scan (h : scan cs = some (n, rest)) :
    ∃ text, SpellsNumeral n text ∧ cs = text ++ rest := by
  obtain ⟨sign, hsign, hcs⟩ := exists_spellsSign cs
  rw [scan_eq] at h
  obtain ⟨⟨⟨whole, fraction⟩, behind⟩, hscan, hn⟩ := Option.map_eq_some_iff.1 h
  obtain ⟨mantissa, hmantissa, hbehind⟩ := spellsMantissa_of_scanMantissa hscan
  obtain ⟨exponent, hexponent, hlast⟩ := exists_spellsExponent behind
  obtain ⟨hnumeral, hrest⟩ := Prod.mk.inj hn
  rw [← hnumeral, ← hrest]
  refine ⟨_, .intro hsign hmantissa hexponent, ?_⟩
  rw [List.append_assoc, List.append_assoc, ← hlast, ← hbehind, ← hcs]

/-- A numeral is taken as a whole where nothing stands behind it. -/
theorem scan_of_spellsNumeral (h : SpellsNumeral n text) : scan text = some (n, []) := by
  obtain ⟨hsign, hmantissa, hexponent⟩ := h
  obtain ⟨hstops, hpoint⟩ := hexponent.stops
  rw [scan_eq, scanSign_mantissa hsign hmantissa, scanMantissa_of_spells hmantissa hstops hpoint,
    Option.map_some, scanExponent_of_spells hexponent]

/-- Whatever comes behind a numeral, a numeral is taken that is no shorter. -/
theorem scan_append (h : SpellsNumeral n text) (rest : List Char) :
    ∃ n' rest', scan (text ++ rest) = some (n', rest') ∧ rest'.length ≤ rest.length := by
  obtain @⟨negative, e, whole, fraction, sign, mantissa, exponent, hsign, hmantissa, hexponent⟩ := h
  rw [List.append_assoc, List.append_assoc, scan_eq, scanSign_mantissa hsign hmantissa]
  cases hexponent with
  | absent =>
    obtain ⟨m, behind, hscan, hlength⟩ := scanMantissa_append hmantissa rest
    rw [List.nil_append, hscan]
    exact ⟨_, _, rfl, (scanExponent_append .absent behind).trans hlength⟩
  | present hmark hsign' hne hds =>
    -- the mark ends the mantissa, so that the exponent is found where it stands
    obtain ⟨hstops, hpoint⟩ := mark_stops hmark _
    rw [List.cons_append, scanMantissa_of_spells hmantissa hstops hpoint, ← List.cons_append]
    exact ⟨_, _, rfl, scanExponent_append (.present hmark hsign' hne hds) rest⟩

end

end ChatAutomation.Numeral
