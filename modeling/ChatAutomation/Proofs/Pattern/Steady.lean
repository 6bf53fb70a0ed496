import ChatAutomation.Proofs.Pattern.LowerLetter

/-!
# Letters that lower case leaves alone

A pattern in lower case has other letters than the pattern it was written as. A letter is steady if that
makes no difference to the characters in lower case that it matches. Sets and joined letters are steady
where their parts are.
-/
namespace ChatAutomation.Pattern

open Text

/-- The code `m` is that of a lower case form; the capital sigma has two. -/
def LowersTo (n m : Nat) : Prop := m = lowerCode false n ∨ n = 0x3A3 ∧ m = 0x3C2

namespace SetItem

/-- What is written for a part in lower case. A code that is given as a number stays as it is, but not at
an end of a range. -/
def Lowered : SetItem → SetItem → Prop
  | one n, one m => m = n ∨ LowersTo n m
  | span a b, span c d => LowersTo a c ∧ LowersTo b d
  | category k negated, i => i = category k negated
  | _, _ => False

/-- What is written for a part in lower case, with codes that are given as numbers at the ends of ranges
too. -/
def Reads : SetItem → SetItem → Prop
  | one n, one m => m = n ∨ LowersTo n m
  | span a b, span c d => (c = a ∨ LowersTo a c) ∧ (d = b ∨ LowersTo b d)
  | category k negated, i => i = category k negated
  | _, _ => False

/-- A range ends in lower case, and so does a character of the upper planes. -/
def IsLow : SetItem → Prop
  | one n => n < upperPlanes ∨ lowerCode false n = n
  | span a b => lowerCode false a = a ∧ lowerCode false b = b
  | category .. => True

instance : DecidablePred IsLow
  | one n => inferInstanceAs (Decidable (n < upperPlanes ∨ lowerCode false n = n))
  | span a b => inferInstanceAs (Decidable (lowerCode false a = a ∧ lowerCode false b = b))
  | category .. => inferInstanceAs (Decidable True)

/-- A part holds the same characters in lower case when it is written in lower case. -/
def IsSteady (ignoreCase ascii : Bool) (i : SetItem) : Prop :=
  ∀ j, i.Lowered j → ∀ c, simpleLower c = c → i.holds ignoreCase ascii c = j.holds ignoreCase ascii c

theorem Reads.lowered {i j : SetItem} (h : i.Reads j) (hlow : j.IsLow) : i.Lowered j := by
  cases i with
  | one n =>
    cases j with
    | one m => exact h
    | _ => cases h
  | span a b =>
    cases j with
    | span c d =>
      obtain ⟨hc, hd⟩ := h
      refine ⟨hc.elim (fun hc => .inl ?_) id, hd.elim (fun hd => .inl ?_) id⟩
      · rw [← hc, hlow.1]
      · rw [← hd, hlow.2]
    | _ => cases h
  | category k negated => exact h

/-- A steady character of the upper planes is in lower case. -/
theorem IsSteady.isLow {ignoreCase ascii : Bool} {n : Nat} (h : (one n).IsSteady ignoreCase ascii) :
    (one n).IsLow := by
  by_cases hplane : n < upperPlanes
  · exact .inl hplane
  · right
    have hlower : simpleLower (simpleLower (charOfCode n)) = simpleLower (charOfCode n) :=
      simpleLower_simpleLower _
    have hsame := h (one (lowerCode false n)) (.inr (.inl rfl)) _ hlower
    have hself : (one (lowerCode false n)).holds ignoreCase ascii (simpleLower (charOfCode n)) = true := by
      have hcode : code (simpleLower (charOfCode n)) = lowerCode false n := rfl
      cases ignoreCase with
      | false => simp [holds, SetItem.plain, hcode]
      | true =>
        simp only [holds, folded, if_true, lowerCode_lowerCode]
        split_ifs <;> simp [withShared, hcode]
    have hholds : (one n).holds ignoreCase ascii (simpleLower (charOfCode n)) =
        (code (simpleLower (charOfCode n)) == n) := by
      cases ignoreCase <;> simp [holds, folded, SetItem.plain, Nat.not_lt.1 hplane]
    rw [hself, hholds] at hsame
    exact beq_iff_eq.1 hsame

end SetItem

/-- A symbol is steady if its parts are; a single character is looked up as such. -/
def Symbol.IsSteady (ignoreCase ascii : Bool) : Symbol → Prop
  | .one _ n => ∀ m, (SetItem.one n).Lowered (.one m) → ∀ c, simpleLower c = c →
      (CharSet.ofCode ignoreCase ascii false n).contains c =
        (CharSet.ofCode ignoreCase ascii false m).contains c
  | .among _ items => ∀ i ∈ items, i.IsSteady ignoreCase ascii
  | .any _ => True

/-- A single character is steady if it is so as a part. -/
theorem Symbol.isSteady_one {ignoreCase ascii negated : Bool} {n : Nat}
    (h : (SetItem.one n).IsSteady ignoreCase ascii) : (one negated n).IsSteady ignoreCase ascii := by
  intro m hm c hc
  have hlow : (SetItem.one m).IsLow := by
    rcases hm with rfl | rfl | ⟨-, rfl⟩
    · exact h.isLow
    · exact .inr (lowerCode_lowerCode false n)
    · exact .inl (by decide)
  rw [CharSet.contains_ofCode hc h.isLow, CharSet.contains_ofCode hc hlow, h _ hm c hc]

namespace Letter

/-- A letter is steady under whatever flags it may have been read. -/
def IsSteady (l : Letter) : Prop :=
  ∀ ignoreCase ascii, l = .ofSymbol ignoreCase ascii l.symbol → l.symbol.IsSteady ignoreCase ascii

def IsLow (l : Letter) : Prop := ∀ i ∈ l.symbol.items, i.IsLow

instance : DecidablePred IsLow := fun l => inferInstanceAs (Decidable (∀ i ∈ l.symbol.items, i.IsLow))

section fits
variable {ignoreCase ascii negated : Bool} {c : Char}

theorem fits_one (hc : simpleLower c = c) {n : Nat} (hn : (SetItem.one n).IsLow) :
    (ofSymbol ignoreCase ascii (.one negated n)).fits c =
      ((SetItem.one n).holds ignoreCase ascii c != negated) := CharSet.contains_ofCode hc hn

theorem fits_among (hc : simpleLower c = c) (items : List SetItem) :
    (ofSymbol ignoreCase ascii (.among negated items)).fits c =
      (items.any (·.holds ignoreCase ascii c) != negated) := CharSet.contains_ofItems hc items

theorem any_eraseDups (p : SetItem → Bool) (items : List SetItem) :
    items.eraseDups.any p = items.any p := by
  rw [Bool.eq_iff_iff, List.any_eq_true, List.any_eq_true]
  simp only [List.mem_eraseDups]

theorem fits_parts (hc : simpleLower c = c) {s : Symbol} (hparts : s.parts? = some s.items)
    (hlow : ∀ n, .one n ∈ s.items → (SetItem.one n).IsLow) :
    (ofSymbol ignoreCase ascii s).fits c = s.items.any (·.holds ignoreCase ascii c) := by
  cases s with
  | one negated n =>
    cases negated with
    | true => cases hparts
    | false => simp [fits_one hc (hlow _ List.mem_cons_self), Symbol.items]
  | among negated items =>
    cases negated with
    | true => cases hparts
    | false => simp [fits_among hc, Symbol.items]
  | any => cases hparts

/-- A letter that was joined from others matches what one of them does. -/
theorem fits_joined (hc : simpleLower c = c) {ls : List Letter}
    (hmade : ∀ l ∈ ls, l = .ofSymbol ignoreCase ascii l.symbol)
    (hparts : ∀ l ∈ ls, l.symbol.parts? = some l.symbol.items)
    (hlow : ∀ l ∈ ls, ∀ n, .one n ∈ l.symbol.items → (SetItem.one n).IsLow) :
    (ofSymbol ignoreCase ascii (.among false (ls.flatMap fun l => l.symbol.items).eraseDups)).fits c =
      ls.any (·.fits c) := by
  rw [fits_among hc, any_eraseDups, List.any_flatMap, Bool.bne_false, Bool.eq_iff_iff, List.any_eq_true,
    List.any_eq_true]
  refine exists_congr fun l => and_congr_right fun hl => ?_
  rw [hmade l hl]
  exact Eq.to_iff (congrArg (· = true) (fits_parts hc (hparts l hl) (hlow l hl)).symm)

/-- The parts of a steady letter were steady before they were joined. -/
theorem isSteady_of_joined {ls : List Letter} (hparts : ∀ l ∈ ls, l.symbol.parts? = some l.symbol.items)
    (h : (Symbol.among false (ls.flatMap fun l => l.symbol.items).eraseDups).IsSteady ignoreCase ascii)
    {l : Letter} (hl : l ∈ ls) :
    l.symbol.IsSteady ignoreCase ascii ∧ ∀ n, .one n ∈ l.symbol.items → (SetItem.one n).IsLow := by
  have hitems : ∀ i ∈ l.symbol.items, i.IsSteady ignoreCase ascii := fun i hi =>
    h i (List.mem_eraseDups.2 (List.mem_flatMap.2 ⟨l, hl, hi⟩))
  refine ⟨?_, fun n hn => (hitems _ hn).isLow⟩
  have hparts := hparts l hl
  generalize l.symbol = s at hitems hparts
  cases s with
  | one negated n => exact Symbol.isSteady_one (hitems _ List.mem_cons_self)
  | among negated items => exact hitems
  | any => trivial

end fits

/-! ## Sets between brackets -/

theorem items_ofItems (negated : Bool) (items : List SetItem) :
    (Symbol.ofItems negated items).items = items.eraseDups := by
  unfold Symbol.ofItems
  split <;> simp_all [Symbol.items]

section ofItems
variable {ignoreCase ascii negated : Bool} {c : Char} {items items' : List SetItem}

theorem fits_ofItems (hc : simpleLower c = c)
    (hlow : ∀ n, .one n ∈ items → (SetItem.one n).IsLow) :
    (ofSymbol ignoreCase ascii (.ofItems negated items)).fits c =
      (items.any (·.holds ignoreCase ascii c) != negated) := by
  rw [← any_eraseDups]
  unfold Symbol.ofItems
  split
  · rename_i n hn
    rw [hn, fits_one hc (hlow n (List.mem_eraseDups.1 (hn ▸ List.mem_cons_self)))]
    simp
  · exact fits_among hc _

theorem contains_ofCode_negated (n : Nat) : (CharSet.ofCode ignoreCase ascii negated n).contains c =
    ((CharSet.ofCode ignoreCase ascii false n).contains c != negated) := by
  unfold CharSet.ofCode
  split
  · cases ascii <;> simp [CharSet.contains]
  · simp [CharSet.contains]

theorem any_holds_eq (hreads : List.Forall₂ SetItem.Reads items items') (hlow : ∀ i ∈ items', i.IsLow)
    {p : SetItem → Bool}
    (hsame : ∀ i ∈ items, ∀ j, i.Lowered j → j.IsLow → p i = j.holds ignoreCase ascii c) :
    items.any p = items'.any (·.holds ignoreCase ascii c) := by
  induction hreads with
  | nil => rfl
  | cons hread _ ih =>
    obtain ⟨hfirst, hrest⟩ := List.forall_mem_cons.1 hlow
    rw [List.any_cons, List.any_cons, hsame _ List.mem_cons_self _ (hread.lowered hfirst) hfirst,
      ih hrest fun i hi => hsame i (List.mem_cons_of_mem _ hi)]

/-- A steady set means the same when it is written in lower case. -/
theorem fits_ofItems_eq (hc : simpleLower c = c) (hreads : List.Forall₂ SetItem.Reads items items')
    (hsteady : (Symbol.ofItems negated items).IsSteady ignoreCase ascii)
    (hlow : ∀ i ∈ items', i.IsLow) :
    (ofSymbol ignoreCase ascii (.ofItems negated items)).fits c =
      (ofSymbol ignoreCase ascii (.ofItems negated items')).fits c := by
  rw [fits_ofItems hc fun n hn => hlow _ hn]
  unfold Symbol.ofItems at hsteady ⊢
  split at hsteady
  · -- A single character, perhaps more than once, each time with a lower case form of its own.
    rename_i n hn
    have hone : ∀ i ∈ items, i = .one n := fun i hi => by
      simpa [hn] using List.mem_eraseDups.2 hi
    obtain ⟨i, hi⟩ : ∃ i, i ∈ items := ⟨.one n, List.mem_eraseDups.1 (hn ▸ List.mem_cons_self)⟩
    rw [← any_holds_eq (p := fun _ => (CharSet.ofCode ignoreCase ascii false n).contains c) hreads hlow]
    · have hany (b : Bool) : items.any (fun _ => b) = b := by
        cases b
        · simp
        · exact List.any_eq_true.2 ⟨i, hi, rfl⟩
      rw [hany, fits, ofSymbol, Symbol.toSet, contains_ofCode_negated]
    · intro i hi j hij hjlow
      rw [hone i hi] at hij
      cases j with
      | one m => rw [hsteady m hij c hc, CharSet.contains_ofCode hc hjlow, Bool.bne_false]
      | _ => cases hij
  · rw [fits_among hc, any_eraseDups, any_holds_eq hreads hlow]
    exact fun i hi j hij _ => hsteady i (List.mem_eraseDups.2 hi) j hij c hc

end ofItems
end Letter

/-! ## What is steady where case does not count -/

/-- The two small letters that stand for the capital sigma share it. -/
theorem withShared_sigma (p : Member → Bool) :
    (withShared [point 0x3C3]).any p = (withShared [point 0x3C2]).any p := by
  have hsmall : withShared [point 0x3C3] = [point 0x3C3, point 0x3C2] := by decide
  have hfinal : withShared [point 0x3C2] = [point 0x3C2, point 0x3C3] := by decide
  simp [hsmall, hfinal, Bool.or_comm]

theorem lowersTo_of_not_anyCased {n m : Nat} (hn : n < upperPlanes) (hcase : anyCased n n = false)
    (h : LowersTo n m) : m = n := by
  obtain rfl | ⟨rfl, -⟩ := h
  · exact lowerCode_of_not_anyCased (by unfold upperPlanes at hn; unfold standInOffset; omega) hcase
  · rw [show anyCased 0x3A3 0x3A3 = true by decide] at hcase
    cases hcase

namespace SetItem

/-- A part without case is written the same in lower case. -/
theorem eq_of_lowered {i j : SetItem} (hcase : i.isCased false = false)
    (hordered : ∀ first last, i = span first last → first ≤ last) (h : i.Lowered j) : j = i := by
  cases i with
  | category k negated => exact h
  | one n =>
    simp only [isCased, Bool.or_eq_false_iff, decide_eq_false_iff_not, Nat.not_le] at hcase
    cases j with
    | one m => rw [h.elim id (lowersTo_of_not_anyCased hcase.1 hcase.2)]
    | _ => cases h
  | span first last =>
    simp only [isCased, Bool.or_eq_false_iff, decide_eq_false_iff_not, Nat.not_le] at hcase
    have hle := hordered first last rfl
    have huncased {n : Nat} (hfirst : first ≤ n) (hlast : n ≤ last) : anyCased n n = false := by
      by_contra hn
      have := anyCased_mono hfirst hlast (eq_true_of_ne_false hn)
      rw [show anyCased first last = false from hcase.2] at this
      cases this
    cases j with
    | span c d =>
      rw [lowersTo_of_not_anyCased (Nat.lt_of_le_of_lt hle hcase.1) (huncased (Nat.le_refl _) hle) h.1,
        lowersTo_of_not_anyCased hcase.1 (huncased hle (Nat.le_refl _)) h.2]
    | _ => cases h

/-- A character of the basic plane is steady. -/
theorem isSteady_one {n : Nat} (hn : n < upperPlanes) : (one n).IsSteady true false := by
  have hholds (m : Nat) (hm : lowerCode false m = m ∨ m < upperPlanes) (c : Char) :
      (one m).holds true false c = (withShared [point (lowerCode false m)]).any (·.holds c) := by
    by_cases hplane : upperPlanes ≤ m
    · rw [hm.resolve_right (Nat.not_lt.2 hplane), withShared_point_of_le hplane]
      simp [holds, folded, hplane]
    · simp [holds, folded, hplane]
  rintro (m | _ | _) hm c -
  · rcases hm with rfl | rfl | ⟨rfl, rfl⟩
    · rfl
    · rw [hholds n (.inr hn), hholds _ (.inl (lowerCode_lowerCode false n)), lowerCode_lowerCode]
    · rw [hholds _ (.inr hn), hholds 0x3C2 (.inr (by decide)),
        show lowerCode false 0x3A3 = 0x3C3 by decide +kernel,
        show lowerCode false 0x3C2 = 0x3C2 by decide +kernel, withShared_sigma]
  · cases hm
  · cases hm

/-- The lower case forms of a range of ASCII come from the run of its letters alone. -/
theorem lowerImages_of_le {first last : Nat} (hlast : last ≤ 122) : lowerImages first last =
    ((caseSlice ⟨65, 90, 1, 97⟩ first last).map fun (lo, hi) =>
      Member.span (97 + lo * 1) (97 + hi * 1) 1).toList := by
  have hruns : allLowerRuns = dottedCapital :: ⟨65, 90, 1, 97⟩ :: lowerRuns.toList.tail := rfl
  have hbeyond : (dottedCapital :: lowerRuns.toList.tail).all (122 < ·.first) = true := by decide
  have hnone : ∀ r ∈ dottedCapital :: lowerRuns.toList.tail, caseSlice r first last = none := fun r hr => by
    have hr := List.all_eq_true.1 hbeyond r hr
    simp only [decide_eq_true_eq] at hr
    simp [caseSlice, Nat.lt_of_le_of_lt hlast hr]
  have hrest : lowerRuns.toList.tail.filterMap (fun r => (caseSlice r first last).map fun (lo, hi) =>
      Member.span (r.image + lo * r.step) (r.image + hi * r.step) r.step) = [] :=
    List.filterMap_eq_nil_iff.2 fun r hr => by rw [hnone r (List.mem_cons_of_mem _ hr)]; rfl
  rw [lowerImages, hruns, List.filterMap_cons_none (by rw [hnone _ List.mem_cons_self]; rfl),
    List.filterMap_cons]
  cases caseSlice ⟨65, 90, 1, 97⟩ first last <;> simp [hrest]

theorem folded_capitals {i j : Nat} (hle : i ≤ j) (hj : j < 26) : (span (65 + i) (65 + j)).folded false =
    .span (65 + i) (65 + j) 1 :: (span (97 + i) (97 + j)).folded false := by
  have hcapitals : lowerImages (65 + i) (65 + j) = [.span (97 + i) (97 + j) 1] := by
    have hslice : caseSlice ⟨65, 90, 1, 97⟩ (65 + i) (65 + j) = some (i, j) := by
      have hlo : (if 65 + i ≤ 65 then 0 else (65 + i - 65 + 1 - 1) / 1) = i := by split_ifs <;> omega
      have hhi : (min (65 + j) 90 - 65) / 1 = j := by omega
      have hin : ¬ 65 + j < 65 := by omega
      simp only [caseSlice, hlo, hhi, if_neg hin, Option.bind_some, if_pos hle]
    rw [lowerImages_of_le (by omega), hslice]
    simp
  have hsmall : lowerImages (97 + i) (97 + j) = [] := by
    have hslice : caseSlice ⟨65, 90, 1, 97⟩ (97 + i) (97 + j) = none := by
      have hlo : (if 97 + i ≤ 65 then 0 else (97 + i - 65 + 1 - 1) / 1) = 32 + i := by split_ifs <;> omega
      have hhi : (min (97 + j) 90 - 65) / 1 = 25 := by omega
      have hin : ¬ 97 + j < 65 := by omega
      have hout : ¬ 32 + i ≤ 25 := by omega
      simp only [caseSlice, hlo, hhi, if_neg hin, Option.bind_some, if_neg hout]
    rw [lowerImages_of_le (by omega), hslice]
    rfl
  have hshared : (sharedUpper.all fun p => 90 < p.1) = true := by decide
  have hmin {n : Nat} (hn : n ≤ 122) : min n (upperPlanes - 1) = n := by
    unfold upperPlanes
    omega
  have hplane {n : Nat} (hn : n ≤ 122) : ¬ upperPlanes ≤ n := by
    unfold upperPlanes
    omega
  simp only [folded, hcapitals, hsmall, hmin (by omega : 65 + j ≤ 122), hmin (by omega : 97 + j ≤ 122),
    if_neg (hplane (by omega : 65 + j ≤ 122)), if_neg (hplane (by omega : 97 + j ≤ 122)), withShared,
    Bool.false_eq_true, if_false, List.append_nil, List.cons_append, List.any_cons, List.any_nil]
  congr 4
  refine List.filter_congr fun p hp => ?_
  have hcode := beq_iff_eq.1 (List.all_eq_true.1 code_sharedUpper p hp)
  have hlarge := of_decide_eq_true (List.all_eq_true.1 hshared p hp)
  have hout : (Member.span (65 + i) (65 + j) 1).holds (Char.ofNat p.1) = false := by
    simp [Member.holds, hcode]
    omega
  rw [hout, Bool.false_or]

theorem lowerCode_capital : ((List.range 26).all fun i => lowerCode false (65 + i) == 97 + i) = true := by
  decide

/-- So is a range of capital letters. -/
theorem isSteady_capitals {first last : Nat} (hfirst : 65 ≤ first) (hle : first ≤ last)
    (hlast : last ≤ 90) : (span first last).IsSteady true false := by
  have hcapital {k : Nat} (hk : k < 26) : lowerCode false (65 + k) = 97 + k :=
    beq_iff_eq.1 (List.all_eq_true.1 lowerCode_capital k (List.mem_range.2 hk))
  obtain ⟨i, rfl⟩ := Nat.exists_eq_add_of_le hfirst
  obtain ⟨j, rfl⟩ := Nat.exists_eq_add_of_le (Nat.le_trans hfirst hle)
  have hlower {k m : Nat} (hk : k < 26) (h : LowersTo (65 + k) m) : m = 97 + k := by
    obtain rfl | ⟨hsigma, -⟩ := h
    · exact hcapital hk
    · omega
  rintro (_ | ⟨a, b⟩ | _) h c hc
  · cases h
  · -- The capital letters themselves do not occur in lower case.
    have hout : (Member.span (65 + i) (65 + j) 1).holds c = false := by
      by_contra hin
      simp only [Member.holds, Bool.not_eq_false, Bool.and_eq_true, decide_eq_true_eq] at hin
      obtain ⟨k, hk⟩ := Nat.exists_eq_add_of_le (Nat.le_trans hfirst hin.1.1)
      have hself : lowerCode false (code c) = code c := by
        simp [lowerCode, Folding.apply, hc]
      rw [hk, hcapital (by omega)] at hself
      omega
    rw [hlower (by omega) h.1, hlower (by omega) h.2, holds, holds, if_pos rfl, if_pos rfl,
      folded_capitals (by omega) (by omega), List.any_cons, hout, Bool.false_or]
  · cases h

end SetItem

namespace Letter

/-- A letter that looks characters up in all scripts without regard to case was read under the flags that
say so. -/
theorem isSteady_of_folding {s : Symbol} (hfolding : (s.toSet true false).folding = .full)
    (h : s.IsSteady true false) : (ofSymbol true false s).IsSteady := by
  intro ignoreCase ascii hmade
  have hset : s.toSet true false = s.toSet ignoreCase ascii := congrArg Letter.set hmade
  rw [hset] at hfolding
  have hflags : ignoreCase = true ∧ ascii = false := by
    cases s <;> cases ignoreCase <;> cases ascii <;>
      simp [Symbol.toSet, CharSet.ofCode, CharSet.ofItems, apply_ite CharSet.folding, ite_eq_iff] at hfolding ⊢
  rw [hflags.1, hflags.2]
  exact h

/-- A letter without case is steady. -/
theorem isSteady_of_not_isCased {s : Symbol} (hcase : ∀ i ∈ s.items, i.isCased false = false)
    (hordered : ∀ first last, .span first last ∈ s.items → first ≤ last) :
    (ofSymbol true false s).IsSteady := by
  have hsame : ∀ i ∈ s.items, ∀ j, i.Lowered j → j = i := fun i hi j =>
    SetItem.eq_of_lowered (hcase i hi) fun first last hspan => hordered first last (hspan ▸ hi)
  rintro ignoreCase ascii -
  change s.IsSteady ignoreCase ascii
  cases s with
  | one negated n =>
    intro m hm c _
    have hone := hsame _ List.mem_cons_self _ hm
    rw [SetItem.one.inj hone]
  | among negated items =>
    intro i hi j hij c _
    rw [hsame i hi j hij]
  | any newline => trivial

/-- A character of the basic plane is a steady letter, -/
theorem isSteady_one {n : Nat} (hn : n < upperPlanes) (negated : Bool) :
    (ofSymbol true false (.one negated n)).IsSteady := by
  by_cases hcase : hasCases false n n = true
  · exact isSteady_of_folding (by simp [Symbol.toSet, CharSet.ofCode, hcase])
      (Symbol.isSteady_one (SetItem.isSteady_one hn))
  · refine isSteady_of_not_isCased ?_ (by simp [Symbol.items])
    simp [Symbol.items, SetItem.isCased, hn, Bool.eq_false_iff.2 hcase]

/-- and so is a category, -/
theorem isSteady_category (k : Category) (negated outside : Bool) :
    (ofSymbol true false (.among negated [.category k outside])).IsSteady :=
  isSteady_of_not_isCased (by simp [Symbol.items, SetItem.isCased]) (by simp [Symbol.items])

/-- and a range of capital letters. -/
theorem isSteady_capitals {first last : Nat} (hfirst : 65 ≤ first) (hle : first ≤ last) (hlast : last ≤ 90)
    (negated : Bool) : (ofSymbol true false (.among negated [.span first last])).IsSteady := by
  have hcase : (SetItem.span first last).isCased false = true := by
    have hcovers : CaseRun.Covers ⟨65, 90, 1, 97⟩ first :=
      ⟨hfirst, Nat.le_trans hle hlast, Nat.mod_one _⟩
    have hrun : ⟨65, 90, 1, 97⟩ ∈ allLowerRuns := List.mem_cons_of_mem _ (List.Mem.head _)
    have hslice := isSome_caseSlice_mono (Nat.le_refl _) hle (isSome_caseSlice_of_covers (by decide) hcovers)
    have hcased : anyCased first last = true := by
      unfold anyCased
      rw [List.any_eq_true.2 ⟨_, hrun, hslice⟩, Bool.true_or, Bool.true_or]
    simp [SetItem.isCased, hasCases, hcased]
  refine isSteady_of_folding (by simp [Symbol.toSet, CharSet.ofItems, hcase]) ?_
  exact List.forall_mem_singleton.2 (SetItem.isSteady_capitals hfirst hle hlast)

end Letter
end ChatAutomation.Pattern
