import ChatAutomation.Contact
import ChatAutomation.Proofs.Text.Caseless

/-!
# How a number is spelled

Contacts are compared in a form of their own. A number is found in it if it is written without a break: after
plus signs, between blanks, and in front of the domain of a personal id, which may be in any case and have a
device in front of it. Nothing else is compared as the number: `normalList_eq_iff`.
-/
namespace ChatAutomation.Contact

open Text

/-! ## The form under which contacts are compared -/

def personalList (cs : List Char) : List Char :=
  if personalDomain.toList.isSuffixOf cs then
    (cs.take (cs.length - personalDomain.length)).takeWhile (· != ':')
  else cs

def normalList (cs : List Char) : List Char :=
  (personalList (lowerList (trimList cs))).dropWhile (· == '+')

theorem toList_personalPart (jid : String) : (personalPart jid).toList = personalList jid.toList := by
  unfold personalPart personalList endsWith before
  split <;> simp [String.length_toList]

theorem toList_normalize (jid : String) : (normalize jid).toList = normalList jid.toList := by
  simp [normalize, dropPlus, normalList, toList_personalPart, lower, trim]

theorem personalList_append (cs : List Char) :
    personalList (cs ++ personalDomain.toList) = cs.takeWhile (· != ':') := by
  have hsuffix : personalDomain.toList.isSuffixOf (cs ++ personalDomain.toList) = true :=
    List.isSuffixOf_iff_suffix.2 (List.suffix_append _ _)
  rw [personalList, if_pos hsuffix, List.length_append, String.length_toList, Nat.add_sub_cancel,
    List.take_left]

/-- All that dropping the domain can do. -/
theorem personalList_cases (cs : List Char) :
    (∃ front, cs = front ++ personalDomain.toList ∧ personalList cs = front.takeWhile (· != ':')) ∨
      personalList cs = cs := by
  by_cases hsuffix : personalDomain.toList <:+ cs
  · obtain ⟨front, rfl⟩ := hsuffix
    exact .inl ⟨front, rfl, personalList_append front⟩
  · exact .inr (if_neg (mt List.isSuffixOf_iff_suffix.1 hsuffix))

/-! ## Spellings -/

/-- One or more digits, of whatever script. -/
structure IsNumber (number : List Char) : Prop where
  ne_nil : number ≠ []
  isDecimal : ∀ c ∈ number, isDecimal c = true

/-- What may stand behind a number: nothing, or the domain of a personal id, in any case, with or without a
device in front of it. -/
inductive Ending : List Char → Prop
  | bare : Ending []
  | personal {domain : List Char} (hdomain : domain.map Char.toLower = personalDomain.toList) :
      Ending domain
  | device (name : List Char) {domain : List Char}
      (hdomain : domain.map Char.toLower = personalDomain.toList) : Ending (':' :: name ++ domain)

/-- The spellings of a number that are understood. -/
inductive Spells (number : List Char) : List Char → Prop
  | intro {front signs ending back : List Char} (hfront : ∀ c ∈ front, isBlank c = true)
      (hsigns : ∀ c ∈ signs, c = '+') (hending : Ending ending) (hback : ∀ c ∈ back, isBlank c = true) :
      Spells number (front ++ (signs ++ number ++ ending) ++ back)

theorem spells_self (number : List Char) : Spells number number := by
  simpa using @Spells.intro number [] [] [] [] (by simp) (by simp) .bare (by simp)

theorem domain_ascii : ∀ d ∈ personalDomain.toList, d.toNat < 128 ∧ d ≠ 'i' ∧ d ≠ 'k' :=
  List.all_iff_forall_prop.1 (by decide +kernel)

theorem domain_eq_cons : personalDomain.toList = '@' :: personalDomain.toList.tail := by decide +kernel

/-- What stands in front of a number, of a device and of a domain. -/
def marks : List Char := ['+', ':', '@']

theorem marks_plain : ∀ c ∈ marks, isMark c = true ∧ isDecimal c = false :=
  List.all_iff_forall_prop.1 (by decide +kernel)

/-- Blanks are no part of a spelling but at its ends. -/
theorem blanks_foreign : ∀ n ∈ within blankBoundaries, isDecimal (Char.ofNat n) = false ∧
    Char.ofNat n ∉ marks ∧ (Char.ofNat n).toLower ∉ personalDomain.toList := by
  decide +kernel

section
variable {c : Char}

theorem foreign_of_isBlank (h : isBlank c = true) :
    isDecimal c = false ∧ c ∉ marks ∧ c.toLower ∉ personalDomain.toList := by
  have hforeign := blanks_foreign c.toNat (mem_within (by decide) h)
  rwa [Char.ofNat_toNat] at hforeign

theorem caseless_of_mem_marks (h : c ∈ marks) : Caseless c :=
  caseless_of_isMark (marks_plain c h).1

end

/-- The characters of a number and of the signs in front of it. -/
def IsSpelled (c : Char) : Prop := c = '+' ∨ isDecimal c = true

namespace IsSpelled
variable {c : Char}

theorem caseless (h : IsSpelled c) : Caseless c := by
  rcases h with rfl | h
  · exact caseless_of_mem_marks (by decide)
  · exact caseless_of_isDecimal h

theorem isBlank_eq_false (h : IsSpelled c) : isBlank c = false := by
  by_contra hblank
  obtain ⟨hdecimal, hmark, -⟩ := foreign_of_isBlank (eq_true_of_ne_false hblank)
  rcases h with rfl | h
  · exact hmark (by decide)
  · simp [h] at hdecimal

theorem ne_cut (h : IsSpelled c) : c ≠ '@' ∧ c ≠ ':' := by
  constructor <;> rintro rfl <;> exact absurd h (by unfold IsSpelled; decide +kernel)

end IsSpelled

section
variable {word domain ending : List Char}

theorem lowerAfter_domain (h : domain.map Char.toLower = personalDomain.toList) (before : List Char) :
    lowerAfter before domain = personalDomain.toList := by
  rw [lowerAfter_of_ascii, h]
  intro c hc
  have hascii := (domain_ascii c.toLower (h ▸ List.mem_map_of_mem hc)).1
  rcases toLower_cases c with heq | ⟨⟨-, hhi⟩, -⟩
  · rwa [heq] at hascii
  · omega

theorem personalList_eq_self (hword : ∀ c ∈ word, IsSpelled c) : personalList word = word := by
  refine (personalList_cases word).resolve_left ?_
  rintro ⟨front, rfl, -⟩
  have hat : '@' ∈ front ++ personalDomain.toList := by
    rw [domain_eq_cons]
    simp
  exact (hword '@' hat).ne_cut.1 rfl

/-- Neither the domain of a spelling nor its device is compared. -/
theorem personalList_spelled (hword : ∀ c ∈ word, IsSpelled c) (hending : Ending ending)
    (before : List Char) : personalList (word ++ lowerAfter before ending) = word := by
  have hpassed : ∀ c ∈ word, (c != ':') = true := fun c hc => bne_iff_ne.2 (hword c hc).ne_cut.2
  cases hending with
  | bare =>
    rw [lowerAfter, List.append_nil, personalList_eq_self hword]
  | personal hdomain =>
    rw [lowerAfter_domain hdomain, personalList_append, List.takeWhile_eq_self_iff.2 hpassed]
  | @device name domain hdomain =>
    obtain ⟨ds, hds⟩ := exists_lowerAfter_append (':' :: before) name domain
    have hcolon : Caseless ':' := caseless_of_mem_marks (by decide)
    rw [List.cons_append, lowerAfter_cons, hcolon.kept, hds, lowerAfter_domain hdomain,
      List.singleton_append, ← List.cons_append, ← List.append_assoc, personalList_append,
      List.takeWhile_append_of_pos hpassed]
    simp

theorem last_domain (hdomain : domain.map Char.toLower = personalDomain.toList) (front : List Char) :
    (front ++ domain).getLast?.map isBlank ≠ some true := by
  have hne : domain ≠ [] := by
    rintro rfl
    rw [domain_eq_cons] at hdomain
    cases hdomain
  intro hlast
  rw [List.getLast?_append_of_ne_nil _ hne] at hlast
  obtain ⟨c, hc, hblank⟩ := Option.map_eq_some_iff.1 hlast
  exact (foreign_of_isBlank hblank).2.2 (hdomain ▸ List.mem_map_of_mem (List.mem_of_getLast? hc))

theorem trimList_spelled (hne : word ≠ []) (hword : ∀ c ∈ word, IsSpelled c) (hending : Ending ending) :
    trimList (word ++ ending) = word ++ ending := by
  refine trimList_eq_self_iff.2 ⟨?_, ?_⟩
  · rw [List.head?_append_of_ne_nil _ hne, List.head?_eq_some_head hne]
    simp [(hword _ (List.head_mem hne)).isBlank_eq_false]
  · cases hending with
    | bare =>
      rw [List.append_nil, List.getLast?_eq_some_getLast hne]
      simp [(hword _ (List.getLast_mem hne)).isBlank_eq_false]
    | personal hdomain => exact last_domain hdomain word
    | device name hdomain =>
      rw [← List.append_assoc]
      exact last_domain hdomain _

/-- What ends in the domain, with or without a device, was such an ending before it was put in lower case. -/
theorem ending_of_lowerAfter {before cs rest : List Char} (hrest : rest = [] ∨ ∃ name, rest = ':' :: name)
    (h : lowerAfter before cs = rest ++ personalDomain.toList) : Ending cs := by
  obtain rfl | ⟨name, rfl⟩ := hrest
  · exact .personal (map_toLower_of_lowerAfter domain_ascii h)
  · have hcolon : ∀ c ∈ [':'], Caseless c :=
      List.forall_mem_singleton.2 (caseless_of_mem_marks (by decide))
    obtain ⟨behind, rfl, hbehind⟩ := exists_eq_append_of_lowerAfter hcolon h
    replace hbehind := hbehind.trans (congrArg (name ++ ·) domain_eq_cons)
    obtain ⟨name', letters, rfl, hrest⟩ :=
      exists_eq_append_cons_of_lowerAfter (caseless_of_mem_marks (by decide)) hbehind
    have hletters : letters.map Char.toLower = personalDomain.toList.tail :=
      map_toLower_of_lowerAfter (fun d hd => domain_ascii d (List.mem_of_mem_tail hd)) hrest
    refine .device name' ?_
    rw [List.map_cons, hletters, domain_eq_cons]
    rfl

end

section
variable {number cs : List Char}

theorem isSpelled_of_mem {signs : List Char} (hsigns : ∀ c ∈ signs, c = '+')
    (hnumber : ∀ c ∈ number, isDecimal c = true) : ∀ c ∈ signs ++ number, IsSpelled c :=
  List.forall_mem_append.2 ⟨fun c hc => .inl (hsigns c hc), fun c hc => .inr (hnumber c hc)⟩

theorem dropWhile_signs {signs : List Char} (hsigns : ∀ c ∈ signs, c = '+')
    (hnumber : ∀ c ∈ number, isDecimal c = true) :
    (signs ++ number).dropWhile (· == '+') = number := by
  rw [List.dropWhile_append_of_pos fun c hc => beq_iff_eq.2 (hsigns c hc)]
  cases number with
  | nil => rfl
  | cons c number =>
    have hc : c ≠ '+' := by
      rintro rfl
      exact absurd (hnumber '+' List.mem_cons_self) (by simp [marks_plain '+' (by decide)])
    simp [hc]

theorem normalList_of_spells (hnumber : IsNumber number) (h : Spells number cs) :
    normalList cs = number := by
  obtain @⟨front, signs, ending, back, hfront, hsigns, hending, hback⟩ := h
  have hne : signs ++ number ≠ [] := by simp [hnumber.ne_nil]
  have hword := isSpelled_of_mem hsigns hnumber.isDecimal
  rw [normalList, trimList_padded hfront hback, trimList_spelled hne hword hending, lowerList,
    lowerAfter_append_of_caseless fun c hc => (hword c hc).caseless, personalList_spelled hword hending,
    dropWhile_signs hsigns hnumber.isDecimal]

theorem exists_signs (cs : List Char) :
    ∃ signs, (∀ c ∈ signs, c = '+') ∧ cs = signs ++ cs.dropWhile (· == '+') := by
  refine ⟨cs.takeWhile (· == '+'), fun c hc => ?_, List.takeWhile_append_dropWhile.symm⟩
  have hplus : (c == '+') = true := List.mem_takeWhile_imp (p := (· == '+')) hc
  exact beq_iff_eq.1 hplus

theorem exists_device (cs : List Char) :
    ∃ rest, (rest = [] ∨ ∃ name, rest = ':' :: name) ∧ cs = cs.takeWhile (· != ':') ++ rest := by
  refine ⟨cs.dropWhile (· != ':'), ?_, List.takeWhile_append_dropWhile.symm⟩
  by_cases hne : cs.dropWhile (· != ':') = []
  · exact .inl hne
  · obtain ⟨d, name, hd⟩ := List.exists_cons_of_ne_nil hne
    have hcolon : d = ':' := by simpa [hd] using List.head_dropWhile_not (· != ':') hne
    exact .inr ⟨name, hcolon ▸ hd⟩

theorem spells_of_normalList (hnumber : ∀ c ∈ number, isDecimal c = true) (h : normalList cs = number) :
    Spells number cs := by
  -- step by step backwards: the signs, the domain, the case, and the blanks at the ends
  obtain ⟨front, back, hfront, hback, hcs⟩ := exists_eq_padded_trimList cs
  obtain ⟨signs, hsigns, hword⟩ := exists_signs (personalList (lowerList (trimList cs)))
  rw [← normalList, h] at hword
  rw [hcs]
  have hcaseless : ∀ c ∈ signs ++ number, Caseless c :=
    fun c hc => (isSpelled_of_mem hsigns hnumber c hc).caseless
  rcases personalList_cases (lowerList (trimList cs)) with ⟨ahead, hahead, hcut⟩ | hwhole
  · obtain ⟨rest, hrest, hsplit⟩ := exists_device ahead
    rw [← hcut, hword] at hsplit
    rw [hsplit, List.append_assoc] at hahead
    obtain ⟨ending, hmiddle, hbehind⟩ := exists_eq_append_of_lowerAfter hcaseless hahead
    rw [hmiddle]
    exact ⟨hfront, hsigns, ending_of_lowerAfter hrest hbehind, hback⟩
  · rw [hwhole, ← List.append_nil (signs ++ number)] at hword
    obtain ⟨ending, hmiddle, hbehind⟩ := exists_eq_append_of_lowerAfter hcaseless hword
    rw [hmiddle, lowerAfter_eq_nil.1 hbehind]
    exact ⟨hfront, hsigns, .bare, hback⟩

/-- The spellings of a number are all that is compared as the number. -/
theorem normalList_eq_iff (hnumber : IsNumber number) : normalList cs = number ↔ Spells number cs :=
  ⟨spells_of_normalList hnumber.isDecimal, normalList_of_spells hnumber⟩

end

end ChatAutomation.Contact
