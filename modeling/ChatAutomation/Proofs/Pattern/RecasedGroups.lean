import Mathlib.Data.List.TakeWhile
import ChatAutomation.Proofs.Pattern.RecasedParts

/-!
# What opens a group, in a pattern and in its lower case form

Flags, the numbers of groups that conditions ask for, and comments, read on both sides. An upper case
letter is no flag, so a group whose flags can be read has them in lower case.
-/
namespace ChatAutomation.Pattern

open Text

namespace Parse

/-! ## Flags -/

/-- A letter for a flag is in lower case, but for the one that is never allowed. -/
theorem flag_lowers {c d : Char} (h : Lowers c d) (hc : c ∈ '-' :: flagLetters) :
    d = c ∨ c = 'L' ∧ d = 'l' := by
  have hall : (('-' :: flagLetters).all fun c =>
      c.toNat < 128 && (c.toLower == c || c == 'L' && c.toLower == 'l')) = true := by
    decide
  have hflag := List.all_eq_true.1 hall c hc
  simp only [Bool.and_eq_true, Bool.or_eq_true, decide_eq_true_eq, beq_iff_eq] at hflag
  rcases h.cases with ⟨-, rfl⟩ | ⟨hge, -⟩
  · exact hflag.2.imp_right id
  · omega

/-- Either both tokens are the letter of the same flag, or perhaps a hyphen, or one of them is neither. -/
theorem isAmong_flagLetters {t t' : Token} (ht : t.Recased t') {xs : List Char}
    (hxs : xs = flagLetters ∨ xs = '-' :: flagLetters) :
    (t.isAmong xs = true ∧ t'.isAmong xs = true ∧ t'.char = t.char) ∨
      ¬ t.isAmong xs = true ∨ ¬ t'.isAmong xs = true := by
  by_cases hflag : t.isAmong xs = true
  · have hchar := hflag
    simp only [Token.isAmong, Bool.and_eq_true, Bool.not_eq_true', List.contains_eq_mem,
      decide_eq_true_eq] at hchar
    have hmem : t.char ∈ '-' :: flagLetters := by
      rcases hxs with rfl | rfl
      · exact List.mem_cons_of_mem _ hchar.2
      · exact hchar.2
    obtain h | ⟨-, h⟩ := flag_lowers (ht.lowers hchar.1) hmem
    · exact .inl ⟨hflag, by rw [Token.isAmong, ht.escaped_eq, h]; exact hflag, h⟩
    · refine .inr (.inr ?_)
      rcases hxs with rfl | rfl <;> simp [Token.isAmong, h, flagLetters]
  · exact .inr (.inl hflag)

/-- Going on with the letter of a flag. -/
theorem nextFlag_quiet {α : Type} {t t' : Token} (ht : t.Recased t') (p : Problem)
    {go : Char → Parse α} (hgo : ∀ c, Quiet Eq (go c) (go c)) :
    Quiet Eq (if t.isAmong flagLetters then go t.char else badFlag t p)
      (if t'.isAmong flagLetters then go t'.char else badFlag t' p) := by
  obtain ⟨h, h', hchar⟩ | h | h := isAmong_flagLetters ht (.inl rfl)
  · rw [if_pos h, if_pos h', hchar]
    exact hgo _
  · rw [if_neg h]
    exact .fail_left _ _
  · rw [if_neg h]
    exact .fail_right _ _

theorem flagsOn_quiet (fuel : Nat) (c : Char) (on : List Char) :
    Quiet Eq (flagsOn fuel c on) (flagsOn fuel c on) := by
  induction fuel generalizing c on with
  | zero => exact .pure rfl
  | succ fuel ih =>
    refine .ite Iff.rfl (fun _ => .fail_bind_left _ _ _) fun _ => ?_
    refine .ite Iff.rfl (fun _ => .fail_bind_left _ _ _) fun _ => ?_
    refine next_quiet.bind fun t? t?' ht => ?_
    cases ht with
    | none => exact .fail_left _ _
    | @some t t' ht =>
      refine .ite (by rw [ht.isAmong_eq (by decide)]) (fun hstop => .pure ?_) fun _ =>
        nextFlag_quiet ht _ fun c => ih c _
      simp only [Token.isAmong, Bool.and_eq_true, Bool.not_eq_true'] at hstop
      have hmark : isMark t.char = true :=
        List.all_eq_true.1 (by decide : [')', '-', ':'].all isMark = true) _ (by simpa using hstop.2)
      rw [(ht.lowers hstop.1).eq_of_isMark hmark]

theorem flagsOff_quiet (fuel : Nat) (c : Char) (off : List Char) :
    Quiet Eq (flagsOff fuel c off) (flagsOff fuel c off) := by
  induction fuel generalizing c off with
  | zero => exact .pure rfl
  | succ fuel ih =>
    refine .ite Iff.rfl (fun _ => .fail_bind_left _ _ _) fun _ => ?_
    refine next_quiet.bind fun t? t?' ht => ?_
    cases ht with
    | none => exact .fail_left _ _
    | @some t t' ht =>
      exact .ite (by rw [ht.isChar_eq (by decide)]) (fun _ => .pure rfl) fun _ =>
        nextFlag_quiet ht _ fun c => ih c _

/-- Where two readings of flags end: with the same flags, which are set at once if they are for the whole
pattern. -/
structure FlagsEnd (s : Source) (x : Option (List Char × List Char)) (s₁ : Source)
    (y : Option (List Char × List Char)) (s₁' : Source) : Prop where
  eq : y = x
  recased : s₁.Recased s₁'
  groups : s₁.groups = s.groups
  flags : x.isSome = true → s₁.flags = s.flags

theorem groupFlags_twin {s s' : Source} (hs : s.Recased s') (c : Char) :
    Twin (FlagsEnd s) (groupFlags c) (groupFlags c) s s' := by
  unfold groupFlags
  refine .get_bind ?_
  rw [← hs.tokens.length_eq]
  refine Quiet.iteThen Iff.rfl (fun _ => .pure rfl) (fun _ => flagsOn_quiet _ c []) hs
    fun p s₁ _ s₁' hp hs₁ => ?_
  subst hp
  obtain ⟨on, stop⟩ := p
  refine .ite Iff.rfl (fun _ => .modify_bind (.pure ⟨rfl, ?_, hs₁.groups, by simp⟩)) fun _ => ?_
  · obtain ⟨htokens, hpos, hdangling, hflags, hglobals, hgroups, hlookbehind, hwanted⟩ := hs₁.recased
    exact ⟨htokens, hpos, hdangling, by simp only [hflags], by simp only [hglobals], hgroups, hlookbehind,
      hwanted⟩
  refine .ite Iff.rfl (fun _ => .fail_bind_left _ _ _) fun _ => .ite Iff.rfl (fun _ => ?_) fun _ => ?_
  · refine next_quiet.andThen hs₁.recased fun t? s₂ t?' s₂' ht hs₂ => ?_
    have hs₂ := hs₁.trans hs₂
    cases ht with
    | none => exact .fail_bind_left _ _ _
    | some ht =>
      obtain ⟨h, h', hchar⟩ | h | h := isAmong_flagLetters ht (.inl rfl)
      · simp only [if_pos h, if_pos h', hchar]
        refine (flagsOff_quiet _ _ _).andThen hs₂.recased fun off s₃ _ s₃' hoff hs₃ => ?_
        subst hoff
        have hs₃ := hs₂.trans hs₃
        exact .ite Iff.rfl (fun _ => .fail_bind_left _ _ _) fun _ =>
          .ite Iff.rfl (fun _ => .fail_bind_left _ _ _) fun _ =>
            .pure ⟨rfl, hs₃.recased, hs₃.groups, fun _ => hs₃.flags⟩
      · simp only [if_neg h]
        exact .fail_bind_left _ _ _
      · simp only [if_neg h]
        exact .fail_bind_right _ _ _
  · simp only [pure_bind]
    exact .ite Iff.rfl (fun _ => .fail_bind_left _ _ _) fun _ =>
      .ite Iff.rfl (fun _ => .fail_bind_left _ _ _) fun _ =>
        .pure ⟨rfl, hs₁.recased, hs₁.groups, fun _ => hs₁.flags⟩

/-! ## Names of groups -/

/-- Two texts that differ in the case of characters at the most. -/
def NameTwin (s s' : String) : Prop :=
  List.Forall₂ (fun c d => d = c ∨ Lowers c d) s.toList s'.toList

theorem NameTwin.isEmpty_eq {s s' : String} (h : NameTwin s s') : s'.isEmpty = s.isEmpty := by
  rw [Bool.eq_iff_iff, String.isEmpty_iff, String.isEmpty_iff, ← String.toList_eq_nil_iff,
    ← String.toList_eq_nil_iff]
  unfold NameTwin at h
  cases hs : s.toList <;> cases hs' : s'.toList <;> simp_all

theorem NameTwin.append_text {s s' : String} (h : NameTwin s s') {t t' : Token} (ht : t.Recased t') :
    NameTwin (s ++ t.text) (s' ++ t'.text) := by
  unfold NameTwin
  rw [String.toList_append, String.toList_append]
  refine List.rel_append h ?_
  cases ht with
  | plain h => simpa [Token.text] using .inr h
  | same c => simp [Token.text]
  | escaped h => simpa [Token.text] using .inr h

theorem nameText_quiet (fuel : Nat) {acc acc' : String} (hacc : NameTwin acc acc') :
    Quiet NameTwin (nameText fuel acc) (nameText fuel acc') := by
  induction fuel generalizing acc acc' with
  | zero => exact .pure hacc
  | succ fuel ih =>
    refine next_quiet.bind fun t? t?' ht => ?_
    cases ht with
    | none =>
      exact .ite (by rw [hacc.isEmpty_eq]) (fun _ => .fail_left _ _) fun _ => .fail_left _ _
    | some ht =>
      exact .ite (by rw [ht.isChar_eq (by decide)])
        (fun _ => .ite (by rw [hacc.isEmpty_eq]) (fun _ => .fail_left _ _) fun _ => .pure hacc)
        fun _ => ih (hacc.append_text ht)

theorem mem_of_dropUnderscores {previous : Option Char} {cs ds : List Char}
    (h : dropUnderscores previous cs = some ds) : ∀ c ∈ cs, c = '_' ∨ c ∈ ds := by
  induction cs generalizing previous ds with
  | nil => simp
  | cons c cs ih =>
    simp only [dropUnderscores] at h
    split_ifs at h with hline hdigit hmark
    · intro x hx
      rcases List.mem_cons.1 hx with rfl | hx
      · exact .inl hline
      · exact ih h x hx
    · obtain ⟨ds', hds', rfl⟩ := Option.map_eq_some_iff.1 h
      intro x hx
      rcases List.mem_cons.1 hx with rfl | hx
      · exact .inr List.mem_cons_self
      · exact (ih hds' x hx).imp_right (List.mem_cons_of_mem _)

theorem mem_trimList_or_isBlank {cs : List Char} {c : Char} (h : c ∈ cs) :
    c ∈ trimList cs ∨ isBlank c = true := by
  have hdrop {l : List Char} (hl : c ∈ l) : c ∈ l.dropWhile isBlank ∨ isBlank c = true := by
    rw [← List.takeWhile_append_dropWhile (p := isBlank) (l := l)] at hl
    rcases List.mem_append.1 hl with hl | hl
    · exact .inr (List.mem_takeWhile_imp hl)
    · exact .inl hl
  rcases hdrop h with h | h
  · rcases hdrop (List.mem_reverse.2 h) with h | h
    · exact .inl (List.mem_reverse.2 h)
    · exact .inr h
  · exact .inr h

theorem mem_scanSign {cs : List Char} {c : Char} (h : c ∈ cs) :
    c ∈ (Numeral.scanSign cs).2 ∨ isMark c = true := by
  unfold Numeral.scanSign
  split
  · rcases List.mem_cons.1 h with rfl | h
    · exact .inr (by decide)
    · exact .inl h
  · rcases List.mem_cons.1 h with rfl | h
    · exact .inr (by decide)
    · exact .inl h
  · exact .inl h

/-- A number has no letters. -/
theorem eq_of_nameNumber? {s s' : String} (h : NameTwin s s') {n : Int} (hn : nameNumber? s = some n) :
    s' = s := by
  have hchars : ∀ c ∈ s.toList, isBlank c = true ∨ isMark c = true ∨ isDecimal c = true := by
    unfold nameNumber? at hn
    simp only at hn
    split at hn
    · rename_i ds hds
      split at hn
      · cases hn
      rename_i hbad
      simp only [Bool.or_eq_true, Bool.not_eq_true', decide_eq_true_eq, not_or, Bool.not_eq_false,
        List.all_eq_true] at hbad
      intro c hc
      rcases mem_trimList_or_isBlank hc with hc | hc
      · rcases mem_scanSign hc with hc | hc
        · rcases mem_of_dropUnderscores hds c hc with rfl | hc
          · exact .inr (.inl (by decide))
          · exact .inr (.inr (hbad.1.2 c hc))
        · exact .inr (.inl hc)
      · exact .inl hc
    · cases hn
  rw [← String.toList_inj]
  unfold NameTwin at h
  generalize s.toList = cs at h hchars
  generalize s'.toList = ds at h
  induction h with
  | nil => rfl
  | @cons c d cs ds hcd _ ih =>
    obtain ⟨hc, hcs⟩ := List.forall_mem_cons.1 hchars
    rw [ih hcs]
    congr 1
    rcases hcd with hcd | hcd
    · exact hcd
    · rcases hc with hc | hc | hc
      · exact hcd.eq_of_caseless (caseless_of_isBlank hc)
      · exact hcd.eq_of_isMark hc
      · exact hcd.eq_of_caseless (caseless_of_isDecimal hc)

theorem conditionGroup_quiet : Quiet (fun n n' => n' = n ∧ 1 ≤ n) conditionGroup conditionGroup := by
  refine .get_bind fun s s' hs => ?_
  rw [← hs.tokens.length_eq]
  have hempty : NameTwin "" "" := by simp [NameTwin]
  refine (nameText_quiet _ hempty).bind fun name name' hname => ?_
  by_cases hword : isIdentifier name = true
  · simp only [if_pos hword]
    exact .fail_bind_left _ _ _
  by_cases hword' : isIdentifier name' = true
  · simp only [if_pos hword']
    exact .fail_bind_right _ _ _
  simp only [if_neg hword, if_neg hword']
  cases hn : nameNumber? name with
  | none => exact .fail_left _ _
  | some n =>
    obtain rfl := eq_of_nameNumber? hname hn
    rw [hn]
    refine .ite Iff.rfl (fun _ => .fail_bind_left _ _ _) fun hneg => ?_
    refine .ite Iff.rfl (fun _ => .fail_bind_left _ _ _) fun hzero => ?_
    refine .ite Iff.rfl (fun _ => .fail_bind_left _ _ _) fun _ => ?_
    refine .modify_bind (fun s s' hs => ?_) ?_
    · simp only [hs.wanted, hs.pos]
      split
      · exact .refl hs
      · obtain ⟨htokens, -, hdangling, hflags, hglobals, hgroups, hlookbehind, -⟩ := hs
        exact ⟨⟨htokens, rfl, hdangling, hflags, hglobals, hgroups, hlookbehind, rfl⟩, rfl, rfl⟩
    · exact (checkLookbehind_quiet _).bind fun _ _ _ => .pure ⟨rfl, by omega⟩

/-! ## Comments -/

theorem comment_quiet (start fuel : Nat) :
    Quiet (fun _ _ => True) (comment start fuel) (comment start fuel) := by
  induction fuel with
  | zero => exact .pure trivial
  | succ fuel ih =>
    refine next_quiet.bind fun t? t?' ht => ?_
    cases ht with
    | none => exact .throw_left _
    | some ht => exact .ite (by rw [ht.isChar_eq (by decide)]) (fun _ => .pure trivial) fun _ => ih

theorem lineComment_quiet (fuel : Nat) :
    Quiet (fun _ _ => True) (lineComment fuel) (lineComment fuel) := by
  induction fuel with
  | zero => exact .pure trivial
  | succ fuel ih =>
    refine next_quiet.bind fun t? t?' ht => ?_
    cases ht with
    | none => exact .pure trivial
    | some ht => exact .ite (by rw [ht.isChar_eq (by decide)]) (fun _ => .pure trivial) fun _ => ih

theorem close_quiet (start : Nat) : Quiet (fun _ _ => True) (close start) (close start) := by
  refine (accept_quiet (by decide)).bind fun b _ hb => ?_
  subst hb
  exact .ite Iff.rfl (fun _ => .pure trivial) fun _ => .throw_left _

end Parse
end ChatAutomation.Pattern
