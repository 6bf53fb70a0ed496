import ChatAutomation.Proofs.Pattern.Recased

/-!
# Parts of a pattern and of its lower case form

Escapes, sets, repetitions, flags and the names of groups, read on both sides.
-/
namespace ChatAutomation.Pattern

open Text

/-- What is written for a code in lower case, where it may have been given as a number. -/
abbrev CodeReads (n m : Nat) : Prop := m = n ∨ LowersTo n m

theorem CodeReads.of_lowers {c d : Char} (h : Lowers c d) : CodeReads (code c) (code d) := by
  obtain ⟨-, rfl | ⟨rfl, rfl⟩⟩ := h
  · exact .inr (.inl (by simp [lowerCode, Folding.apply]))
  · exact .inr (.inr ⟨by decide, by decide⟩)

namespace Parse

/-! ## Digits -/

theorem takeUpTo_marks {test : Char → Bool} (htest : ∀ c, test c = true → isMark c = true) (n : Nat) :
    Quiet (fun ds ds' => ds' = ds ∧ ∀ c ∈ ds, test c = true) (takeUpTo test n) (takeUpTo test n) := by
  refine (takeUpTo_quiet (fun c d h => ?_) n).mono fun ds ds' hds => ?_
  · by_cases hc : test c = true
    · rw [h.eq_of_isMark (htest c hc)]
    · by_cases hd : test d = true
      · have hmark := htest d hd
        rw [h.isMark_eq] at hmark
        rw [h.eq_of_isMark hmark]
      · rw [Bool.eq_false_iff.2 hc, Bool.eq_false_iff.2 hd]
  · induction hds with
    | nil => exact ⟨rfl, by simp⟩
    | cons h _ ih => 
      obtain ⟨rfl, hall⟩ := ih
      exact ⟨by rw [h.1.eq_of_isMark (htest _ h.2)], List.forall_mem_cons.2 ⟨h.2, hall⟩⟩

theorem isMark_of_isOctal {c : Char} (h : isOctal c = true) : isMark c = true := by
  refine isMark_of_isDigit ?_
  simp only [isOctal, Char.isDigit, Bool.and_eq_true, decide_eq_true_eq] at h ⊢
  exact ⟨h.1, Nat.le_trans h.2 (by decide : ('7').val.toNat ≤ 57)⟩

theorem takeAll_digits : Quiet Eq (takeAll Char.isDigit) (takeAll Char.isDigit) := by
  refine .get_bind fun s s' hs => ?_
  rw [← hs.tokens.length_eq]
  exact (takeUpTo_marks (fun _ => isMark_of_isDigit) _).mono fun _ _ h => h.1.symm

theorem number_lowers {ds ds' : List Char}
    (h : List.Forall₂ (fun c d => Lowers c d ∧ isHex c = true) ds ds') (base : Nat) :
    number base ds' = number base ds := by
  unfold number
  generalize 0 = acc
  induction h generalizing acc with
  | nil => rfl
  | cons h _ ih => rw [List.foldl_cons, List.foldl_cons, digitValue_lowers h.1 h.2, ih]

/-! ## Escapes -/

theorem hexEscape_quiet (letter : Char) (width : Nat) :
    Quiet Eq (hexEscape letter width) (hexEscape letter width) := by
  refine (takeUpTo_quiet (fun c d => isHex_lowers) width).bind fun ds ds' hds => ?_
  refine .ite (by rw [hds.length_eq]) (fun _ => .fail_bind_left _ _ _) fun _ => ?_
  rw [number_lowers hds]
  exact .ite Iff.rfl (fun _ => .fail_bind_left _ _ _) fun _ => .pure rfl

theorem checkOctal_quiet (ds : List Char) : Quiet Eq (checkOctal ds) (checkOctal ds) :=
  .ite Iff.rfl (fun _ => .fail_bind_left _ _ _) fun _ => .pure rfl

theorem plainEscape_same (c : Char) : Quiet CodeReads (plainEscape c) (plainEscape c) := by
  have hhex width := (hexEscape_quiet c width).mono fun n m h => (.inl h.symm : CodeReads n m)
  unfold plainEscape
  refine .ite Iff.rfl (fun _ => hhex 2) fun _ => .ite Iff.rfl (fun _ => hhex 4) fun _ =>
    .ite Iff.rfl (fun _ => hhex 8) fun _ => .ite Iff.rfl (fun _ => ?_) fun _ => .pure (.inl rfl)
  exact .fail_left _ _

section high
variable {c : Char} (h : 128 ≤ c.toNat)
include h

theorem controlEscape_high : controlEscape c = none := by
  unfold controlEscape
  split <;> first | rfl | exact absurd h (by decide)

theorem categoryEscape_high : categoryEscape c = none := by
  unfold categoryEscape
  split <;> first | rfl | exact absurd h (by decide)

theorem anchorEscape_high (ascii : Bool) : anchorEscape ascii c = none := by
  unfold anchorEscape
  split <;> first | rfl | exact absurd h (by decide)

theorem ne_of_high {x : Char} (hx : x.toNat < 128) : c ≠ x := by
  rintro rfl
  omega

theorem isDigit_high : c.isDigit = false := by
  by_contra hc
  have := toNat_lt_of_isDigit (eq_true_of_ne_false hc)
  omega

theorem isOctal_high : isOctal c = false := by
  by_contra hc
  have := toNat_lt_of_isOctal (eq_true_of_ne_false hc)
  omega

/-- A character beyond ASCII stands for itself behind a backslash. -/
theorem plainEscape_high : plainEscape c = pure (code c) := by
  have halpha : c.isAlphanum = false := by
    by_contra hc
    simp only [Char.isAlphanum, isDigit_high h, Bool.or_false, Bool.not_eq_false, isAlpha_iff] at hc
    omega
  unfold plainEscape
  rw [if_neg (ne_of_high h (by decide)), if_neg (ne_of_high h (by decide)),
    if_neg (ne_of_high h (by decide)), halpha, if_neg (by decide)]

theorem setEscape_high : setEscape c = pure (.one (code c)) := by
  unfold setEscape
  rw [controlEscape_high h, categoryEscape_high h]
  simp [isOctal_high h, plainEscape_high h]

end high

theorem setEscape_same (c : Char) : Quiet SetItem.Reads (setEscape c) (setEscape c) := by
  have hself (i : SetItem) : i.Reads i := by cases i <;> simp [SetItem.Reads]
  unfold setEscape
  cases controlEscape c with
  | some n => exact .pure (hself _)
  | none =>
    cases categoryEscape c with
    | some i => exact .pure (hself _)
    | none =>
      refine .ite Iff.rfl (fun _ => ?_) fun _ => ?_
      · refine (takeUpTo_marks (fun _ => isMark_of_isOctal) 2).bind fun ds ds' hds => ?_
        rw [hds.1]
        exact (checkOctal_quiet _).bind fun n m hn => .pure (by rw [hn]; exact hself _)
      · exact (plainEscape_same c).bind fun n m hn => .pure hn

theorem groupCount_quiet : Quiet Eq groupCount groupCount :=
  .get_bind fun _ _ hs => .pure (by rw [hs.groups])

theorem closedWidth_quiet (n : Nat) : Quiet Eq (closedWidth n) (closedWidth n) :=
  .get_bind fun _ _ hs => .pure (by rw [hs.groups])

theorem checkLookbehind_quiet (n : Nat) : Quiet Eq (checkLookbehind n) (checkLookbehind n) := by
  refine .get_bind fun s s' hs => ?_
  rw [hs.lookbehind]
  cases s.lookbehind with
  | none => exact .pure rfl
  | some bound =>
    refine (closedWidth_quiet n).bind fun w _ hw => ?_
    subst hw
    exact .ite Iff.rfl (fun _ => .fail_bind_left _ _ _) fun _ =>
      .ite Iff.rfl (fun _ => .fail_left _ _) fun _ => .pure rfl

end Parse

/-- The widths of the groups that have been closed. -/
def Source.widths (s : Source) : Nat → Option Width := fun n => (s.groups[n - 1]?).join

/-- Two letters that were read under the same flags from a symbol and its lower case form. -/
structure Letter.Twin (flags : Flags) (l l' : Letter) : Prop where
  made : l = .ofSymbol flags.ignoreCase flags.ascii l.symbol
  made' : l' = .ofSymbol flags.ignoreCase flags.ascii l'.symbol
  fits_eq : l.symbol.IsSteady flags.ignoreCase flags.ascii → l'.IsLow → ∀ c, simpleLower c = c →
    l.fits c = l'.fits c

/-- Two parts without groups that were read from a text and its lower case form: letters, or twice the
same. -/
inductive Re.LeafTwin (flags : Flags) (widths : Nat → Option Width) : Re → Re → Prop
  | letter {l l' : Letter} (h : l.Twin flags l') : LeafTwin flags widths (.letter l) (.letter l')
  | anchor (k : Anchor) : LeafTwin flags widths (.anchor k) (.anchor k)
  | backref {n : Nat} {w : Width} {folding : Folding} (hn : 1 ≤ n) (hw : widths n = some w) :
      LeafTwin flags widths (.backref n w folding) (.backref n w folding)

/-- A symbol that lower case does not change. -/
theorem Letter.Twin.self (flags : Flags) (s : Symbol) :
    Letter.Twin flags (.ofSymbol flags.ignoreCase flags.ascii s)
      (.ofSymbol flags.ignoreCase flags.ascii s) := ⟨rfl, rfl, fun _ _ _ _ => rfl⟩

/-- A character and what is written for it in lower case. -/
theorem Letter.Twin.one (flags : Flags) {n m : Nat} (h : CodeReads n m) :
    Letter.Twin flags (.ofSymbol flags.ignoreCase flags.ascii (.one false n))
      (.ofSymbol flags.ignoreCase flags.ascii (.one false m)) :=
  ⟨rfl, rfl, fun hsteady _ c hc => hsteady m h c hc⟩

namespace Parse

/-- Where two readings of a part without groups end. -/
def LeafEnd (flags : Flags) (s : Source) (r : Re) (s₁ : Source) (r' : Re) (s₁' : Source) : Prop :=
  r.LeafTwin flags s.widths r' ∧ Beside s s₁ s₁'

theorem oneOf_end {flags : Flags} {s s₁ s₁' : Source} {n m : Nat} (h : CodeReads n m)
    (hs : Beside s s₁ s₁') : LeafEnd flags s (oneOf flags n) s₁ (oneOf flags m) s₁' :=
  ⟨.letter (.one flags h), hs⟩

theorem reference_twin {s₀ s s' : Source} (hs : Beside s₀ s s') (flags : Flags) {n : Nat} (hn : 1 ≤ n)
    (size : Nat) : Twin (LeafEnd flags s₀) (reference flags n size) (reference flags n size) s s' := by
  unfold reference
  refine groupCount_quiet.andThen hs.recased fun k s₁ _ s₁' hk hs₁ => ?_
  subst hk
  refine .ite Iff.rfl (fun _ => ?_) fun _ => .fail_left _ _
  simp only [closedWidth, bind_assoc, pure_bind]
  refine .get_bind ?_
  rw [hs₁.recased.groups, hs₁.groups, hs.groups]
  cases hw : (s₀.groups[n - 1]?).join with
  | none => exact .fail_left _ _
  | some w =>
    exact (checkLookbehind_quiet n).andThen hs₁.recased fun _ s₂ _ s₂' _ hs₂ =>
      .pure ⟨.backref hn hw, (hs.trans hs₁).trans hs₂⟩

theorem one_le_digitValue {c : Char} (hc : c.isDigit = true) (hzero : c ≠ '0') : 1 ≤ digitValue c := by
  rw [digitValue, if_pos hc]
  simp only [Char.isDigit, Bool.and_eq_true, decide_eq_true_eq] at hc
  have hlo : 48 ≤ c.toNat := hc.1
  have hne : c.toNat ≠ 48 := fun h => hzero (by rw [← Char.ofNat_toNat c, h])
  omega

theorem digitEscape_twin {s s' : Source} (hs : s.Recased s') (flags : Flags) {d : Char}
    (hd : d.isDigit = true) (hzero : d ≠ '0') :
    Twin (LeafEnd flags s) (digitEscape flags d) (digitEscape flags d) s s' := by
  have hone := one_le_digitValue hd hzero
  have htwo (e : Char) : 1 ≤ number 10 [d, e] := by
    simp only [number, List.foldl_cons, List.foldl_nil]
    omega
  unfold digitEscape
  refine (takeUpTo_marks (fun _ => isMark_of_isDigit) 1).andThen hs fun ds s₁ ds' s₁' hds hs₁ => ?_
  obtain ⟨rfl, -⟩ := hds
  cases ds' with
  | nil => exact reference_twin hs₁ flags hone _
  | cons e es =>
    refine .ite Iff.rfl (fun _ => ?_) fun _ => reference_twin hs₁ flags (htwo e) _
    refine (takeUpTo_marks (fun _ => isMark_of_isOctal) 1).andThen hs₁.recased
      fun fs s₂ fs' s₂' hfs hs₂ => ?_
    obtain ⟨rfl, -⟩ := hfs
    cases fs' with
    | nil => exact reference_twin (hs₁.trans hs₂) flags (htwo e) _
    | cons f fs =>
      refine (checkOctal_quiet _).andThen hs₂.recased fun n s₃ _ s₃' hn hs₃ => ?_
      subst hn
      exact .pure (oneOf_end (.inl rfl) ((hs₁.trans hs₂).trans hs₃))

theorem escape_twin {s s' : Source} (hs : s.Recased s') (flags : Flags) {t t' : Token}
    (ht : t.Recased t') (hescaped : t.escaped = true) :
    Twin (LeafEnd flags s) (escape flags t.char) (escape flags t'.char) s s' := by
  cases ht with
  | plain => cases hescaped
  | @escaped c d h hc hd =>
    have hescape {x : Char} (hx : 128 ≤ x.toNat) : escape flags x = pure (oneOf flags (code x)) := by
      unfold escape
      rw [categoryEscape_high hx, anchorEscape_high hx, controlEscape_high hx]
      simp [ne_of_high hx (x := '0') (by decide), isDigit_high hx, plainEscape_high hx]
    rw [hescape hc, hescape hd]
    exact .pure (oneOf_end (.of_lowers h) (.refl hs))
  | same c =>
    unfold escape
    cases categoryEscape c with
    | some i => exact .pure ⟨.letter (.self flags _), .refl hs⟩
    | none =>
      cases anchorEscape flags.ascii c with
      | some k => exact .pure ⟨.anchor k, .refl hs⟩
      | none =>
        cases controlEscape c with
        | some n => exact .pure (oneOf_end (.inl rfl) (.refl hs))
        | none =>
          refine .ite Iff.rfl (fun _ => ?_) fun hzero => .ite Iff.rfl (fun hdigit => ?_) fun _ => ?_
          · refine (takeUpTo_marks (fun _ => isMark_of_isOctal) 2).andThen hs
              fun ds s₁ ds' s₁' hds hs₁ => .pure ?_
            rw [hds.1]
            exact oneOf_end (.inl rfl) hs₁
          · exact digitEscape_twin hs flags hdigit hzero
          · exact (plainEscape_same c).andThen hs fun n s₁ m s₁' hn hs₁ => .pure (oneOf_end hn hs₁)

/-! ## Sets -/

theorem setToken_quiet {t t' : Token} (ht : t.Recased t') :
    Quiet SetItem.Reads (setToken t) (setToken t') := by
  cases ht with
  | plain h => exact .pure (CodeReads.of_lowers h)
  | same c => exact setEscape_same c
  | escaped h hc hd =>
    simp only [setToken, if_true, setEscape_high hc, setEscape_high hd]
    exact .pure (CodeReads.of_lowers h)

theorem range_quiet (a b a' b' : Token) {low low' high high' : SetItem} (hlow : low.Reads low')
    (hhigh : high.Reads high') : Quiet SetItem.Reads (range a b low high) (range a' b' low' high') := by
  cases low with
  | one lo =>
    cases high with
    | one hi =>
      cases low' with
      | one lo' =>
        cases high' with
        | one hi' =>
          unfold range
          by_cases hwrong : hi < lo
          · simp only [if_pos hwrong]
            exact .fail_bind_left _ _ _
          · by_cases hwrong' : hi' < lo'
            · simp only [if_pos hwrong']
              exact .fail_bind_right _ _ _
            · simp only [if_neg hwrong, if_neg hwrong']
              exact .pure ⟨hlow, hhigh⟩
        | _ => cases hhigh
      | _ => cases hlow
    | _ => exact .fail_left _ _
  | _ => exact .fail_left _ _

theorem setItems_quiet (start : Nat) (fuel : Nat) {items items' : List SetItem}
    (hitems : List.Forall₂ SetItem.Reads items items') :
    Quiet (List.Forall₂ SetItem.Reads) (setItems start fuel items) (setItems start fuel items') := by
  induction fuel generalizing items items' with
  | zero => exact .pure hitems
  | succ fuel ih =>
    have hempty : items'.isEmpty = items.isEmpty := by cases hitems <;> rfl
    have hsnoc {i j : SetItem} (h : i.Reads j) : List.Forall₂ SetItem.Reads (items ++ [i]) (items' ++ [j]) :=
      List.rel_append hitems (.cons h .nil)
    refine next_quiet.bind fun a? a?' ha => ?_
    cases ha with
    | none => exact .throw_left _
    | some ha =>
      refine .ite (by rw [ha.isChar_eq (by decide), hempty]) (fun _ => .pure hitems) fun _ => ?_
      refine (setToken_quiet ha).bind fun low low' hlow => ?_
      refine (accept_quiet (by decide)).bind fun dash _ hdash => ?_
      subst hdash
      refine .ite Iff.rfl (fun _ => ?_) fun _ => ih (hsnoc hlow)
      refine next_quiet.bind fun b? b?' hb => ?_
      cases hb with
      | none => exact .throw_left _
      | some hb =>
        refine .ite (by rw [hb.isChar_eq (by decide)]) (fun _ => .pure ?_) fun _ => ?_
        · exact List.rel_append hitems (.cons hlow (.cons (.inl rfl) .nil))
        · exact (setToken_quiet hb).bind fun high high' hhigh =>
            (range_quiet _ _ _ _ hlow hhigh).bind fun i j hij => ih (hsnoc hij)

theorem set_twin {s₀ s s' : Source} (hs : Beside s₀ s s') (flags : Flags) :
    Twin (LeafEnd flags s₀) (set flags) (set flags) s s' := by
  refine .get_bind ?_
  rw [hs.recased.pos]
  refine (accept_quiet (by decide)).andThen hs.recased fun negated s₁ _ s₁' hneg hs₁ => ?_
  subst hneg
  refine .get_bind ?_
  rw [← hs₁.recased.tokens.length_eq]
  refine (setItems_quiet _ _ .nil).andThen hs₁.recased fun items s₂ items' s₂' hitems hs₂ => .pure ?_
  refine ⟨.letter ⟨rfl, rfl, fun hsteady hlow c hc => ?_⟩, (hs.trans hs₁).trans hs₂⟩
  refine Letter.fits_ofItems_eq hc hitems hsteady fun i hi => hlow i ?_
  rw [Letter.ofSymbol, Letter.items_ofItems]
  exact List.mem_eraseDups.2 hi

/-! ## Repetition -/

theorem repeatCount_quiet (ds : List Char) : Quiet Eq (repeatCount ds) (repeatCount ds) :=
  .ite Iff.rfl (fun _ => .throw_bind_left _ _) fun _ =>
    .ite Iff.rfl (fun _ => .throw_bind_left _ _) fun _ => .pure rfl

/-- Repetitions are written with the same bounds, the least one first. -/
theorem bounds_quiet : Quiet (fun b b' => b' = b ∧ ∀ least most, b = some (least, some most) → least ≤ most)
    bounds bounds := by
  intro s s' hs
  unfold bounds
  refine .get_bind ?_
  have hhead : Option.Rel Token.Recased s.tokens.head? s'.tokens.head? := by
    have htokens := hs.tokens
    generalize s.tokens = ts at htokens ⊢
    generalize s'.tokens = ts' at htokens ⊢
    cases htokens with
    | nil => exact .none
    | cons h _ => exact .some h
  generalize s.tokens.head? = t? at hhead ⊢
  generalize s'.tokens.head? = t?' at hhead ⊢
  cases hhead with
  | none => exact .pure ⟨⟨rfl, by simp⟩, .refl hs⟩
  | some ht =>
    refine .ite (by rw [ht.isChar_eq (by decide)]) (fun _ => .pure ⟨⟨rfl, by simp⟩, .refl hs⟩) fun _ => ?_
    refine takeAll_digits.andThen hs fun lo s₁ _ s₁' hlo hs₁ => ?_
    subst hlo
    refine (accept_quiet (by decide)).andThen hs₁.recased fun comma s₂ _ s₂' hcomma hs₂ => ?_
    subst hcomma
    have hs₂ := hs₁.trans hs₂
    refine Quiet.iteThen Iff.rfl (fun _ => takeAll_digits) (fun _ => .pure rfl) hs₂.recased
      fun hi s₃ _ s₃' hhi hs₃ => ?_
    subst hhi
    refine (accept_quiet (by decide)).andThen hs₃.recased fun closing s₄ _ s₄' hclosing hs₄ => ?_
    subst hclosing
    have hs₄ := (hs₂.trans hs₃).trans hs₄
    refine .ite Iff.rfl (fun _ => ?_) fun _ => .set_bind (.pure ⟨⟨rfl, by simp⟩, .refl hs⟩)
    refine Quiet.iteThen Iff.rfl (fun _ => .pure rfl) (fun _ => repeatCount_quiet lo) hs₄.recased
      fun least s₅ _ s₅' hleast hs₅ => ?_
    subst hleast
    have hs₅ := hs₄.trans hs₅
    refine .ite Iff.rfl (fun _ => .pure ⟨⟨rfl, by simp⟩, hs₅⟩) fun _ => ?_
    refine (repeatCount_quiet hi).andThen hs₅.recased fun most s₆ _ s₆' hmost hs₆ => ?_
    subst hmost
    refine .ite Iff.rfl (fun _ => .throw_bind_left _ _) fun horder => .pure ⟨⟨rfl, ?_⟩, hs₅.trans hs₆⟩
    rintro least' most' ⟨⟩
    exact Nat.not_lt.1 horder

theorem greed_quiet : Quiet Eq greed greed := by
  refine (accept_quiet (by decide)).bind fun b _ hb => ?_
  subst hb
  refine .ite Iff.rfl (fun _ => .pure rfl) fun _ => ?_
  refine (accept_quiet (by decide)).bind fun b _ hb => ?_
  subst hb
  exact .ite Iff.rfl (fun _ => .pure rfl) fun _ => .pure rfl

end Parse
end ChatAutomation.Pattern
