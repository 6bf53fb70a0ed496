import ChatAutomation.Proofs.Pattern.Steady
import ChatAutomation.Proofs.Text.Caseless

/-!
# A pattern and its lower case form, side by side

Two texts, one the lower case form of the other, are read with the same functions. `Lowers` compares their
characters, `Source.Recased` what is left to read of them, and `Twin` two readings: if both succeed, then
with results and rests that are related. `Quiet` is the common case in which neither groups nor flags
change.
-/
namespace ChatAutomation.Text

/-- The character `d` stands in a lower case text for `c`; the dotted capital I is left out, for which two
would stand. -/
def Lowers (c d : Char) : Prop := c.toNat ≠ 0x130 ∧ (d = simpleLower c ∨ c = 'Σ' ∧ d = 'ς')

namespace Lowers

variable {c d : Char}

/-- The two characters are one and what a text in lower case has in its place. -/
theorem exists_mem_lowerAt (h : Lowers c d) : ∃ before after, d ∈ lowerAt before c after := by
  obtain ⟨hdotted, h⟩ := h
  by_cases hsigma : c = 'Σ'
  · subst hsigma
    have hmiddle : lowerAt [] 'Σ' [] = [simpleLower 'Σ'] := by decide +kernel
    have hfinal : lowerAt ['α'] 'Σ' [] = ['ς'] := by decide +kernel
    rcases h with hd | ⟨-, hd⟩
    · refine ⟨[], [], ?_⟩
      rw [hmiddle, hd, List.mem_singleton]
    · refine ⟨['α'], [], ?_⟩
      rw [hfinal, hd, List.mem_singleton]
  · obtain rfl : d = simpleLower c := h.resolve_right fun h => hsigma h.1
    exact ⟨[], [], by simp [lowerAt, lowerChar, hsigma, hdotted]⟩

/-- In ASCII lower case is that of ASCII. Elsewhere it does not lead to ASCII, but for the sign of the
Kelvin. -/
theorem cases (h : Lowers c d) : (c.toNat < 128 ∧ d = c.toLower) ∨
    (128 ≤ c.toNat ∧ (128 ≤ d.toNat ∨ d = 'k')) := by
  by_cases hascii : c.toNat < 128
  · obtain ⟨before, after, hmem⟩ := h.exists_mem_lowerAt
    rw [lowerAt_of_ascii hascii, List.mem_singleton] at hmem
    exact .inl ⟨hascii, hmem⟩
  · refine .inr ⟨Nat.not_lt.1 hascii, ?_⟩
    obtain ⟨hdotted, rfl | ⟨rfl, rfl⟩⟩ := h
    · by_cases hd : (simpleLower c).toNat < 128
      · exact .inr ((ascii_of_simpleLower hdotted hd).resolve_left hascii)
      · exact .inl (Nat.not_lt.1 hd)
    · exact .inl (by decide)

/-- A test of ASCII characters that lower case does not change. -/
theorem test_eq {p : Char → Bool} (h : Lowers c d)
    (hascii : ((List.range 128).all fun n => p (Char.ofNat n).toLower == p (Char.ofNat n)) = true)
    (hk : p 'k' = false) (hbelow : ∀ x, p x = true → x.toNat < 128) : p d = p c := by
  have hother x (hx : 128 ≤ x.toNat) : p x = false := by
    by_contra hp
    have := hbelow x (by simpa using hp)
    omega
  rcases h.cases with ⟨hlt, rfl⟩ | ⟨hge, hd | rfl⟩
  · have := List.all_eq_true.1 hascii c.toNat (List.mem_range.2 hlt)
    rwa [Char.ofNat_toNat, beq_iff_eq] at this
  · rw [hother c hge, hother d hd]
  · rw [hk, hother c hge]

theorem isMark_eq (h : Lowers c d) : isMark d = isMark c := by
  refine h.test_eq (by decide) (by decide) fun x hx => ?_
  simp only [isMark, Bool.and_eq_true, decide_eq_true_eq] at hx
  exact hx.1

theorem eq_of_caseless (h : Lowers c d) (hc : Caseless c) : d = c := by
  obtain ⟨before, after, hmem⟩ := h.exists_mem_lowerAt
  rwa [hc.kept, List.mem_singleton] at hmem

/-- Marks are not changed. -/
theorem eq_of_isMark (h : Lowers c d) (hmark : isMark c = true) : d = c :=
  h.eq_of_caseless (caseless_of_isMark hmark)

/-- Nothing else becomes a mark. -/
theorem eq_mark_iff (h : Lowers c d) {x : Char} (hx : isMark x = true) : d = x ↔ c = x := by
  constructor
  · rintro rfl
    obtain ⟨before, after, hmem⟩ := h.exists_mem_lowerAt
    exact (caseless_of_isMark hx).alone hmem
  · rintro rfl
    exact h.eq_of_isMark hx

end Lowers
end ChatAutomation.Text

namespace ChatAutomation.Pattern

open Text

namespace Parse

theorem toNat_lt_of_isHex {x : Char} (h : isHex x = true) : x.toNat < 128 := by
  simp only [isHex, Bool.or_eq_true, Bool.and_eq_true, decide_eq_true_eq] at h
  rcases h with (h | ⟨-, h⟩) | ⟨-, h⟩
  · exact toNat_lt_of_isDigit h
  · have : x.toNat ≤ 102 := h
    omega
  · have : x.toNat ≤ 70 := h
    omega

theorem toNat_lt_of_isOctal {x : Char} (h : isOctal x = true) : x.toNat < 128 := by
  simp only [isOctal, Bool.and_eq_true, decide_eq_true_eq] at h
  have : x.toNat ≤ 55 := h.2
  omega

variable {c d : Char}

theorem isHex_lowers (h : Lowers c d) : isHex d = isHex c :=
  h.test_eq (by decide) (by decide) fun _ => toNat_lt_of_isHex

theorem digitValue_lowers (h : Lowers c d) (hc : isHex c = true) : digitValue d = digitValue c := by
  have hall : ((List.range 128).all fun n =>
      digitValue (Char.ofNat n).toLower == digitValue (Char.ofNat n)) = true := by
    decide
  have hlt := toNat_lt_of_isHex hc
  rcases h.cases with ⟨-, rfl⟩ | ⟨hge, -⟩
  · have := List.all_eq_true.1 hall c.toNat (List.mem_range.2 hlt)
    rwa [Char.ofNat_toNat, beq_iff_eq] at this
  · omega

end Parse

/-! ## What is left to read -/

/-- A token and what stands for it in lower case. Behind a backslash letters of ASCII stay as they
are. -/
inductive Token.Recased : Token → Token → Prop
  | plain {c d : Char} (h : Lowers c d) : Recased ⟨false, c⟩ ⟨false, d⟩
  | same (c : Char) : Recased ⟨true, c⟩ ⟨true, c⟩
  | escaped {c d : Char} (h : Lowers c d) (hc : 128 ≤ c.toNat) (hd : 128 ≤ d.toNat) :
      Recased ⟨true, c⟩ ⟨true, d⟩

namespace Token.Recased

variable {t t' : Token}

theorem escaped_eq (h : t.Recased t') : t'.escaped = t.escaped := by
  cases h <;> rfl

theorem size_eq (h : t.Recased t') : t'.size = t.size := by
  cases h <;> rfl

theorem isChar_eq (h : t.Recased t') {x : Char} (hx : isMark x = true) : t'.isChar x = t.isChar x := by
  cases h with
  | plain h => simp only [isChar, Bool.not_false, Bool.true_and, beq_eq_decide, h.eq_mark_iff hx]
  | same | escaped => rfl

theorem isAmong_eq (h : t.Recased t') {xs : List Char} (hxs : xs.all isMark = true) :
    t'.isAmong xs = t.isAmong xs := by
  cases h with
  | @plain c d h =>
    have hmem : d ∈ xs ↔ c ∈ xs := by
      constructor <;> intro hc
      · rwa [(h.eq_mark_iff (List.all_eq_true.1 hxs d hc)).1 rfl]
      · rwa [(h.eq_mark_iff (List.all_eq_true.1 hxs c hc)).2 rfl]
    simp [isAmong, hmem]
  | same | escaped => rfl

/-- A token that is not escaped. -/
theorem lowers (h : t.Recased t') (ht : t.escaped = false) : Lowers t.char t'.char := by
  cases h with
  | plain h => exact h
  | same | escaped => cases ht

end Token.Recased

/-- The same but for the tokens, which are in lower case. -/
structure Source.Recased (s s' : Source) : Prop where
  tokens : List.Forall₂ Token.Recased s.tokens s'.tokens
  pos : s'.pos = s.pos
  dangling : s'.dangling = s.dangling
  flags : s'.flags = s.flags
  globals : s'.globals = s.globals
  groups : s'.groups = s.groups
  lookbehind : s'.lookbehind = s.lookbehind
  wanted : s'.wanted = s.wanted

/-! ## Two readings -/

/-- Two readings, if both succeed, end with what `R` relates. -/
def Twin {α β : Type} (R : α → Source → β → Source → Prop) (f : Parse α) (g : Parse β) (s s' : Source) :
    Prop :=
  ∀ x s₁ y s₁', f.run s = .ok (x, s₁) → g.run s' = .ok (y, s₁') → R x s₁ y s₁'

/-- Where two readings end that began at `s` and beside it, and have left groups and flags alone. -/
structure Beside (s s₁ s₁' : Source) : Prop where
  recased : s₁.Recased s₁'
  groups : s₁.groups = s.groups
  flags : s₁.flags = s.flags

/-- Two readings that, if both succeed, end with results that `V` relates, and leave groups and flags
alone. -/
def Quiet {α β : Type} (V : α → β → Prop) (f : Parse α) (g : Parse β) : Prop :=
  ∀ s s', s.Recased s' → Twin (fun x s₁ y s₁' => V x y ∧ Beside s s₁ s₁') f g s s'

theorem Beside.refl {s s' : Source} (h : s.Recased s') : Beside s s s' := ⟨h, rfl, rfl⟩

theorem Beside.trans {s s₁ s₁' s₂ s₂' : Source} (h : Beside s s₁ s₁') (h' : Beside s₁ s₂ s₂') :
    Beside s s₂ s₂' := ⟨h'.recased, h'.groups.trans h.groups, h'.flags.trans h.flags⟩

namespace Twin

variable {α β γ δ : Type} {R : α → Source → β → Source → Prop} {Q : γ → Source → δ → Source → Prop}
  {f : Parse α} {g : Parse β} {s s' : Source}

theorem pure {x : α} {y : β} (h : R x s y s') : Twin R (pure x) (pure y) s s' := by
  intro x' s₁ y' s₁' hf hg
  cases hf
  cases hg
  exact h

theorem throw_left (e : Error) : Twin R (throw e) g s s' := by
  intro x s₁ y s₁' hf
  cases hf

theorem fail_left (p : Problem) (back : Nat) : Twin R (Parse.fail p back) g s s' := by
  intro x s₁ y s₁' hf
  cases hf

theorem fail_right (p : Problem) (back : Nat) : Twin R f (Parse.fail p back) s s' := by
  intro x s₁ y s₁' _ hg
  cases hg

theorem throw_bind_left (e : Error) (k : γ → Parse α) : Twin R (throw e >>= k) g s s' := by
  intro x s₁ y s₁' hf
  cases hf

theorem throw_bind_right (e : Error) (k : γ → Parse β) : Twin R f (throw e >>= k) s s' := by
  intro x s₁ y s₁' _ hg
  cases hg

theorem fail_bind_left (p : Problem) (back : Nat) (k : γ → Parse α) :
    Twin R (Parse.fail p back >>= k) g s s' := by
  intro x s₁ y s₁' hf
  cases hf

theorem fail_bind_right (p : Problem) (back : Nat) (k : γ → Parse β) :
    Twin R f (Parse.fail p back >>= k) s s' := by
  intro x s₁ y s₁' _ hg
  cases hg

theorem bind {f : Parse γ} {g : Parse δ} {f' : γ → Parse α} {g' : δ → Parse β} (h : Twin Q f g s s')
    (hrest : ∀ x s₁ y s₁', Q x s₁ y s₁' → Twin R (f' x) (g' y) s₁ s₁') :
    Twin R (f >>= f') (g >>= g') s s' := by
  intro x s₂ y s₂' hf hg
  rw [StateT.run_bind] at hf hg
  cases hfirst : f.run s with
  | error e => rw [hfirst] at hf; cases hf
  | ok p =>
    cases hsecond : g.run s' with
    | error e => rw [hsecond] at hg; cases hg
    | ok q =>
      rw [hfirst] at hf
      rw [hsecond] at hg
      exact hrest _ _ _ _ (h _ _ _ _ hfirst hsecond) x s₂ y s₂' hf hg

theorem get_bind {f : Source → Parse α} {g : Source → Parse β} (h : Twin R (f s) (g s') s s') :
    Twin R (get >>= f) (get >>= g) s s' := h

theorem set_bind {u u' : Source} {f : PUnit → Parse α} {g : PUnit → Parse β}
    (h : Twin R (f ⟨⟩) (g ⟨⟩) u u') : Twin R (set u >>= f) (set u' >>= g) s s' := h

theorem modify_bind {u u' : Source → Source} {f : Unit → Parse α} {g : Unit → Parse β}
    (h : Twin R (f ()) (g ()) (u s) (u' s')) : Twin R (modify u >>= f) (modify u' >>= g) s s' := h

theorem ite {c c' : Prop} [Decidable c] [Decidable c'] {f₁ f₂ : Parse α} {g₁ g₂ : Parse β} (hc : c' ↔ c)
    (hthen : c → Twin R f₁ g₁ s s') (helse : ¬ c → Twin R f₂ g₂ s s') :
    Twin R (if c then f₁ else f₂) (if c' then g₁ else g₂) s s' := by
  by_cases h : c
  · rw [if_pos h, if_pos (hc.2 h)]
    exact hthen h
  · rw [if_neg h, if_neg (mt hc.1 h)]
    exact helse h

theorem mono {R' : α → Source → β → Source → Prop} (h : Twin R' f g s s')
    (hle : ∀ x s₁ y s₁', R' x s₁ y s₁' → R x s₁ y s₁') : Twin R f g s s' :=
  fun x s₁ y s₁' hf hg => hle _ _ _ _ (h x s₁ y s₁' hf hg)

end Twin

namespace Quiet

variable {α β γ δ : Type} {V : α → β → Prop} {U : γ → δ → Prop} {f : Parse α} {g : Parse β}

theorem pure {x : α} {y : β} (h : V x y) : Quiet V (pure x) (pure y) := fun _ _ hs =>
  .pure ⟨h, .refl hs⟩

theorem throw_left (e : Error) : Quiet V (throw e) g := fun _ _ _ => .throw_left e

theorem fail_left (p : Problem) (back : Nat) : Quiet V (Parse.fail p back) g := fun _ _ _ =>
  .fail_left p back

theorem fail_right (p : Problem) (back : Nat) : Quiet V f (Parse.fail p back) := fun _ _ _ =>
  .fail_right p back

theorem throw_bind_left (e : Error) (k : γ → Parse α) : Quiet V (throw e >>= k) g := fun _ _ _ =>
  .throw_bind_left e k

theorem fail_bind_left (p : Problem) (back : Nat) (k : γ → Parse α) :
    Quiet V (Parse.fail p back >>= k) g := fun _ _ _ => .fail_bind_left p back k

theorem fail_bind_right (p : Problem) (back : Nat) (k : γ → Parse β) :
    Quiet V f (Parse.fail p back >>= k) := fun _ _ _ => .fail_bind_right p back k

theorem bind {f : Parse γ} {g : Parse δ} {f' : γ → Parse α} {g' : δ → Parse β} (h : Quiet U f g)
    (hrest : ∀ x y, U x y → Quiet V (f' x) (g' y)) : Quiet V (f >>= f') (g >>= g') := fun s s' hs =>
  (h s s' hs).bind fun x s₁ y s₁' ⟨hxy, hs₁⟩ =>
    (hrest x y hxy s₁ s₁' hs₁.recased).mono fun _ _ _ _ ⟨hV, hs₂⟩ => ⟨hV, hs₁.trans hs₂⟩

/-- What is read off the state is the same but for the tokens. -/
theorem get_bind {f : Source → Parse α} {g : Source → Parse β}
    (h : ∀ s s', s.Recased s' → Quiet V (f s) (g s')) : Quiet V (get >>= f) (get >>= g) :=
  fun s s' hs => .get_bind (h s s' hs s s' hs)

theorem modify_bind {u u' : Source → Source} {f : Unit → Parse α} {g : Unit → Parse β}
    (hu : ∀ s s', s.Recased s' → Beside s (u s) (u' s')) (h : Quiet V (f ()) (g ())) :
    Quiet V (modify u >>= f) (modify u' >>= g) := fun s s' hs =>
  .modify_bind ((h _ _ (hu s s' hs).recased).mono fun _ _ _ _ ⟨hV, hs₁⟩ => ⟨hV, (hu s s' hs).trans hs₁⟩)

theorem ite {c c' : Prop} [Decidable c] [Decidable c'] {f₁ f₂ : Parse α} {g₁ g₂ : Parse β} (hc : c' ↔ c)
    (hthen : c → Quiet V f₁ g₁) (helse : ¬ c → Quiet V f₂ g₂) :
    Quiet V (if c then f₁ else f₂) (if c' then g₁ else g₂) := fun s s' hs =>
  .ite hc (fun h => hthen h s s' hs) fun h => helse h s s' hs

theorem mono {V' : α → β → Prop} (h : Quiet V' f g) (hle : ∀ x y, V' x y → V x y) : Quiet V f g :=
  fun s s' hs => (h s s' hs).mono fun _ _ _ _ ⟨hV, hs₁⟩ => ⟨hle _ _ hV, hs₁⟩

/-- How two readings go on. -/
theorem andThen {R : α → Source → β → Source → Prop} {f : Parse γ} {g : Parse δ} {f' : γ → Parse α}
    {g' : δ → Parse β} {s s' : Source} (h : Quiet U f g) (hs : s.Recased s')
    (hrest : ∀ x s₁ y s₁', U x y → Beside s s₁ s₁' → Twin R (f' x) (g' y) s₁ s₁') :
    Twin R (f >>= f') (g >>= g') s s' :=
  (h s s' hs).bind fun x s₁ y s₁' ⟨hxy, hs₁⟩ => hrest x s₁ y s₁' hxy hs₁

/-- How they go on where two branches meet. -/
theorem iteThen {R : α → Source → β → Source → Prop} {c c' : Prop} [Decidable c] [Decidable c']
    {f₁ f₂ : Parse γ} {g₁ g₂ : Parse δ} {f' : γ → Parse α} {g' : δ → Parse β} {s s' : Source}
    (hc : c' ↔ c) (hthen : c → Quiet U f₁ g₁) (helse : ¬ c → Quiet U f₂ g₂) (hs : s.Recased s')
    (hrest : ∀ x s₁ y s₁', U x y → Beside s s₁ s₁' → Twin R (f' x) (g' y) s₁ s₁') :
    Twin R (if c then f₁ >>= f' else f₂ >>= f') (if c' then g₁ >>= g' else g₂ >>= g') s s' :=
  .ite hc (fun h => (hthen h).andThen hs hrest) fun h => (helse h).andThen hs hrest

theorem modify {u u' : Source → Source} (hu : ∀ s s', s.Recased s' → Beside s (u s) (u' s')) :
    Quiet (fun _ _ => True) (modify u : Parse Unit) (modify u') := by
  rintro s s' hs x s₁ y s₁' ⟨⟩ ⟨⟩
  exact ⟨trivial, hu s s' hs⟩

/-- How they go on behind a step that is only taken on a condition. -/
theorem whenThen {R : α → Source → β → Source → Prop} {c : Prop} [Decidable c] {f g : Parse Unit}
    {f' : Unit → Parse α} {g' : Unit → Parse β} {s s' : Source} (h : Quiet (fun _ _ => True) f g)
    (hs : s.Recased s') (hrest : ∀ s₁ s₁', Beside s s₁ s₁' → Twin R (f' ()) (g' ()) s₁ s₁') :
    Twin R (if c then f >>= f' else f' ()) (if c then g >>= g' else g' ()) s s' :=
  .ite Iff.rfl (fun _ => h.andThen hs fun _ s₁ _ s₁' _ hs₁ => hrest s₁ s₁' hs₁)
    fun _ => hrest s s' (.refl hs)

end Quiet

/-! ## Tokens -/

namespace Parse

theorem peek_quiet : Quiet (Option.Rel Token.Recased) peek peek := by
  refine .get_bind fun s s' hs => .pure ?_
  have htokens := hs.tokens
  generalize s.tokens = ts at htokens ⊢
  generalize s'.tokens = ts' at htokens ⊢
  cases htokens with
  | nil => exact .none
  | cons h _ => exact .some h

/-- A token is taken on both sides or on none. -/
theorem next_quiet : Quiet (Option.Rel Token.Recased) next next := by
  rintro ⟨ts, pos, dangling, flags, globals, groups, lookbehind, wanted⟩ ⟨ts', _, _, _, _, _, _, _⟩
    ⟨htokens, rfl, rfl, rfl, rfl, rfl, rfl, rfl⟩
  refine .get_bind ?_
  cases htokens with
  | nil => exact .pure ⟨.none, ⟨.nil, rfl, rfl, rfl, rfl, rfl, rfl, rfl⟩, rfl, rfl⟩
  | @cons t t' ts ts' ht hts =>
    have hempty : ts'.isEmpty = ts.isEmpty := by cases hts <;> rfl
    refine .ite (by rw [hempty]) (fun _ => .throw_bind_left _ _) fun _ => .set_bind (.pure ?_)
    exact ⟨.some ht, ⟨hts, by rw [ht.size_eq], rfl, rfl, rfl, rfl, rfl, rfl⟩, rfl, rfl⟩

/-- A character that lower case does not change is accepted on both sides or on none. -/
theorem accept_quiet {c : Char} (hc : isMark c = true) : Quiet Eq (accept c) (accept c) := by
  refine peek_quiet.bind fun t? t?' ht => ?_
  cases ht with
  | none => exact .pure rfl
  | some ht =>
    exact .ite (by rw [ht.isChar_eq hc]) (fun _ => next_quiet.bind fun _ _ _ => .pure rfl)
      fun _ => .pure rfl

/-- Characters that pass a test which does not tell upper from lower case. -/
theorem takeUpTo_quiet {test : Char → Bool} (htest : ∀ c d, Lowers c d → test d = test c) (n : Nat) :
    Quiet (List.Forall₂ fun c d => Lowers c d ∧ test c = true) (takeUpTo test n) (takeUpTo test n) := by
  induction n with
  | zero => exact .pure .nil
  | succ n ih =>
    refine peek_quiet.bind fun t? t?' ht => ?_
    cases ht with
    | none => exact .pure .nil
    | @some t t' ht =>
      refine .ite ?_ (fun hpass => ?_) fun _ => .pure .nil
      · cases ht with
        | plain h => simp [htest _ _ h]
        | same | escaped => simp
      · simp only [Bool.and_eq_true, Bool.not_eq_true'] at hpass
        exact next_quiet.bind fun _ _ _ => ih.bind fun ds ds' hds =>
          .pure (.cons ⟨ht.lowers hpass.1, hpass.2⟩ hds)

end Parse
end ChatAutomation.Pattern
