import ChatAutomation.Proofs.Template.Cut
import ChatAutomation.Proofs.Template.ReadBack
import ChatAutomation.Proofs.Text.Replaced

/-!
# A word for a placeholder, in all texts of a value

`Rewritten` relates a value to the one in which its texts were replaced, at any depth. Where a placeholder
makes way for the word that its variable holds, both values show the same once they are filled in:
`Rewritten.fill_render`. Inside a list or an object a text is shown in quotes, so the argument follows the way
in which values are written.
-/
namespace ChatAutomation

/-- The variable of a name is a text, and both are words of ASCII characters. -/
structure Variables.HoldsWord (vars : Variables) (name word : String) : Prop where
  name_ne_empty : name ≠ ""
  name_isAsciiWord : ∀ c ∈ name.toList, Text.isAsciiWord c = true
  word_ne_empty : word ≠ ""
  word_isAsciiWord : ∀ c ∈ word.toList, Text.isAsciiWord c = true
  get?_eq : vars.get? name = some (.text word)

/-- The second text is the first one with a word in the place of each placeholder of a name; it has no other
braces. -/
def Text.Inserted (name word s t : String) : Prop :=
  Replaced (Template.mention name).toList word.toList s.toList t.toList

namespace Template
variable {vars : Variables} {name word : String} {c : Char} {cs ds : List Char}

theorem not_isCut_of_isAsciiWord (h : Text.isAsciiWord c = true) : ¬ IsCut c := fun hcut => by
  rw [hcut.word] at h
  cases h

theorem not_isCut_of_mem_mention (hname : ∀ c ∈ name.toList, Text.isAsciiWord c = true)
    (h : c ∈ (mention name).toList) : ¬ IsCut c := by
  simp only [toList_mention, List.mem_cons, List.mem_append, List.not_mem_nil, or_false] at h
  rcases h with rfl | rfl | h | rfl | rfl
  · decide
  · decide
  · exact not_isCut_of_isAsciiWord (hname c h)
  · decide
  · decide

/-- A placeholder shows the word that its variable holds. -/
theorem filled_mention_append (h : vars.HoldsWord name word) (after : List Char) :
    filled vars ((mention name).toList ++ after) = word.toList ++ filled vars after := by
  have hopens : Opens name.toList after ((mention name).toList ++ after) :=
    ⟨by simpa using h.name_ne_empty, h.name_isAsciiWord, by simp [toList_mention]⟩
  rw [filled_opens hopens, emitted, String.ofList_toList, h.get?_eq]
  rfl

theorem filled_word_append (h : vars.HoldsWord name word) (after : List Char) :
    filled vars (word.toList ++ after) = word.toList ++ filled vars after := by
  refine filled_append (fun c hc => ?_) after
  rintro rfl
  have := h.word_isAsciiWord _ hc
  contradiction

/-- Texts are filled in alike also if their characters are written in a way that leaves placeholders as they
are and opens none. -/
theorem filledAlike_flatMap (h : vars.HoldsWord name word) {f : Char → List Char}
    (hself : ∀ c, ¬ IsCut c → f c = [c]) (hbrace : ∀ c, c ≠ '\x7b' → ∀ d ∈ f c, d ≠ '\x7b')
    (hreplaced : Text.Replaced (mention name).toList word.toList cs ds) :
    FilledAlike vars (cs.flatMap f) (ds.flatMap f) := by
  have hsame (es : List Char) (hes : ∀ c ∈ es, ¬ IsCut c) : es.flatMap f = es := by
    rw [List.flatMap_congr fun c hc => hself c (hes c hc), List.flatMap_singleton']
  have hmention := hsame _ fun c => not_isCut_of_mem_mention h.name_isAsciiWord
  have hword := hsame _ fun c hc => not_isCut_of_isAsciiWord (h.word_isAsciiWord c hc)
  intro after
  induction hreplaced with
  | nil => rfl
  | @char c cs ds hopening _ _ ih =>
    simp only [List.flatMap_cons, List.append_assoc, filled_append (hbrace c hopening), ih]
  | mark _ ih =>
    simp only [List.flatMap_append, List.append_assoc, hmention, hword, filled_mention_append h,
      filled_word_append h, ih]

theorem filledAlike_of_replaced (h : vars.HoldsWord name word)
    (hreplaced : Text.Replaced (mention name).toList word.toList cs ds) : FilledAlike vars cs ds := by
  simpa using filledAlike_flatMap h (f := fun c => [c]) (fun _ _ => rfl) (by simp) hreplaced

end Template

/-! ## Texts in quotes -/

namespace Text
variable {c q : Char}

/-- A mark that encloses text. -/
def IsQuote (q : Char) : Prop := q = '\'' ∨ q = '"'

theorem isQuote_quoteMark (cs : List Char) : IsQuote (quoteMark cs) := by
  rw [quoteMark]
  split
  · exact .inr rfl
  · exact .inl rfl

theorem isCut_of_isQuote (h : IsQuote q) : Template.IsCut q := by
  rcases h with rfl | rfl <;> decide

theorem toNat_of_not_isCut (h : ¬ Template.IsCut c) : 48 ≤ c.toNat ∧ c.toNat < 127 ∧ c.toNat ≠ 92 := by
  by_cases hword : isAsciiWord c = true
  · rw [isAsciiWord, Bool.or_eq_true, beq_iff_eq, Char.isAlphanum, Bool.or_eq_true] at hword
    rcases hword with rfl | halpha | hdigit
    · decide
    · have := isAlpha_iff.1 halpha
      omega
    · have := isDigit_iff.1 hdigit
      omega
  · by_cases hopening : c = '\x7b'
    · subst hopening
      decide
    · by_cases hclosing : c = '\x7d'
      · subst hclosing
        decide
      · exact absurd ⟨hopening, hclosing, by simpa using hword⟩ h

/-- In quotes the characters of a placeholder are shown as they are. -/
theorem toList_quoteChar (hq : IsQuote q) (hc : ¬ Template.IsCut c) : (quoteChar q c).toList = [c] := by
  have hrange := toNat_of_not_isCut hc
  have hother (d : Char) (hd : d.toNat < 48 ∨ d.toNat = 92) : c ≠ d := by
    rintro rfl
    omega
  have hmark : c ≠ q := by rcases hq with rfl | rfl <;> exact hother _ (by decide)
  have hprintable : isPrintable c = true := by
    rw [isPrintable, if_pos hrange.2.1]
    simpa using by omega
  simp [quoteChar, hmark, hother '\\' (by decide), hother '\n' (by decide), hother '\r' (by decide),
    hother '\t' (by decide), hprintable]

theorem hexDigit_ne_brace (n : Nat) : hexDigit n ≠ '\x7b' := by
  have hdigits : '\x7b' ∉ '0' :: "0123456789abcdef".toList := by decide
  have hmem : hexDigit n ∈ '0' :: "0123456789abcdef".toList := by
    rw [hexDigit, List.getD_eq_getElem?_getD]
    rcases h : "0123456789abcdef".toList[n]? with _ | d
    · exact List.mem_cons_self
    · exact List.mem_cons_of_mem _ (List.mem_of_getElem? h)
  exact fun heq => hdigits (heq ▸ hmem)

theorem brace_not_mem_hex (width n : Nat) : '\x7b' ∉ (hex width n).toList := by
  induction width generalizing n with
  | zero => simp [hex]
  | succ width ih => simp [hex, ih, (hexDigit_ne_brace _).symm]

/-- In quotes a brace stands for a brace only. -/
theorem ne_brace_of_mem_quoteChar (q : Char) (hc : c ≠ '\x7b') :
    ∀ d ∈ (quoteChar q c).toList, d ≠ '\x7b' := by
  have hcode : ∀ d ∈ (codeEscape c).toList, d ≠ '\x7b' := by
    rintro d hd rfl
    rw [codeEscape] at hd
    split_ifs at hd <;> simp [brace_not_mem_hex] at hd
  rw [quoteChar]
  split_ifs <;> first | exact hcode | simp [hc]

theorem toList_quote (s : String) : (quote s).toList = quoteMark s.toList ::
    (s.toList.flatMap (fun c => (quoteChar (quoteMark s.toList) c).toList) ++ [quoteMark s.toList]) := by
  simp [quote, List.flatMap_def, Function.comp_def]

end Text

namespace Template
variable {vars : Variables} {name word s t : String}

theorem filledAlike_quote (h : vars.HoldsWord name word) (hst : Text.Inserted name word s t) :
    FilledAlike vars (Text.quote s).toList (Text.quote t).toList := by
  have hquote (q : Char) (hq : IsCut q) : q ∈ s.toList ↔ q ∈ t.toList :=
    hst.mem_iff (fun hmem => not_isCut_of_mem_mention h.name_isAsciiWord hmem hq)
      fun hmem => not_isCut_of_isAsciiWord (h.word_isAsciiWord q hmem) hq
  have hmark : Text.quoteMark s.toList = Text.quoteMark t.toList := by
    simp [Text.quoteMark, hquote '\'' (by decide), hquote '"' (by decide)]
  have hq := Text.isQuote_quoteMark t.toList
  have hcut := Text.isCut_of_isQuote hq
  rw [Text.toList_quote, Text.toList_quote, hmark]
  refine .cons hcut.opening (.append_cut hcut ?_ (.refl vars []))
  exact filledAlike_flatMap h (fun c => Text.toList_quoteChar hq)
    (fun c => Text.ne_brace_of_mem_quoteChar _) hst

/-- Texts that are filled in alike are so when they stand in a row with commas. -/
theorem filledAlike_intercalate {ss ts : List String}
    (h : List.Forall₂ (fun s t => FilledAlike vars s.toList t.toList) ss ts) :
    FilledAlike vars (", ".intercalate ss).toList (", ".intercalate ts).toList := by
  induction h with
  | nil => exact .refl vars _
  | cons hst hrest ih =>
    cases hrest with
    | nil => simpa using hst
    | cons _ _ =>
      simp only [String.intercalate_cons_cons, String.toList_append, List.append_assoc]
      exact .append_cut (by decide) hst (.cons (by decide) ih)

end Template

/-! ## Values -/

namespace Value

mutual

/-- The second value is the first one with its texts changed, at any depth; keys stay as they are. -/
inductive Rewritten (R : String → String → Prop) : Value → Value → Prop
  | null : Rewritten R .null .null
  | bool (b : Bool) : Rewritten R (.bool b) (.bool b)
  | int (n : Int) : Rewritten R (.int n) (.int n)
  | float (x : Binary64) : Rewritten R (.float x) (.float x)
  | text {s t : String} (h : R s t) : Rewritten R (.text s) (.text t)
  | list {vs ws : List Value} (h : RewrittenItems R vs ws) : Rewritten R (.list vs) (.list ws)
  | object {es fs : List (String × Value)} (h : RewrittenEntries R es fs) :
    Rewritten R (.object es) (.object fs)

inductive RewrittenItems (R : String → String → Prop) : List Value → List Value → Prop
  | nil : RewrittenItems R [] []
  | cons {v w : Value} {vs ws : List Value} (h : Rewritten R v w) (hrest : RewrittenItems R vs ws) :
    RewrittenItems R (v :: vs) (w :: ws)

inductive RewrittenEntries (R : String → String → Prop) :
    List (String × Value) → List (String × Value) → Prop
  | nil : RewrittenEntries R [] []
  | cons {k : String} {v w : Value} {es fs : List (String × Value)} (h : Rewritten R v w)
    (hrest : RewrittenEntries R es fs) : RewrittenEntries R ((k, v) :: es) ((k, w) :: fs)

end

variable {vars : Variables} {name word : String}

/-- The entries of an object are written with the quote of the first key in front. -/
theorem exists_toList_literalEntries (k : String) (v : Value) (es : List (String × Value)) :
    ∃ cs, (", ".intercalate (literalEntries ((k, v) :: es))).toList =
      Text.quoteMark k.toList :: cs := by
  have hquote : ∃ cs, (Text.quote k).toList = Text.quoteMark k.toList :: cs :=
    ⟨_, Text.toList_quote k⟩
  obtain ⟨cs, hcs⟩ := hquote
  cases es with
  | nil => simp [literalEntries, hcs]
  | cons e es => simp [literalEntries, String.intercalate_cons_cons, hcs]

mutual

/-- Values are written so that they are filled in alike. -/
theorem filledAlike_literal (h : vars.HoldsWord name word) :
    ∀ {v w : Value}, Rewritten (Text.Inserted name word) v w →
      Template.FilledAlike vars (literal v).toList (literal w).toList
  | _, _, .null => .refl vars _
  | _, _, .bool b => .refl vars _
  | _, _, .int n => .refl vars _
  | _, _, .float x => .refl vars _
  | _, _, .text hst => Template.filledAlike_quote h hst
  | _, _, .list hitems => by
    have hbody := Template.filledAlike_intercalate (filledAlike_literals h hitems)
    simp only [literal, String.toList_append]
    exact .append_cut (by decide) (.cons (by decide) hbody) (.refl vars [])
  | _, _, .object hentries => by
    have hbody := Template.filledAlike_intercalate (filledAlike_literalEntries h hentries)
    cases hentries with
    | nil => exact .refl vars _
    | @cons k v w es fs _ _ =>
      -- behind the brace that opens an object stands the quote of its first key
      obtain ⟨cs, hcs⟩ := exists_toList_literalEntries k v es
      obtain ⟨ds, hds⟩ := exists_toList_literalEntries k w fs
      have hcut := Text.isCut_of_isQuote (Text.isQuote_quoteMark k.toList)
      simp only [literal, String.toList_append, List.append_assoc]
      rw [hcs, hds] at hbody ⊢
      exact .cons_brace hcut hbody.append_right

theorem filledAlike_literals (h : vars.HoldsWord name word) :
    ∀ {vs ws : List Value}, RewrittenItems (Text.Inserted name word) vs ws →
      List.Forall₂ (fun s t => Template.FilledAlike vars s.toList t.toList) (literals vs) (literals ws)
  | _, _, .nil => .nil
  | _, _, .cons hvw hrest => .cons (filledAlike_literal h hvw) (filledAlike_literals h hrest)

theorem filledAlike_literalEntries (h : vars.HoldsWord name word) :
    ∀ {es fs : List (String × Value)}, RewrittenEntries (Text.Inserted name word) es fs →
      List.Forall₂ (fun s t => Template.FilledAlike vars s.toList t.toList) (literalEntries es)
        (literalEntries fs)
  | _, _, .nil => .nil
  | _, _, .cons hvw hrest => by
    refine .cons ?_ (filledAlike_literalEntries h hrest)
    simp only [String.toList_append, List.append_assoc]
    exact .append_cut (by decide) (.refl vars _) (.cons (by decide) (filledAlike_literal h hvw))

end

/-- Templates show the same, once they are filled in, whether a placeholder or its word stands in a value. -/
theorem Rewritten.fill_render (h : vars.HoldsWord name word) {v w : Value}
    (hvw : Rewritten (Text.Inserted name word) v w) :
    Template.fill vars (Template.render v) = Template.fill vars (Template.render w) := by
  rw [← String.toList_inj, Template.toList_fill, Template.toList_fill]
  cases hvw with
  | text hst => exact (Template.filledAlike_of_replaced h hst).filled_eq
  | list hitems => exact (filledAlike_literal h (.list hitems)).filled_eq
  | object hentries => exact (filledAlike_literal h (.object hentries)).filled_eq
  | _ => rfl

end Value
end ChatAutomation
