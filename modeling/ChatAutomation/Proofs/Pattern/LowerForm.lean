import ChatAutomation.Proofs.Pattern.Meaning
import ChatAutomation.Proofs.Pattern.RecasedWhole
import ChatAutomation.Proofs.Text.LowerCase

/-!
# The lower case form of a pattern

A text and its lower case form have the same tokens but for case, as long as no letter of an escape is changed
and no dotted capital I is drawn out to two characters. So the two are read as twins, and searches for them
in a text in lower case answer alike.
-/
namespace ChatAutomation

namespace Text

theorem lowerAt_lowers (before : List Char) {c : Char} (after : List Char) (hc : c ≠ 'İ') :
    ∃ d, lowerAt before c after = [d] ∧ Lowers c d := by
  have hdotted : c.toNat ≠ 0x130 := fun h => hc (by rw [← Char.ofNat_toNat c, h])
  unfold lowerAt lowerChar
  split_ifs with hsigma
  · obtain rfl := beq_iff_eq.1 hsigma
    rcases lowerSigma_cases before after with h | h
    · exact ⟨_, rfl, hdotted, .inr ⟨rfl, h⟩⟩
    · exact ⟨_, rfl, hdotted, .inl (by rw [h]; decide +kernel)⟩
  · exact ⟨_, rfl, hdotted, .inl rfl⟩

/-- A text without the dotted capital I and its lower case form, character by character. -/
theorem forall₂_lowerAfter (before : List Char) {cs : List Char} (hcs : 'İ' ∉ cs) :
    List.Forall₂ Lowers cs (lowerAfter before cs) := by
  induction cs generalizing before with
  | nil => exact .nil
  | cons c cs ih =>
    rw [List.mem_cons, not_or] at hcs
    obtain ⟨d, hd, hlowers⟩ := lowerAt_lowers before cs (Ne.symm hcs.1)
    rw [lowerAfter_cons, hd]
    exact .cons hlowers (ih _ hcs.2)

end Text

namespace Pattern

open Text

/-- Lower case does not change the letter of any escape. -/
def KeepsEscapes (cs : List Char) : Prop :=
  ∀ t ∈ (Token.ofText cs).1, t.escaped = true → (simpleLower t.char).isAlphanum = true →
    simpleLower t.char = t.char

instance : DecidablePred KeepsEscapes := fun cs => inferInstanceAs (Decidable (∀ t ∈ (Token.ofText cs).1,
  t.escaped = true → (simpleLower t.char).isAlphanum = true → simpleLower t.char = t.char))

theorem Token.Recased.of_escape {c d : Char} (h : Lowers c d)
    (hkeeps : (simpleLower c).isAlphanum = true → simpleLower c = c) :
    Token.Recased ⟨true, c⟩ ⟨true, d⟩ := by
  rcases h.cases with ⟨hascii, rfl⟩ | ⟨hge, hd | rfl⟩
  · have hsame : c.toLower = c := by
      have hlower : simpleLower c = c.toLower := by rw [simpleLower, if_pos hascii]
      rcases toLower_cases c with hsame | ⟨hupper, himage⟩
      · exact hsame
      · refine hlower.symm.trans (hkeeps ?_)
        rw [hlower]
        have hlo : 97 ≤ c.toLower.toNat := by omega
        have hhi : c.toLower.toNat ≤ 122 := by omega
        simp [Char.isAlphanum, isAlpha_iff.2 (.inr ⟨hlo, hhi⟩)]
    rw [hsame]
    exact .same c
  · exact .escaped h hge hd
  · obtain ⟨-, hk | ⟨-, hk⟩⟩ := h
    · have hsame := hkeeps (by rw [← hk]; decide)
      rw [← hsame, ← hk] at hge
      exact absurd hge (by decide)
    · exact absurd hk (by decide)

/-- A text and its lower case form have the same tokens but for case. -/
theorem Token.ofText_recased {cs ds : List Char} (h : List.Forall₂ Lowers cs ds) (hkeeps : KeepsEscapes cs) :
    List.Forall₂ Recased (ofText cs).1 (ofText ds).1 ∧ (ofText ds).2 = (ofText cs).2 := by
  have hslash {c d : Char} (h : Lowers c d) : d = '\\' ↔ c = '\\' := h.eq_mark_iff (by decide)
  unfold KeepsEscapes at hkeeps
  induction cs using ofText.induct generalizing ds with
  | case1 =>
    cases h
    exact ⟨.nil, rfl⟩
  | case2 =>
    obtain ⟨d, _, hd, hnil, rfl⟩ := List.forall₂_cons_left_iff.1 h
    cases hnil
    rw [(hslash hd).2 rfl]
    exact ⟨.nil, rfl⟩
  | case3 c cs _ _ _ ih =>
    obtain ⟨d, _, hd, hcs, rfl⟩ := List.forall₂_cons_left_iff.1 h
    obtain ⟨e, es, he, hes, rfl⟩ := List.forall₂_cons_left_iff.1 hcs
    rw [(hslash hd).2 rfl]
    simp only [ofText, List.forall_mem_cons] at hkeeps ⊢
    obtain ⟨hrest, hdangling⟩ := ih hes hkeeps.2
    exact ⟨.cons (.of_escape he (hkeeps.1 trivial)) hrest, hdangling⟩
  | case4 c cs hlone hescape _ _ _ ih =>
    obtain ⟨d, es, hd, hes, rfl⟩ := List.forall₂_cons_left_iff.1 h
    have hc : c ≠ '\\' := by
      rintro rfl
      cases cs with
      | nil => exact hlone rfl rfl
      | cons e es => exact hescape e es rfl rfl
    have hd' : d ≠ '\\' := mt (hslash hd).1 hc
    have hplain {c : Char} {cs : List Char} (hc : c ≠ '\\') :
        ofText (c :: cs) = (⟨false, c⟩ :: (ofText cs).1, (ofText cs).2) := by
      rw [ofText]
      · simp_all
      · simp_all
    rw [hplain hc, List.forall_mem_cons] at hkeeps
    rw [hplain hc, hplain hd']
    obtain ⟨hrest, hdangling⟩ := ih hes hkeeps.2
    exact ⟨.cons (.plain hd) hrest, hdangling⟩

/-- A pattern of which nothing has been read. -/
def Source.unread (flags : Flags) (cs : List Char) : Source :=
  { tokens := (Token.ofText cs).1, pos := 0, dangling := (Token.ofText cs).2, flags }

theorem Source.unread_recased {cs ds : List Char} (h : List.Forall₂ Lowers cs ds) (hkeeps : KeepsEscapes cs)
    (flags : Flags) : (unread flags cs).Recased (unread flags ds) := by
  obtain ⟨htokens, hdangling⟩ := Token.ofText_recased h hkeeps
  exact ⟨htokens, rfl, hdangling, rfl, rfl, rfl, rfl, rfl⟩

/-- What has been compiled was read to the end. -/
theorem exists_of_compile {ignoreCase : Bool} {value : String} {p : Compiled}
    (h : compile ignoreCase value = .ok p) :
    ∃ rs s, (Parse.alternatives (6 * value.toList.length + 8) true { ignoreCase }).run
        (.unread { ignoreCase } value.toList) = .ok (rs, s) ∧ p = ⟨.sequence rs, s.groups.size⟩ := by
  unfold compile at h
  simp only at h
  split at h
  · cases h
  rw [← Source.unread] at h
  cases hrun : (Parse.alternatives (6 * value.toList.length + 8) true { ignoreCase }).run
      (.unread { ignoreCase } value.toList) with
  | error e =>
    rw [hrun] at h
    cases h
  | ok x =>
    obtain ⟨rs, s⟩ := x
    refine ⟨rs, s, rfl, ?_⟩
    rw [hrun] at h
    simp only [bind, Except.bind] at h
    split at h
    · cases h
    split at h
    swap
    · cases h
    split at h
    · cases h
    split at h
    · cases h
    split at h
    · cases h
    cases h
    rfl

/-- What makes a pattern that was read as `p` mean the same in lower case, where it is read as `q`. For each of
the fields there is a pattern that fails it alone and finds something else in lower case. -/
structure OutlastsLowerCase (value : String) (p q : Compiled) : Prop where
  /-- No escape becomes another one, as in `\S`. -/
  escapes : KeepsEscapes value.toList
  /-- The dotted capital I, which becomes two characters, does not occur. -/
  no_dotted : 'İ' ∉ value.toList
  /-- Letters match the same characters in lower case when they are written in lower case, unlike those of
  `[À-Þ]` and `(?-i:A)`. -/
  steady : ∀ l ∈ p.re.letters, l.IsSteady
  /-- The ends of ranges are in lower case then, unlike that of `[\x41-Z]` which is given as a number. -/
  low : ∀ l ∈ q.re.letters, l.IsLow
  /-- What failed attempts leave behind does not show, as it does in `^(?:Abx|ady)*+c$`. -/
  calm : p.re.isCalm [] = true
  calm' : q.re.isCalm [] = true

section compile
variable {value : String} {p q : Compiled} (hp : compile true value = .ok p)
  (hq : compile true (lower value) = .ok q)
include hp hq

/-- A pattern and its lower case form have been read as twins. -/
theorem exists_twins_of_compile (hdotted : 'İ' ∉ value.toList) (hkeeps : KeepsEscapes value.toList) :
    ∃ flags widths rs rs', p.re = .sequence rs ∧ q.re = .sequence rs' ∧ q.groups = p.groups ∧
      Re.Twins flags widths 0 p.groups rs rs' := by
  obtain ⟨rs, s₁, hrun, rfl⟩ := exists_of_compile hp
  obtain ⟨rs', s₁', hrun', rfl⟩ := exists_of_compile hq
  have hlower : (lower value).toList = lowerList value.toList := String.toList_ofList ..
  have hchars := forall₂_lowerAfter [] hdotted
  rw [hlower, lowerList, ← hchars.length_eq] at hrun'
  have hend := (Parse.readsAlike _).alternatives true { ignoreCase := true } _ _
    (Source.unread_recased hchars hkeeps _) (fun _ => rfl) _ _ _ _ hrun hrun'
  exact ⟨_, _, rs, rs', rfl, rfl, congrArg Array.size hend.recased.groups, hend.twins⟩

/-- A text in lower case is searched alike for a pattern that outlasts lower case and for its lower case form,
and neither search stops with an error. -/
theorem OutlastsLowerCase.search_eq (h : OutlastsLowerCase value p q) {text : String}
    (htext : ∀ c ∈ text.toList, simpleLower c = c) :
    ∃ found, p.search text = .ok found ∧ q.search text = .ok found := by
  obtain ⟨flags, widths, rs, rs', hrs, hrs', hgroups, htwins⟩ :=
    exists_twins_of_compile hp hq h.no_dotted h.escapes
  have hsteady : (Re.sequence rs).IsSteadyUnder flags :=
    Re.isSteadyUnder_of_letters (Re.each_sequence.2 htwins.made) (hrs ▸ h.steady)
  have hlow : (Re.sequence rs').IsLow := Re.each_self.2 (hrs' ▸ h.low)
  have halike := htwins.alike (Re.each_sequence.1 hsteady) (Re.each_sequence.1 hlow) text.toList.toArray
    fun c hc => htext c (by simpa using hc)
  refine ⟨p.re.occurs text.toList.toArray, Compiled.search_eq (hrs ▸ htwins.laid) h.calm text, ?_⟩
  rw [Compiled.search_eq (hrs' ▸ hgroups ▸ htwins.laid') h.calm' text, hrs, hrs', halike.occurs_eq]

end compile

end Pattern
end ChatAutomation
