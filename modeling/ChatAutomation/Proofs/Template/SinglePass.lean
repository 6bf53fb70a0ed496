import Mathlib.Data.List.TakeWhile
import ChatAutomation.Template
import ChatAutomation.Text.Search

/-!
# Filling in a template is one pass from left to right

`Opens` says what a placeholder is, without a word on how one is found: the name that stands between
the braces is determined, because braces are no word characters. `Filled` is the pass over a text that
emits a value for each placeholder and goes on behind it, and `interpolate_iff` says that filling in
comes to the same.
-/
namespace ChatAutomation.Template

/-! ## Placeholders -/

/-- The text begins with a placeholder of that name, and the rest stands behind it. -/
def Opens (name after cs : List Char) : Prop :=
  name ≠ [] ∧ (∀ c ∈ name, Text.isAsciiWord c = true) ∧
    cs = '\x7b' :: '\x7b' :: (name ++ '\x7d' :: '\x7d' :: after)

theorem not_isAsciiWord_brace : Text.isAsciiWord '\x7d' = false := by decide

theorem placeholder?_eq_some_iff {cs name after : List Char} :
    placeholder? cs = some (name, after) ↔ Opens name after cs := by
  constructor
  · intro h
    unfold placeholder? at h
    split at h
    · rename_i rest
      simp only at h
      split at h
      · rename_i after' hrest
        split at h
        · cases h
        · rename_i hempty
          obtain ⟨rfl, rfl⟩ := Prod.mk.inj (Option.some.inj h)
          refine ⟨by simpa using hempty, fun c hc => List.mem_takeWhile_imp hc, ?_⟩
          rw [← hrest, List.takeWhile_append_dropWhile]
      · cases h
    · cases h
  · rintro ⟨hname, hword, rfl⟩
    have htake : (name ++ '\x7d' :: '\x7d' :: after).takeWhile Text.isAsciiWord = name := by
      rw [List.takeWhile_append_of_pos hword, List.takeWhile_cons, not_isAsciiWord_brace]
      simp
    have hdrop : (name ++ '\x7d' :: '\x7d' :: after).dropWhile Text.isAsciiWord =
        '\x7d' :: '\x7d' :: after := by
      rw [List.dropWhile_append_of_pos hword, List.dropWhile_cons, not_isAsciiWord_brace]
      simp
    simp [placeholder?, htake, hdrop, hname]

theorem placeholder?_eq_none_iff {cs : List Char} :
    placeholder? cs = none ↔ ¬ ∃ name after, Opens name after cs := by
  rw [Option.eq_none_iff_forall_ne_some]
  simp [← placeholder?_eq_some_iff]

/-- The text of which a part was read. -/
def Piece.source : Piece → List Char
  | .literal c => [c]
  | .placeholder name => '\x7b' :: '\x7b' :: name ++ ['\x7d', '\x7d']

theorem flatMap_source_pieces (cs : List Char) : (pieces cs).flatMap Piece.source = cs := by
  fun_induction pieces cs with
  | case1 cs name after h ih =>
    obtain ⟨-, -, rfl⟩ := placeholder?_eq_some_iff.1 h
    simp [Piece.source, ih]
  | case2 => rfl
  | case3 c cs h ih => simp [Piece.source, ih]

/-! ## The pass -/

/-- What is emitted for a name: nothing if the variable is missing or null. -/
def emitted (vars : Variables) (name : List Char) : List Char :=
  match vars.get? (String.ofList name) with
  | none | some .null => []
  | some v => (render v).toList

theorem fill_placeholder (vars : Variables) (name : List Char) :
    (Piece.placeholder name).fill vars = emitted vars name := by
  simp only [Piece.fill, renderVariable, emitted]
  cases vars.get? (String.ofList name) with
  | none => rfl
  | some v => cases v <;> rfl

/-- The pass over a text: what is emitted is not looked at again. -/
inductive Filled (vars : Variables) : List Char → List Char → Prop
  | done : Filled vars [] []
  | placeholder {name after cs out : List Char} (hopens : Opens name after cs)
      (hafter : Filled vars after out) : Filled vars cs (emitted vars name ++ out)
  | copied {c : Char} {cs out : List Char} (hcloses : ¬ ∃ name after, Opens name after (c :: cs))
      (hrest : Filled vars cs out) : Filled vars (c :: cs) (c :: out)

/-- The pass goes through every text. -/
theorem filled_pieces (vars : Variables) (cs : List Char) :
    Filled vars cs ((pieces cs).flatMap (Piece.fill vars)) := by
  fun_induction pieces cs with
  | case1 cs name after h ih =>
    rw [List.flatMap_cons, fill_placeholder]
    exact .placeholder (placeholder?_eq_some_iff.1 h) ih
  | case2 => exact .done
  | case3 c cs h ih => exact .copied (placeholder?_eq_none_iff.1 h) ih

/-- The pass leaves no choice. -/
theorem Filled.eq_pieces {vars : Variables} {cs out : List Char} (h : Filled vars cs out) :
    out = (pieces cs).flatMap (Piece.fill vars) := by
  induction h with
  | done => simp
  | placeholder hopens _ ih =>
    rw [pieces_placeholder (placeholder?_eq_some_iff.2 hopens), List.flatMap_cons, fill_placeholder, ih]
  | copied hcloses _ ih =>
    rw [pieces_literal (placeholder?_eq_none_iff.2 hcloses), List.flatMap_cons, ih]
    rfl

theorem filled_iff {vars : Variables} {text out : String} :
    Filled vars text.toList out.toList ↔ fill vars text = out := by
  constructor
  · intro h
    rw [fill, ← h.eq_pieces, String.ofList_toList]
  · rintro rfl
    simpa [fill] using filled_pieces vars text.toList

/-! ## Texts without braces -/

/-- A text in which no placeholder begins anywhere is copied. -/
theorem Filled.self (vars : Variables) {cs : List Char}
    (h : ∀ rest name after, rest <:+ cs → ¬ Opens name after rest) : Filled vars cs cs := by
  induction cs with
  | nil => exact .done
  | cons c cs ih =>
    refine .copied ?_ (ih fun rest name after hrest => h rest name after (hrest.trans ?_))
    · rintro ⟨name, after, hopens⟩
      exact h _ name after (List.suffix_refl _) hopens
    · exact List.suffix_cons c cs

/-- Where no two braces open, nothing is filled in. -/
theorem fill_of_not_contains (vars : Variables) {text : String}
    (h : Text.contains text "\x7b\x7b" = false) : fill vars text = text := by
  rw [← Bool.not_eq_true, Text.contains_iff] at h
  refine filled_iff.1 (.self vars ?_)
  rintro rest name after hrest ⟨-, -, rfl⟩
  exact h ((List.prefix_append ['\x7b', '\x7b'] _).isInfix.trans hrest.isInfix)

/-- Filling in a template is the pass over what it shows. The parts that the pass tells apart are
those of the text, whatever the variables hold, and each shows its own value; the test for two
opening braces beforehand changes nothing. -/
theorem interpolate_iff (template : Value) :
    (∀ vars out, Filled vars (render template).toList (String.toList out) ↔
      interpolate template vars = out) ∧
    (∃ parts : List Piece, parts.flatMap Piece.source = (render template).toList ∧
      ∀ vars, (interpolate template vars).toList = parts.flatMap (Piece.fill vars)) ∧
    ∀ vars, interpolate template vars =
      if Text.contains (render template) "\x7b\x7b" then fill vars (render template)
      else render template := by
  refine ⟨fun vars out => filled_iff, ⟨_, flatMap_source_pieces _, fun vars => ?_⟩, fun vars => ?_⟩
  · simp [interpolate, fill]
  · split_ifs with h
    · rfl
    · exact fill_of_not_contains vars (by simpa using h)

end ChatAutomation.Template
