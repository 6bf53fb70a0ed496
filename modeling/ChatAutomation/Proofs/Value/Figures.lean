import Mathlib.Data.List.Basic
import ChatAutomation.Template
import ChatAutomation.Text.Search

/-!
# How numbers are written

Numbers are written with a few characters, no blank and no brace among them, and there is always one. A
finite floating point number shows that it is one: it is written with a point or an exponent, and a whole
number with neither. Templates show a floating point number that is whole as the whole number, which is not
how it is written.
-/
namespace ChatAutomation

namespace Text

/-- The characters other than digits that numbers are written with, those of `inf` and `nan` included. -/
def figureMarks : List Char := ['+', '-', '.', 'a', 'e', 'f', 'i', 'n']

def isFigure (c : Char) : Bool := c.isDigit || figureMarks.contains c

/-- Does a text consist of characters that numbers are written with? -/
def Figures (s : String) : Prop := ∀ c ∈ s.toList, isFigure c = true

/-- Does a text have a point or the mark of an exponent? -/
def Pointed (s : String) : Prop := '.' ∈ s.toList ∨ 'e' ∈ s.toList

instance (s : String) : Decidable (Figures s) :=
  decidable_of_iff (s.toList.all isFigure = true) List.all_eq_true

instance (s : String) : Decidable (Pointed s) :=
  decidable_of_iff ((s.toList.contains '.' || s.toList.contains 'e') = true) (by simp [Pointed])

theorem figures_append {s t : String} : Figures (s ++ t) ↔ Figures s ∧ Figures t := by
  simp only [Figures, String.toList_append, List.forall_mem_append]

theorem Figures.ofList_of_subset {s : String} (h : Figures s) {cs : List Char} (hcs : cs ⊆ s.toList) :
    Figures (String.ofList cs) := by
  rw [Figures, String.toList_ofList]
  exact fun c hc => h c (hcs hc)

theorem pointed_append {s t : String} : Pointed (s ++ t) ↔ Pointed s ∨ Pointed t := by
  simp only [Pointed, String.toList_append, List.mem_append]
  tauto

/-- No placeholder opens in the text of a number. -/
theorem Figures.not_contains {s : String} (h : Figures s) : contains s "\x7b\x7b" = false := by
  rw [← Bool.not_eq_true, contains_iff]
  intro hbraces
  have hbrace : isFigure '\x7b' = true := h _ (hbraces.subset (by simp))
  exact absurd hbrace (by decide)

end Text

open Text

/-! ## Whole numbers -/

theorem isDigit_of_mem_toString {n : Nat} {c : Char} (h : c ∈ (toString n).toList) :
    c.isDigit = true := by
  rw [Nat.toString_eq_repr, Nat.toList_repr] at h
  exact Nat.isDigit_of_mem_toDigits (by decide) (by decide) h

theorem figures_nat (n : Nat) : Figures (toString n) := fun _ hc => by
  simp [isFigure, isDigit_of_mem_toString hc]

theorem toString_nat_ne_empty (n : Nat) : toString n ≠ "" := by
  rw [Nat.toString_eq_repr, ← String.toList_inj.ne, Nat.toList_repr]
  exact Nat.toDigits_ne_nil

/-- An integer is written as a natural number, or as one behind a sign. -/
theorem toString_int_cases (n : Int) :
    ∃ m : Nat, toString n = toString m ∨ toString n = "-" ++ toString m := by
  cases n with
  | ofNat m => exact ⟨m, .inl rfl⟩
  | negSucc m => exact ⟨m + 1, .inr rfl⟩

theorem figures_int (n : Int) : Figures (toString n) := by
  obtain ⟨m, h | h⟩ := toString_int_cases n <;> rw [h]
  · exact figures_nat m
  · exact figures_append.2 ⟨by decide, figures_nat m⟩

theorem toString_int_ne_empty (n : Int) : toString n ≠ "" := by
  obtain ⟨m, h | h⟩ := toString_int_cases n <;> rw [h]
  · exact toString_nat_ne_empty m
  · simp

theorem not_pointed_nat (n : Nat) : ¬ Pointed (toString n) := by
  rintro (h | h) <;> exact absurd (isDigit_of_mem_toString h) (by decide)

theorem not_pointed_int (n : Int) : ¬ Pointed (toString n) := by
  obtain ⟨m, h | h⟩ := toString_int_cases n <;> rw [h]
  · exact not_pointed_nat m
  · rw [pointed_append, not_or]
    exact ⟨by decide, not_pointed_nat m⟩

/-! ## Floating point numbers -/

namespace Binary64

theorem toList_zeros (n : Nat) : (zeros n).toList = List.replicate n '0' := by
  induction n with
  | zero => rfl
  | succ n ih =>
    have hpush : zeros (n + 1) = (zeros n).push '0' := rfl
    rw [hpush, String.toList_push, ih, List.replicate_succ']

theorem figures_zeros (n : Nat) : Figures (zeros n) := fun c hc => by
  rw [toList_zeros] at hc
  rw [List.eq_of_mem_replicate hc]
  decide

theorem figures_padded (width n : Nat) : Figures (padded width n) :=
  figures_append.2 ⟨figures_zeros _, figures_nat n⟩

namespace Decimal

theorem figures_positional (d : Decimal) : Figures d.positional := by
  have hdigits := figures_nat d.digits
  have hpoint : Figures "." := by decide
  have hzeros := figures_zeros
  unfold positional
  extract_lets s p
  split_ifs
  · exact figures_append.2 ⟨figures_append.2 ⟨by decide, hzeros _⟩, hdigits⟩
  · exact figures_append.2 ⟨figures_append.2 ⟨hdigits, hzeros _⟩, by decide⟩
  · exact figures_append.2 ⟨figures_append.2 ⟨hdigits.ofList_of_subset (List.take_subset _ _), hpoint⟩,
      hdigits.ofList_of_subset (List.drop_subset _ _)⟩

theorem figures_scientific (d : Decimal) : Figures d.scientific := by
  have hdigits := figures_nat d.digits
  unfold scientific
  extract_lets s mantissa e
  have hmantissa : Figures mantissa := by
    unfold mantissa
    split_ifs
    · exact hdigits
    · exact figures_append.2
        ⟨figures_append.2 ⟨hdigits.ofList_of_subset (List.take_subset _ _), by decide⟩,
          hdigits.ofList_of_subset (List.drop_subset _ _)⟩
  refine figures_append.2 ⟨figures_append.2 ⟨hmantissa, ?_⟩, figures_padded _ _⟩
  split_ifs <;> decide

theorem figures_text (d : Decimal) : Figures d.text := by
  unfold text
  split_ifs
  · exact d.figures_positional
  · exact d.figures_scientific

theorem pointed_positional (d : Decimal) : Pointed d.positional := by
  have hpoint : Pointed "." := by decide
  unfold positional
  extract_lets s p
  split_ifs
  · exact pointed_append.2 (.inl (pointed_append.2 (.inl (by decide))))
  · exact pointed_append.2 (.inr (by decide))
  · exact pointed_append.2 (.inl (pointed_append.2 (.inr hpoint)))

theorem pointed_scientific (d : Decimal) : Pointed d.scientific := by
  refine pointed_append.2 (.inl (pointed_append.2 (.inr ?_)))
  split_ifs <;> decide

theorem pointed_text (d : Decimal) : Pointed d.text := by
  unfold text
  split_ifs
  · exact d.pointed_positional
  · exact d.pointed_scientific

end Decimal

theorem figures_text (x : Binary64) : Figures x.text := by
  cases x with
  | nan => decide
  | infinite negative => cases negative <;> decide
  | finite negative s e =>
    refine figures_append.2 ⟨?_, ?_⟩
    · split_ifs <;> decide
    · split_ifs
      · decide
      · exact Decimal.figures_text _

theorem pointed_text {x : Binary64} (h : x.isFinite = true) : Pointed x.text := by
  cases x with
  | nan => cases h
  | infinite negative => cases h
  | finite negative s e =>
    refine pointed_append.2 (.inr ?_)
    split_ifs
    · decide
    · exact Decimal.pointed_text _

theorem text_ne_empty (x : Binary64) : x.text ≠ "" := by
  cases x with
  | nan => decide
  | infinite negative => cases negative <;> decide
  | finite negative s e =>
    intro h
    have hpointed : Pointed (text (.finite negative s e)) := pointed_text rfl
    rw [h] at hpointed
    exact absurd hpointed (by decide)

/-- A finite number is not written as a whole number is. -/
theorem text_ne_toString {x : Binary64} (h : x.isFinite = true) (n : Int) : x.text ≠ toString n :=
  fun heq => not_pointed_int n (heq ▸ pointed_text h)

theorem isFinite_of_isInteger {x : Binary64} (h : x.isInteger = true) : x.isFinite = true := by
  cases x with
  | finite negative s e => rfl
  | _ => cases h

theorem exists_truncate?_of_isInteger {x : Binary64} (h : x.isInteger = true) :
    ∃ n, x.truncate? = some n := by
  cases x with
  | finite negative s e => exact ⟨_, rfl⟩
  | _ => cases h

end Binary64

/-! ## Numbers in templates -/

/-- Is it a floating point number that is whole? -/
def Value.isWholeFloat : Value → Bool
  | .float x => x.isInteger
  | _ => false

namespace Template

theorem render_float_of_isInteger {x : Binary64} (h : x.isInteger = true) :
    ∃ n : Int, render (.float x) = toString n := by
  obtain ⟨n, hn⟩ := x.exists_truncate?_of_isInteger h
  exact ⟨n, by simp only [render, h, if_true, hn]⟩

theorem render_float_of_not_isInteger {x : Binary64} (h : x.isInteger = false) :
    render (.float x) = x.text := by
  simp only [render, h, Bool.false_eq_true, if_false]

theorem render_float_eq_text_iff {x : Binary64} :
    render (.float x) = x.text ↔ x.isInteger = false := by
  cases hwhole : x.isInteger with
  | false => exact iff_of_true (render_float_of_not_isInteger hwhole) rfl
  | true =>
    obtain ⟨n, hn⟩ := render_float_of_isInteger hwhole
    have hne := Binary64.text_ne_toString (Binary64.isFinite_of_isInteger hwhole) n
    exact iff_of_false (hn ▸ hne.symm) (by decide)

theorem figures_render_float (x : Binary64) : Figures (render (.float x)) := by
  cases hwhole : x.isInteger with
  | false => exact render_float_of_not_isInteger hwhole ▸ x.figures_text
  | true =>
    obtain ⟨n, hn⟩ := render_float_of_isInteger hwhole
    exact hn ▸ figures_int n

end Template
end ChatAutomation
