import ChatAutomation.Proofs.Text.LowerCase
import ChatAutomation.Text.Search
import Mathlib.Data.List.Forall2

/-!
# Text with a mark replaced

`Replaced` relates a text whose only braces are those of a mark to the text in which each mark is replaced by
new text. If both are solid, without blanks, then the lines of the two texts are related in the same way and
so are the trimmed texts: `Replaced.splitList`, `Replaced.trimList`.
-/
namespace ChatAutomation.Text

/-- The second text is the first one with each mark replaced; braces stand in marks only. -/
inductive Replaced (mark new : List Char) : List Char → List Char → Prop
  | nil : Replaced mark new [] []
  | char {c : Char} {cs ds : List Char} (hopening : c ≠ '\x7b') (hclosing : c ≠ '\x7d')
      (h : Replaced mark new cs ds) : Replaced mark new (c :: cs) (c :: ds)
  | mark {cs ds : List Char} (h : Replaced mark new cs ds) :
      Replaced mark new (mark ++ cs) (new ++ ds)

/-- There is something, and no blank. -/
structure Solid (cs : List Char) : Prop where
  ne_nil : cs ≠ []
  isBlank : ∀ c ∈ cs, isBlank c = false

namespace Solid
variable {cs : List Char}

theorem reverse (h : Solid cs) : Solid cs.reverse :=
  ⟨by simpa using h.ne_nil, fun c hc => h.isBlank c (List.mem_reverse.1 hc)⟩

theorem dropWhile_append (h : Solid cs) (rest : List Char) :
    (cs ++ rest).dropWhile Text.isBlank = cs ++ rest := by
  obtain ⟨c, cs', rfl⟩ := List.exists_cons_of_ne_nil h.ne_nil
  simp [h.isBlank c List.mem_cons_self]

end Solid

namespace Replaced
variable {mark new cs ds cs' ds' : List Char}

theorem append (h : Replaced mark new cs ds) (h' : Replaced mark new cs' ds') :
    Replaced mark new (cs ++ cs') (ds ++ ds') := by
  induction h with
  | nil => exact h'
  | char hopening hclosing _ ih => exact .char hopening hclosing ih
  | mark _ ih =>
    rw [List.append_assoc, List.append_assoc]
    exact .mark ih

theorem reverse (h : Replaced mark new cs ds) :
    Replaced mark.reverse new.reverse cs.reverse ds.reverse := by
  induction h with
  | nil => exact .nil
  | char hopening hclosing _ ih =>
    rw [List.reverse_cons, List.reverse_cons]
    exact ih.append (.char hopening hclosing .nil)
  | mark _ ih =>
    rw [List.reverse_append, List.reverse_append]
    simpa using ih.append (Replaced.mark .nil)

/-- A character that is in neither of the two is in both texts or in none. -/
theorem mem_iff {c : Char} (hmark : c ∉ mark) (hnew : c ∉ new) (h : Replaced mark new cs ds) :
    c ∈ cs ↔ c ∈ ds := by
  induction h with
  | nil => rfl
  | char _ _ _ ih => rw [List.mem_cons, List.mem_cons, ih]
  | mark _ ih => simp [hmark, hnew, ih]

theorem eq_nil_iff (hmark : mark ≠ []) (hnew : new ≠ []) (h : Replaced mark new cs ds) :
    cs = [] ↔ ds = [] := by
  cases h <;> simp [hmark, hnew]

theorem dropWhile_isBlank (hmark : Solid mark) (hnew : Solid new) (h : Replaced mark new cs ds) :
    Replaced mark new (cs.dropWhile isBlank) (ds.dropWhile isBlank) := by
  induction h with
  | nil => exact .nil
  | @char c cs ds hopening hclosing h ih =>
    by_cases hc : isBlank c = true
    · simpa [hc] using ih
    · simpa [hc] using h.char hopening hclosing
  | mark h _ =>
    rw [hmark.dropWhile_append, hnew.dropWhile_append]
    exact .mark h

theorem trimList (hmark : Solid mark) (hnew : Solid new) (h : Replaced mark new cs ds) :
    Replaced mark new (Text.trimList cs) (Text.trimList ds) := by
  have hback := (h.dropWhile_isBlank hmark hnew).reverse.dropWhile_isBlank hmark.reverse hnew.reverse
  simpa [Text.trimList] using hback.reverse

/-! ## Lines -/

/-- What holds no separator stays in front of the first piece. -/
theorem splitList_append {sep : Char} (hsep : sep ∉ cs) {cs' piece : List Char}
    {pieces : List (List Char)} (h : Text.splitList sep cs' = piece :: pieces) :
    Text.splitList sep (cs ++ cs') = (cs ++ piece) :: pieces := by
  induction cs with
  | nil => exact h
  | cons c cs ih =>
    rw [List.mem_cons, not_or] at hsep
    rw [List.cons_append, Text.splitList, ih hsep.2]
    exact if_neg (Ne.symm hsep.1)

theorem splitList {sep : Char} (hmark : sep ∉ mark) (hnew : sep ∉ new) (h : Replaced mark new cs ds) :
    List.Forall₂ (Replaced mark new) (Text.splitList sep cs) (Text.splitList sep ds) := by
  induction h with
  | nil => exact .cons .nil .nil
  | @char c cs ds hopening hclosing _ ih =>
    obtain ⟨piece, pieces, hcs⟩ := List.exists_cons_of_ne_nil (splitList_ne_nil sep cs)
    obtain ⟨piece', pieces', hds⟩ := List.exists_cons_of_ne_nil (splitList_ne_nil sep ds)
    rw [hcs, hds, List.forall₂_cons] at ih
    simp only [Text.splitList, hcs, hds]
    split_ifs
    · exact .cons .nil (.cons ih.1 ih.2)
    · exact .cons (.char hopening hclosing ih.1) ih.2
  | @mark cs ds _ ih =>
    obtain ⟨piece, pieces, hcs⟩ := List.exists_cons_of_ne_nil (splitList_ne_nil sep cs)
    obtain ⟨piece', pieces', hds⟩ := List.exists_cons_of_ne_nil (splitList_ne_nil sep ds)
    rw [hcs, hds, List.forall₂_cons] at ih
    rw [splitList_append hmark hcs, splitList_append hnew hds]
    exact .cons (.mark ih.1) ih.2

end Replaced
end ChatAutomation.Text
