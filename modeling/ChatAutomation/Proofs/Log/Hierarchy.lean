import ChatAutomation.Log
import Mathlib.Data.List.Basic

/-!
# The hierarchy of the loggers

A logger is below another one if its name begins with the other name and goes on with an odd number of
points: `mem_ancestors_iff`. Usually that is a single point. Of more points in a row each second one is passed
over on the way up, so what stands before an even number of them is not found.
-/
namespace ChatAutomation

namespace Text

/-! ## The pieces of a text -/

variable {sep : Char}

theorem splitList_eq_splitOn (sep : Char) (cs : List Char) : splitList sep cs = cs.splitOn sep := by
  induction cs with
  | nil => simp [splitList]
  | cons c cs ih =>
    rw [splitList, ih, List.splitOn_cons_eq_if_modifyHead]
    obtain ⟨piece, pieces, hpieces⟩ := List.exists_cons_of_ne_nil (List.splitOn_ne_nil sep cs)
    simp [hpieces]

theorem splitList_append_cons (sep : Char) (cs ds : List Char) :
    splitList sep (cs ++ sep :: ds) = splitList sep cs ++ splitList sep ds := by
  simp only [splitList_eq_splitOn, List.splitOn_append_cons_self]

theorem splitList_replicate_append (sep : Char) (n : ℕ) (cs : List Char) :
    splitList sep (List.replicate n sep ++ cs) = List.replicate n [] ++ splitList sep cs := by
  induction n with
  | zero => rfl
  | succ n ih =>
    rw [List.replicate_succ, List.cons_append]
    exact (splitList_append_cons sep [] _).trans (by simp [splitList, ih, List.replicate_succ])

/-- A text begins with a separator if its first piece is empty, but not the only one. -/
theorem head?_ne_sep_iff {cs piece : List Char} {pieces : List (List Char)}
    (h : splitList sep cs = piece :: pieces) : cs.head? ≠ some sep ↔ (piece = [] → pieces = []) := by
  cases cs with
  | nil => simp_all [splitList]
  | cons c cs =>
    obtain ⟨first, later, hcs⟩ := List.exists_cons_of_ne_nil (splitList_ne_nil sep cs)
    by_cases hc : c = sep <;> simp_all [splitList] <;> grind

theorem splitList_injective (sep : Char) : Function.Injective (splitList sep) := by
  intro cs ds h
  simpa [splitList_eq_splitOn, List.intercalate_splitOn] using congrArg [sep].intercalate h

/-- Pieces without the separator are the pieces of some text. -/
theorem exists_splitList_eq {pieces : List (List Char)} (hne : pieces ≠ [])
    (h : ∀ piece ∈ pieces, sep ∉ piece) : ∃ cs, splitList sep cs = pieces :=
  ⟨[sep].intercalate pieces, by rw [splitList_eq_splitOn, List.splitOn_intercalate sep h hne]⟩

theorem toList_of_mem_splitAt {s piece : String} (h : piece ∈ splitAt sep s) : sep ∉ piece.toList := by
  obtain ⟨cs, hcs, rfl⟩ := List.mem_map.1 h
  rw [String.toList_ofList]
  exact not_mem_of_mem_splitList hcs

theorem map_toList_splitAt (sep : Char) (s : String) :
    (splitAt sep s).map String.toList = splitList sep s.toList := by
  simp [splitAt, Function.comp_def]

theorem intercalate_splitAt (s : String) : ".".intercalate (splitAt '.' s) = s := by
  rw [← String.toList_inj, String.toList_intercalate, map_toList_splitAt, splitList_eq_splitOn]
  exact List.intercalate_splitOn '.'

theorem splitAt_intercalate {pieces : List String} (hne : pieces ≠ [])
    (h : ∀ piece ∈ pieces, '.' ∉ piece.toList) : splitAt '.' (".".intercalate pieces) = pieces := by
  have hpieces : (['.'].intercalate (pieces.map String.toList)).splitOn '.' = pieces.map String.toList :=
    List.splitOn_intercalate '.' (by simpa using h) (by simpa using hne)
  rw [splitAt, String.toList_intercalate, splitList_eq_splitOn, show ".".toList = ['.'] from rfl, hpieces]
  simp [Function.comp_def]

end Text

namespace Log

/-! ## The names above a name -/

/-- A name below another one begins with it and goes on with an odd number of points. -/
def IsBelow (above name : String) : Prop :=
  ∃ k rest, name.toList = above.toList ++ (List.replicate (2 * k + 1) '.' ++ rest) ∧
    rest.head? ≠ some '.'

namespace Loggers

/-- In parts, with the last one first: there is an even number of empty ones before the upper name. -/
theorem isBelow_iff_parts {above name : String} :
    IsBelow above name ↔ ∃ k p ps, (Text.splitAt '.' name).reverse =
      ps ++ p :: (List.replicate (2 * k) "" ++ (Text.splitAt '.' above).reverse) ∧ (p = "" → ps = []) := by
  constructor
  · rintro ⟨k, rest, hname, hrest⟩
    obtain ⟨p, ps, hparts⟩ := List.exists_cons_of_ne_nil (Text.splitList_ne_nil '.' rest)
    refine ⟨k, String.ofList p, (ps.map String.ofList).reverse, ?_, fun hp => ?_⟩
    · rw [Text.splitAt, hname, List.replicate_succ, List.cons_append, Text.splitList_append_cons,
        Text.splitList_replicate_append, hparts]
      simp [Text.splitAt]
    · rw [(Text.head?_ne_sep_iff hparts).1 hrest (by simpa using hp), List.map_nil, List.reverse_nil]
  · rintro ⟨k, p, ps, hparts, hlast⟩
    rw [List.reverse_eq_iff] at hparts
    have hpoint : ∀ piece ∈ p :: ps.reverse, '.' ∉ piece.toList := fun piece hpiece =>
      Text.toList_of_mem_splitAt (s := name) (by simp_all)
    obtain ⟨rest, hrest⟩ : ∃ rest, Text.splitList '.' rest = (p :: ps.reverse).map String.toList :=
      Text.exists_splitList_eq (by simp) (by simpa using hpoint)
    refine ⟨k, rest, Text.splitList_injective '.' ?_, ?_⟩
    · rw [List.replicate_succ, List.cons_append, Text.splitList_append_cons,
        Text.splitList_replicate_append, hrest, ← Text.map_toList_splitAt, hparts, ← Text.map_toList_splitAt]
      simp
    · rw [Text.head?_ne_sep_iff hrest]
      simpa using hlast

/-- The names above one with the last part `x` and the other parts `parent`, all in reverse. A name above it
that does not end in a point stands behind an even number of empty parts. -/
theorem mem_partsAbove_iff {x a : String} {above parent : List String} (ha : a ≠ "") :
    a :: above ∈ parent :: partsAbove parent ↔ ∃ k p ps,
      x :: parent = ps ++ p :: (List.replicate (2 * k) "" ++ a :: above) ∧ (p = "" → ps = []) := by
  induction parent using partsAbove.induct generalizing x with
  | case1 z parts ih =>
    -- the name `z` between two points is passed over
    rw [partsAbove, List.mem_cons, ih (x := z)]
    constructor
    · rintro (h | ⟨k, p, ps, hp, hlast⟩)
      · exact absurd (List.cons.inj h).1 ha
      · by_cases hp₀ : p = ""
        · obtain rfl := hlast hp₀
          exact ⟨k + 1, x, [], by simp_all [Nat.mul_succ, List.replicate_succ], fun _ => rfl⟩
        · exact ⟨k, p, x :: "" :: ps, by simp [hp], fun h => absurd h hp₀⟩
    · rintro ⟨k, p, ps, hp, hlast⟩
      refine .inr ?_
      match ps with
      | [] =>
        cases k with
        | zero => simp_all
        | succ k => exact ⟨k, z, [], by simp_all [Nat.mul_succ, List.replicate_succ], fun _ => rfl⟩
      | [y] => simp_all
      | y :: y' :: ps => exact ⟨k, p, ps, by simp_all, fun h => (List.cons_ne_nil _ _ (hlast h)).elim⟩
  | case2 y parts hy ih =>
    -- the next name up is that of all the other parts
    rw [partsAbove.eq_2 _ _ hy, List.mem_cons, ih (x := y)]
    constructor
    · rintro (h | ⟨k, p, ps, hp, hlast⟩)
      · exact ⟨0, x, [], by simp [h], fun _ => rfl⟩
      · refine ⟨k, p, x :: ps, by simp [hp], fun hp₀ => ?_⟩
        obtain rfl := hlast hp₀
        cases k <;> simp_all [Nat.mul_succ, List.replicate_succ]
    · rintro ⟨k, p, ps, hp, hlast⟩
      cases ps with
      | nil =>
        cases k with
        | zero => simp_all
        | succ k => simp_all [Nat.mul_succ, List.replicate_succ]
      | cons y' ps => exact .inr ⟨k, p, ps, by simp_all, fun h => (List.cons_ne_nil _ _ (hlast h)).elim⟩
  | case3 =>
    refine ⟨fun h => by simp [partsAbove] at h, ?_⟩
    rintro ⟨k, p, ps, hp, -⟩
    have hlength := congrArg List.length hp
    simp at hlength
    omega

theorem suffix_of_mem_partsAbove {parts parent : List String} (h : parts ∈ partsAbove parent) :
    parts <:+ parent := by
  induction parent using partsAbove.induct with
  | case1 z parent ih =>
    rw [partsAbove, List.mem_cons] at h
    rcases h with rfl | h
    · exact List.suffix_append ["", z] parts
    · exact (ih h).trans (List.suffix_append ["", z] parent)
  | case2 y parent hy ih =>
    rw [partsAbove.eq_2 _ _ hy, List.mem_cons] at h
    rcases h with rfl | h
    · exact List.suffix_cons y parts
    · exact (ih h).trans (List.suffix_cons y parent)
  | case3 => simp [partsAbove] at h

/-- The names on the way up are those whose parts are on it. -/
theorem mem_ancestors_iff_parts {above name : String} (habove : (Text.splitAt '.' above).reverse ≠ []) :
    above ∈ ancestors name ↔ above = name ∨ (Text.splitAt '.' above).reverse ∈
      (Text.splitAt '.' name).reverse.tail :: partsAbove (Text.splitAt '.' name).reverse.tail := by
  rw [ancestors, List.mem_cons, List.mem_map]
  refine or_congr_right ⟨?_, fun h => ?_⟩
  · rintro ⟨parts, hparts, rfl⟩
    obtain ⟨hparts, hne⟩ := List.mem_filter.1 hparts
    have hsuffix : parts <:+ (Text.splitAt '.' name).reverse := by
      refine List.IsSuffix.trans ?_ (List.tail_suffix _)
      rcases List.mem_cons.1 hparts with rfl | hparts
      · exact List.suffix_rfl
      · exact suffix_of_mem_partsAbove hparts
    rw [Text.splitAt_intercalate (by simpa using hne), List.reverse_reverse]
    · exact hparts
    · intro part hpart
      exact Text.toList_of_mem_splitAt (List.mem_reverse.1 (hsuffix.subset (List.mem_reverse.1 hpart)))
  · exact ⟨_, List.mem_filter.2 ⟨h, by simpa using habove⟩,
      by rw [List.reverse_reverse, Text.intercalate_splitAt]⟩

/-- On the way up from a name are those that it is below; for upper names that do not end in a point. -/
theorem mem_ancestors_iff {above name : String} (hlast : (Text.splitAt '.' above).getLast? ≠ some "") :
    above ∈ ancestors name ↔ above = name ∨ IsBelow above name := by
  obtain ⟨a, parts, hparts⟩ : ∃ a parts, (Text.splitAt '.' above).reverse = a :: parts :=
    List.exists_cons_of_ne_nil (by simpa [Text.splitAt] using Text.splitList_ne_nil '.' above.toList)
  obtain ⟨x, parent, hname⟩ : ∃ x parent, (Text.splitAt '.' name).reverse = x :: parent :=
    List.exists_cons_of_ne_nil (by simpa [Text.splitAt] using Text.splitList_ne_nil '.' name.toList)
  have ha : a ≠ "" := by
    rintro rfl
    rw [← List.head?_reverse, hparts] at hlast
    exact hlast rfl
  rw [mem_ancestors_iff_parts (by simp [hparts]), isBelow_iff_parts, hname, List.tail_cons, hparts,
    mem_partsAbove_iff (x := x) ha]

end Loggers
end Log
end ChatAutomation
