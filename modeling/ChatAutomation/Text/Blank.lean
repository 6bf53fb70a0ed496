import ChatAutomation.Text.Boundary

/-!
# White space

The characters that separate words: the ASCII blanks and separators, and the blanks of other scripts.
-/
namespace ChatAutomation.Text

/-- Boundaries of the blank characters. -/
def blankBoundaries : Array Nat := #[
  9, 14, 28, 33, 133, 134, 160, 161, 5760, 5761, 8192, 8203, 8232, 8234, 8239, 8240, 8287, 8288,
  12288, 12289]

def isBlank (c : Char) : Bool := inBoundaries blankBoundaries c.toNat

/-- Drops the blanks at both ends. -/
def trimList (cs : List Char) : List Char :=
  ((cs.dropWhile isBlank).reverse.dropWhile isBlank).reverse

theorem trimList_prefix_dropWhile (cs : List Char) : trimList cs <+: cs.dropWhile isBlank := by
  have h := List.dropWhile_suffix isBlank (l := (cs.dropWhile isBlank).reverse)
  simpa [trimList] using List.reverse_prefix.2 h

/-- A trimmed text does not end in a blank. -/
theorem isBlank_getLast_trimList {cs : List Char} (h : trimList cs ≠ []) :
    isBlank ((trimList cs).getLast h) = false := by
  have h' : (cs.dropWhile isBlank).reverse.dropWhile isBlank ≠ [] := by simpa [trimList] using h
  simpa [trimList, List.getLast_reverse] using List.head_dropWhile_not isBlank h'

/-- A trimmed text does not begin with a blank. -/
theorem isBlank_head_trimList {cs : List Char} (h : trimList cs ≠ []) :
    isBlank ((trimList cs).head h) = false := by
  obtain ⟨t, ht⟩ := trimList_prefix_dropWhile cs
  have hne : cs.dropWhile isBlank ≠ [] := by
    intro he
    simp [he] at ht
    exact h ht.1
  have hd := List.head_dropWhile_not isBlank hne
  have heq : (trimList cs).head h = (cs.dropWhile isBlank).head hne := by
    simp only [← ht, List.head_append_of_ne_nil h]
  rwa [heq]

def trim (s : String) : String := String.ofList (trimList s.toList)

end ChatAutomation.Text
