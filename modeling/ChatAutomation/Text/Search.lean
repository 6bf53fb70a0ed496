/-!
# Parts of a text

Occurrence, leading part, splitting at a character, and cutting to a length.
-/
namespace ChatAutomation.Text

/-- Does `part` occur in the text? -/
def occursIn (part : List Char) : List Char → Bool
  | [] => part.isEmpty
  | c :: cs => part.isPrefixOf (c :: cs) || occursIn part cs

theorem occursIn_iff {part cs : List Char} : occursIn part cs = true ↔ part <:+: cs := by
  induction cs with
  | nil => simp [occursIn]
  | cons c cs ih => rw [occursIn, Bool.or_eq_true, ih, List.infix_cons_iff, List.isPrefixOf_iff_prefix]

def contains (s part : String) : Bool := occursIn part.toList s.toList

theorem contains_iff {s part : String} : contains s part = true ↔ part.toList <:+: s.toList :=
  occursIn_iff

def beginsWith (s start : String) : Bool := start.toList.isPrefixOf s.toList

theorem beginsWith_iff {s start : String} :
    beginsWith s start = true ↔ start.toList <+: s.toList := List.isPrefixOf_iff_prefix

theorem contains_of_beginsWith {s start : String} (h : beginsWith s start = true) :
    contains s start = true := contains_iff.2 (beginsWith_iff.1 h).isInfix

def endsWith (s tail : String) : Bool := tail.toList.isSuffixOf s.toList

/-- The pieces between the separators; a text without one is a single piece. -/
def splitList (sep : Char) : List Char → List (List Char)
  | [] => [[]]
  | c :: cs =>
    match splitList sep cs with
    | piece :: pieces => if c = sep then [] :: piece :: pieces else (c :: piece) :: pieces
    | [] => [[c]]

theorem splitList_ne_nil (sep : Char) (cs : List Char) : splitList sep cs ≠ [] := by
  cases cs with
  | nil => simp [splitList]
  | cons c cs =>
    unfold splitList
    split
    · split <;> simp
    · simp

/-- No piece holds a separator. -/
theorem not_mem_of_mem_splitList {sep : Char} {cs piece : List Char}
    (h : piece ∈ splitList sep cs) : sep ∉ piece := by
  induction cs generalizing piece with
  | nil => simp_all [splitList]
  | cons c cs ih =>
    unfold splitList at h
    split at h
    · rename_i p ps heq
      have hp : sep ∉ p := ih (by simp [heq])
      have hps : ∀ q ∈ ps, sep ∉ q := fun q hq => ih (by simp [heq, hq])
      split at h
      · rcases List.mem_cons.1 h with rfl | h
        · simp
        · rcases List.mem_cons.1 h with rfl | h
          · exact hp
          · exact hps _ h
      · rename_i hc
        rcases List.mem_cons.1 h with rfl | h
        · simp [hp, Ne.symm hc]
        · exact hps _ h
    · rename_i heq
      exact absurd heq (splitList_ne_nil sep cs)

def splitAt (sep : Char) (s : String) : List String := (splitList sep s.toList).map String.ofList

/-- What stands before the first separator. -/
def before (sep : Char) (s : String) : String := String.ofList (s.toList.takeWhile (· != sep))

/-- The first `n` characters. -/
def cut (n : Nat) (s : String) : String := String.ofList (s.toList.take n)

theorem length_cut (n : Nat) (s : String) : (cut n s).length = min n s.length := by
  rw [cut, ← String.length_toList, String.toList_ofList, List.length_take, String.length_toList]

end ChatAutomation.Text
