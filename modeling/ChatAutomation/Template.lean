import ChatAutomation.Value.Written
import ChatAutomation.Text.Word

/-!
# Templates

A template is text with placeholders, a name of ASCII word characters between double braces. Filling
it in replaces each placeholder by the rendered value of the variable; text that was put in is not
searched again.
-/
namespace ChatAutomation.Template

/-- A value as authors expect to read it: nothing for null, and whole numbers without a point. -/
def render : Value → String
  | .null => ""
  | .bool b => if b then "true" else "false"
  | .float x =>
    match if x.isInteger then x.truncate? else none with
    | some n => toString n
    | none => x.text
  | v => v.plain

def renderVariable (vars : Variables) (name : String) : String :=
  render ((vars.get? name).getD .null)

/-- A part of a template. -/
inductive Piece where
  | literal (c : Char)
  | placeholder (name : List Char)
  deriving DecidableEq, Repr

/-- The name and the rest, if a placeholder stands at the front. -/
def placeholder? (cs : List Char) : Option (List Char × List Char) :=
  match cs with
  | '\x7b' :: '\x7b' :: rest =>
    let name := rest.takeWhile Text.isAsciiWord
    match rest.dropWhile Text.isAsciiWord with
    | '\x7d' :: '\x7d' :: after => if name.isEmpty then none else some (name, after)
    | _ => none
  | _ => none

theorem placeholder?_length {cs name after : List Char} (h : placeholder? cs = some (name, after)) :
    after.length < cs.length := by
  unfold placeholder? at h
  split at h
  · rename_i rest
    simp only at h
    split at h
    · rename_i after' heq
      split at h
      · simp at h
      · obtain ⟨-, rfl⟩ := by simpa using h
        have := (List.dropWhile_suffix Text.isAsciiWord (l := rest)).length_le
        rw [heq] at this
        simp only [List.length_cons] at this ⊢
        omega
    · simp at h
  · simp at h

/-- The parts of a template, from left to right. -/
def pieces (cs : List Char) : List Piece :=
  match _h : placeholder? cs with
  | some (name, after) => .placeholder name :: pieces after
  | none =>
    match cs with
    | [] => []
    | c :: cs => .literal c :: pieces cs
termination_by cs.length
decreasing_by
  · exact placeholder?_length _h
  · simp

@[simp] theorem pieces_nil : pieces [] = [] := by
  rw [pieces]
  rfl

theorem pieces_placeholder {cs name after : List Char} (h : placeholder? cs = some (name, after)) :
    pieces cs = .placeholder name :: pieces after := by
  rw [pieces]
  split
  · rename_i heq
    rw [h] at heq
    cases heq
    rfl
  · rename_i heq
    rw [h] at heq
    cases heq

theorem pieces_literal {c : Char} {cs : List Char} (h : placeholder? (c :: cs) = none) :
    pieces (c :: cs) = .literal c :: pieces cs := by
  rw [pieces]
  split
  · rename_i heq
    rw [h] at heq
    cases heq
  · rfl

def Piece.fill (vars : Variables) : Piece → List Char
  | .literal c => [c]
  | .placeholder name => (renderVariable vars (String.ofList name)).toList

def fill (vars : Variables) (text : String) : String :=
  String.ofList ((pieces text.toList).flatMap (Piece.fill vars))

/-- Fills in a template; what is no text is rendered and has no placeholders but those it shows. -/
def interpolate (template : Value) (vars : Variables) : String := fill vars (render template)

/-- Fills in a template that is text. -/
def interpolateText (template : String) (vars : Variables) : String := fill vars template

end ChatAutomation.Template
