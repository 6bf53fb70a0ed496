import ChatAutomation.Headers
import ChatAutomation.Proofs.Template.SinglePass
import ChatAutomation.Proofs.Value.Figures
import Mathlib

/-!
# Two ways to give headers

Headers are given as an object of templates, or as a template of the text of such an object. Where nothing is to
be filled in, both should give the same headers, but a value is shown as templates show it in the one case and
as it is written in the other.
-/
namespace ChatAutomation

namespace Value

def isScalar : Value → Bool
  | .list _ | .object _ => false
  | _ => true

def isBool : Value → Bool
  | .bool _ => true
  | _ => false

end Value

namespace Headers

/-- A scalar that is neither a switch nor a whole floating point number is shown in templates as it is
written. -/
theorem render_eq_written_iff {v : Value} (h : v.isScalar = true) :
    Template.render v = written v ↔ v.isBool = false ∧ v.isWholeFloat = false := by
  cases v with
  | bool b => cases b <;> decide
  | float x =>
    change Template.render (.float x) = x.text ↔ _
    exact Template.render_float_eq_text_iff.trans (and_iff_right rfl).symm
  | list vs => cases h
  | object es => cases h
  | _ => exact iff_of_true rfl ⟨rfl, rfl⟩

/-- No placeholder opens in a scalar if none does in its text. -/
theorem not_contains_render {v : Value} (hscalar : v.isScalar = true)
    (htext : ∀ s, v = .text s → Text.contains s "\x7b\x7b" = false) :
    Text.contains (Template.render v) "\x7b\x7b" = false := by
  cases v with
  | null => decide
  | bool b => cases b <;> decide
  | int n => exact (figures_int n).not_contains
  | float x => exact (Template.figures_render_float x).not_contains
  | text s => exact htext s rfl
  | list vs => cases hscalar
  | object es => cases hscalar

theorem ofEntries_of_not_contains {es : Entries Value}
    (h : ∀ e ∈ es, Text.contains (Template.render e.2) "\x7b\x7b" = false) (vars : Variables) :
    ofEntries es vars = es.mapValues Template.render :=
  List.map_congr_left fun e he => congrArg (Prod.mk e.1) (Template.fill_of_not_contains vars (h e he))

/-- A text that is read as an object gives the headers as they are written there. -/
theorem build_text_of_parse {es : Entries Value} {document : String}
    (hread : Json.parse document = .ok (.object es))
    (hdocument : Text.contains document "\x7b\x7b" = false) (vars : Variables) :
    build (.text document) vars = .ok (es.mapValues written) := by
  have hgiven : (Value.text document).isGiven = true := by
    have hempty : document ≠ "" := by
      rintro rfl
      have herror : Json.parse "" = .error (.at .value 0) := by cbv
      rw [herror] at hread
      cases hread
    simpa [Value.isGiven] using hempty
  have hfilled : Template.interpolate (.text document) vars = document :=
    Template.fill_of_not_contains vars hdocument
  simp only [build, hgiven, Bool.not_true, Bool.false_eq_true, if_false, hfilled, ofText, hread]

theorem build_object (es : Entries Value) (vars : Variables) :
    build (.object es) vars = .ok (ofEntries es vars) := by
  cases es with
  | nil => rfl
  | cons e es => rfl

/-- An object of scalars gives headers, and any text that is read as the object gives the same ones exactly
if none of the scalars is a switch or a whole floating point number. -/
theorem build_text_eq_build_object_iff {es : Entries Value} {document : String}
    (hscalar : ∀ e ∈ es, e.2.isScalar = true)
    (htext : ∀ e ∈ es, ∀ s, e.2 = .text s → Text.contains s "\x7b\x7b" = false)
    (hread : Json.parse document = .ok (.object es))
    (hdocument : Text.contains document "\x7b\x7b" = false) (vars : Variables) :
    ∃ headers, build (.object es) vars = .ok headers ∧
      (build (.text document) vars = .ok headers ↔
        ∀ e ∈ es, e.2.isBool = false ∧ e.2.isWholeFloat = false) := by
  have hobject : ofEntries es vars = es.mapValues Template.render :=
    ofEntries_of_not_contains (fun e he => not_contains_render (hscalar e he) (htext e he)) vars
  refine ⟨es.mapValues Template.render, by rw [build_object, hobject], ?_⟩
  rw [build_text_of_parse hread hdocument, Except.ok.injEq, Entries.mapValues, Entries.mapValues,
    List.map_inj_left]
  refine forall₂_congr fun e he => ?_
  rw [Prod.mk.injEq, and_iff_right rfl, eq_comm, render_eq_written_iff (hscalar e he)]

/-- A token with an escape in its text, a number and a header without a value. -/
theorem build_text_eq_build_object_iff_token :
    let es : Entries Value := [("X-Token", .text "\""), ("X-Count", .int 7), ("X-Trace", .null)]
    let document := "\x7b\"X-Token\":\"\\\"\",\"X-Count\":7,\"X-Trace\":null\x7d"
    (∀ e ∈ es, e.2.isScalar = true) ∧
      (∀ e ∈ es, ∀ s, e.2 = .text s → Text.contains s "\x7b\x7b" = false) ∧
      Json.parse document = .ok (.object es) ∧ Text.contains document "\x7b\x7b" = false ∧
      ∃ headers, build (.object es) [] = .ok headers ∧ build (.text document) [] = .ok headers := by
  intro es document
  have hscalar : ∀ e ∈ es, e.2.isScalar = true := by decide
  have htext : ∀ e ∈ es, ∀ s, e.2 = .text s → Text.contains s "\x7b\x7b" = false := by
    intro e he s hs
    simp only [es, List.mem_cons, List.not_mem_nil, or_false] at he
    rcases he with rfl | rfl | rfl <;> cases hs
    decide
  have hread : Json.parse document = .ok (.object es) := by
    rw [Json.parse, if_neg (by decide)]
    cbv
  have hdocument : Text.contains document "\x7b\x7b" = false := by decide
  obtain ⟨headers, hobject, hagree⟩ := build_text_eq_build_object_iff hscalar htext hread hdocument []
  exact ⟨hscalar, htext, hread, hdocument, headers, hobject, hagree.2 (by decide)⟩

/-- A switch in the object is shown as authors write it, and one in the text of the object is not. -/
theorem build_switch :
    let document := "\x7b\"X\":true\x7d"
    Json.parse document = .ok (.object [("X", .bool true)]) ∧
      build (.object [("X", .bool true)]) [] = .ok [("X", "true")] ∧
      build (.text document) [] = .ok [("X", "True")] := by
  have hread : Json.parse "\x7b\"X\":true\x7d" = .ok (.object [("X", .bool true)]) := by
    rw [Json.parse, if_neg (by decide)]
    cbv
  refine ⟨hread, ?_, ?_⟩
  · decide +kernel
  · rw [build_text_of_parse hread (by decide)]
    rfl

end Headers
end ChatAutomation
