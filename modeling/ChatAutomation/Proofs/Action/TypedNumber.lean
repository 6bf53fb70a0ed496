import ChatAutomation.Proofs.Action.Effects
import ChatAutomation.Proofs.Action.Filling
import ChatAutomation.Proofs.Flow.Input
import ChatAutomation.Proofs.Template.ReadBack
import ChatAutomation.Proofs.Text.LowerCase
import ChatAutomation.Proofs.Value.Figures
import ChatAutomation.Proofs.Value.Rewritten

/-!
# Numbers typed into templates

A number that is typed where a template stands means the text that it is written as, and one that comes from
a variable is shown as templates show numbers. Both are the same text unless the number is a floating point
number that is whole. What a node does then does not depend on which way the number came, in an input of its
own and among the options of a list.
-/
namespace ChatAutomation

namespace Text

/-- Between the blanks of ASCII and those above it there are none. -/
theorem isBlank_of_between {c : Char} (hlo : 33 ≤ c.toNat) (hhi : c.toNat < 133) : isBlank c = false := by
  have hbounds : ∀ k < blankBoundaries.size / 2,
      blankBoundaries.getD (2 * k + 1) 0 ≤ 33 ∨ 133 ≤ blankBoundaries.getD (2 * k) 0 := by decide
  refine isBlank_eq_false fun k hk hbetween => ?_
  have := hbounds k hk
  omega

theorem isBlank_of_isFigure {c : Char} (h : isFigure c = true) : isBlank c = false := by
  have hmarks : ∀ d ∈ figureMarks, 33 ≤ d.toNat ∧ d.toNat < 133 := by simp [figureMarks]
  rw [isFigure, Bool.or_eq_true, List.contains_iff_mem] at h
  rcases h with hdigit | hmark
  · have := isDigit_iff.1 hdigit
    exact isBlank_of_between (by omega) (by omega)
  · exact isBlank_of_between (hmarks c hmark).1 (hmarks c hmark).2

/-- A placeholder holds no blank. -/
theorem isBlank_of_not_isCut {c : Char} (h : ¬ Template.IsCut c) : isBlank c = false := by
  have := toNat_of_not_isCut h
  exact isBlank_of_between (by omega) (by omega)

theorem trim_eq_self_of_forall {s : String} (h : ∀ c ∈ s.toList, isBlank c = false) : trim s = s := by
  refine trim_eq_self_iff.2 (trimList_eq_self_iff.2 ⟨?_, ?_⟩) <;> intro hblank
  · obtain ⟨c, hc, hcblank⟩ := Option.map_eq_some_iff.1 hblank
    rw [h c (List.mem_of_head? hc)] at hcblank
    cases hcblank
  · obtain ⟨c, hc, hcblank⟩ := Option.map_eq_some_iff.1 hblank
    rw [h c (List.mem_of_getLast? hc)] at hcblank
    cases hcblank

end Text

namespace Value

def isNumber : Value → Bool
  | .int _ | .float _ => true
  | _ => false

variable {v : Value}

theorem isNull_of_isNumber (h : v.isNumber = true) : v.isNull = false := by
  cases v <;> first | rfl | cases h

theorem figures_plain (h : v.isNumber = true) : Text.Figures v.plain := by
  cases v with
  | int n => exact figures_int n
  | float x => exact x.figures_text
  | _ => cases h

theorem plain_ne_empty (h : v.isNumber = true) : v.plain ≠ "" := by
  cases v with
  | int n => exact toString_int_ne_empty n
  | float x => exact x.text_ne_empty
  | _ => cases h

/-- Templates show a number as it is written unless it is a whole floating point number. -/
theorem render_eq_plain_iff (h : v.isNumber = true) :
    Template.render v = v.plain ↔ v.isWholeFloat = false := by
  cases v with
  | int n => exact iff_of_true rfl rfl
  | float x => exact Template.render_float_eq_text_iff
  | _ => cases h

end Value

namespace Template
variable {vars : Variables} {name : String} {v : Value}

theorem fill_mention_of_get? (hne : name ≠ "") (hword : ∀ c ∈ name.toList, Text.isAsciiWord c = true)
    (hget : vars.get? name = some v) (hnull : v.isNull = false) : fill vars (mention name) = render v := by
  rw [← String.toList_inj, fill_mention vars hne hword, emitted, String.ofList_toList, hget]
  cases v with
  | null => cases hnull
  | _ => rfl

theorem trim_mention (hword : ∀ c ∈ name.toList, Text.isAsciiWord c = true) :
    Text.trim (mention name) = mention name :=
  Text.trim_eq_self_of_forall fun _ hc =>
    Text.isBlank_of_not_isCut (not_isCut_of_mem_mention hword hc)

theorem mention_ne_empty (name : String) : mention name ≠ "" := by
  simp [mention]

/-- The text of a number and the placeholder of a variable that holds the number are filled in alike. -/
theorem alike_mention (hnumber : v.isNumber = true) (hwhole : v.isWholeFloat = false) (hne : name ≠ "")
    (hword : ∀ c ∈ name.toList, Text.isAsciiWord c = true) (hget : vars.get? name = some v) :
    Alike vars v.plain (mention name) where
  filled_eq := by
    rw [interpolateText, interpolateText, fill_of_not_contains vars (Value.figures_plain hnumber).not_contains,
      fill_mention_of_get? hne hword hget (Value.isNull_of_isNumber hnumber),
      (Value.render_eq_plain_iff hnumber).2 hwhole]
  isEmpty_eq := by
    have hplain := Value.plain_ne_empty hnumber
    have hmention := mention_ne_empty name
    rw [Bool.eq_iff_iff, String.isEmpty_iff, String.isEmpty_iff]
    exact iff_of_false hplain hmention

end Template

/-! ## Options -/

namespace Options

/-- An option that is offered as it is written: it is not empty and has no blank at its ends. -/
structure Kept (v : Value) : Prop where
  isNull : v.isNull = false
  ne_empty : v.plain ≠ ""
  trim_eq : Text.trim v.plain = v.plain

theorem split_list_append_cons {v : Value} (h : Kept v) (before after : List Value) :
    split (.list (before ++ v :: after)) = split (.list before) ++ v.plain :: split (.list after) := by
  simp [split, raw, trimmed, h.isNull, h.trim_eq, h.ne_empty]

theorem kept_of_isNumber {v : Value} (h : v.isNumber = true) : Kept v where
  isNull := Value.isNull_of_isNumber h
  ne_empty := Value.plain_ne_empty h
  trim_eq := Text.trim_eq_self_of_forall fun c hc =>
    Text.isBlank_of_isFigure (Value.figures_plain h c hc)

theorem kept_mention {name : String} (hword : ∀ c ∈ name.toList, Text.isAsciiWord c = true) :
    Kept (.text (Template.mention name)) where
  isNull := rfl
  ne_empty := Template.mention_ne_empty name
  trim_eq := Template.trim_mention hword

end Options

/-- Lists of options are alike if they are in one place and the same everywhere else. -/
theorem Choices.alike_append_cons {vars : Variables} {v w : Value} (hv : Options.Kept v)
    (hw : Options.Kept w) (h : Template.Alike vars v.plain w.plain) (before after : List Value) :
    Choices.Alike vars (.items (before ++ v :: after)) (.items (before ++ w :: after)) where
  options_eq := by
    simp only [Choices.value, Options.split_list_append_cons hv, Options.split_list_append_cons hw,
      List.map_append, List.map_cons, h.filled_eq]

/-! ## Slots -/

/-- Where a number may be typed: in an input that is a template, or among the options of a list. -/
inductive Slot where
  | input (key : String)
  | option (key : String) (before after : List Value)

namespace Slot

def key : Slot → String
  | input k | option k _ _ => k

/-- What the input of a slot is, with a value in the slot. -/
def holding : Slot → Value → Value
  | input _, v => v
  | option _ before after, v => .list (before ++ v :: after)

/-- Is it a slot of the nodes of a kind? -/
def IsOf (kind : NodeKind) : Slot → Prop
  | input k => k ∈ Payload.templates kind
  | option k _ _ => k ∈ Payload.choices kind

/-- The node with a value written into a slot. -/
def write (s : Slot) (v : Value) (n : Node) : Node := n.withInput s.key (s.holding v)

end Slot

namespace Payload
variable {vars : Variables} {kind : NodeKind} {k : String} {v w : Value}

theorem input_put_self {α : Type} (hv : v.isNull = false) (es : Entries Value) (default : α)
    (read : Value → Checked α) : input (es.put k v) k default read = (read v).under (.name k) := by
  rw [input, Entries.get?_put_self]
  cases v with
  | null => cases hv
  | _ => rfl

theorem input_put_ne {α : Type} {k' : String} (hk : k' ≠ k) (es : Entries Value) (default : α)
    (read : Value → Checked α) : input (es.put k v) k' default read = input es k' default read := by
  rw [input, Entries.get?_put_ne es v hk, input]

theorem ne_of_mem_others {k' : String} (hk : k ∈ templates kind ∨ k ∈ choices kind)
    (hk' : k' ∈ headers kind ++ verbatim kind ++ idle kind) : k' ≠ k := by
  rintro rfl
  exact disjoint_filled_others kind k' (List.mem_append.2 hk) hk'

/-- Data in which an input that is a template or offers choices was written in two ways that read alike. -/
theorem InputsAlike.put (hk : k ∈ templates kind ∨ k ∈ choices kind) (hv : v.isNull = false)
    (hw : w.isNull = false)
    (htemplate : k ∈ templates kind → Checked.Alike (Template.Alike vars) (typedText v) (typedText w))
    (hchoice : k ∈ choices kind → Checked.Alike (Choices.Alike vars) (readChoices v) (readChoices w))
    (es : Entries Value) : InputsAlike vars kind (es.put k v) (es.put k w) where
  template k' hk' := by
    by_cases hsame : k' = k
    · rw [hsame, textInput, textInput, input_put_self hv, input_put_self hw]
      exact (htemplate (hsame ▸ hk')).under _
    · rw [textInput, textInput, input_put_ne hsame, input_put_ne hsame]
      exact .refl (Template.Alike.refl vars) _
  choice k' hk' := by
    by_cases hsame : k' = k
    · rw [hsame, input_put_self hv, input_put_self hw]
      exact (hchoice (hsame ▸ hk')).under _
    · rw [input_put_ne hsame, input_put_ne hsame]
      exact .refl (fun _ => ⟨rfl⟩) _
  header k' hk' := by
    have hne : k' ≠ k := ne_of_mem_others hk (by simp [hk'])
    rw [input_put_ne hne, input_put_ne hne]
    exact .refl (fun _ => ⟨rfl⟩) _
  verbatim k' hk' := by
    have hne : k' ≠ k := ne_of_mem_others hk (by simp [hk'])
    rw [Entries.get?_put_ne es v hne, Entries.get?_put_ne es w hne]
  idle k' hk' := by
    have hne : k' ≠ k := ne_of_mem_others hk (by simp [hk'])
    rw [textInput, textInput, input_put_ne hne, input_put_ne hne]
    exact .refl (fun _ => trivial) _

theorem typedText_of_isNumber (h : v.isNumber = true) : typedText v = .ok v.plain := by
  cases v with
  | int n => rfl
  | float x => rfl
  | _ => cases h

/-- A number in the place of a whole list of options is refused. -/
theorem ofData_put_choice_ne_ok (hk : k ∈ choices kind) (hnumber : v.isNumber = true) (es : Entries Value)
    (p : Payload) : ofData kind (es.put k v) ≠ .ok p := by
  have hrefused {c : Choices} : input (es.put k v) k (.lines "") readChoices ≠ .ok c := by
    rw [input_put_self (Value.isNull_of_isNumber hnumber)]
    cases v with
    | int n => exact fun h => by cases h
    | float x => exact fun h => by cases h
    | _ => cases hnumber
  intro h
  cases kind with
  | sendPoll =>
    obtain rfl := List.mem_singleton.1 hk
    obtain ⟨_, _, hread, -, -⟩ := Checked.seq_eq_ok_iff.1 h
    obtain ⟨_, _, -, hoptions, -⟩ := Checked.seq_eq_ok_iff.1 hread
    exact hrefused hoptions
  | sendButtons =>
    obtain rfl := List.mem_singleton.1 hk
    obtain ⟨_, _, -, hbuttons, -⟩ := Checked.seq_eq_ok_iff.1 h
    exact hrefused hbuttons
  | _ => cases hk

end Payload

namespace Slot
variable {vars : Variables} {kind : NodeKind} {slot : Slot} {v : Value} {name : String}

theorem inputsAlike_put (hslot : slot.IsOf kind) (hnumber : v.isNumber = true)
    (hwhole : v.isWholeFloat = false) (hne : name ≠ "")
    (hword : ∀ c ∈ name.toList, Text.isAsciiWord c = true) (hget : vars.get? name = some v)
    (es : Entries Value) :
    Payload.InputsAlike vars kind (es.put slot.key (slot.holding v))
      (es.put slot.key (slot.holding (.text (Template.mention name)))) := by
  have halike := Template.alike_mention hnumber hwhole hne hword hget
  -- no input is both a template and a list of options, so a slot is read in one way only
  have hnull := Value.isNull_of_isNumber hnumber
  cases slot with
  | input k =>
    have hread : Checked.Alike (Template.Alike vars) (Payload.typedText v)
        (Payload.typedText (.text (Template.mention name))) := by
      rw [Payload.typedText_of_isNumber hnumber]
      exact .ok halike
    exact .put (.inl hslot) hnull rfl (fun _ => hread)
      (fun hk => absurd hk (Payload.disjoint_templates_choices kind k hslot)) es
  | option k before after =>
    have hread : Choices.Alike vars (.items (before ++ v :: after))
        (.items (before ++ .text (Template.mention name) :: after)) :=
      Choices.alike_append_cons (Options.kept_of_isNumber hnumber) (Options.kept_mention hword) halike
        before after
    exact .put (.inr hslot) rfl rfl
      (fun hk => absurd hslot (Payload.disjoint_templates_choices kind k hk)) (fun _ => .ok hread) es

end Slot

namespace Engine
variable {σ : Type}

theorem ok_execute_of_number_for_choices (e : Engine σ) {n : Node} {kind : NodeKind}
    (hkind : n.kind? = some kind) {k : String} (hk : k ∈ Payload.choices kind) {v : Value}
    (hnumber : v.isNumber = true) (r : Run σ) : (e.execute (n.withInput k v) r).1.ok = false := by
  rw [ok_execute_eq_false_iff]
  refine ⟨kind, hkind, .inl ?_⟩
  cases hp : Payload.ofNode kind (n.withInput k v) with
  | error x => exact ⟨x, rfl⟩
  | ok p =>
    rw [Payload.ofNode] at hp
    split at hp
    · rename_i hdata
      exact absurd hdata (Payload.ofData_put_choice_ne_ok hk hnumber n.data _)
    · cases hp

/-- A number is shown as it is written, unless it is a whole floating point number. Such a number aside, a
node does the same whether a number is typed into one of its templates or options, or comes from a variable
that holds it. A number in the place of a whole list of options makes the node fail. -/
theorem execute_typed_number (e : Engine σ) {n : Node} {kind : NodeKind} (hkind : n.kind? = some kind)
    {v : Value} (hnumber : v.isNumber = true) {name : String} (hne : name ≠ "")
    (hword : ∀ c ∈ name.toList, Text.isAsciiWord c = true) {r : Run σ}
    (hget : r.vars.get? name = some v) :
    (Template.render v = v.plain ↔ v.isWholeFloat = false) ∧
      (v.isWholeFloat = false → ∀ slot : Slot, slot.IsOf kind →
        e.execute (slot.write v n) r = e.execute (slot.write (.text (Template.mention name)) n) r) ∧
      ∀ k ∈ Payload.choices kind, (e.execute (n.withInput k v) r).1.ok = false :=
  ⟨Value.render_eq_plain_iff hnumber, fun hwhole slot hslot =>
      e.execute_alike r (n := slot.write v n) hkind rfl rfl
        (Slot.inputsAlike_put hslot hnumber hwhole hne hword hget n.data),
    fun _ hk => e.ok_execute_of_number_for_choices hkind hk hnumber r⟩

/-- Half a number, not a whole one. -/
def half : Value := .float (.finite false 4503599627370496 (-53))

def poll : Node := ⟨"p", "send_poll", none, none, []⟩

theorem execute_typed_number_option :
    let slot : Slot := .option "options" [.text "0.25"] [.null]
    let r : Run Unit := ⟨[("preco", half)], (), []⟩
    poll.kind? = some .sendPoll ∧ slot.IsOf .sendPoll ∧ half.isNumber = true ∧
      half.isWholeFloat = false ∧ r.vars.get? "preco" = some half ∧
      storing.execute (slot.write half poll) r =
        storing.execute (slot.write (.text (Template.mention "preco")) poll) r := by
  intro slot r
  have hkind : poll.kind? = some .sendPoll := by decide +kernel
  have hslot : slot.IsOf .sendPoll := List.mem_singleton.2 rfl
  have hwhole : half.isWholeFloat = false := by decide +kernel
  have hword : "preco".toList.all Text.isAsciiWord = true := by decide
  exact ⟨hkind, hslot, rfl, hwhole, rfl, (execute_typed_number storing hkind rfl (by decide)
    (List.all_eq_true.1 hword) rfl).2.1 hwhole slot hslot⟩

/-- Two, as a floating point number. -/
def two : Value := .float (.finite false 4503599627370496 (-51))

/-- A two with a point is stored with the point if it is typed, and without it if it comes from a variable. A
number in the place of a whole list of options is refused, and a placeholder there is not. -/
theorem execute_typed_two :
    let r : Run Unit := ⟨[("x", two)], (), []⟩
    let stored := fun v : Value =>
      (storing.execute ((Slot.input "value").write v (setter "total" "")) r).2.vars.get? "total"
    let polled := fun v : Value => (storing.execute (poll.withInput "options" v) r).1.ok
    (stored two).map Value.plain = some "2.0" ∧
      (stored (.text (Template.mention "x"))).map Value.plain = some "2" ∧
      polled two = false ∧ polled (.text (Template.mention "x")) = true := by
  decide +kernel

end Engine
end ChatAutomation
