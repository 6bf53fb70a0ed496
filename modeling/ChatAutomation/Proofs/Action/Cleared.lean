import ChatAutomation.Proofs.Action.Effects
import ChatAutomation.Proofs.Flow.Document

/-!
# Cleared inputs

An editor writes null for an input that was cleared. To a node that is the same as an input that was never
set, and as one that is set to its default, `cleared_as_unset`: what a payload takes from the data are its
inputs, and for each of them null, nothing and the default come to the same.
-/
namespace ChatAutomation

namespace Entries
variable {α : Type}

theorem filter_put {k : String} {own : List String} (hk : k ∈ own) (v : α) (es : Entries α) :
    (es.put k v).filter (fun e => !own.contains e.1) = es.filter fun e => !own.contains e.1 := by
  induction es with
  | nil => simp [put, hk]
  | cons e es ih =>
    obtain ⟨k', v'⟩ := e
    unfold put
    split
    · rename_i heq
      subst heq
      simp [hk]
    · rw [List.filter_cons, List.filter_cons, ih]

theorem filter_putAll_map {ks own : List String} (hks : ∀ k ∈ ks, k ∈ own) (f : String → α)
    (es : Entries α) :
    (es.putAll (ks.map fun k => (k, f k))).filter (fun e => !own.contains e.1) =
      es.filter fun e => !own.contains e.1 := by
  induction ks generalizing es with
  | nil => rfl
  | cons k ks ih =>
    obtain ⟨hk, hks⟩ := List.forall_mem_cons.1 hks
    have hstep : es.putAll ((k :: ks).map fun k => (k, f k)) =
        (es.put k (f k)).putAll (ks.map fun k => (k, f k)) := rfl
    rw [hstep, ih hks, filter_put hk]

end Entries

namespace Payload

/-- The payload of a kind whose inputs are all left out. -/
def unset : NodeKind → Payload
  | .trigger => .trigger "" ""
  | .sendText => .sendText ""
  | .sendImage => .sendImage "" ""
  | .sendAudio => .sendAudio "" true
  | .sendVideo => .sendVideo "" ""
  | .sendPoll => .sendPoll "" (.lines "") false
  | .sendButtons => .sendButtons "" (.lines "")
  | .aiResponse => .aiResponse ""
  | .delay => .delay .null
  | .condition => .condition "" "==" ""
  | .setVariable => .setVariable "" ""
  | .httpRequest => .httpRequest "" "GET" (.template "") ""

theorem ofData_nil (kind : NodeKind) : ofData kind [] = .ok (unset kind) := by
  cases kind <;> rfl

/-- The inputs of a kind and their defaults. -/
def defaults (kind : NodeKind) : Entries Value := (unset kind).fields

/-- Payloads of a kind have the same inputs. -/
theorem keys_fields (p : Payload) : p.fields.keys = (defaults p.kind).keys := by
  cases p <;> rfl

variable {kind : NodeKind} {es es' : Entries Value} {k : String}

/-- Null or nothing. -/
def IsOpen (es : Entries Value) (k : String) : Prop := es.get? k = none ∨ es.get? k = some .null

/-- Data that come to the same for an input: they give it the same value, or each leaves it open or has the
default there. -/
inductive SameInput (default : Value) (es es' : Entries Value) (k : String) : Prop
  | given (h : es.get? k = es'.get? k)
  | unset (h : IsOpen es k ∨ es.get? k = some default) (h' : IsOpen es' k ∨ es'.get? k = some default)

section
variable {α : Type} {default : α} {d : Value} {read : Value → Checked α}

theorem input_of_isOpen (h : IsOpen es k) : input es k default read = .ok default := by
  unfold input
  rcases h with h | h <;> rw [h]

/-- The default passes the check of its input. -/
theorem input_of_default (hread : read d = .ok default) (h : es.get? k = some d) :
    input es k default read = .ok default := by
  cases d with
  | null => exact input_of_isOpen (.inr h)
  | _ => simp only [input, h, hread, Checked.under]

theorem input_congr (hread : read d = .ok default) (h : SameInput d es es' k) :
    input es k default read = input es' k default read := by
  cases h with
  | given h => rw [input, input, h]
  | unset h h' =>
    rw [h.elim input_of_isOpen (input_of_default hread), h'.elim input_of_isOpen (input_of_default hread)]

end

/-- A payload takes nothing from the data but its inputs, and each default passes the check of its own. -/
theorem ofData_congr (h : ∀ k d, (defaults kind).get? k = some d → SameInput d es es' k) :
    ofData kind es = ofData kind es' := by
  have hinput {α : Type} (k : String) (d : Value) (default : α) (read : Value → Checked α)
      (hk : (defaults kind).get? k = some d) (hread : read d = .ok default) :
      input es k default read = input es' k default read := input_congr hread (h k d hk)
  have htext (k default : String) (hk : (defaults kind).get? k = some (.text default)) :
      textInput es k default = textInput es' k default := hinput k _ default typedText hk rfl
  cases kind with
  | trigger => simp only [ofData, htext "trigger_type" "" rfl, htext "trigger_value" "" rfl]
  | sendText => simp only [ofData, htext "text" "" rfl]
  | sendImage => simp only [ofData, htext "url" "" rfl, htext "caption" "" rfl]
  | sendAudio =>
    simp only [ofData, htext "url" "" rfl, hinput "ptt" (.bool true) true Schema.switch rfl rfl]
  | sendVideo => simp only [ofData, htext "url" "" rfl, htext "caption" "" rfl]
  | sendPoll =>
    simp only [ofData, htext "question" "" rfl, hinput "options" (.text "") (.lines "") readChoices rfl rfl,
      hinput "multiSelect" (.bool false) false Schema.switch rfl rfl]
  | sendButtons =>
    simp only [ofData, htext "text" "" rfl, hinput "buttons" (.text "") (.lines "") readChoices rfl rfl]
  | aiResponse => simp only [ofData, htext "prompt" "" rfl]
  | delay => simp only [ofData, hinput "seconds" .null .null .ok rfl rfl]
  | condition =>
    simp only [ofData, htext "left" "" rfl, htext "operator" "==" rfl, htext "right" "" rfl]
  | setVariable => simp only [ofData, htext "name" "" rfl, htext "value" "" rfl]
  | httpRequest =>
    simp only [ofData, htext "url" "" rfl, htext "method" "GET" rfl,
      hinput "headers" (.text "") (.template "") readHeaders rfl rfl, htext "body" "" rfl]

end Payload

namespace Node

/-- The node with new values for some of its inputs. -/
def setting (n : Node) (new : Entries Value) : Node := { n with givenData := some (n.data.putAll new) }

/-- The node with some of its inputs left out. -/
def leavingOut (n : Node) (ks : List String) : Node :=
  { n with givenData := some (n.data.filter fun e => !ks.contains e.1) }

/-- The node with some of its inputs cleared. -/
def clearing (n : Node) (ks : List String) : Node := n.setting (ks.map fun k => (k, .null))

/-- The node with some inputs of its kind set to their defaults. -/
def resetting (n : Node) (kind : NodeKind) (ks : List String) : Node :=
  n.setting (ks.map fun k => (k, ((Payload.defaults kind).get? k).getD .null))

variable {n : Node} {kind : NodeKind} {ks : List String}

theorem sameInput_clearing {k : String} {d : Value} :
    Payload.SameInput d (n.clearing ks).data (n.leavingOut ks).data k := by
  have hcleared := Entries.get?_putAll_map (fun _ => Value.null) ks n.data k
  have hleft := Entries.get?_filter_not_mem n.data ks k
  by_cases hk : k ∈ ks
  · rw [if_pos hk] at hcleared hleft
    exact .unset (.inl (.inr hcleared)) (.inl (.inl hleft))
  · rw [if_neg hk] at hcleared hleft
    exact .given (hcleared.trans hleft.symm)

theorem sameInput_resetting {k : String} {d : Value} (hd : (Payload.defaults kind).get? k = some d) :
    Payload.SameInput d (n.resetting kind ks).data (n.leavingOut ks).data k := by
  have hreset := Entries.get?_putAll_map
    (fun k => ((Payload.defaults kind).get? k).getD .null) ks n.data k
  have hleft := Entries.get?_filter_not_mem n.data ks k
  by_cases hk : k ∈ ks
  · rw [if_pos hk, hd] at hreset
    rw [if_pos hk] at hleft
    exact .unset (.inr hreset) (.inl (.inl hleft))
  · rw [if_neg hk] at hreset hleft
    exact .given (hreset.trans hleft.symm)

/-- Two nodes that are the same to whoever reads their payload, with the keys that are no inputs, and to
whoever executes them. -/
structure SamePayload (kind : NodeKind) (n m : Node) : Prop where
  payload : Payload.ofNode kind n = Payload.ofNode kind m
  fields : ∀ p, Payload.ofNode kind n = .ok p → p.allFields n.data = p.allFields m.data
  executed : ∀ (σ : Type) (e : Engine σ) (r : Run σ), e.execute n r = e.execute m r

/-- The entries of data that are no inputs of a kind. -/
def others (kind : NodeKind) (es : Entries Value) : Entries Value :=
  es.filter fun e => !(Payload.defaults kind).keys.contains e.1

theorem allFields_eq (p : Payload) (es : Entries Value) :
    p.allFields es = p.fields ++ others p.kind es := by
  have hkeys (k : String) : p.fields.has k = (Payload.defaults p.kind).keys.contains k := by
    rw [Bool.eq_iff_iff, Entries.has_iff, List.contains_iff_mem, Payload.keys_fields]
  simp only [Payload.allFields, others, hkeys]

theorem samePayload_of_sameInput {m : Node} (hkind : n.kind? = some kind) (hid : n.id = m.id)
    (hname : n.kindName = m.kindName)
    (hinputs : ∀ k d, (Payload.defaults kind).get? k = some d → Payload.SameInput d n.data m.data k)
    (hothers : others kind n.data = others kind m.data) : SamePayload kind n m := by
  have hpayload : Payload.ofNode kind n = Payload.ofNode kind m := by
    rw [Payload.ofNode, Payload.ofNode, Payload.ofData_congr hinputs]
  have hkind' : m.kind? = some kind := by rw [← hkind, kind?, kind?, hname]
  refine ⟨hpayload, fun p hp => ?_, fun σ e r => ?_⟩
  · rw [allFields_eq, allFields_eq, Payload.kind_of_ofNode hp, hothers]
  · simp only [Engine.execute, hkind, hkind', Engine.attempt, hpayload, hid]

section
variable (hks : ∀ k ∈ ks, k ∈ (Payload.defaults kind).keys)
include hks

theorem others_leavingOut : others kind (n.leavingOut ks).data = others kind n.data := by
  have hdata : (n.leavingOut ks).data = n.data.filter fun e => !ks.contains e.1 := rfl
  rw [hdata, others, List.filter_filter, others]
  refine List.filter_congr fun e _ => ?_
  by_cases he : e.1 ∈ ks
  · simp [he, hks _ he]
  · simp [he]

theorem others_setting (f : String → Value) :
    others kind (n.setting (ks.map fun k => (k, f k))).data = others kind (n.leavingOut ks).data := by
  rw [others_leavingOut hks]
  exact Entries.filter_putAll_map hks f n.data

/-- A node with some of its inputs cleared is the same as one with these inputs left out, and as one with
them set to their defaults: its payload or all that is wrong with it, and all that it does. -/
theorem cleared_as_unset (hkind : n.kind? = some kind) :
    SamePayload kind (n.clearing ks) (n.leavingOut ks) ∧
      SamePayload kind (n.resetting kind ks) (n.leavingOut ks) :=
  ⟨samePayload_of_sameInput hkind rfl rfl (fun _ _ _ => sameInput_clearing) (others_setting hks _),
    samePayload_of_sameInput hkind rfl rfl (fun _ _ => sameInput_resetting) (others_setting hks _)⟩

end

/-- A poll with a key that is no input, and a question that cannot be read. -/
def poll : Node :=
  ⟨"p", "send_poll", some [("question", .list []), ("color", .text "red"), ("multiSelect", .bool true)],
    none, []⟩

theorem poll_cleared_as_unset :
    poll.kind? = some .sendPoll ∧ (∀ k ∈ ["options", "multiSelect"], k ∈ (Payload.defaults .sendPoll).keys) ∧
    SamePayload .sendPoll (poll.clearing ["options", "multiSelect"])
      (poll.leavingOut ["options", "multiSelect"]) ∧
    Payload.ofNode .sendPoll (poll.clearing ["options", "multiSelect"]) =
      .error (.invalid "SendPollData" [⟨[.name "question"], .notText⟩]) := by
  have hkind : poll.kind? = some .sendPoll := by decide
  have hks : ∀ k ∈ ["options", "multiSelect"], k ∈ (Payload.defaults .sendPoll).keys := by decide
  exact ⟨hkind, hks, (cleared_as_unset hks hkind).1, rfl⟩

end Node
end ChatAutomation
