import ChatAutomation.Proofs.Flow.Input
import ChatAutomation.Proofs.Trigger.Matching
import ChatAutomation.Proofs.Value.Figures

/-!
# Numbers typed as the value of a trigger

What a node leaves open is taken from its flow, and a number counts as given unless it is zero. So a number
stands for its text as a trigger's value, and zero for the value of the flow, which may be empty: a rule that
should look for a zero then finds its value in every message.
-/
namespace ChatAutomation

namespace Trigger

/-- The input that holds what a trigger looks for. -/
def valueKey : String := "trigger_value"

/-- The text that a number stands for as the value of a trigger, in a flow that has a value of its own. -/
def typedValue (k : Int) (default : String) : String := if k = 0 then default else toString k

theorem kindName_ofNode_withInput (n : Node) (f : Flow) (v w : Value) :
    (ofNode (n.withInput valueKey v) f).kindName = (ofNode (n.withInput valueKey w) f).kindName := by
  have hkey : "trigger_type" ≠ valueKey := by decide
  simp only [ofNode, ownOr, Node.data_withInput, Entries.get?_put_ne _ _ hkey]

theorem value_ofNode_withInput (n : Node) (f : Flow) (v : Value) :
    (ofNode (n.withInput valueKey v) f).value = if v.isGiven then v.plain else f.triggerValue := by
  have hget : (n.data.put valueKey v).get? "trigger_value" = some v :=
    Entries.get?_put_self n.data valueKey v
  simp only [ofNode, ownOr, Node.data_withInput, hget]

theorem value_ofNode_withInput_int (n : Node) (f : Flow) (k : Int) :
    (ofNode (n.withInput valueKey (.int k)) f).value = typedValue k f.triggerValue := by
  rw [value_ofNode_withInput]
  by_cases hk : k = 0 <;> simp [Value.isGiven, Value.plain, Value.literal, typedValue, hk]

theorem value_ofNode_withInput_text (n : Node) (f : Flow) (s : String) :
    (ofNode (n.withInput valueKey (.text s)) f).value = if s = "" then f.triggerValue else s := by
  rw [value_ofNode_withInput]
  by_cases hs : s = "" <;> simp [Value.isGiven, Value.plain, hs]

/-- A number and the text that it stands for make the same rule. -/
theorem ofNode_withInput_int (n : Node) (f : Flow) (k : Int) :
    ofNode (n.withInput valueKey (.int k)) f =
      ofNode (n.withInput valueKey (.text (typedValue k f.triggerValue))) f := by
  refine congrArg₂ Trigger.mk (kindName_ofNode_withInput n f _ _) ?_
  change (ofNode _ f).value = (ofNode _ f).value
  rw [value_ofNode_withInput_int, value_ofNode_withInput_text]
  -- an empty text leaves the value to the flow again, which is what zero stands for
  split_ifs with hempty
  · by_cases hk : k = 0
    · rw [typedValue, if_pos hk]
    · rw [typedValue, if_neg hk] at hempty
      exact absurd hempty (toString_int_ne_empty k)
  · rfl

end Trigger

namespace TriggerMatch

/-- The ids of the flow and of the trigger node that a message was matched with. -/
def ids (c : TriggerMatch) : String × String := (c.flow.id, c.node.id)

/-- Candidates with the same ids and the same rule. -/
structure Alike (c d : TriggerMatch) : Prop where
  ids_eq : c.ids = d.ids
  trigger_eq : c.trigger = d.trigger

theorem Alike.refl (c : TriggerMatch) : Alike c c := ⟨rfl, rfl⟩

theorem first_alike (m : Incoming) {cs ds : List TriggerMatch} (h : List.Forall₂ Alike cs ds) :
    (first m cs).map (Option.map ids) = (first m ds).map (Option.map ids) := by
  induction h with
  | nil => rfl
  | @cons c d cs ds hcd _ ih =>
    rw [first, first, hcd.trigger_eq]
    cases d.trigger.holds m with
    | error x => rfl
    | ok b =>
      cases b with
      | true => exact congrArg (fun i => Except.ok (some i)) hcd.ids_eq
      | false => exact ih

end TriggerMatch

namespace Flow

theorem candidates_append (fs gs : List Flow) :
    candidates (fs ++ gs) = candidates fs ++ candidates gs := List.flatMap_append

/-- Flows whose nodes are alike one by one have candidates that are. -/
theorem candidates_alike {f g : Flow} (henabled : f.enabled = g.enabled)
    (hnodes : List.Forall₂ (fun a b => TriggerMatch.Alike ⟨f, a⟩ ⟨g, b⟩ ∧ a.isTrigger = b.isTrigger)
      f.nodes g.nodes) :
    List.Forall₂ TriggerMatch.Alike (candidates [f]) (candidates [g]) := by
  have htriggers : List.Forall₂ (fun a b => TriggerMatch.Alike ⟨f, a⟩ ⟨g, b⟩) f.triggers g.triggers :=
    (List.rel_filter (fun _ _ hab => iff_of_eq (congrArg (· = true) hab.2)) hnodes).imp
      fun _ _ hab => hab.1
  simp only [candidates, List.flatMap_singleton, henabled]
  split_ifs
  · rw [List.forall₂_map_left_iff, List.forall₂_map_right_iff]
    exact htriggers
  · exact .nil

/-- Two values for a trigger of a flow give the same answers if they give the same rule. -/
theorem firstMatch_withInput_eq {f : Flow} {v w : Value} (h : ∀ n : Node,
      Trigger.ofNode (n.withInput Trigger.valueKey v) f = Trigger.ofNode (n.withInput Trigger.valueKey w) f)
    (i : Nat) (fs gs : List Flow) (m : Incoming) :
    let found := fun u : Value => (firstMatch m (fs ++ f.withInput i Trigger.valueKey u :: gs)).map
      (Option.map TriggerMatch.ids)
    found v = found w := by
  intro found
  have hsame (hs : List Flow) : List.Forall₂ TriggerMatch.Alike (candidates hs) (candidates hs) :=
    List.forall₂_same.2 fun c _ => .refl c
  have hflow : List.Forall₂ TriggerMatch.Alike (candidates [f.withInput i Trigger.valueKey v])
      (candidates [f.withInput i Trigger.valueKey w]) :=
    candidates_alike rfl
      (forall₂_modify (fun _ => ⟨⟨rfl, rfl⟩, rfl⟩) (fun n => ⟨⟨rfl, h n⟩, rfl⟩) f.nodes i)
  change (firstMatch m _).map _ = (firstMatch m _).map _
  -- the flows around the changed one have the same candidates before and after
  have hsplit (g : Flow) : candidates (fs ++ g :: gs) = candidates fs ++ candidates [g] ++ candidates gs := by
    rw [List.append_cons, candidates_append, candidates_append]
  rw [firstMatch_eq_first, firstMatch_eq_first, hsplit, hsplit]
  exact TriggerMatch.first_alike m (List.rel_append (List.rel_append (hsame fs) hflow) (hsame gs))

/-- A number typed as the value of a trigger is matched as its text is, in every flow and behind all others,
as long as it is not zero. Zero stands for the value of the flow, so it is matched as its text is where the
flow has a zero for its value. -/
theorem firstMatch_typed_number (f : Flow) (i : Nat) (k : Int) (fs gs : List Flow) (m : Incoming) :
    let found := fun v : Value => (firstMatch m (fs ++ f.withInput i Trigger.valueKey v :: gs)).map
      (Option.map TriggerMatch.ids)
    found (.int k) = found (.text (if k = 0 then f.triggerValue else toString k)) ∧
      (k ≠ 0 ∨ f.triggerValue = "0" → found (.int k) = found (.text (toString k))) := by
  intro found
  have htyped : found (.int k) = found (.text (Trigger.typedValue k f.triggerValue)) :=
    firstMatch_withInput_eq (fun n => Trigger.ofNode_withInput_int n f k) i fs gs m
  refine ⟨htyped, fun hk => ?_⟩
  have htext : Trigger.typedValue k f.triggerValue = toString k := by
    rw [Trigger.typedValue]
    split_ifs with hzero
    · rw [hk.resolve_left (not_not_intro hzero), hzero]
      rfl
    · rfl
  rw [htyped, htext]

/-- The number of an order is found in a message, behind a flow that the message does not start. -/
theorem firstMatch_typed_number_order :
    let f := watching "f2" "keyword" ""
    let found := fun v : Value => (firstMatch ⟨"Pedido 42", false, false⟩
      ([watching "f1" "exact" "42"] ++ f.withInput 0 Trigger.valueKey v :: [])).map
        (Option.map TriggerMatch.ids)
    ((42 : Int) ≠ 0 ∨ f.triggerValue = "0") ∧ found (.int 42) = .ok (some ("f2", "t")) := by
  intro f found
  have hk : (42 : Int) ≠ 0 ∨ f.triggerValue = "0" := .inl (by decide)
  have htyped := (firstMatch_typed_number f 0 42 [watching "f1" "exact" "42"] []
    ⟨"Pedido 42", false, false⟩).2 hk
  refine ⟨hk, htyped.trans ?_⟩
  decide +kernel

/-- A keyword rule for a zero answers a message that has none if the zero is typed as a number. -/
theorem firstMatch_typed_zero :
    let found := fun v : Value =>
      (firstMatch ⟨"oi", false, false⟩ [(watching "f1" "keyword" "").withInput 0 Trigger.valueKey v]).map
        (Option.map TriggerMatch.ids)
    found (.int 0) = .ok (some ("f1", "t")) ∧ found (.text (toString (0 : Int))) = .ok none := by
  decide +kernel

end Flow
end ChatAutomation
