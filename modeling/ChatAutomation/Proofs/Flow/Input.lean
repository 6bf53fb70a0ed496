import Mathlib.Data.List.Forall2
import ChatAutomation.Flow

/-!
# Writing an input of a node

An editor writes the inputs of a node one at a time. Two values for the same input of the same node give
flows that are alike node by node.
-/
namespace ChatAutomation

/-- Lists in which one item was changed in two ways are alike item by item, if the changed items are. -/
theorem forall₂_modify {α : Type} {R : α → α → Prop} (hrefl : ∀ a, R a a) {f g : α → α}
    (h : ∀ a, R (f a) (g a)) (as : List α) (i : Nat) :
    List.Forall₂ R (as.modify i f) (as.modify i g) := by
  induction as generalizing i with
  | nil => simp
  | cons a as ih =>
    cases i with
    | zero =>
      rw [List.modify_zero_cons, List.modify_zero_cons]
      exact .cons (h a) (List.forall₂_same.2 fun b _ => hrefl b)
    | succ i =>
      rw [List.modify_succ_cons, List.modify_succ_cons]
      exact .cons (hrefl a) (ih i)

/-- The node with a value written to one of its inputs. -/
def Node.withInput (n : Node) (k : String) (v : Value) : Node :=
  { n with givenData := some (n.data.put k v) }

@[simp] theorem Node.data_withInput (n : Node) (k : String) (v : Value) :
    (n.withInput k v).data = n.data.put k v := rfl

/-- The flow with a value written to an input of the node at a place; there is no change if no node is. -/
def Flow.withInput (f : Flow) (i : Nat) (k : String) (v : Value) : Flow :=
  { f with nodes := f.nodes.modify i fun n => n.withInput k v }

end ChatAutomation
