import ChatAutomation.Automation
import ChatAutomation.Proofs.Action.Record
import ChatAutomation.Proofs.Walk.Loop

/-!
# Who a run talks to

The recipient of a message is read from a variable, which a run sets before it starts and which callers
and nodes can name, too. No node writes it but one that sets a variable of that very name, so without
such a node all messages go to the chat that the run was started for: `execute_addressed`.
-/
namespace ChatAutomation

theorem Engine.orElse_eq {s default name : String} (hd : default ≠ name) (h : orElse s default = name) :
    s = name := by
  unfold orElse at h
  split at h
  · exact absurd h hd
  · exact h

/-- Only a payload that sets a variable can write the name of the chat. -/
theorem Payload.eq_setVariable_of_written {p : Payload} (h : Variables.jid ∈ p.written) :
    ∃ value, p = .setVariable Variables.jid value := by
  cases p with
  | setVariable name value =>
    have hname := Engine.orElse_eq (by decide) (List.mem_singleton.1 h).symm
    exact ⟨value, by rw [hname]⟩
  | _ =>
    simp [written, Variables.jid, Variables.aiResponse, Variables.conditionResult,
      Variables.httpResponse, Variables.httpStatus] at h

namespace Flow

/-- No node of the flow that can be read sets a variable with the name of the chat. -/
def KeepsChat (f : Flow) : Prop :=
  ∀ n ∈ f.nodes, n.kind? = some .setVariable →
    ∀ name value, Payload.ofNode .setVariable n = .ok (.setVariable name value) → name ≠ Variables.jid

theorem KeepsChat.not_writes {f : Flow} (hf : f.KeepsChat) {n : Node} (hn : n ∈ f.nodes) :
    ¬ n.Writes Variables.jid := by
  rintro ⟨kind, p, hkind, hp, hwritten⟩
  obtain ⟨value, rfl⟩ := Payload.eq_setVariable_of_written hwritten
  obtain rfl : NodeKind.setVariable = kind := Payload.kind_of_ofNode hp
  exact hf n hn hkind Variables.jid value hp rfl

end Flow

theorem Variables.get?_seed_jid (chat body stamp : Value) (initial : Variables) :
    (seed chat body stamp initial).get? jid = some chat := by
  have hmessage : jid ≠ message := by decide
  have htimestamp : jid ≠ timestamp := by decide
  rw [seed, Entries.get?_put_ne _ _ htimestamp, Entries.get?_put_ne _ _ hmessage,
    Entries.get?_put_self]

namespace Run
variable {σ : Type}

/-- The variables name the chat, and whatever was sent went there. -/
structure Addressed (chat : Value) (r : Run (σ × List Sent)) : Prop where
  named : r.vars.get? Variables.jid = some chat
  sent : ∀ s ∈ r.sent, s.recipient = chat

theorem Addressed.recipient {chat : Value} {r : Run (σ × List Sent)} (h : r.Addressed chat) :
    r.vars.recipient = chat := by
  rw [Variables.recipient, h.named]
  rfl

theorem Addressed.execute {chat : Value} {r : Run (σ × List Sent)} (h : r.Addressed chat)
    (e : Engine σ) {n : Node} (hn : ¬ n.Writes Variables.jid) :
    (e.recorded.execute n r).2.Addressed chat := by
  constructor
  · rw [Engine.get?_execute _ _ hn]
    exact h.named
  · intro s hs
    obtain ⟨m, hsent⟩ := Engine.sends_execute e r n
    rw [hsent, List.mem_append, h.recipient] at hs
    rcases hs with hs | hs
    · exact h.sent s hs
    · obtain ⟨_, -, rfl⟩ := List.mem_map.1 hs
      rfl

end Run

namespace Walk
variable {σ : Type} (e : Engine σ) (f : Flow)

/-! ## A walk without its record -/

/-- A walk without the record of its run. -/
def forget (w : Walk (σ × List Sent)) : Walk σ := { w with run := w.run.forget }

theorem visit_forget (n : Node) (w : Walk (σ × List Sent)) :
    w.forget.visit e n = (w.visit e.recorded n).forget := by
  unfold visit
  dsimp only [forget]
  rw [Engine.execute_forget]
  rfl

theorem meet_forget (id : String) (w : Walk (σ × List Sent)) :
    w.forget.meet e f id =
      ((w.meet e.recorded f id).1, (w.meet e.recorded f id).2.forget) := by
  unfold meet
  cases f.node? id with
  | none => rfl
  | some n =>
    have hvisit := visit_forget e n { w with met := id :: w.met }
    dsimp only [forget] at hvisit ⊢
    rw [hvisit]
    rfl

theorem steps_forget (fuel : Nat) (pending : List String) (w : Walk (σ × List Sent)) :
    steps e f fuel pending w.forget = (steps e.recorded f fuel pending w).forget := by
  induction fuel generalizing pending w with
  | zero => rfl
  | succ fuel ih =>
    cases pending with
    | nil => rfl
    | cons id pending =>
      by_cases h : w.met.contains id = true
      · rw [steps_met e f fuel id pending (w := w.forget) h,
          steps_met e.recorded f fuel id pending h]
        exact ih pending w
      · rw [Bool.not_eq_true] at h
        rw [steps_new e f fuel id pending (w := w.forget) h,
          steps_new e.recorded f fuel id pending h, meet_forget]
        exact ih _ _

theorem fromId_forget (id : String) (r : Run (σ × List Sent)) :
    fromId e f id r.forget = (fromId e.recorded f id r).forget :=
  steps_forget e f (f.edges.length + 1) [id] (start r)

/-! ## Where messages go -/

theorem addressed_meet {f : Flow} (hf : f.KeepsChat) {chat : Value} (id : String)
    {w : Walk (σ × List Sent)} (h : w.run.Addressed chat) :
    (w.meet e.recorded f id).2.run.Addressed chat := by
  unfold meet
  cases hn : f.node? id with
  | none => exact h
  | some n => exact h.execute e (hf.not_writes (List.mem_of_find?_eq_some hn))

theorem addressed_fromId {f : Flow} (hf : f.KeepsChat) {chat : Value} (id : String)
    {r : Run (σ × List Sent)} (h : r.Addressed chat) :
    (fromId e.recorded f id r).run.Addressed chat := by
  obtain ⟨n, -, hpops⟩ := pops_fromId e.recorded f id r
  exact hpops.invariant (P := fun _ w => w.run.Addressed chat) (fun _ _ _ _ h => h)
    (fun id _ _ _ h => addressed_meet e hf id h) h

end Walk

namespace Engine
variable {σ : Type} (e : Engine σ) (f : Flow)

theorem runFlow_forget (start : Option String) (r : Run (σ × List Sent)) :
    e.runFlow f start r.forget =
      ((e.recorded.runFlow f start r).1, (e.recorded.runFlow f start r).2.forget) := by
  unfold runFlow
  cases f.entry? start with
  | none => rfl
  | some id =>
    dsimp only
    rw [Walk.fromId_forget]
    rfl

theorem addressed_runFlow {f : Flow} (hf : f.KeepsChat) {chat : Value} (start : Option String)
    {r : Run (σ × List Sent)} (h : r.Addressed chat) :
    (e.recorded.runFlow f start r).2.Addressed chat := by
  unfold runFlow
  cases f.entry? start with
  | none => exact ⟨h.named, h.sent⟩
  | some id =>
    have hwalk := Walk.addressed_fromId e hf id h
    exact ⟨hwalk.named, hwalk.sent⟩

end Engine

namespace Automation
variable {σ : Type}

/-- A run sends all its messages to the chat that it was started for, whatever else its variables are
and whatever the collaborators do. The record with which this is said takes no part in the run. -/
theorem execute_addressed {f : Flow} (hf : f.KeepsChat) (now : Timestamp) (e : Engine σ)
    (chat body : Value) (start : Option String) (initial : Variables) (outside : σ) :
    let (report, run) := execute now e.recorded f chat body start initial (outside, [])
    (report, run.forget) = execute now e f chat body start initial outside ∧
      ∀ s ∈ run.sent, s.recipient = chat := by
  have hstart : Run.Addressed (σ := σ) chat
      ⟨Variables.seed chat body (.int now.millis) initial, (outside, []), []⟩ :=
    ⟨Variables.get?_seed_jid chat body _ initial, fun _ hs => nomatch hs⟩
  refine ⟨(e.runFlow_forget f start _).symm, ?_⟩
  exact (e.addressed_runFlow hf start hstart).sent

/-- Every reply is the name of another chat. -/
def misleading : Engine Unit where
  collaborators :=
    { send := fun _ _ s => (.ok (), s)
      respond := fun _ _ s => (.ok (.text "mallory"), s)
      fetch := fun _ s => (.ok ⟨200, "mallory"⟩, s)
      sleep := fun _ s => (.ok (), s) }
  defaultDelay := .int 1

/-- A reply is stored under a name that is almost the one of the chat, and sent. -/
def almost : Flow :=
  { (default : Flow) with
    nodes := [⟨"a", "ai_response", none, none, []⟩,
      ⟨"b", "set_variable", some [("name", .text "jid"), ("value", .text "mallory")], none, []⟩,
      ⟨"c", "send_text", some [("text", .text "Oi")], none, []⟩]
    edges := [⟨"ab", "a", "b", none, none, []⟩, ⟨"bc", "b", "c", none, none, []⟩] }

theorem execute_addressed_almost :
    almost.KeepsChat ∧
    let run := (execute ⟨0, none⟩ misleading.recorded almost (.text "alice") (.text "Oi") (some "a")
      [(Variables.jid, .text "mallory")] ((), [])).2
    run.sent.length = 2 ∧ ∀ s ∈ run.sent, s.recipient = .text "alice" := by
  have hkeeps : almost.KeepsChat := by
    intro n hn hkind name value hp
    simp only [almost, List.mem_cons, List.not_mem_nil, or_false] at hn
    rcases hn with rfl | rfl | rfl
    · exact absurd hkind (by decide +kernel)
    · have hread : Payload.ofNode .setVariable ⟨"b", "set_variable",
          some [("name", .text "jid"), ("value", .text "mallory")], none, []⟩ =
          .ok (.setVariable "jid" "mallory") := rfl
      cases hread.symm.trans hp
      decide
    · exact absurd hkind (by decide +kernel)
  refine ⟨hkeeps, by rfl, ?_⟩
  exact (execute_addressed hkeeps ⟨0, none⟩ misleading (.text "alice") (.text "Oi") (some "a")
    [(Variables.jid, .text "mallory")] ()).2

end Automation
end ChatAutomation
