import ChatAutomation.Proofs.Action.Effects

/-!
# A record of what is sent

`Engine.recorded` notes each message that is handed over for sending, and to whom. It changes nothing
else: `execute_forget`. A node sends one message at most, to the chat that the variables name when it
begins: `sends_execute`.
-/
namespace ChatAutomation

/-- A message that was handed over for sending. -/
structure Sent where
  recipient : Value
  message : Message

/-- The chat that the variables name. -/
def Variables.recipient (vars : Variables) : Value := (vars.get? jid).getD (.text "")

theorem Variables.recipient_eq {vars vars' : Variables} (h : vars'.get? jid = vars.get? jid) :
    vars'.recipient = vars.recipient := by
  rw [recipient, h, recipient]

/-- A reply is not stored under the name of the chat. -/
theorem Variables.recipient_put_aiResponse (vars : Variables) (reply : Value) :
    recipient (vars.put aiResponse reply) = vars.recipient := by
  have hname : jid ≠ aiResponse := by decide
  exact recipient_eq (Entries.get?_put_ne vars reply hname)

/-- A call, with some messages noted. -/
def noting {σ α : Type} (sent : List Sent) (call : σ → α × σ) (s : σ × List Sent) :
    α × σ × List Sent :=
  ((call s.1).1, (call s.1).2, s.2 ++ sent)

/-- The same engine with a record of what is sent. -/
def Engine.recorded {σ : Type} (e : Engine σ) : Engine (σ × List Sent) where
  collaborators :=
    { send := fun chat m => noting [⟨chat, m⟩] (e.collaborators.send chat m)
      respond := fun prompt said => noting [] (e.collaborators.respond prompt said)
      fetch := fun q => noting [] (e.collaborators.fetch q)
      sleep := fun seconds => noting [] (e.collaborators.sleep seconds) }
  defaultDelay := e.defaultDelay

namespace Run
variable {σ : Type}

/-- A run without its record. -/
def forget (r : Run (σ × List Sent)) : Run σ := { r with outside := r.outside.1 }

def sent (r : Run (σ × List Sent)) : List Sent := r.outside.2

@[simp] theorem vars_forget (r : Run (σ × List Sent)) : r.forget.vars = r.vars := rfl

theorem ask_forget {α : Type} (sent : List Sent) (call : σ → Except Fault α × σ)
    (r : Run (σ × List Sent)) :
    r.forget.ask call = Prod.map id forget (r.ask (noting sent call)) := rfl

/-- From one run to the other a message was sent at most, and to nobody but the recipient. -/
def SendsTo (recipient : Value) (r r' : Run (σ × List Sent)) : Prop :=
  ∃ m : Option Message, r'.sent = r.sent ++ m.toList.map (Sent.mk recipient)

theorem SendsTo.of_sent_eq {r r' : Run (σ × List Sent)} (h : r'.sent = r.sent)
    (recipient : Value) : SendsTo recipient r r' := ⟨none, by simp [h]⟩

theorem sent_ask {α : Type} (call : σ → Except Fault α × σ) (r : Run (σ × List Sent)) :
    (r.ask (noting [] call)).2.sent = r.sent := List.append_nil _

end Run

namespace Engine
variable {σ : Type} (e : Engine σ) (r : Run (σ × List Sent))

open Run

/-! ## Nothing else changes -/

theorem send_forget (m : Message) :
    e.send m r.forget = Prod.map id forget (e.recorded.send m r) := rfl

theorem reply_forget (prompt : String) :
    e.reply prompt r.forget = Prod.map id forget (e.recorded.reply prompt r) := by
  unfold reply
  dsimp only [vars_forget, recorded]
  rw [ask_forget []]
  generalize r.ask _ = asked
  rcases asked with ⟨_ | answer, r₁⟩
  · rfl
  · cases answer <;> rfl

theorem fetch_forget (q : Request) :
    e.fetch q r.forget = Prod.map id forget (e.recorded.fetch q r) := by
  unfold fetch
  dsimp only [recorded]
  rw [ask_forget []]
  generalize r.ask _ = asked
  rcases asked with ⟨_ | answer, r₁⟩ <;> rfl

theorem wait_forget (seconds : Value) :
    e.wait seconds r.forget = Prod.map id forget (e.recorded.wait seconds r) := by
  unfold wait
  dsimp only [recorded]
  split <;> rfl

theorem perform_forget (p : Payload) :
    e.perform p r.forget = Prod.map id forget (e.recorded.perform p r) := by
  unfold perform
  dsimp only [vars_forget]
  split
  · exact send_forget e r _
  · cases p with
    | aiResponse prompt => exact reply_forget e r prompt
    | delay seconds => exact wait_forget e r seconds
    | httpRequest url method headers body =>
      dsimp only
      split
      · exact fetch_forget e r _
      · rfl
    | _ => rfl

theorem attempt_forget (kind : NodeKind) (n : Node) :
    e.attempt kind n r.forget = Prod.map id forget (e.recorded.attempt kind n r) := by
  unfold attempt
  split
  · exact perform_forget e r _
  · rfl

/-- The record has no part in what becomes of a node. -/
theorem execute_forget (n : Node) :
    e.execute n r.forget = Prod.map id forget (e.recorded.execute n r) := by
  unfold execute
  split
  · rfl
  · rw [attempt_forget]
    generalize e.recorded.attempt _ n r = attempted
    rcases attempted with ⟨_ | _, r₁⟩ <;> rfl

/-! ## One message at most -/

theorem sends_send (m : Message) :
    SendsTo r.vars.recipient r (e.recorded.send m r).2 := ⟨some m, rfl⟩

theorem sends_reply (prompt : String) :
    SendsTo r.vars.recipient r (e.recorded.reply prompt r).2 := by
  unfold reply
  dsimp only [recorded]
  generalize e.collaborators.respond _ _ = call
  have hsent := sent_ask call r
  have hvars : (r.ask (noting [] call)).2.vars = r.vars := rfl
  generalize r.ask (noting [] call) = asked at hsent hvars ⊢
  rcases asked with ⟨_ | answer, r₁⟩
  · exact .of_sent_eq hsent _
  · cases answer with
    | text s =>
      rw [← hvars, ← Variables.recipient_put_aiResponse r₁.vars (.text s)]
      exact ⟨some (.text s), congrArg (· ++ [_]) hsent⟩
    | _ => exact .of_sent_eq hsent _

theorem sent_fetch (q : Request) : (e.recorded.fetch q r).2.sent = r.sent := by
  unfold fetch
  dsimp only [recorded]
  have hsent := sent_ask (e.collaborators.fetch q) r
  generalize r.ask _ = asked at hsent ⊢
  rcases asked with ⟨_ | answer, r₁⟩ <;> exact hsent

theorem sent_wait (seconds : Value) : (e.recorded.wait seconds r).2.sent = r.sent := by
  unfold wait
  split
  · exact sent_ask _ r
  · rfl

theorem sends_perform (p : Payload) :
    SendsTo r.vars.recipient r (e.recorded.perform p r).2 := by
  unfold perform
  split
  · exact sends_send e r _
  · cases p with
    | aiResponse prompt => exact sends_reply e r prompt
    | delay seconds => exact .of_sent_eq (sent_wait e r seconds) _
    | httpRequest url method headers body =>
      dsimp only
      split
      · exact .of_sent_eq (sent_fetch e r _) _
      · exact .of_sent_eq rfl _
    | _ => exact .of_sent_eq rfl _

theorem sends_attempt (kind : NodeKind) (n : Node) :
    SendsTo r.vars.recipient r (e.recorded.attempt kind n r).2 := by
  unfold attempt
  split
  · exact sends_perform e r _
  · exact .of_sent_eq rfl _

/-- A node sends one message at most, to the chat that the variables name when it begins. -/
theorem sends_execute (n : Node) : SendsTo r.vars.recipient r (e.recorded.execute n r).2 := by
  cases hkind : n.kind? with
  | none =>
    rw [execute_of_unknown _ _ hkind]
    exact .of_sent_eq rfl _
  | some kind =>
    obtain ⟨outcome, hrun⟩ := run_execute e.recorded r hkind
    rw [hrun]
    exact sends_attempt e r kind n

end Engine
end ChatAutomation
