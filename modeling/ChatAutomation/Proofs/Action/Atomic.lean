import ChatAutomation.Proofs.Action.Record

/-!
# All or nothing

A payload that is carried out writes all the variables that its kind names, and one that fails writes
none, so that no later node reads what a failed one left half written. A reply is the exception: it is
stored before it is sent on, and it stays when it cannot be. `execute_atomic` puts this together for a
node of any kind with any data.
-/
namespace ChatAutomation

/-- The variables that executing the node may write. -/
def Node.written (n : Node) : List String :=
  match n.kind? with
  | none => []
  | some kind =>
    match Payload.ofNode kind n with
    | .ok p => p.written
    | .error _ => []

theorem Node.mem_written_iff {n : Node} {name : String} : name ∈ n.written ↔ n.Writes name := by
  unfold written Writes
  cases n.kind? with
  | none => simp
  | some kind => cases hp : Payload.ofNode kind n <;> simp [hp]

namespace Run
variable {σ : Type} {r r' : Run σ}

/-- The named variables were written, one after the other, and nothing else. -/
def Wrote (names : List String) (r r' : Run σ) : Prop :=
  ∃ news : Variables, news.keys = names ∧ r'.vars = r.vars.putAll news

theorem wrote_nil (h : r'.vars = r.vars) : Wrote [] r r' := ⟨[], rfl, h⟩

theorem wrote_singleton {k : String} {v : Value} (h : r'.vars = r.vars.put k v) : Wrote [k] r r' :=
  ⟨[(k, v)], rfl, h⟩

/-- What becomes of the variables when something is carried out that names some of them and that may lose
a reply. -/
structure Settled (names : List String) (Lost : Value → Prop) (ok : Bool) (r r' : Run σ) : Prop where
  wrote : ok = true → Wrote names r r'
  same : ok = false → (∀ reply, ¬ Lost reply) → r'.vars = r.vars
  kept : ∀ reply, Lost reply → ok = false ∧ r'.vars = r.vars.put Variables.aiResponse reply

variable {names : List String} {Lost : Value → Prop}

theorem Settled.done (hlost : ∀ reply, ¬ Lost reply) (h : Wrote names r r') :
    Settled names Lost true r r' :=
  ⟨fun _ => h, nofun, fun reply hreply => absurd hreply (hlost reply)⟩

theorem Settled.failed (hlost : ∀ reply, ¬ Lost reply) (h : r'.vars = r.vars) :
    Settled names Lost false r r' :=
  ⟨nofun, fun _ _ => h, fun reply hreply => absurd hreply (hlost reply)⟩

theorem Settled.lost {reply : Value} (hreply : ∀ reply', Lost reply' ↔ reply' = reply)
    (h : r'.vars = r.vars.put Variables.aiResponse reply) : Settled names Lost false r r' := by
  refine ⟨nofun, fun _ hlost => absurd ((hreply reply).2 rfl) (hlost reply), fun reply' hlost => ?_⟩
  exact ⟨rfl, (hreply reply').1 hlost ▸ h⟩

/-- The same run with a record of its own, which is empty. -/
def recording (r : Run σ) : Run (σ × List Sent) := ⟨r.vars, (r.outside, []), r.samples⟩

end Run

namespace Engine
variable {σ : Type} (e : Engine σ) (r : Run σ)

open Run

/-! ## Replies -/

/-- What the responder says to a prompt and the message of the run. -/
def answer (prompt : String) : Except Fault Value × σ :=
  let said := (r.vars.get? Variables.message).getD .null
  e.collaborators.respond (Template.interpolateText (orElse prompt defaultPrompt) r.vars)
    (if said.isGiven then said.plain else "") r.outside

/-- The responder gave a reply that could not be sent on: it is no text, or sending it failed. -/
inductive Unsent (prompt : String) (reply : Value) : Prop
  | unreadable {outside : σ} {x : Fault} (hanswer : e.answer r prompt = (.ok reply, outside))
      (hmessage : replyMessage reply = .error x)
  | refused {outside : σ} {m : Message} {x : Fault}
      (hanswer : e.answer r prompt = (.ok reply, outside)) (hmessage : replyMessage reply = .ok m)
      (hsend : (e.collaborators.send r.vars.recipient m outside).1 = .error x)

theorem reply_eq (prompt : String) : e.reply prompt r =
    match e.answer r prompt with
    | (.error x, outside) => (.error x, { r with outside })
    | (.ok reply, outside) =>
      let stored := ({ r with outside } : Run σ).set Variables.aiResponse reply
      match replyMessage reply with
      | .ok m => e.send m stored
      | .error x => (.error x, stored) := by
  have hask : r.ask (e.collaborators.respond _ _) =
      ((e.answer r prompt).1, { r with outside := (e.answer r prompt).2 }) := rfl
  unfold reply
  dsimp only
  rw [hask]
  rcases e.answer r prompt with ⟨_ | reply, outside⟩
  · rfl
  · cases reply <;> rfl

theorem send_set_aiResponse (m : Message) (reply : Value) :
    e.send m (r.set Variables.aiResponse reply) =
      (r.set Variables.aiResponse reply).ask (e.collaborators.send r.vars.recipient m) := by
  rw [← Variables.recipient_put_aiResponse r.vars reply]
  rfl

variable {e r}

theorem Unsent.answer_eq {prompt : String} {reply : Value} (h : e.Unsent r prompt reply) :
    ∃ outside, e.answer r prompt = (.ok reply, outside) := by
  cases h with
  | unreadable hanswer _ => exact ⟨_, hanswer⟩
  | refused hanswer _ _ => exact ⟨_, hanswer⟩

theorem unsent_iff {prompt : String} {reply : Value} (h : e.Unsent r prompt reply) (reply' : Value) :
    e.Unsent r prompt reply' ↔ reply' = reply := by
  refine ⟨fun h' => ?_, fun heq => heq ▸ h⟩
  obtain ⟨_, hreply⟩ := h.answer_eq
  obtain ⟨_, hreply'⟩ := h'.answer_eq
  cases hreply.symm.trans hreply'
  rfl

variable (e r)

/-- The reply is stored as soon as there is one. -/
theorem settled_reply (prompt : String) :
    Settled [Variables.aiResponse] (e.Unsent r prompt) (e.reply prompt r).1.isOk r
      (e.reply prompt r).2 := by
  rw [reply_eq]
  rcases hanswer : e.answer r prompt with ⟨x | reply, outside⟩
  · refine .failed (fun reply hunsent => ?_) rfl
    obtain ⟨_, hreply⟩ := hunsent.answer_eq
    cases hreply.symm.trans hanswer
  · dsimp only
    cases hmessage : replyMessage reply with
    | error x => exact .lost (unsent_iff (.unreadable hanswer hmessage)) rfl
    | ok m =>
      dsimp only
      have hsend : ({ r with outside } : Run σ).vars.recipient = r.vars.recipient := rfl
      rw [send_set_aiResponse, hsend]
      change Settled _ _ (e.collaborators.send r.vars.recipient m outside).1.isOk r _
      cases hsent : (e.collaborators.send r.vars.recipient m outside).1 with
      | error x => exact .lost (unsent_iff (.refused hanswer hmessage hsent)) rfl
      | ok _ =>
        refine .done (fun reply' hunsent => ?_) (wrote_singleton rfl)
        cases hunsent with
        | unreadable hanswer' hmessage' =>
          cases hanswer'.symm.trans hanswer
          cases hmessage'.symm.trans hmessage
        | refused hanswer' hmessage' hsent' =>
          cases hanswer'.symm.trans hanswer
          cases hmessage'.symm.trans hmessage
          cases hsent'.symm.trans hsent

/-! ## Payloads -/

/-- A payload asked for a reply, got it, and could not send it on. -/
def Loses (p : Payload) (reply : Value) : Prop :=
  ∃ prompt, p = .aiResponse prompt ∧ e.Unsent r prompt reply

theorem not_loses {p : Payload} (hp : ∀ prompt, p ≠ .aiResponse prompt) (reply : Value) :
    ¬ e.Loses r p reply := by
  rintro ⟨prompt, heq, -⟩
  exact hp prompt heq

theorem vars_wait (seconds : Value) : (e.wait seconds r).2.vars = r.vars := by
  unfold wait
  split <;> rfl

/-- The two parts of an answer are stored together. -/
theorem settled_fetch {Lost : Value → Prop} (hlost : ∀ reply, ¬ Lost reply) (q : Request) :
    Settled [Variables.httpResponse, Variables.httpStatus] Lost (e.fetch q r).1.isOk r
      (e.fetch q r).2 := by
  unfold fetch ask
  rcases e.collaborators.fetch q r.outside with ⟨x | answer, outside⟩
  · exact .failed hlost rfl
  · exact .done hlost ⟨[(Variables.httpResponse, .text answer.body),
      (Variables.httpStatus, .int answer.status)], rfl, rfl⟩

/-- Where there is nothing to write, it is the same to write all and to write nothing. -/
theorem settled_of_vars_eq {p : Payload} (hp : p.written = []) {out : Except Fault Unit × Run σ}
    (h : out.2.vars = r.vars) : Settled p.written (e.Loses r p) out.1.isOk r out.2 := by
  have hlost : ∀ reply, ¬ e.Loses r p reply := not_loses e r fun prompt heq => by
    rw [heq] at hp
    cases hp
  obtain ⟨_ | _, r'⟩ := out
  · exact .failed hlost h
  · exact .done hlost (hp ▸ wrote_nil h)

theorem settled_perform (p : Payload) :
    Settled p.written (e.Loses r p) (e.perform p r).1.isOk r (e.perform p r).2 := by
  cases p with
  | aiResponse prompt =>
    have hloses : e.Loses r (.aiResponse prompt) = e.Unsent r prompt := by
      funext reply
      simp [Loses]
    rw [hloses]
    exact settled_reply e r prompt
  | delay seconds => exact settled_of_vars_eq e r rfl (vars_wait e r seconds)
  | condition left operator right => exact .done (not_loses e r (by nofun)) (wrote_singleton rfl)
  | setVariable name value => exact .done (not_loses e r (by nofun)) (wrote_singleton rfl)
  | httpRequest url method headers body =>
    dsimp only [perform, message?]
    split
    · exact settled_fetch e r (not_loses e r (by nofun)) _
    · exact .failed (not_loses e r (by nofun)) rfl
  | _ => exact settled_of_vars_eq e r rfl rfl

/-! ## Nodes -/

/-- A node asked for a reply, got it, and could not send it on. -/
def LosesReply (n : Node) (reply : Value) : Prop :=
  ∃ kind p, n.kind? = some kind ∧ Payload.ofNode kind n = .ok p ∧ e.Loses r p reply

theorem settled_execute (n : Node) :
    Settled n.written (e.LosesReply r n) (e.execute n r).1.ok r (e.execute n r).2 := by
  cases hkind : n.kind? with
  | none =>
    have hlost : ∀ reply, ¬ e.LosesReply r n reply := by simp [LosesReply, hkind]
    simp only [execute_of_unknown e r hkind, Node.written, hkind]
    exact .done hlost (wrote_nil rfl)
  | some kind =>
    cases hp : Payload.ofNode kind n with
    | error x =>
      have hlost : ∀ reply, ¬ e.LosesReply r n reply := by simp [LosesReply, hkind, hp]
      have hattempt : e.attempt kind n r = (.error x, r) := by simp only [attempt, hp]
      rw [execute_of_error e r hkind hattempt]
      exact .failed hlost rfl
    | ok p =>
      have hloses : e.LosesReply r n = e.Loses r p := by
        funext reply
        simp [LosesReply, hkind, hp]
      have hwritten : n.written = p.written := by simp only [Node.written, hkind, hp]
      have hattempt : e.attempt kind n r = e.perform p r := by simp only [attempt, hp]
      have hperform := settled_perform e r p
      rw [hloses, hwritten]
      rcases hout : e.perform p r with ⟨x | _, r'⟩ <;> rw [hout] at hperform hattempt
      · rw [execute_of_error e r hkind hattempt]
        exact ⟨hperform.wrote, hperform.same, hperform.kept⟩
      · rw [execute_of_ok e r hkind hattempt]
        exact ⟨hperform.wrote, hperform.same, hperform.kept⟩

theorem id_execute (n : Node) : (e.execute n r).1.id = n.id := by
  unfold execute
  split
  · rfl
  · split <;> rfl

/-- A node of any kind, with any data, comes to a result, which tells whether it failed, whatever its
collaborators do. It sends one message at most, and writes only the variables of its kind: all of them if
it goes well, and none if it fails. A reply that was given and could not be sent on is stored all the same.
That no more is sent is seen on a record, which takes no part in what becomes of the node. -/
theorem execute_atomic (n : Node) :
    let (result, after) := e.execute n r
    (result.id = n.id ∧ (result.ok = false ↔ e.Fails n r)) ∧
    (∃ noted, e.recorded.execute n r.recording = (result, noted) ∧ noted.forget = after ∧
      noted.sent.length ≤ 1) ∧
    (∀ k ∉ n.written, after.vars.get? k = r.vars.get? k) ∧
    Settled n.written (e.LosesReply r n) result.ok r after := by
  have hid := id_execute e r n
  have hfails := ok_execute_eq_false_iff e r n
  have hsettled := settled_execute e r n
  have hframe : ∀ k ∉ n.written, (e.execute n r).2.vars.get? k = r.vars.get? k :=
    fun k hk => get?_execute e r fun hwrites => hk (Node.mem_written_iff.2 hwrites)
  have hforget := execute_forget e r.recording n
  obtain ⟨m, hsent⟩ := sends_execute e r.recording n
  have hlength : (e.recorded.execute n r.recording).2.sent.length ≤ 1 := by
    rw [hsent]
    cases m <;> simp [recording, sent]
  change e.execute n r = _ at hforget
  rw [hforget] at hid hfails hsettled hframe ⊢
  exact ⟨⟨hid, hfails⟩, ⟨_, rfl, rfl, hlength⟩, hframe, hsettled⟩

/-- Nothing can be sent. -/
def muted : Engine Unit where
  collaborators :=
    { send := fun _ _ s => (.error (.notSendable "TextMessage"), s)
      respond := fun _ _ s => (.ok (.text "Oi"), s)
      fetch := fun _ s => (.ok ⟨200, ""⟩, s)
      sleep := fun _ s => (.ok (), s) }
  defaultDelay := .int 1

theorem reply_kept_of_muted :
    let n : Node := ⟨"a", "ai_response", none, none, []⟩
    muted.LosesReply ⟨[], (), []⟩ n (.text "Oi") ∧
      (muted.execute n ⟨[], (), []⟩).1.ok = false ∧
      (muted.execute n ⟨[], (), []⟩).2.vars = [("_aiResponse", .text "Oi")] := by
  intro n
  have hlost : muted.LosesReply ⟨[], (), []⟩ n (.text "Oi") :=
    ⟨.aiResponse, .aiResponse "", by decide +kernel, rfl, "", rfl, .refused rfl rfl rfl⟩
  obtain ⟨-, -, -, hsettled⟩ := execute_atomic muted ⟨[], (), []⟩ n
  exact ⟨hlost, hsettled.kept (.text "Oi") hlost⟩

end Engine
end ChatAutomation
