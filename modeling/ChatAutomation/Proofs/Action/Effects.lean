import ChatAutomation.Action

/-!
# What an action leaves alone

A payload writes only the variables that its kind names, and nothing that it does is counted:
`framed_perform`. So executing a node leaves alone what it does not write, `get?_execute`, and counts one
sample, which tells whether it failed, `samples_execute`. It fails exactly when its data cannot be read or
its payload cannot be carried out, `ok_execute_eq_false_iff`.
-/
namespace ChatAutomation

namespace Payload

/-- The kind of the nodes that a payload belongs to. -/
def kind : Payload → NodeKind
  | trigger .. => .trigger
  | sendText _ => .sendText
  | sendImage .. => .sendImage
  | sendAudio .. => .sendAudio
  | sendVideo .. => .sendVideo
  | sendPoll .. => .sendPoll
  | sendButtons .. => .sendButtons
  | aiResponse _ => .aiResponse
  | delay _ => .delay
  | condition .. => .condition
  | setVariable .. => .setVariable
  | httpRequest .. => .httpRequest

theorem kind_of_ofData {k : NodeKind} {es : Entries Value} {p : Payload}
    (h : ofData k es = .ok p) : p.kind = k := by
  cases k
  -- a reader gives its inputs to the constructor of its kind, the last one first
  all_goals
    dsimp only [ofData] at h
    repeat
      rw [Checked.seq_eq_ok_iff] at h
      obtain ⟨_, _, h, -, rfl⟩ := h
    rw [Checked.map_eq_ok_iff] at h
    obtain ⟨_, -, rfl⟩ := h
    rfl

theorem kind_of_ofNode {k : NodeKind} {n : Node} {p : Payload} (h : ofNode k n = .ok p) :
    p.kind = k := by
  unfold ofNode at h
  split at h
  · rename_i hdata
    cases h
    exact kind_of_ofData hdata
  · cases h

/-- The variables that carrying out a payload may write. -/
def written : Payload → List String
  | aiResponse _ => [Variables.aiResponse]
  | condition .. => [Variables.conditionResult]
  | setVariable name _ => [Engine.orElse name Engine.defaultVariable]
  | httpRequest .. => [Variables.httpResponse, Variables.httpStatus]
  | _ => []

end Payload

/-- May executing the node write the variable? -/
def Node.Writes (n : Node) (name : String) : Prop :=
  ∃ kind p, n.kind? = some kind ∧ Payload.ofNode kind n = .ok p ∧ name ∈ p.written

namespace Run
variable {σ : Type} {r r₁ r₂ : Run σ} {names : List String}

/-- Nothing was counted, and no variables but the named ones were written. -/
structure Framed (names : List String) (r r' : Run σ) : Prop where
  samples_eq : r'.samples = r.samples
  get?_eq : ∀ k ∉ names, r'.vars.get? k = r.vars.get? k

theorem Framed.refl (names : List String) (r : Run σ) : Framed names r r :=
  ⟨rfl, fun _ _ => rfl⟩

theorem Framed.trans (h₁ : Framed names r r₁) (h₂ : Framed names r₁ r₂) : Framed names r r₂ :=
  ⟨h₂.samples_eq.trans h₁.samples_eq, fun k hk => (h₂.get?_eq k hk).trans (h₁.get?_eq k hk)⟩

theorem framed_ask {α : Type} (call : σ → Except Fault α × σ) (names : List String) (r : Run σ) :
    Framed names r (r.ask call).2 := ⟨rfl, fun _ _ => rfl⟩

theorem framed_set (r : Run σ) {k : String} (hk : k ∈ names) (v : Value) :
    Framed names r (r.set k v) := by
  refine ⟨rfl, fun k' hk' => Entries.get?_put_ne r.vars v ?_⟩
  rintro rfl
  exact hk' hk

end Run

namespace Engine
variable {σ : Type} (e : Engine σ) (r : Run σ)

open Run

theorem framed_send (m : Message) (names : List String) : Framed names r (e.send m r).2 :=
  framed_ask _ names r

theorem framed_reply (prompt : String) :
    Framed [Variables.aiResponse] r (e.reply prompt r).2 := by
  unfold reply
  dsimp only
  generalize e.collaborators.respond _ _ = call
  have hask := framed_ask call [Variables.aiResponse] r
  split
  · rename_i h
    rwa [h] at hask
  · rename_i answer r₁ h
    rw [h] at hask
    have hset := hask.trans (framed_set r₁ List.mem_cons_self answer)
    cases answer with
    | text s => exact hset.trans (framed_send e _ (.text s) _)
    | _ => exact hset

theorem framed_fetch (q : Request) :
    Framed [Variables.httpResponse, Variables.httpStatus] r (e.fetch q r).2 := by
  unfold fetch
  have hask := framed_ask (e.collaborators.fetch q) [Variables.httpResponse, Variables.httpStatus] r
  split
  · rename_i h
    rwa [h] at hask
  · rename_i answer r₁ h
    rw [h] at hask
    have hbody := framed_set r₁ (List.mem_cons_self (a := Variables.httpResponse)
      (l := [Variables.httpStatus])) (.text answer.body)
    exact (hask.trans hbody).trans (framed_set _ (by simp) _)

theorem framed_wait (seconds : Value) (names : List String) :
    Framed names r (e.wait seconds r).2 := by
  unfold wait
  split
  · exact framed_ask _ names r
  · exact .refl names r

/-- Carrying out a payload leaves all variables alone but those that its kind names. -/
theorem framed_perform (p : Payload) : Framed p.written r (e.perform p r).2 := by
  unfold perform
  split
  · exact framed_send e r _ _
  · cases p with
    | aiResponse prompt => exact framed_reply e r prompt
    | delay seconds => exact framed_wait e r seconds _
    | condition left operator right => exact framed_set r List.mem_cons_self _
    | setVariable name value => exact framed_set r List.mem_cons_self _
    | httpRequest url method headers body =>
      dsimp only
      split
      · exact framed_fetch e r _
      · exact .refl _ r
    | _ => exact .refl _ r

theorem samples_attempt (kind : NodeKind) (n : Node) :
    (e.attempt kind n r).2.samples = r.samples := by
  unfold attempt
  split
  · exact (framed_perform e r _).samples_eq
  · rfl

/-! ## Nodes -/

/-- A node fails when its data cannot be read, or when its payload cannot be carried out. -/
def Fails (e : Engine σ) (n : Node) (r : Run σ) : Prop :=
  ∃ kind, n.kind? = some kind ∧
    ((∃ x, Payload.ofNode kind n = .error x) ∨
      ∃ p x, Payload.ofNode kind n = .ok p ∧ (e.perform p r).1 = .error x)

theorem attempt_eq_error_iff (kind : NodeKind) (n : Node) :
    (∃ x, (e.attempt kind n r).1 = .error x) ↔
      (∃ x, Payload.ofNode kind n = .error x) ∨
        ∃ p x, Payload.ofNode kind n = .ok p ∧ (e.perform p r).1 = .error x := by
  unfold attempt
  cases Payload.ofNode kind n <;> simp

theorem execute_of_unknown {n : Node} (h : n.kind? = none) :
    e.execute n r = (⟨n.id, n.kindName, none⟩, r.count (.node "unknown" .skipped)) := by
  simp only [execute, h]

theorem execute_of_ok {n : Node} {kind : NodeKind} (h : n.kind? = some kind) {r' : Run σ}
    (ha : e.attempt kind n r = (.ok (), r')) :
    e.execute n r = (⟨n.id, kind.name, none⟩, r'.count (.node kind.name .success)) := by
  simp only [execute, h, ha]

theorem execute_of_error {n : Node} {kind : NodeKind} (h : n.kind? = some kind) {x : Fault}
    {r' : Run σ} (ha : e.attempt kind n r = (.error x, r')) :
    e.execute n r = (⟨n.id, kind.name, some x.report⟩, r'.count (.node kind.name .error)) := by
  simp only [execute, h, ha]

/-- A node of a known type leaves what its attempt leaves, and is counted. -/
theorem run_execute {n : Node} {kind : NodeKind} (h : n.kind? = some kind) :
    ∃ outcome, (e.execute n r).2 = (e.attempt kind n r).2.count (.node kind.name outcome) := by
  rcases ha : e.attempt kind n r with ⟨_ | _, r'⟩
  · exact ⟨.error, by rw [execute_of_error e r h ha]⟩
  · exact ⟨.success, by rw [execute_of_ok e r h ha]⟩

/-- A result is that of a failure exactly when the node fails. -/
theorem ok_execute_eq_false_iff (n : Node) : (e.execute n r).1.ok = false ↔ e.Fails n r := by
  cases hkind : n.kind? with
  | none => simp [execute_of_unknown e r hkind, Fails, hkind, NodeResult.ok]
  | some kind =>
    have hfails : e.Fails n r ↔ ∃ x, (e.attempt kind n r).1 = .error x := by
      simp [Fails, hkind, attempt_eq_error_iff]
    rw [hfails]
    rcases ha : e.attempt kind n r with ⟨_ | _, r'⟩
    · simp [execute_of_error e r hkind ha, NodeResult.ok]
    · simp [execute_of_ok e r hkind ha, NodeResult.ok]

/-- Executing a node counts one sample, which tells whether it failed. -/
theorem samples_execute (n : Node) :
    ∃ type outcome, (e.execute n r).2.samples = r.samples ++ [.node type outcome] ∧
      (outcome = .error ↔ e.Fails n r) := by
  rw [← ok_execute_eq_false_iff]
  cases hkind : n.kind? with
  | none =>
    have hexecute := execute_of_unknown e r hkind
    exact ⟨_, _, by rw [hexecute]; rfl, by simp [hexecute, NodeResult.ok]⟩
  | some kind =>
    have hsamples := samples_attempt e r kind n
    rcases ha : e.attempt kind n r with ⟨_ | _, r'⟩ <;> rw [ha] at hsamples
    · refine ⟨kind.name, .error, ?_, ?_⟩
      · rw [execute_of_error e r hkind ha, Run.count, hsamples]
      · simp [execute_of_error e r hkind ha, NodeResult.ok]
    · refine ⟨kind.name, .success, ?_, ?_⟩
      · rw [execute_of_ok e r hkind ha, Run.count, hsamples]
      · simp [execute_of_ok e r hkind ha, NodeResult.ok]

theorem get?_execute {n : Node} {k : String} (hn : ¬ n.Writes k) :
    (e.execute n r).2.vars.get? k = r.vars.get? k := by
  cases hkind : n.kind? with
  | none =>
    rw [execute_of_unknown e r hkind]
    rfl
  | some kind =>
    have hattempt : (e.attempt kind n r).2.vars.get? k = r.vars.get? k := by
      unfold attempt
      split
      · rename_i p hp
        exact (framed_perform e r p).get?_eq k fun hk => hn ⟨kind, p, hkind, hp, hk⟩
      · rfl
    obtain ⟨outcome, hrun⟩ := run_execute e r hkind
    rw [hrun]
    exact hattempt

end Engine
end ChatAutomation
