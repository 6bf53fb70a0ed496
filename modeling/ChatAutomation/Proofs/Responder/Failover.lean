import ChatAutomation.Proofs.Breaker.Traffic
import ChatAutomation.Responder

/-!
# Which reply is given

A provider that has its turn is refused by its breaker and not asked, or it is asked and fails, has nothing
to say, or replies: `Turn`. The reply is that of the first provider that gives one; those behind it are not
asked, and where none is left an apology takes its place: `Answered`. `respondBy_answered` says that this is
what happens, whatever the providers do and whatever has become of their breakers. The contacts of a provider
are known from a record, which changes nothing else.
-/
namespace ChatAutomation

/-- A question that was put to a provider, and what it answered. -/
structure Consulted where
  label : String
  question : Question
  answer : Except Fault Value

variable {σ : Type}

namespace Provider

/-- What a provider is asked for a message. -/
def question (p : Provider σ) (prompt message : String) : Question :=
  ⟨p.model, prompt, if message.isEmpty then p.emptyMessage else message⟩

/-- The same provider with a record of what it is asked. -/
def recorded (p : Provider σ) : Provider (σ × List Consulted) where
  label := p.label
  model := p.model
  breaker := p.breaker
  emptyMessage := p.emptyMessage
  ask q s :=
    let (answer, outside) := p.ask q s.1
    (answer, outside, s.2 ++ [⟨p.label, q, answer⟩])

theorem ask_recorded {p : Provider σ} {q : Question} {s : σ × List Consulted}
    {answer : Except Fault Value} {outside : σ} (h : p.ask q s.1 = (answer, outside)) :
    p.recorded.ask q s = (answer, outside, s.2 ++ [⟨p.label, q, answer⟩]) := by
  simp only [recorded, h]

end Provider

namespace Responder

/-- The same state with a record. -/
def State.recorded (s : State σ) (contacts : List Consulted) : State (σ × List Consulted) :=
  ⟨s.providers.map .recorded, (s.outside, contacts), s.samples⟩

/-- Is an answer none that can be used? The provider fails, or it gives something that is no text. -/
inductive Unusable : Except Fault Value → Prop
  | failed (f : Fault) : Unusable (.error f)
  | strange {v : Value} (hgiven : v.isGiven = true) (htext : ∀ t, v ≠ .text t) : Unusable (.ok v)

/-- Is an answer nothing, or nothing but blanks? -/
inductive Blank : Value → Prop
  | missing {v : Value} (h : v.isGiven = false) : Blank v
  | blanks {t : String} (h : Text.trim t = "") : Blank (.text t)

/-- The turn of a provider: the reply that it gives, its contacts, what is counted, and the provider and the
outside as they are afterwards. -/
inductive Turn (clock : σ → Binary64) (prompt message : String) (p : Provider σ) (s : σ) :
    Option String → List Consulted → List Sample → Provider σ → σ → Prop
  | rejected {f : Fault} (h : p.breaker.enter (clock s) = .error f) :
      Turn clock prompt message p s none [] [.reply p.label false] p s
  | failed {b : Breaker} {answer : Except Fault Value} {s' : σ}
      (h : p.breaker.enter (clock s) = .ok b)
      (hask : p.ask (p.question prompt message) s = (answer, s')) (hanswer : Unusable answer) :
      Turn clock prompt message p s none [⟨p.label, p.question prompt message, answer⟩]
        [.reply p.label false] { p with breaker := b.fail (clock s') } s'
  | silent {b : Breaker} {v : Value} {s' : σ} (h : p.breaker.enter (clock s) = .ok b)
      (hask : p.ask (p.question prompt message) s = (.ok v, s')) (hanswer : Blank v) :
      Turn clock prompt message p s none [⟨p.label, p.question prompt message, .ok v⟩] []
        { p with breaker := b.succeed } s'
  | replied {b : Breaker} {t : String} {s' : σ} (h : p.breaker.enter (clock s) = .ok b)
      (hask : p.ask (p.question prompt message) s = (.ok (.text t), s')) (hanswer : Text.trim t ≠ "") :
      Turn clock prompt message p s (some (Text.trim t))
        [⟨p.label, p.question prompt message, .ok (.text t)⟩] [.reply p.label true]
        { p with breaker := b.succeed } s'

/-- An answer that some providers find together, with all their contacts, what is counted, and the providers
and the outside as they are afterwards. -/
inductive Answered (clock : σ → Binary64) (prompt message : String) :
    List (Provider σ) → σ → String → List Consulted → List Sample → List (Provider σ) → σ → Prop
  | apology (s : σ) : Answered clock prompt message [] s apology [] [] [] s
  | given {p p' : Provider σ} {s s' : σ} {reply : String} {contacts : List Consulted}
      {counted : List Sample} (h : Turn clock prompt message p s (some reply) contacts counted p' s')
      (ps : List (Provider σ)) :
      Answered clock prompt message (p :: ps) s reply contacts counted (p' :: ps) s'
  | passed {p p' : Provider σ} {ps ps' : List (Provider σ)} {s s' s'' : σ} {answer : String}
      {contacts later : List Consulted} {counted more : List Sample}
      (h : Turn clock prompt message p s none contacts counted p' s')
      (rest : Answered clock prompt message ps s' answer later more ps' s'') :
      Answered clock prompt message (p :: ps) s answer (contacts ++ later) (counted ++ more)
        (p' :: ps') s''

/-! ## One turn -/

/-- All that an answer can come to. -/
theorem reply_cases (answer : Except Fault Value) :
    (Unusable answer ∧ ∃ f, answer.bind reply = .error f) ∨
    (∃ v, answer = .ok v ∧ Blank v ∧ answer.bind reply = .ok "") ∨
    ∃ t, answer = .ok (.text t) ∧ Text.trim t ≠ "" ∧ answer.bind reply = .ok (Text.trim t) := by
  cases answer with
  | error f => exact .inl ⟨.failed f, f, rfl⟩
  | ok v =>
    by_cases htext : ∃ t, v = .text t
    · obtain ⟨t, rfl⟩ := htext
      by_cases ht : Text.trim t = ""
      · exact .inr (.inl ⟨_, rfl, .blanks ht, congrArg Except.ok ht⟩)
      · exact .inr (.inr ⟨t, rfl, ht, rfl⟩)
    · have hfor : v.textFor "strip" =
          if v.isGiven then .error (.misused v.kindName (.method "strip")) else .ok "" := by
        unfold Value.textFor
        split
        · exact absurd ⟨_, rfl⟩ htext
        · rfl
      cases hgiven : v.isGiven with
      | true =>
        refine .inl ⟨.strange hgiven fun t h => htext ⟨t, h⟩, .misused v.kindName (.method "strip"), ?_⟩
        simp only [Except.bind, reply, hfor, hgiven, if_true]
        rfl
      | false =>
        refine .inr (.inl ⟨v, rfl, .missing hgiven, ?_⟩)
        simp only [Except.bind, reply, hfor, hgiven]
        rfl

section
variable {clock : σ → Binary64} {prompt message : String} {p : Provider σ} {ps : List (Provider σ)}
  {s s' : σ} {outcome : Except Fault String} {b : Breaker}

theorem asked_eq (p : Provider σ) (prompt message : String) (s : σ) :
    asked p prompt message s =
      ((p.ask (p.question prompt message) s).1.bind reply, (p.ask (p.question prompt message) s).2) :=
  rfl

theorem firstReply_of_given
    (h : p.breaker.callBy clock (asked p prompt message) s = (outcome, b, s'))
    (hgiven : given outcome ≠ "") (ps : List (Provider σ)) :
    firstReply clock prompt message (p :: ps) s =
      (given outcome, ⟨{ p with breaker := b } :: ps, s', samplesOf p.label outcome⟩) := by
  have hfull : (given outcome).isEmpty = false := by simpa using hgiven
  simp only [firstReply, h, hfull, Bool.false_eq_true, if_false]

theorem firstReply_of_not_given
    (h : p.breaker.callBy clock (asked p prompt message) s = (outcome, b, s'))
    (hgiven : given outcome = "") (ps : List (Provider σ)) :
    firstReply clock prompt message (p :: ps) s =
      ((firstReply clock prompt message ps s').1,
        ⟨{ p with breaker := b } :: (firstReply clock prompt message ps s').2.providers,
          (firstReply clock prompt message ps s').2.outside,
          samplesOf p.label outcome ++ (firstReply clock prompt message ps s').2.samples⟩) := by
  have hempty : (given outcome).isEmpty = true := by simpa using hgiven
  simp only [firstReply, h, hempty, if_true]

end

variable (clock : σ → Binary64) (prompt message : String)

/-- A call of a provider is its turn, and a record notes its contacts. -/
theorem turn_callBy (p : Provider σ) (s : σ) (noted : List Consulted) :
    ∃ outcome b s' contacts reply,
      p.breaker.callBy clock (asked p prompt message) s = (outcome, b, s') ∧
      p.recorded.breaker.callBy (clock ∘ Prod.fst) (asked p.recorded prompt message) (s, noted) =
        (outcome, b, s', noted ++ contacts) ∧
      Turn clock prompt message p s reply contacts (samplesOf p.label outcome)
        { p with breaker := b } s' ∧
      given outcome = reply.getD "" := by
  cases h : p.breaker.enter (clock s) with
  | error f =>
    have hnoted : p.recorded.breaker.enter ((clock ∘ Prod.fst) (s, noted)) = .error f := h
    refine ⟨.error f, p.breaker, s, [], none, Breaker.callBy_refused clock h _, ?_, .rejected h, rfl⟩
    rw [List.append_nil]
    exact Breaker.callBy_refused (clock ∘ Prod.fst) hnoted _
  | ok b =>
    rcases hask : p.ask (p.question prompt message) s with ⟨answer, s'⟩
    have hnoted : p.recorded.ask (p.recorded.question prompt message) (s, noted) =
        (answer, s', noted ++ [⟨p.label, p.question prompt message, answer⟩]) :=
      Provider.ask_recorded hask
    have henter : p.recorded.breaker.enter ((clock ∘ Prod.fst) (s, noted)) = .ok b := h
    have hcall := Breaker.callBy_entered clock h (asked p prompt message)
    have hrecorded := Breaker.callBy_entered (clock ∘ Prod.fst) henter (asked p.recorded prompt message)
    rw [asked_eq, hask] at hcall
    rw [asked_eq, hnoted] at hrecorded
    rcases reply_cases answer with ⟨hanswer, f, hf⟩ | ⟨v, rfl, hanswer, hv⟩ | ⟨t, rfl, hanswer, ht⟩
    · rw [hf] at hcall hrecorded
      exact ⟨_, _, _, _, none, hcall, hrecorded, .failed h hask hanswer, rfl⟩
    · rw [hv] at hcall hrecorded
      exact ⟨_, _, _, _, none, hcall, hrecorded, .silent h hask hanswer, rfl⟩
    · rw [ht] at hcall hrecorded
      refine ⟨_, _, _, _, some (Text.trim t), hcall, hrecorded, ?_, rfl⟩
      have hsamples : samplesOf p.label (.ok (Text.trim t)) = [.reply p.label true] := by
        simp [samplesOf, hanswer]
      rw [hsamples]
      exact .replied h hask hanswer

section
variable {clock prompt message} {p p' : Provider σ} {s s' : σ} {reply : Option String}
  {contacts : List Consulted} {counted : List Sample}

/-- In its turn a provider is asked once at most. -/
theorem Turn.contacts_sublist (h : Turn clock prompt message p s reply contacts counted p' s') :
    (contacts.map Consulted.label).Sublist [p.label] := by
  cases h with
  | rejected => exact List.nil_sublist _
  | _ => exact List.Sublist.refl _

theorem Turn.ne_empty (h : Turn clock prompt message p s reply contacts counted p' s') :
    reply ≠ some "" := by
  cases h with
  | replied _ _ hanswer => simpa using hanswer
  | _ => exact nofun

end

/-! ## All turns -/

/-- The providers take their turns until one gives a reply, and a record notes their contacts. -/
theorem firstReply_answered (ps : List (Provider σ)) (s : σ) (noted : List Consulted) :
    ∃ contacts,
      let r := firstReply clock prompt message ps s
      firstReply (clock ∘ Prod.fst) prompt message (ps.map .recorded) (s, noted) =
        (r.1, r.2.recorded (noted ++ contacts)) ∧
      Answered clock prompt message ps s r.1 contacts r.2.samples r.2.providers r.2.outside := by
  induction ps generalizing s noted with
  | nil => exact ⟨[], by simp [firstReply, State.recorded], .apology s⟩
  | cons p ps ih =>
    obtain ⟨outcome, b, s', contacts, reply, hcall, hrecorded, hturn, hgiven⟩ :=
      turn_callBy clock prompt message p s noted
    cases reply with
    | some reply =>
      have hfull : given outcome ≠ "" := by
        rw [hgiven]
        exact fun h => hturn.ne_empty (congrArg some h)
      rw [Option.getD_some] at hgiven
      refine ⟨contacts, ?_⟩
      rw [firstReply_of_given hcall hfull]
      refine ⟨?_, hgiven ▸ .given hturn ps⟩
      rw [List.map_cons, firstReply_of_given hrecorded hfull]
      rfl
    | none =>
      obtain ⟨later, hlater, hanswered⟩ := ih s' (noted ++ contacts)
      refine ⟨contacts ++ later, ?_⟩
      rw [firstReply_of_not_given hcall hgiven]
      refine ⟨?_, .passed hturn hanswered⟩
      rw [List.map_cons, firstReply_of_not_given hrecorded hgiven, hlater, List.append_assoc]
      rfl

section
variable {clock prompt message} {ps ps' : List (Provider σ)} {s s' : σ} {answer : String}
  {contacts : List Consulted} {counted : List Sample}

theorem Answered.ne_empty
    (h : Answered clock prompt message ps s answer contacts counted ps' s') : answer ≠ "" := by
  induction h with
  | apology => decide
  | given h _ => simpa using h.ne_empty
  | passed _ _ ih => exact ih

/-- The providers are asked in their order, each of them once at most. -/
theorem Answered.contacts_sublist
    (h : Answered clock prompt message ps s answer contacts counted ps' s') :
    (contacts.map Consulted.label).Sublist (ps.map Provider.label) := by
  induction h with
  | apology => exact List.nil_sublist _
  | given h ps => exact h.contacts_sublist.trans (List.Sublist.cons_cons _ (List.nil_sublist _))
  | passed h _ ih =>
    rw [List.map_append, List.map_cons]
    exact h.contacts_sublist.append ih

end

/-- There always is a reply, and it is no empty one: that of the first provider whose breaker lets it be asked
and that has something to say, or else the apology. Every provider before it takes its turn, none behind it
does, and what is counted tells how the turns went. The contacts are those of the same call with a record,
which changes nothing. -/
theorem respondBy_answered (s : State σ) :
    ∃ contacts counted,
      let (answer, t) := respondBy clock prompt message s
      respondBy (clock ∘ Prod.fst) prompt message (s.recorded []) = (answer, t.recorded contacts) ∧
      t.samples = s.samples ++ counted ∧
      Answered clock prompt message s.providers s.outside answer contacts counted t.providers
        t.outside ∧
      answer ≠ "" ∧ (contacts.map Consulted.label).Sublist (s.providers.map Provider.label) := by
  obtain ⟨contacts, hrecorded, hanswered⟩ :=
    firstReply_answered clock prompt message s.providers s.outside []
  refine ⟨contacts, _, ?_, rfl, hanswered, hanswered.ne_empty, hanswered.contacts_sublist⟩
  rw [List.nil_append] at hrecorded
  unfold respondBy
  dsimp only [State.recorded]
  rw [hrecorded]
  rfl

/-- The breaker of the first provider is open, and the second one has something to say. -/
example :
    let first : Provider Unit :=
      { gemini "g" fun _ s => (.ok (.text "Oi"), s) with
        breaker := { breaker geminiLabel with phase := .opened } }
    let second : Provider Unit := openai "o" fun _ s => (.ok (.text " Olá "), s)
    let (answer, t) := respond .zero "" "oi" ⟨[first, second], (), []⟩
    answer = "Olá" ∧ t.samples = [.reply geminiLabel false, .reply openaiLabel true] := by
  decide +kernel

end Responder
end ChatAutomation
