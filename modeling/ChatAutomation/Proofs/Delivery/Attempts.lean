import ChatAutomation.Delivery
import ChatAutomation.Proofs.Breaker.Traffic

/-!
# The attempts of a delivery

`Carrier.recorded` notes what a delivery does: its posts, with the times when the breaker was asked and
told, and its pauses. It changes nothing else: `deliverBy_forget`. The breaker may have moved on between
two attempts, and its clock has, so it may also refuse an attempt that follows a failed one. What the
record then says is `Attempted`, by induction on the pauses that are left: `attempted_post`.
-/
namespace ChatAutomation

/-- What a delivery does outside: it posts, or it pauses. -/
inductive Act where
  /-- A post, with the times before and after it. -/
  | posted (p : Post) (asked told : Binary64) (outcome : Except Fault Response)
  | paused (seconds : Value) (outcome : Except Fault Unit)

namespace Act

@[simp] def pause? : Act → Option Value
  | posted .. => none
  | paused seconds _ => some seconds

@[simp] def post? : Act → Option Post
  | posted p .. => some p
  | paused .. => none

/-- The acts that another one may follow. -/
def LeadsOn : Act → Prop
  | posted _ _ _ outcome => ∃ kind text, outcome = .error (.connection kind text)
  | paused _ outcome => outcome = .ok ()

/-- The turns at the breaker that an act takes. -/
@[simp] def turns : Act → List Breaker.Turn
  | posted _ asked told outcome => [.ask 0 asked, .finish 0 told (outcome.map fun _ => ())]
  | paused .. => []

/-- What the breaker notes of an act. A response is a success, whatever its status. -/
@[simp] def events : Act → List Breaker.Event
  | posted _ _ _ outcome => [.entered 0, .finished 0 outcome.toBool]
  | paused .. => []

end Act

variable {σ : Type}

/-- The same carrier with a record of what is done. -/
def Carrier.recorded (c : Carrier σ) (clock : σ → Binary64) : Carrier (σ × List Act) where
  post p s :=
    let (outcome, s') := c.post p s.1
    (outcome, s', s.2 ++ [.posted p (clock s.1) (clock s') outcome])
  sleep seconds s :=
    let (outcome, s') := c.sleep seconds s.1
    (outcome, s', s.2 ++ [.paused seconds outcome])

theorem Carrier.sleep_recorded {c : Carrier σ} {seconds : Value} {s : σ × List Act}
    {outcome : Except Fault Unit} {outside : σ} (h : c.sleep seconds s.1 = (outcome, outside))
    (clock : σ → Binary64) :
    (c.recorded clock).sleep seconds s = (outcome, outside, s.2 ++ [.paused seconds outcome]) := by
  simp only [recorded, h]

namespace Deliveries

/-- The service without its record. -/
def forget (d : Deliveries (σ × List Act)) : Deliveries σ := { d with outside := d.outside.1 }

/-- The service with nothing on record. -/
def unrecorded (d : Deliveries σ) : Deliveries (σ × List Act) := { d with outside := (d.outside, []) }

end Deliveries

namespace Delivery

/-- Some seconds, as a carrier is told to sleep. -/
def pauseOf (seconds : Nat) : Value := .float (.ofDecimal false seconds 0)

section
variable {c : Carrier σ} {clock : σ → Binary64} {p : Post} {d d₁ : Deliveries σ} {pause : Nat}
  {later : List Nat}

theorem attempt_refused (clock : σ → Binary64) {f : Fault}
    (h : d.breaker.enter (clock d.outside) = .error f) : attempt c clock p d = (.error f, d) := by
  rw [attempt, Breaker.callBy_refused clock h]

theorem attempt_entered (clock : σ → Binary64) {b : Breaker}
    (h : d.breaker.enter (clock d.outside) = .ok b) :
    attempt c clock p d =
      ((c.post p d.outside).1, { d with
        breaker := b.record (clock (c.post p d.outside).2) (c.post p d.outside).1
        outside := (c.post p d.outside).2 }) := by
  rw [attempt, Breaker.callBy_entered clock h]

theorem post_of_done {outcome : Except Fault Response} (h : attempt c clock p d = (outcome, d₁))
    (hdone : ∀ kind text, outcome ≠ .error (.connection kind text)) :
    post c clock p (pause :: later) d = (outcome, d₁) := by
  unfold post
  rw [h]
  split
  · rename_i heq
    cases heq
    exact absurd rfl (hdone _ _)
  · rfl

theorem post_of_lost {kind text : String} {outside : σ}
    (h : attempt c clock p d = (.error (.connection kind text), d₁))
    (hsleep : c.sleep (pauseOf pause) d₁.outside = (.ok (), outside)) :
    post c clock p (pause :: later) d = post c clock p later { d₁ with outside } := by
  rw [pauseOf] at hsleep
  rw [post, h]
  dsimp only
  rw [hsleep]

theorem post_of_broken {kind text : String} {f : Fault} {outside : σ}
    (h : attempt c clock p d = (.error (.connection kind text), d₁))
    (hsleep : c.sleep (pauseOf pause) d₁.outside = (.error f, outside)) :
    post c clock p (pause :: later) d = (.error f, { d₁ with outside }) := by
  rw [pauseOf] at hsleep
  rw [post, h]
  dsimp only
  rw [hsleep]

end

variable (c : Carrier σ) (clock : σ → Binary64) (p : Post)

/-! ## A record changes nothing else -/

theorem attempt_forget (d : Deliveries (σ × List Act)) :
    attempt c clock p d.forget =
      Prod.map id .forget (attempt (c.recorded clock) (clock ∘ Prod.fst) p d) := by
  cases h : d.breaker.enter (clock d.outside.1) with
  | error f =>
    have hforget : d.forget.breaker.enter (clock d.forget.outside) = .error f := h
    rw [attempt_refused clock hforget, attempt_refused (clock ∘ Prod.fst) h]
    rfl
  | ok b =>
    have hforget : d.forget.breaker.enter (clock d.forget.outside) = .ok b := h
    rw [attempt_entered clock hforget, attempt_entered (clock ∘ Prod.fst) h]
    rfl

/-- The pauses of a delivery that is at it to the last: none is a post. -/
def schedule : List Nat → List (Option Value)
  | [] => [none]
  | seconds :: later => none :: some (pauseOf seconds) :: schedule later

/-- How attempts come to their end, by the acts on record and what is given back. -/
inductive Ending (retries : Nat) (b : Breaker) (now : Binary64) :
    List Act → Except Fault Response → Prop
  /-- A post has an outcome that is not another one's cause, or it was the last one. -/
  | concluded (before : List Act) {p : Post} {asked told : Binary64}
      {outcome : Except Fault Response}
      (h : (∀ kind text, outcome ≠ .error (.connection kind text)) ∨
        (before.filterMap Act.post?).length = retries) :
      Ending retries b now (before ++ [.posted p asked told outcome]) outcome
  /-- The breaker refuses the first post, or the one that is due behind a pause. -/
  | refused {acts : List Act} (h : b.enter now = .error (.circuitOpen b.limits.name))
      (hlast : ∀ act ∈ acts.getLast?, ∃ seconds, act = .paused seconds (.ok ())) :
      Ending retries b now acts (.error (.circuitOpen b.limits.name))
  /-- A pause fails. -/
  | broken (before : List Act) {seconds : Value} {f : Fault} :
      Ending retries b now (before ++ [.paused seconds (.error f)]) (.error f)

/-- What is on record behind some attempts, and what they leave. -/
structure Attempted (p : Post) (seconds : List Nat) (b : Breaker) (acts : List Act)
    (result : Except Fault Response) (b' : Breaker) (now : Binary64) : Prop where
  same : ∀ q ∈ acts.filterMap Act.post?, q = p
  order : acts.map Act.pause? <+: schedule seconds
  leadsOn : ∀ act ∈ acts.dropLast, act.LeadsOn
  ending : Ending seconds.length b' now acts result
  /-- Each post takes its two turns at the breaker. -/
  noted : ∀ s : Breaker.Traffic, s.breaker = b → s.inFlight = [] →
    (s.run (acts.flatMap Act.turns)).breaker = b' ∧ (s.run (acts.flatMap Act.turns)).inFlight = [] ∧
    (s.run (acts.flatMap Act.turns)).log.map (·.event) =
      (acts.flatMap Act.events).reverse ++ s.log.map (·.event)

/-- All that an attempt can do: it is refused and leaves everything as it was, or it posts. -/
theorem attempt_recorded_cases (d : Deliveries (σ × List Act)) :
    (d.breaker.enter (clock d.outside.1) = .error (.circuitOpen d.breaker.limits.name) ∧
      attempt (c.recorded clock) (clock ∘ Prod.fst) p d =
        (.error (.circuitOpen d.breaker.limits.name), d)) ∨
    ∃ b outcome outside, d.breaker.enter (clock d.outside.1) = .ok b ∧
      attempt (c.recorded clock) (clock ∘ Prod.fst) p d =
        (outcome, { d with
          breaker := b.record (clock outside) outcome
          outside := (outside,
            d.outside.2 ++ [.posted p (clock d.outside.1) (clock outside) outcome]) }) := by
  cases h : d.breaker.enter (clock d.outside.1) with
  | error f =>
    cases Breaker.fault_of_enter h
    exact .inl ⟨rfl, attempt_refused (clock ∘ Prod.fst) h⟩
  | ok b =>
    exact .inr ⟨b, _, _, rfl, attempt_entered (clock ∘ Prod.fst) h⟩

section
variable {p} {b b' : Breaker} {acts : List Act} {seconds : List Nat}
  {result outcome : Except Fault Response} {now asked told : Binary64}

theorem noted_posted {s : Breaker.Traffic} (hb : s.breaker.enter asked = .ok b)
    (hfree : s.inFlight = []) (p : Post) (told : Binary64) (outcome : Except Fault Response) :
    s.run (Act.posted p asked told outcome).turns =
      ⟨b.record told outcome, [],
        ⟨.finished 0 outcome.toBool, b.phase, (b.record told outcome).phase⟩ ::
          ⟨.entered 0, s.phase, b.phase⟩ :: s.log⟩ := by
  rw [Act.turns, Breaker.Traffic.run_call (hfree ▸ List.not_mem_nil) hb, Breaker.record_map, hfree]
  cases outcome <;> rfl

/-- The breaker refuses the first post. -/
theorem Attempted.of_refused (h : b.enter now = .error (.circuitOpen b.limits.name)) :
    Attempted p seconds b [] (.error (.circuitOpen b.limits.name)) b now where
  same := by simp
  order := List.nil_prefix
  leadsOn := by simp
  ending := .refused h (by simp)
  noted _ hs hfree := ⟨hs, hfree, rfl⟩

/-- The first post is the last one. -/
theorem Attempted.of_posted (hb : b.enter asked = .ok b')
    (h : (∀ kind text, outcome ≠ .error (.connection kind text)) ∨ seconds = []) :
    Attempted p seconds b [.posted p asked told outcome] outcome (b'.record told outcome) told where
  same q hq := List.mem_singleton.1 hq
  order := by cases seconds <;> simp [Act.pause?, schedule]
  leadsOn := by simp
  ending := .concluded [] (h.imp id fun h => by rw [h]; rfl)
  noted s hs hfree := by
    subst hs
    rw [List.flatMap_singleton, noted_posted hb hfree]
    exact ⟨rfl, rfl, rfl⟩

/-- What ends later attempts also ends all of them. -/
theorem Ending.cons {retries : Nat} (h : Ending retries b now acts result) (p : Post)
    (asked told : Binary64) (outcome : Except Fault Response) (seconds : Value) :
    Ending (retries + 1) b now
      (.posted p asked told outcome :: .paused seconds (.ok ()) :: acts) result := by
  cases h with
  | concluded before h =>
    exact .concluded (.posted p asked told outcome :: .paused seconds (.ok ()) :: before)
      (h.imp id fun hlast => by simp [List.filterMap_cons, hlast])
  | refused h hlast =>
    refine .refused h fun act hact => ?_
    cases acts with
    | nil => exact ⟨seconds, by simpa using hact.symm⟩
    | cons => exact hlast act (by simpa using hact)
  | broken before =>
    exact .broken (.posted p asked told outcome :: .paused seconds (.ok ()) :: before)

/-- A post and a pause, and then more. -/
theorem Attempted.cons {pause : Nat} {kind text : String} {b₁ : Breaker}
    (hb : b.enter asked = .ok b₁)
    (h : Attempted p seconds (b₁.record told (.error (.connection kind text) : Except Fault Response))
      acts result b' now) :
    Attempted p (pause :: seconds) b
      (.posted p asked told (.error (.connection kind text)) :: .paused (pauseOf pause) (.ok ()) ::
        acts) result b' now where
  same := by simpa using h.same
  order := by simpa [schedule] using h.order
  leadsOn act hact := by
    cases acts with
    | nil =>
      cases List.mem_singleton.1 hact
      exact ⟨kind, text, rfl⟩
    | cons =>
      rcases List.mem_cons.1 hact with rfl | hact
      · exact ⟨kind, text, rfl⟩
      · rcases List.mem_cons.1 hact with rfl | hact
        · rfl
        · exact h.leadsOn act hact
  ending := h.ending.cons p asked told _ _
  noted s hs hfree := by
    subst hs
    rw [List.flatMap_cons, List.flatMap_cons, Act.turns.eq_2, List.nil_append,
      Breaker.Traffic.run_append, noted_posted hb hfree]
    obtain ⟨hbreaker, hinFlight, hlog⟩ := h.noted ⟨_, [], _⟩ rfl rfl
    refine ⟨hbreaker, hinFlight, hlog.trans ?_⟩
    simp

/-- A post, and a pause that fails. -/
theorem Attempted.of_broken {pause : Nat} {kind text : String} {f : Fault}
    (hb : b.enter asked = .ok b') :
    Attempted p (pause :: seconds) b
      [.posted p asked told (.error (.connection kind text)), .paused (pauseOf pause) (.error f)]
      (.error f) (b'.record told (.error (.connection kind text) : Except Fault Response)) now where
  same := by simp
  order := by simp [schedule]
  leadsOn act hact := by
    cases List.mem_singleton.1 hact
    exact ⟨kind, text, rfl⟩
  ending := .broken [_]
  noted s hs hfree := by
    subst hs
    rw [List.flatMap_cons, List.flatMap_singleton, Act.turns.eq_2, List.append_nil,
      noted_posted hb hfree]
    exact ⟨rfl, rfl, rfl⟩

end

/-- Attempts go as they should, whatever was on record before them. -/
theorem attempted_post (seconds : List Nat) (d : Deliveries (σ × List Act)) :
    ∃ acts,
      let r := post (c.recorded clock) (clock ∘ Prod.fst) p seconds d
      r.2.outside.2 = d.outside.2 ++ acts ∧
        Attempted p seconds d.breaker acts r.1 r.2.breaker (clock r.2.outside.1) := by
  induction seconds generalizing d with
  | nil =>
    rcases attempt_recorded_cases c clock p d with ⟨h, hr⟩ | ⟨b, outcome, outside, hb, hr⟩
    · refine ⟨[], ?_⟩
      rw [post, hr]
      exact ⟨(List.append_nil _).symm, .of_refused h⟩
    · refine ⟨[.posted p (clock d.outside.1) (clock outside) outcome], ?_⟩
      rw [post, hr]
      exact ⟨rfl, .of_posted hb (.inr rfl)⟩
  | cons pause later ih =>
    rcases attempt_recorded_cases c clock p d with ⟨h, hr⟩ | ⟨b, outcome, outside, hb, hr⟩
    · refine ⟨[], ?_⟩
      rw [post_of_done hr nofun]
      exact ⟨(List.append_nil _).symm, .of_refused h⟩
    · let posted : Act := .posted p (clock d.outside.1) (clock outside) outcome
      by_cases hlost : ∃ kind text, outcome = .error (.connection kind text)
      · obtain ⟨kind, text, rfl⟩ := hlost
        rcases hsleep : c.sleep (pauseOf pause) outside with ⟨f | ⟨⟩, rested⟩
        · refine ⟨[posted, .paused (pauseOf pause) (.error f)], ?_⟩
          rw [post_of_broken hr (Carrier.sleep_recorded hsleep clock)]
          exact ⟨List.append_assoc .., .of_broken hb⟩
        · rw [post_of_lost hr (Carrier.sleep_recorded hsleep clock)]
          obtain ⟨acts, hacts, hattempted⟩ := ih { d with
            breaker := b.record (clock outside) (.error (.connection kind text) : Except Fault Response)
            outside := (rested, d.outside.2 ++ [posted] ++ [.paused (pauseOf pause) (.ok ())]) }
          refine ⟨posted :: .paused (pauseOf pause) (.ok ()) :: acts, ?_, hattempted.cons hb⟩
          simpa using hacts
      · have hdone (kind text : String) : outcome ≠ .error (.connection kind text) :=
          fun heq => hlost ⟨kind, text, heq⟩
        refine ⟨[posted], ?_⟩
        rw [post_of_done hr hdone]
        exact ⟨rfl, .of_posted hb (.inl hdone)⟩

/-! ## How many posts there are -/

section
variable {p} {seconds : List Nat} {b b' : Breaker} {acts : List Act} {result : Except Fault Response}
  {now : Binary64}

end

theorem deliverBy_of_postOf {a : Account} {es : Entries Value} {p : Post} (h : postOf a es = .ok p)
    (c : Carrier σ) (clock : σ → Binary64) (d : Deliveries σ) :
    (deliverBy a c clock es d).1 = (post c clock p pauses d).1.bind (fun response =>
        (conclude ((Entries.get? es "to").getD .null).plain response).1) ∧
      (deliverBy a c clock es d).2.breaker = (post c clock p pauses d).2.breaker ∧
      (deliverBy a c clock es d).2.outside = (post c clock p pauses d).2.outside := by
  unfold deliverBy
  rw [h]
  dsimp only
  rcases post c clock p pauses d with ⟨_ | _, d₁⟩ <;> exact ⟨rfl, rfl, rfl⟩

/-- Posts with outcomes that are known beforehand. -/
def scripted : Carrier (List (Except Fault Response)) where
  post _
    | [] => (.error (.raised "IndexError" "pop from empty list"), [])
    | outcome :: later => (outcome, later)
  sleep _ later := (.ok (), later)

end Delivery
end ChatAutomation
