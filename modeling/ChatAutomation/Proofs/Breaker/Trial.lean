import ChatAutomation.Proofs.Breaker.Traffic

/-!
# Trials of a half open breaker

The calls let through since a breaker was last open are its trials. It should try one at a time, and count
no other call's success; `probes_iff` says which traffic it does that with. Calls that come one after the
other are such traffic, `along_probes_of_alone`, and calls that overlap need not be.
-/
namespace ChatAutomation
namespace Breaker
namespace Traffic

/-- What took effect since the breaker was last open, the latest first. -/
def sinceOpened (s : Traffic) : List Event :=
  (s.log.takeWhile fun x => x.behind != .opened).map Entry.event

/-- The calls in flight that were let through since the breaker was last open. -/
def trials (s : Traffic) : List Nat := s.inFlight.filter fun call => .entered call ∈ s.sinceOpened

/-- `P` holds of every turn and the traffic that it finds. -/
def Along (P : Traffic → Turn → Prop) : Traffic → List Turn → Prop
  | _, [] => True
  | s, t :: turns => P s t ∧ Along P (s.step t) turns

/-- A turn leaves a half open breaker with one trial at most; and only the success of a trial closes the
breaker or is counted. -/
structure Probes (s : Traffic) (t : Turn) : Prop where
  single : (s.step t).phase = .halfOpen → (s.step t).trials.length ≤ 1
  counted : s.phase = .halfOpen →
    (s.step t).phase = .closed ∨ s.breaker.successes < (s.step t).breaker.successes →
    ∃ call now, t = .finish call now (.ok ()) ∧ call ∈ s.trials

/-- While the breaker is half open, no call asks to enter before the trial is over, and none succeeds that
has been in flight for longer than the breaker has been half open. -/
def Waits (s : Traffic) : Turn → Prop
  | .ask call _ => s.phase = .halfOpen → call ∉ s.inFlight → s.trials = []
  | .finish call _ (.ok _) => s.phase = .halfOpen → call ∈ s.inFlight → call ∈ s.trials
  | .finish _ _ (.error _) => True

variable {s : Traffic} {call : Nat} {now : Binary64}

theorem along_append {P : Traffic → Turn → Prop} (turns later : List Turn) :
    s.Along P (turns ++ later) ↔ s.Along P turns ∧ (s.run turns).Along P later := by
  induction turns generalizing s with
  | nil => exact ⟨fun h => ⟨trivial, h⟩, And.right⟩
  | cons t turns ih => exact (and_congr_right fun _ => ih).trans and_assoc.symm

theorem sinceOpened_note {b : Breaker} (h : b.phase ≠ .opened) (event : Event)
    (inFlight : List Nat) : (s.note event b inFlight).sinceOpened = event :: s.sinceOpened := by
  simp [sinceOpened, note, h]

theorem trials_entered (hnew : call ∉ s.inFlight) {b : Breaker} (h : b.phase ≠ .opened) :
    (s.note (.entered call) b (call :: s.inFlight)).trials = call :: s.trials := by
  have hsame (other : Nat) (hin : other ∈ s.inFlight) :
      Event.entered other ∈ .entered call :: s.sinceOpened ↔ .entered other ∈ s.sinceOpened := by
    have hne : other ≠ call := fun heq => hnew (heq ▸ hin)
    simp [hne]
  rw [trials, sinceOpened_note h, note, List.filter_cons_of_pos (by simp), trials]
  exact congrArg (call :: ·) (List.filter_congr fun other hin => decide_eq_decide.2 (hsame other hin))

theorem trials_finished (s : Traffic) (call : Nat) (succeeded : Bool) {b : Breaker}
    (h : b.phase ≠ .opened) :
    (s.note (.finished call succeeded) b (s.inFlight.erase call)).trials = s.trials.erase call := by
  have hsame (other : Nat) :
      Event.entered other ∈ .finished call succeeded :: s.sinceOpened ↔
        .entered other ∈ s.sinceOpened := by
    simp
  rw [trials, sinceOpened_note h, trials, List.erase_filter]
  simp only [hsame, note]

/-- The call that makes the breaker half open is its only trial. -/
theorem trials_probing (hnew : call ∉ s.inFlight) (hnone : s.sinceOpened = []) {b : Breaker}
    (h : b.phase ≠ .opened) :
    (s.note (.entered call) b (call :: s.inFlight)).trials = [call] := by
  rw [trials_entered hnew h, trials, hnone]
  simp

/-- Nothing has happened since the breaker was last open if it is open now. -/
theorem sinceOpened_step (h : s.phase = .opened → s.sinceOpened = []) (t : Turn)
    (hopened : (s.step t).phase = .opened) : (s.step t).sinceOpened = [] := by
  have hnote (event : Event) (b : Breaker) (inFlight : List Nat) (hb : b.phase = .opened) :
      (s.note event b inFlight).sinceOpened = [] := by
    simp [sinceOpened, note, hb]
  obtain hsame | ⟨_, _, _, -, -, -, hnext⟩ | ⟨_, _, -, -, hnext⟩ | ⟨_, _, _, -, -, hnext⟩ :=
    s.step_cases t
  · rw [hsame] at hopened ⊢
    exact h hopened
  all_goals
    rw [hnext] at hopened ⊢
    exact hnote _ _ _ hopened

theorem successes_succeed {b : Breaker} (h : b.phase = .halfOpen) :
    b.succeed.successes = b.successes + 1 := by
  rcases b.succeed_cases with ⟨-, -, hb⟩ | ⟨-, -, hb⟩ | ⟨hother, -⟩
  · rw [hb]
  · rw [hb]
  · exact absurd h hother

theorem phase_of_succeed {b : Breaker} (h : b.succeed.phase = .halfOpen) : b.phase = .halfOpen := by
  rcases b.succeed_cases with ⟨hphase, -, -⟩ | ⟨hphase, -, -⟩ | ⟨-, hb⟩
  · exact hphase
  · exact hphase
  · rwa [hb] at h

theorem phase_fail_ne_halfOpen (b : Breaker) : (b.fail now).phase ≠ .halfOpen := by
  rcases b.phase_fail_cases now with ⟨-, hopened⟩ | ⟨hphase, -, hsame⟩
  · rw [hopened]
    decide
  · rwa [hsame]

theorem Probes.waits {t : Turn} (h : s.Probes t) : s.Waits t := by
  cases t with
  | ask call now =>
    intro hhalf hnew
    have hopen : s.breaker.phase ≠ .opened := ne_of_eq_of_ne hhalf (by decide)
    have hnext : s.step (.ask call now) = s.note (.entered call) s.breaker (call :: s.inFlight) :=
      step_ask hnew (enter_of_ne_opened hopen)
    have hone : (s.step (.ask call now)).trials.length ≤ 1 := h.single (by rw [hnext]; exact hhalf)
    rw [hnext, trials_entered hnew hopen, List.length_cons] at hone
    exact List.length_eq_zero_iff.1 (by omega)
  | finish call now outcome =>
    cases outcome with
    | ok _ =>
      intro hhalf hin
      have hmore : s.breaker.successes < (s.step (.finish call now (.ok ()))).breaker.successes := by
        rw [step_finish _ hin]
        exact (successes_succeed hhalf).symm ▸ Nat.lt_succ_self _
      obtain ⟨_, _, hturn, htrial⟩ := h.counted hhalf (.inr hmore)
      cases hturn
      exact htrial
    | error _ => trivial

/-- Where nothing is counted, only the number of trials matters. -/
theorem Probes.of_uncounted {t : Turn}
    (hsingle : (s.step t).phase = .halfOpen → (s.step t).trials.length ≤ 1)
    (h : s.phase = .halfOpen →
      (s.step t).phase ≠ .closed ∧ (s.step t).breaker.successes = s.breaker.successes) :
    s.Probes t where
  single := hsingle
  counted := by
    rintro hhalf (hclosed | hmore)
    · exact absurd hclosed (h hhalf).1
    · exact absurd hmore ((h hhalf).2 ▸ Nat.lt_irrefl _)

theorem Waits.probes (hsingle : s.phase = .halfOpen → s.trials.length ≤ 1)
    (hbehind : s.phase = .opened → s.sinceOpened = []) {t : Turn} (h : s.Waits t) : s.Probes t := by
  obtain hsame | ⟨call, now, b, rfl, hnew, hb, hnext⟩ | ⟨call, now, rfl, hin, hnext⟩ |
    ⟨call, now, x, rfl, hin, hnext⟩ := s.step_cases t
  · apply Probes.of_uncounted <;> rw [hsame]
    · exact hsingle
    · exact fun hhalf => ⟨ne_of_eq_of_ne hhalf (by decide), rfl⟩
  · rcases enter_eq_ok_iff.1 hb with ⟨hopen, rfl⟩ | ⟨hopened, -, rfl⟩
    · apply Probes.of_uncounted <;> rw [hnext]
      · intro hhalf
        rw [trials_entered hnew hopen, h hhalf hnew]
        exact Nat.le_refl 1
      · exact fun hhalf => ⟨ne_of_eq_of_ne hhalf (by decide), rfl⟩
    · apply Probes.of_uncounted <;> rw [hnext]
      · intro _
        rw [trials_probing hnew (hbehind hopened) (by simp)]
        exact Nat.le_refl 1
      · exact fun hhalf => absurd hopened (ne_of_eq_of_ne hhalf (by decide))
  · constructor
    · rw [hnext]
      intro hhalf
      have hstays : s.breaker.succeed.phase ≠ .opened := ne_of_eq_of_ne hhalf (by decide)
      rw [trials_finished s call true hstays]
      exact Nat.le_trans List.length_erase_le (hsingle (phase_of_succeed hhalf))
    · exact fun hhalf _ => ⟨call, now, rfl, h hhalf hin⟩
  · apply Probes.of_uncounted <;> rw [hnext]
    · exact fun hhalf => absurd hhalf (phase_fail_ne_halfOpen _)
    · intro hhalf
      have hopened : (s.breaker.fail now).phase = .opened := if_pos (.inl hhalf)
      exact ⟨ne_of_eq_of_ne hopened (by decide), rfl⟩

theorem along_probes_iff (hsingle : s.phase = .halfOpen → s.trials.length ≤ 1)
    (hbehind : s.phase = .opened → s.sinceOpened = []) (turns : List Turn) :
    s.Along Probes turns ↔ s.Along Waits turns := by
  -- both hypotheses are carried along: a turn that probes leaves the first to the next one
  induction turns generalizing s with
  | nil => exact Iff.rfl
  | cons t turns ih =>
    constructor
    · rintro ⟨hprobes, hrest⟩
      exact ⟨hprobes.waits, (ih hprobes.single (sinceOpened_step hbehind t)).1 hrest⟩
    · rintro ⟨hwaits, hrest⟩
      have hprobes := hwaits.probes hsingle hbehind
      exact ⟨hprobes, (ih hprobes.single (sinceOpened_step hbehind t)).2 hrest⟩

/-- A half open breaker turns no call away and takes any success for that of its trial. So it probes with
single trials just where no call asks before the trial is over, and none from before succeeds. -/
theorem probes_iff (limits : BreakerLimits) (turns : List Turn) :
    (start limits).Along Probes turns ↔ (start limits).Along Waits turns :=
  along_probes_iff (by simp) (by simp) turns

/-- Two calls enter a half open breaker, and it closes with a third that entered before it opened. -/
theorem probes_not_of_overlap :
    let limits : BreakerLimits :=
      { name := "mail", failureThreshold := 1, timeout := .ofDecimal false 10 0 }
    let early : Binary64 := .ofDecimal false 1 0
    let late : Binary64 := .ofDecimal false 12 0
    let turns : List Turn := [.ask 0 early, .ask 1 early,
      .finish 1 early (.error (.connection "ConnectionError" "down")), .ask 2 late, .ask 3 late]
    let s := (start limits).run turns
    s.phase = .halfOpen ∧ s.trials = [3, 2] ∧ 0 ∈ s.inFlight ∧
      (s.step (.finish 0 late (.ok ()))).phase = .closed ∧
      ¬ (start limits).Along Probes (turns ++ [.finish 0 late (.ok ())]) := by
  intro limits early late turns s
  have hhalf : s.phase = .halfOpen := by decide +kernel
  have htrials : s.trials = [3, 2] := by decide +kernel
  have hclosed : (s.step (.finish 0 late (.ok ()))).phase = .closed := by decide +kernel
  refine ⟨hhalf, htrials, by decide +kernel, hclosed, fun h => ?_⟩
  obtain ⟨-, hlast, -⟩ := (along_append _ _).1 h
  obtain ⟨_, _, hturn, htrial⟩ := hlast.counted hhalf (.inl hclosed)
  cases hturn
  rw [htrials] at htrial
  exact absurd htrial (by decide)

/-- Calls that come one after the other, each to its end. -/
def Alone (s : Traffic) (t : Turn) : Prop := (s.step t).inFlight.length ≤ 1

theorem inFlight_eq_nil_of_alone (hnew : call ∉ s.inFlight) {b : Breaker}
    (hb : s.breaker.enter now = .ok b) (h : s.Alone (.ask call now)) : s.inFlight = [] := by
  rw [Alone, step_ask hnew hb, note, List.length_cons] at h
  exact List.length_eq_zero_iff.1 (by omega)

theorem Alone.waits (hall : s.phase = .halfOpen → s.trials = s.inFlight) {t : Turn} (h : s.Alone t) :
    s.Waits t := by
  cases t with
  | ask call now =>
    intro hhalf hnew
    have hopen : s.breaker.phase ≠ .opened := ne_of_eq_of_ne hhalf (by decide)
    rw [hall hhalf]
    exact inFlight_eq_nil_of_alone hnew (enter_of_ne_opened hopen) h
  | finish call now outcome =>
    cases outcome with
    | ok _ => exact fun hhalf hin => (hall hhalf).symm ▸ hin
    | error _ => trivial

/-- All that is in flight through a half open breaker are its trials. -/
theorem Alone.trials_step (hall : s.phase = .halfOpen → s.trials = s.inFlight) {t : Turn}
    (h : s.Alone t) (hhalf : (s.step t).phase = .halfOpen) :
    (s.step t).trials = (s.step t).inFlight := by
  obtain hsame | ⟨call, now, b, rfl, hnew, hb, hnext⟩ | ⟨call, now, rfl, hin, hnext⟩ |
    ⟨call, now, x, rfl, hin, hnext⟩ := s.step_cases t
  · rw [hsame] at hhalf ⊢
    exact hall hhalf
  · have hnone := inFlight_eq_nil_of_alone hnew hb h
    rw [hnext, trials_entered hnew (phase_of_enter hb), trials, hnone]
    simp [note]
  · rw [hnext] at hhalf ⊢
    have hstays : s.breaker.succeed.phase ≠ .opened := ne_of_eq_of_ne hhalf (by decide)
    rw [trials_finished s call true hstays, hall (phase_of_succeed hhalf), note]
  · rw [hnext] at hhalf
    exact absurd hhalf (phase_fail_ne_halfOpen _)

theorem Alone.along_waits (hall : s.phase = .halfOpen → s.trials = s.inFlight) {turns : List Turn}
    (h : s.Along Alone turns) : s.Along Waits turns := by
  induction turns generalizing s with
  | nil => trivial
  | cons t turns ih => exact ⟨h.1.waits hall, ih (h.1.trials_step hall) h.2⟩

/-- Calls that come one after the other try a half open breaker one at a time. -/
theorem along_probes_of_alone (limits : BreakerLimits) {turns : List Turn}
    (h : (start limits).Along Alone turns) : (start limits).Along Probes turns :=
  (along_probes_iff (by simp) (by simp) turns).2 (Alone.along_waits (by simp) h)

end Traffic
end Breaker
end ChatAutomation
