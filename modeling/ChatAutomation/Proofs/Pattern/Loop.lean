import ChatAutomation.Proofs.Pattern.LetterRun

/-!
# Repetitions and tests

Rounds of a body, and what stands before or behind a place. Each is an attempt that answers its ways if
the body is one.
-/
namespace ChatAutomation.Pattern

variable {widths : Nat → Option Width} {t : Array Char} {groups : Nat} {e : Arrival} {o : Opened}
  {a bound top : Nat} {goal : Goal} {aim : Way → Option Way} {w : Way}

theorem arrive_meets (o : Opened) (bound top : Nat) (w : Way) :
    Meets groups ⟨o, top⟩ o bound top arrive some w := fun m hshows hknown =>
  .reached rfl (hshows.moveTo w.1) (Nat.le_refl _) hknown ((Kept.refl o bound m).moveTo w.1)

/-! ## Rounds -/

/-- A body with groups behind the first `a` answers its ways, and they lie in the text. -/
structure Rounds (widths : Nat → Option Width) (t : Array Char) (groups : Nat) (e : Arrival) (o : Opened)
    (a top : Nat) (body : Goal → Goal) (ways : Nat → Captures → List Way) : Prop where
  meets : ∀ {bound : Nat} {goal : Goal} {aim : Way → Option Way} {w : Way}, w.1 ≤ t.size →
    w.2.Fit widths → (∀ u ∈ ways w.1 w.2, Meets groups e o bound top goal aim u) →
    Meets groups e o (min a bound) top (body goal) (fun w => firstOf aim (ways w.1 w.2)) w
  spans : ∀ {w u : Way}, w.1 ≤ t.size → w.2.Fit widths → u ∈ ways w.1 w.2 → Spans widths t 0 w.1 u

section rounds
variable {body : Goal → Goal} {ways : Nat → Captures → List Way} {least : Nat} {most : Option Nat}

/-- One more round of a body that answers its ways, whatever comes behind it. -/
theorem Rounds.next (hbody : Rounds widths t groups e o a top body ways) {rest : Goal}
    {after : Way → List Way} (hpos : w.1 ≤ t.size) (hfit : w.2.Fit widths)
    (hrest : ∀ u ∈ ways w.1 w.2, u.1 ≤ t.size → u.2.Fit widths →
      Meets groups e o (min a bound) top rest (fun u => firstOf aim (after u)) u) :
    Meets groups e o (min a bound) top (body rest)
      (fun w => firstOf aim ((ways w.1 w.2).flatMap after)) w := by
  have hround := hbody.meets hpos hfit fun u hu =>
    hrest u hu (hbody.spans hpos hfit hu).inside (hbody.spans hpos hfit hu).fit
  simp only [firstOf_flatMap]
  exact hround.mono (by omega) (Nat.le_refl _)

theorem greedyLoop_meets (hbody : Rounds widths t groups e o a top body ways) {fuel count : Nat}
    {last : Option Nat} (hpos : w.1 ≤ t.size) (hfit : w.2.Fit widths)
    (hgoal : ∀ u ∈ rounds false ways least most fuel count last w.1 w.2,
      Meets groups e o bound top goal aim u) :
    Meets groups e o (min a bound) top (greedyLoop body least most goal fuel count last)
      (fun w => firstOf aim (rounds false ways least most fuel count last w.1 w.2)) w := by
  induction fuel generalizing count last w with
  | zero => exact fun m _ _ => .failed (.refl ..)
  | succ fuel ih =>
    intro m hshows hknown
    by_cases hcount : count < least
    · simp only [greedyLoop, rounds, if_pos hcount] at hgoal ⊢
      have hround := hbody.next hpos hfit fun u hu hin hfit => @ih u _ last hin hfit fun u' hu' =>
        hgoal u' (List.mem_flatMap.2 ⟨u, hu, hu'⟩)
      exact (hround.at_moved hshows hknown _).backTo _
    · simp only [greedyLoop, rounds, if_neg hcount, Bool.false_eq_true, if_false] at hgoal ⊢
      have hstop := hgoal w (List.mem_append_right _ List.mem_cons_self)
      by_cases hmore : (mayRepeat most count && last != some w.1) = true
      · simp only [if_pos hmore] at hgoal ⊢
        rw [firstOf_append, firstOf_singleton]
        have hround := hbody.next hpos hfit fun u hu hin hfit => @ih u _ (some w.1) hin hfit
          fun u' hu' => hgoal u' (List.mem_append_left _ (List.mem_flatMap.2 ⟨u, hu, hu'⟩))
        refine (hround.at_moved hshows hknown _).orElse (Nat.le_refl _) fun x hx => Answers.backTo ?_ _
        have hx := hx.of_prior_moveTo w.1
        exact ((hstop.mono (Nat.min_le_right ..) (Nat.le_refl _)).resume
          ((hshows.moveTo w.1).restore hx fun h => by cases h) (hx.restore true).of_moveTo rfl hknown w.1)
      · simp only [if_neg hmore, List.nil_append, firstOf_singleton]
        exact ((hstop.at_moved hshows hknown _).backTo _).mono (Nat.min_le_right ..)

theorem lazyLoop_meets (hbody : Rounds widths t groups e o a top body ways) {inLoop : Bool}
    (hbound : inLoop = false → top ≤ bound) {fuel count : Nat} {last : Option Nat}
    (hpos : w.1 ≤ t.size) (hfit : w.2.Fit widths)
    (hgoal : ∀ u ∈ rounds true ways least most fuel count last w.1 w.2,
      Meets groups e o bound top goal aim u) :
    Meets groups e o (min a bound) top (lazyLoop body least most inLoop goal fuel count last)
      (fun w => firstOf aim (rounds true ways least most fuel count last w.1 w.2)) w := by
  induction fuel generalizing count last w with
  | zero => exact fun m _ _ => .failed (.refl ..)
  | succ fuel ih =>
    intro m hshows hknown
    by_cases hcount : count < least
    · simp only [lazyLoop, rounds, if_pos hcount] at hgoal ⊢
      have hround := hbody.next hpos hfit fun u hu hin hfit => @ih u _ last hin hfit fun u' hu' =>
        hgoal u' (List.mem_flatMap.2 ⟨u, hu, hu'⟩)
      exact (hround.at_moved hshows hknown _).backTo _
    · simp only [lazyLoop, rounds, if_neg hcount, if_true] at hgoal ⊢
      rw [firstOf_cons]
      have hstop := hgoal w List.mem_cons_self
      refine (hstop.at_moved hshows hknown _).orElse (Nat.min_le_right ..) fun x hx => ?_
      have hback : Shows groups o w.2 (x.restore (m.moveTo w.1) inLoop) :=
        (hshows.moveTo w.1).restore (hx.of_prior_moveTo w.1) fun h => by
          have := hbound h
          simp only [Memory.known_moveTo]
          omega
      have hkept : Kept o (min a bound) m (x.restore (m.moveTo w.1) inLoop) :=
        (((hx.of_prior_moveTo w.1).restore inLoop).mono (Nat.min_le_right ..)).of_moveTo
      by_cases hmore : (mayRepeat most count && last != some w.1) = true
      · simp only [if_pos hmore] at hgoal ⊢
        have hround := hbody.next hpos hfit fun u hu hin hfit => @ih u _ (some w.1) hin hfit
          fun u' hu' => hgoal u' (List.mem_cons_of_mem _ (List.mem_flatMap.2 ⟨u, hu, hu'⟩))
        exact (hround.resume hback hkept rfl hknown _).backTo _
      · simp only [if_neg hmore, firstOf_nil]
        exact .failed (hkept.moveTo _)

end rounds

/-! ## Tests -/

/-- A test of a body that answers its ways, at a place before or ahead of which it is made. -/
theorem look_meets {body : Goal → Goal} {ways : List Way} {negated inLoop : Bool} {back top' : Nat}
    (htop : top ≤ top') (hbound : inLoop = false → top ≤ a)
    (hbody : back ≤ w.1 →
      Meets groups ⟨o, top'⟩ o a top (body arrive) (fun _ => ways.head?) (w.1 - back, w.2))
    (hgoal : ∀ u ∈ passing negated w.1 w.2 (if w.1 < back then [] else ways),
      Meets groups e o bound top' goal aim u) :
    Meets groups e o (min a bound) top (look body negated back inLoop goal)
      (fun w => firstOf aim (passing negated w.1 w.2 (if w.1 < back then [] else ways))) w := by
  intro m hshows hknown
  unfold look
  by_cases hback : w.1 < back
  · simp only [if_pos hback] at hgoal ⊢
    cases negated with
    | true =>
      rw [passing, firstOf_singleton]
      exact (hgoal w (by simp [passing]) m hshows (by omega)).mono (Nat.min_le_right ..)
    | false => exact .failed (.refl ..)
  · simp only [if_neg hback] at hgoal ⊢
    have hanswer := (hbody (Nat.not_lt.1 hback)).at_moved hshows hknown (w.1 - back)
    generalize body arrive (w.1 - back) (m.moveTo (w.1 - back)) = r at hanswer ⊢
    cases ways with
    | nil =>
      cases hanswer with
      | failed hkept =>
        cases negated with
        | true =>
          have hgoal := hgoal w (by simp [passing])
          rw [passing, firstOf_singleton]
          refine hgoal.goOn (hshows.restore hkept fun h => ?_)
            ((hkept.restore inLoop).mono (Nat.min_le_left ..)) (Nat.le_refl _) ?_ (Nat.min_le_right ..)
          · have := hbound h
            omega
          · simp only [Memory.known_restore]
            omega
        | false => exact .failed (hkept.mono (Nat.min_le_left ..))
    | cons u us =>
      cases hanswer with
      | reached place shows known top kept =>
        cases negated with
        | true => exact .failed (kept.mono (Nat.min_le_left ..))
        | false =>
          have hgoal := hgoal (w.1, u.2) (by simp [passing])
          rw [passing, firstOf_singleton]
          exact hgoal.goOn shows (kept.mono (Nat.min_le_left ..)) known top (Nat.min_le_right ..)

end ChatAutomation.Pattern
