import ChatAutomation.Proofs.Pattern.Loop

/-!
# Searching finds what a pattern means

A calm pattern is one that the memory of failed attempts does not show in: no group is repeated
possessively, and none is asked for inside of itself. `search_eq` says that a search for such a pattern
finds a match exactly if there is a way through the pattern from some place of the text.
-/
namespace ChatAutomation.Pattern

/-- No group is repeated possessively, and no group is referred to where it is still open. -/
def Re.isCalm (inside : List Nat) : Re → Bool
  | .empty | .never | .letter _ | .anchor _ => true
  | .cat a b | .alt a b => a.isCalm inside && b.isCalm inside
  | .choice n a b => !inside.contains n && (a.isCalm inside && b.isCalm inside)
  | .backref n _ _ => !inside.contains n
  | .group n r => r.isCalm (n :: inside)
  | .plain r | .atomic r | .ahead _ r | .behind _ _ r => r.isCalm inside
  | .loop greed _ _ r => (greed != .possessive || r.single?.isSome) && r.isCalm inside

/-- Groups are met in their order. At most the first `top` have been met before a part with the groups
from `a + 1` to `b`, and the first `top'` behind it; outside of loops, where only what lies behind the part
is still to be met, those are the ones up to `a`. -/
structure Ordered (inLoop : Bool) (a b bound top top' : Nat) : Prop where
  behind : b ≤ top'
  more : top ≤ top'
  inOrder : inLoop = false → b ≤ bound ∧ top ≤ a

namespace Ordered

variable {inLoop : Bool} {a b c bound top top' : Nat}

/-- How many groups have been met between two parts. -/
def between (inLoop : Bool) (c top' : Nat) : Nat := if inLoop then top' else c

theorem between_le (hc : c ≤ top') : between inLoop c top' ≤ top' := by
  unfold between
  split <;> omega

theorem left (h : Ordered inLoop a b bound top top') (hac : a ≤ c) (hcb : c ≤ b) :
    Ordered inLoop a c (min c bound) top (between inLoop c top') := by
  obtain ⟨hbehind, hmore, horder⟩ := h
  cases inLoop with
  | true => exact ⟨by simp only [between, if_true]; omega, hmore, fun h => by cases h⟩
  | false =>
    have := horder rfl
    exact ⟨Nat.le_refl c, show top ≤ c by omega, fun _ => by omega⟩

theorem right (h : Ordered inLoop a b bound top top') (hcb : c ≤ b) :
    Ordered inLoop c b bound (between inLoop c top') top' := by
  refine ⟨h.behind, between_le (Nat.le_trans hcb h.behind), fun hloop => ⟨(h.inOrder hloop).1, ?_⟩⟩
  rw [hloop]
  exact Nat.le_refl c

/-- A part that is matched on its own, before what lies behind it. -/
theorem alone (h : Ordered inLoop a b bound top top') (hab : a ≤ b) :
    Ordered inLoop a b b top (between inLoop b top') :=
  ⟨(h.left hab (Nat.le_refl b)).behind, (h.left hab (Nat.le_refl b)).more, fun hloop =>
    ⟨Nat.le_refl b, (h.inOrder hloop).2⟩⟩

/-- One of several parts that are tried from the same place. -/
theorem arm (h : Ordered inLoop a b bound top top') {a' b' : Nat} (ha : a ≤ a') (hb : b' ≤ b) :
    Ordered inLoop a' b' bound top top' :=
  ⟨by have := h.behind; omega, h.more, fun hloop => by have := h.inOrder hloop; omega⟩

/-- Inside of a group that is opened. -/
theorem enter (h : Ordered inLoop a b bound top top') (hab : a + 1 ≤ b) :
    Ordered inLoop (a + 1) b bound (between inLoop (a + 1) top') top' := by
  have := h.behind
  refine ⟨this, between_le (by omega), fun hloop => ⟨(h.inOrder hloop).1, ?_⟩⟩
  rw [hloop]
  exact Nat.le_refl _

end Ordered

/-- A part stands where the groups from `a + 1` to `b` are its own. It is calm, and a group that is open
there has been met before it and stands around it. -/
structure Re.Placed (widths : Nat → Option Width) (groups : Nat) (inside : List Nat) (o : Opened)
    (a b : Nat) (r : Re) : Prop where
  laid : r.Laid widths a b
  room : b ≤ groups
  calm : r.isCalm inside = true
  opened : ∀ n, o n ≠ none → n ∈ inside ∧ n ≤ a

namespace Re.Placed

variable {widths : Nat → Option Width} {groups n a b : Nat} {inside : List Nat} {o : Opened} {r s : Re}

theorem le (h : r.Placed widths groups inside o a b) : a ≤ b := h.laid.le

theorem shut_of_lt (h : r.Placed widths groups inside o a b) (hn : a < n) : o n = none := by
  by_contra hopen
  have := (h.opened n hopen).2
  omega

theorem shut_of_not_mem (h : r.Placed widths groups inside o a b) (hn : n ∉ inside) : o n = none := by
  by_contra hopen
  exact hn (h.opened n hopen).1

/-- The second of two parts stands behind the groups of the first one. -/
theorem cat (h : (Re.cat r s).Placed widths groups inside o a b) :
    ∃ c, r.Placed widths groups inside o a c ∧ s.Placed widths groups inside o c b := by
  obtain ⟨⟨c, hr, hs⟩, hroom, hcalm, hopened⟩ := h
  obtain ⟨hcalmr, hcalms⟩ := Bool.and_eq_true_iff.1 hcalm
  refine ⟨c, ⟨hr, Nat.le_trans hs.le hroom, hcalmr, hopened⟩, ⟨hs, hroom, hcalms, fun n hn => ?_⟩⟩
  exact ⟨(hopened n hn).1, Nat.le_trans (hopened n hn).2 hr.le⟩

theorem alt (h : (Re.alt r s).Placed widths groups inside o a b) :
    ∃ c, r.Placed widths groups inside o a c ∧ s.Placed widths groups inside o c b :=
  Placed.cat ⟨h.laid, h.room, h.calm, h.opened⟩

theorem choice (h : (Re.choice n r s).Placed widths groups inside o a b) :
    1 ≤ n ∧ o n = none ∧
      ∃ c, r.Placed widths groups inside o a c ∧ s.Placed widths groups inside o c b := by
  obtain ⟨hone, hlaid⟩ := h.laid
  have hcalm := h.calm
  simp only [isCalm, Bool.and_eq_true, Bool.not_eq_true', List.contains_eq_mem,
    decide_eq_false_iff_not] at hcalm
  exact ⟨hone, h.shut_of_not_mem hcalm.1,
    Placed.cat ⟨hlaid, h.room, Bool.and_eq_true_iff.2 hcalm.2, h.opened⟩⟩

theorem backref {width : Width} {folding : Folding}
    (h : (Re.backref n width folding).Placed widths groups inside o a b) : 1 ≤ n ∧ o n = none := by
  refine ⟨h.laid.2.1, h.shut_of_not_mem ?_⟩
  simpa [isCalm] using h.calm

/-- Inside of a group that is opened. -/
theorem group (h : (Re.group n r).Placed widths groups inside o a b) (first : Nat) :
    n = a + 1 ∧ r.Placed widths groups (n :: inside) (Function.update o n (some first)) (a + 1) b := by
  obtain ⟨rfl, hr, -⟩ := h.laid
  refine ⟨rfl, ⟨hr, h.room, h.calm, fun n hn => ?_⟩⟩
  by_cases hna : n = a + 1
  · exact ⟨hna ▸ List.mem_cons_self, Nat.le_of_eq hna⟩
  · rw [Function.update_of_ne hna] at hn
    exact ⟨List.mem_cons_of_mem _ (h.opened n hn).1, Nat.le_succ_of_le (h.opened n hn).2⟩

theorem loop {greed : Greed} {least : Nat} {most : Option Nat}
    (h : (Re.loop greed least most r).Placed widths groups inside o a b) :
    (greed = .possessive → r.single?.isSome = true) ∧ (∀ n, most = some n → least ≤ n) ∧
      r.Placed widths groups inside o a b := by
  obtain ⟨hgreed, hcalm⟩ := Bool.and_eq_true_iff.1 h.calm
  refine ⟨?_, h.laid.1, ⟨h.laid.2, h.room, hcalm, h.opened⟩⟩
  rintro rfl
  exact hgreed

end Re.Placed

theorem Re.ways_of_single? {r : Re} {l : Letter} (h : r.single? = some l) (t : Array Char) :
    r.ways t = (letter l).ways t := by
  induction r with
  | letter k =>
    obtain rfl : k = l := Option.some.inj h
    rfl
  | plain r ih => exact ih h
  | cat r s ihr _ =>
    cases s with
    | empty =>
      funext pos v
      have hr := ihr h
      rw [ways, hr]
      simp only [ways, List.flatMap_singleton']
    | _ => cases h
  | _ => cases h

theorem Re.ways_loop_of_single? {r : Re} {l : Letter} (h : r.single? = some l) (greed : Greed)
    (least : Nat) (most : Option Nat) (t : Array Char) :
    (loop greed least most r).ways t = (loop greed least most (letter l)).ways t := by
  funext pos v
  rw [ways, ways_of_single? h]
  rfl

theorem Re.isMade_opening {widths : Nat → Option Width} {r : Re} {a b : Nat} (h : r.Laid widths a b)
    {next : Option Letter} (hnext : ∀ l, next = some l → l.IsMade) {l : Letter}
    (hl : r.opening next = some l) : l.IsMade := by
  induction r generalizing a b next l with
  | empty => exact hnext l hl
  | cat r s ihr ihs =>
    obtain ⟨c, hr, hs⟩ := h
    exact ihr hr (fun k hk => ihs hs hnext hk) hl
  | letter k =>
    obtain rfl : k = l := Option.some.inj hl
    exact h.2
  | plain r ih => exact ih h hnext hl
  | _ => cases hl

/-- An alternative that cannot begin at a place has no way from there. -/
theorem Re.first_eq_none_of_not_mayOpen {t : Array Char} {r : Re} {w : Way}
    (h : mayOpen t w.1 (r.opening none) = false) (aim : Way → Option Way) : r.first t aim w = none := by
  unfold mayOpen at h
  split at h
  · rename_i l hl
    simp only [Bool.or_eq_false_iff] at h
    exact Hinted.opening (fun u _ => Hinted.none t aim u) l hl h.2
  · cases h

/-! ## Parts -/

section parts
variable {widths : Nat → Option Width} {t : Array Char} {groups : Nat} {e : Arrival} {o : Opened}
  {bound bound' top top' : Nat} {inLoop : Bool} {next next' : Option Letter} {goal : Goal}
  {aim : Way → Option Way} {w : Way} {r s : Re}

theorem alt_meets (hfirst : Meets groups e o bound top (r.run t inLoop none goal) (r.first t aim) w)
    (hsecond : Meets groups e o bound' top (s.run t inLoop next goal) (s.first t aim) w)
    (hle : bound ≤ bound') (hbound : inLoop = false → top ≤ bound) :
    Meets groups e o bound top ((Re.alt r s).run t inLoop next goal) ((Re.alt r s).first t aim) w := by
  intro m hshows hknown
  rw [Re.first_alt, Re.run_alt]
  by_cases hmay : mayOpen t w.1 (r.opening none) = true
  · rw [if_pos hmay]
    refine (hfirst.at_moved hshows hknown w.1).orElse (Nat.le_refl _) fun x hx => ?_
    refine hsecond.goOn (hshows.restore hx fun hloop => ?_) (hx.restore inLoop) (Nat.le_refl _) hknown hle
    have := hbound hloop
    omega
  · rw [if_neg hmay, Re.first_eq_none_of_not_mayOpen (by simpa using hmay), Option.none_or]
    exact (hsecond m hshows hknown).mono hle

theorem letter_meets {l : Letter}
    (hgoal : l.fitsAt t w.1 = true → Meets groups e o bound top goal aim (w.1 + 1, w.2)) :
    Meets groups e o bound top ((Re.letter l).run t inLoop next goal) ((Re.letter l).first t aim) w := by
  intro m hshows hknown
  rw [Re.first_letter, Re.run_letter]
  split
  · rename_i hfits
    exact hgoal hfits m hshows hknown
  · exact .failed (.refl ..)

theorem anchor_meets {k : Anchor}
    (hgoal : k.holds t w.1 = true → Meets groups e o bound top goal aim w) :
    Meets groups e o bound top ((Re.anchor k).run t inLoop next goal) ((Re.anchor k).first t aim) w := by
  intro m hshows hknown
  rw [Re.first_anchor, Re.run_anchor]
  split
  · rename_i hholds
    exact hgoal hholds m hshows hknown
  · exact .failed (.refl ..)

/-- Behind a group that is shut there, its goal. -/
theorem shut_meets {n first : Nat} {u : Way} (hshut : o n = none) (hn : n ≤ groups) (htop : n ≤ top)
    (hgoal : Meets groups e o bound top goal aim (u.1, u.2.capture n first u.1)) :
    Meets groups e (Function.update o n (some first)) bound top
      (fun pos m => goal pos (m.mark (2 * n - 1) pos)) (fun u => aim (u.1, u.2.capture n first u.1)) u := by
  intro m hshows hknown
  have hone := hshows.one_le (n := n) (by simp)
  have hknown' : (m.mark (2 * n - 1) u.1).known ≤ 2 * top := by
    rw [Memory.known_mark]
    omega
  exact (hgoal _ (hshows.leave hshut hn u.1) hknown').of_prior (Nat.le_max_left ..) fun x hx =>
    hx.of_leave hshut

theorem group_meets {n : Nat} (hone : 1 ≤ n) (hn : n ≤ groups) (hbound : bound < n)
    (hle : bound ≤ bound') (htop : top ≤ top') (hntop : n ≤ top')
    (hinner : Meets groups e (Function.update o n (some w.1)) bound' top'
      (r.run t inLoop none fun pos m => goal pos (m.mark (2 * n - 1) pos))
      (r.first t fun u => aim (u.1, u.2.capture n w.1 u.1)) w) :
    Meets groups e o bound top ((Re.group n r).run t inLoop next goal) ((Re.group n r).first t aim) w := by
  intro m hshows hknown
  rw [Re.first_group]
  have hknown' : (m.mark (2 * n - 2) w.1).known ≤ 2 * top' := by
    rw [Memory.known_mark]
    omega
  exact (hinner _ (hshows.enter hone hn w.1) hknown').of_prior (Nat.le_max_left ..) fun x hx =>
    hx.of_enter hle hbound

theorem backref_meets {n : Nat} {width : Width} {folding : Folding} (hfit : w.2.Fit widths)
    (hone : 1 ≤ n) (hshut : o n = none)
    (hgoal : ∀ u ∈ (Re.backref n width folding).ways t w.1 w.2, Meets groups e o bound top goal aim u) :
    Meets groups e o bound top ((Re.backref n width folding).run t inLoop next goal)
      ((Re.backref n width folding).first t aim) w := by
  intro m hshows hknown
  rw [Re.first, Re.run_backref]
  simp only [Re.ways, hshows.span? hfit hone hshut] at hgoal ⊢
  cases hn : w.2 n with
  | none => exact .failed (.refl ..)
  | some s =>
    simp only [hn] at hgoal ⊢
    split
    · rename_i hrepeats
      rw [firstOf_singleton]
      exact hgoal (w.1 + (s.2 - s.1), w.2) (by simp [hrepeats]) m hshows hknown
    · exact .failed (.refl ..)

theorem choice_meets {n : Nat} (hfit : w.2.Fit widths) (hone : 1 ≤ n) (hshut : o n = none)
    (hyes : (w.2 n).isSome = true → Meets groups e o bound top
      (r.run t inLoop (if s = .empty then next else none) goal) (r.first t aim) w)
    (hno : (w.2 n).isSome = false →
      Meets groups e o bound top (s.run t inLoop next goal) (s.first t aim) w) :
    Meets groups e o bound top ((Re.choice n r s).run t inLoop next goal)
      ((Re.choice n r s).first t aim) w := by
  intro m hshows hknown
  rw [Re.first, Re.run_choice, hshows.span? hfit hone hshut]
  simp only [Re.ways]
  cases hn : (w.2 n).isSome with
  | true => exact hyes hn m hshows hknown
  | false => exact hno hn m hshows hknown

theorem atomic_meets (hle : bound ≤ bound')
    (hbody : Meets groups ⟨o, top'⟩ o bound top (r.run t inLoop none arrive) (r.first t some) w)
    (hgoal : ∀ u ∈ (Re.atomic r).ways t w.1 w.2, Meets groups e o bound' top' goal aim u) :
    Meets groups e o bound top ((Re.atomic r).run t inLoop next goal) ((Re.atomic r).first t aim) w := by
  intro m hshows hknown
  have hanswer := hbody.at_moved hshows hknown w.1
  rw [Re.first, firstOf_some] at hanswer
  rw [Re.first, Re.run_atomic]
  simp only [Re.ways] at hgoal ⊢
  generalize r.run t inLoop none arrive w.1 (m.moveTo w.1) = answer at hanswer ⊢
  generalize (r.ways t w.1 w.2).head? = way? at hanswer hgoal ⊢
  cases hanswer with
  | reached place shows known top kept =>
    rw [Option.toList_some, firstOf_singleton]
    simp only [place]
    exact (hgoal _ (by simp)).goOn shows kept known top hle
  | failed kept => exact .failed (kept.moveTo _)

theorem look_run_meets {negated : Bool} (back : Nat) (htop : top ≤ top')
    (hbound : inLoop = false → top ≤ bound') (hbody : back ≤ w.1 →
      Meets groups ⟨o, top'⟩ o bound' top (r.run t inLoop none arrive) (r.first t some) (w.1 - back, w.2))
    (hgoal : ∀ u ∈ passing negated w.1 w.2 (if w.1 < back then [] else r.ways t (w.1 - back) w.2),
      Meets groups e o bound top' goal aim u) {m : Memory} (hshows : Shows groups o w.2 m)
    (hknown : m.known ≤ 2 * top) :
    Answers groups e o (min bound' bound) m (look (r.run t inLoop none) negated back inLoop goal w.1 m)
      (firstOf aim (passing negated w.1 w.2 (if w.1 < back then [] else r.ways t (w.1 - back) w.2))) := by
  refine look_meets htop hbound (fun hback m hshows hknown => ?_) hgoal m hshows hknown
  rw [← firstOf_some]
  exact hbody hback m hshows hknown

/-- A repetition of a single letter. -/
theorem loop_meets_of_single {greed : Greed} {least : Nat} {most : Option Nat} {l : Letter}
    (hsingle : r.single? = some l) (hmost : ∀ n, most = some n → least ≤ n)
    (hbound : inLoop = false → top ≤ bound) (hmade : ∀ l, next = some l → l.IsMade)
    (hpos : w.1 ≤ t.size)
    (hhint : ∀ u ∈ (Re.loop greed least most r).ways t w.1 w.2, Hinted t next aim u)
    (hgoal : ∀ u ∈ (Re.loop greed least most r).ways t w.1 w.2, Meets groups e o bound top goal aim u) :
    Meets groups e o bound top ((Re.loop greed least most r).run t inLoop next goal)
      ((Re.loop greed least most r).first t aim) w := by
  have hways := Re.ways_loop_of_single? hsingle greed least most t
  rw [hways] at hhint hgoal
  have hrun := letterRun_meets hmost hbound hmade hpos hhint hgoal
  intro m hshows hknown
  rw [Re.run_loop_of_single _ _ _ _ hsingle, Re.first, hways]
  exact hrun m hshows hknown

/-- A repetition of anything else, which is not possessive then. -/
theorem loop_meets {greed : Greed} {least : Nat} {most : Option Nat} (hsingle : r.single? = none)
    (hgreed : greed ≠ .possessive) {a : Nat}
    (hbody : Rounds widths t groups e o a top (r.run t true none) (r.ways t))
    (hbound : inLoop = false → top ≤ bound) (hpos : w.1 ≤ t.size) (hfit : w.2.Fit widths)
    (hgoal : ∀ u ∈ (Re.loop greed least most r).ways t w.1 w.2, Meets groups e o bound top goal aim u) :
    Meets groups e o (min a bound) top ((Re.loop greed least most r).run t inLoop next goal)
      ((Re.loop greed least most r).first t aim) w := by
  intro m hshows hknown
  simp only [Re.first, Re.ways] at hgoal ⊢
  cases greed with
  | greedy =>
    rw [Re.run_greedyLoop _ _ _ _ _ _ hsingle]
    exact greedyLoop_meets hbody hpos hfit hgoal m hshows hknown
  | lazy =>
    rw [Re.run_lazyLoop _ _ _ _ _ _ hsingle]
    exact lazyLoop_meets hbody hbound hpos hfit hgoal m hshows hknown
  | possessive => exact absurd rfl hgreed

end parts

/-! ## The whole -/

/-- Wherever a pattern stands, an attempt to match it and then a goal answers the ways of the pattern from
which the goal is reached. -/
def Re.RunMeets (widths : Nat → Option Width) (t : Array Char) (groups : Nat) (r : Re) : Prop :=
  ∀ ⦃a b : Nat⦄ ⦃inside : List Nat⦄ ⦃o : Opened⦄ ⦃inLoop : Bool⦄ ⦃bound top top' : Nat⦄
    ⦃next : Option Letter⦄ ⦃e : Arrival⦄ ⦃goal : Goal⦄ ⦃aim : Way → Option Way⦄ ⦃w : Way⦄,
    r.Placed widths groups inside o a b → Ordered inLoop a b bound top top' →
    (∀ l, next = some l → l.IsMade) → w.1 ≤ t.size → w.2.Fit widths →
    (∀ u ∈ r.ways t w.1 w.2, Hinted t next aim u) →
    (∀ u ∈ r.ways t w.1 w.2, Meets groups e o bound top' goal aim u) →
    Meets groups e o (min a bound) top (r.run t inLoop next goal) (r.first t aim) w

namespace Re.RunMeets

variable {widths : Nat → Option Width} {t : Array Char} {groups : Nat} {r s : Re}

/-- A body that is matched on its own reaches its first way. -/
theorem alone (hr : r.RunMeets widths t groups) {a b : Nat} {inside : List Nat} {o : Opened}
    (hplaced : r.Placed widths groups inside o a b) {inLoop : Bool} {bound top top' : Nat}
    (horder : Ordered inLoop a b bound top top') {w : Way} (hpos : w.1 ≤ t.size)
    (hfit : w.2.Fit widths) :
    Meets groups ⟨o, Ordered.between inLoop b top'⟩ o a top (r.run t inLoop none arrive)
      (r.first t some) w := by
  have hbody := hr hplaced (horder.alone hplaced.le) (fun l hl => by cases hl) hpos hfit
    (fun u _ => Hinted.none t some u) (fun u _ => arrive_meets o b _ u)
  rwa [Nat.min_eq_left hplaced.le] at hbody

/-- The rounds of a body. -/
theorem rounds (hr : r.RunMeets widths t groups) {a b top : Nat} {inside : List Nat} {o : Opened}
    (hplaced : r.Placed widths groups inside o a b) (hb : b ≤ top) {e : Arrival} :
    Rounds widths t groups e o a top (r.run t true none) (r.ways t) where
  meets hpos hfit hrest :=
    hr hplaced ⟨hb, Nat.le_refl _, fun h => by cases h⟩ (fun l hl => by cases hl) hpos hfit
      (fun u _ => Hinted.none t _ u) hrest
  spans hpos hfit hu := (Re.spans_ways hplaced.laid hpos hfit hu).of_le (Nat.zero_le _)

theorem empty : Re.empty.RunMeets widths t groups := by
  intro a b inside o inLoop bound top top' next e goal aim w hplaced horder hmade hpos hfit hhint hgoal
    m hshows hknown
  rw [Re.first_empty]
  exact ((hgoal w (by simp [Re.ways])).mono (Nat.min_le_right ..) horder.more) m hshows hknown

theorem never : Re.never.RunMeets widths t groups := by
  intro a b inside o inLoop bound top top' next e goal aim w hplaced horder hmade hpos hfit hhint hgoal
  exact fun m _ _ => .failed (.refl ..)

theorem letter (l : Letter) : (Re.letter l).RunMeets widths t groups := by
  intro a b inside o inLoop bound top top' next e goal aim w hplaced horder hmade hpos hfit hhint hgoal
  exact letter_meets fun hfits =>
    (hgoal (w.1 + 1, w.2) (by simp [Re.ways, hfits])).mono (Nat.min_le_right ..) horder.more

theorem anchor (k : Anchor) : (Re.anchor k).RunMeets widths t groups := by
  intro a b inside o inLoop bound top top' next e goal aim w hplaced horder hmade hpos hfit hhint hgoal
  exact anchor_meets fun hholds =>
    (hgoal w (by simp [Re.ways, hholds])).mono (Nat.min_le_right ..) horder.more

theorem backref (n : Nat) (width : Width) (folding : Folding) :
    (Re.backref n width folding).RunMeets widths t groups := by
  intro a b inside o inLoop bound top top' next e goal aim w hplaced horder hmade hpos hfit hhint hgoal
  obtain ⟨hone, hshut⟩ := hplaced.backref
  exact backref_meets hfit hone hshut fun u hu =>
    (hgoal u hu).mono (Nat.min_le_right ..) horder.more

/-- The goal of the first of two parts is to match the second one. -/
theorem cat (hr : r.RunMeets widths t groups) (hs : s.RunMeets widths t groups) :
    (Re.cat r s).RunMeets widths t groups := by
  intro a b inside o inLoop bound top top' next e goal aim w hplaced horder hmade hpos hfit hhint hgoal
  obtain ⟨c, hplacedr, hplaceds⟩ := hplaced.cat
  have hac := hplacedr.le
  have hmem (u : Way) (hu : u ∈ r.ways t w.1 w.2) (u' : Way) (hu' : u' ∈ s.ways t u.1 u.2) :
      u' ∈ (Re.cat r s).ways t w.1 w.2 := List.mem_flatMap.2 ⟨u, hu, hu'⟩
  have hrest (u : Way) (hu : u ∈ r.ways t w.1 w.2) :=
    have hin := Re.spans_ways hplacedr.laid hpos hfit hu
    hs hplaceds (horder.right hplaceds.le) hmade hin.inside hin.fit
      (fun u' hu' => hhint u' (hmem u hu u' hu')) (fun u' hu' => hgoal u' (hmem u hu u' hu'))
  have hall := hr hplacedr (horder.left hac hplaceds.le)
    (fun l hl => Re.isMade_opening hplaceds.laid hmade hl) hpos hfit
    (fun u hu => Hinted.opening fun u' hu' => hhint u' (hmem u hu u' hu')) hrest
  intro m hshows hknown
  rw [Re.first_cat]
  exact (hall m hshows hknown).mono (by omega)

theorem alt (hr : r.RunMeets widths t groups) (hs : s.RunMeets widths t groups) :
    (Re.alt r s).RunMeets widths t groups := by
  intro a b inside o inLoop bound top top' next e goal aim w hplaced horder hmade hpos hfit hhint hgoal
  obtain ⟨c, hplacedr, hplaceds⟩ := hplaced.alt
  have hac := hplacedr.le
  have hcb := hplaceds.le
  refine alt_meets ?_ ?_ (show min a bound ≤ min c bound by omega) fun hloop => ?_
  · exact hr hplacedr (horder.arm (Nat.le_refl _) hcb) (fun l hl => by cases hl) hpos hfit
      (fun u _ => Hinted.none t aim u) (fun u hu => hgoal u (List.mem_append_left _ hu))
  · exact hs hplaceds (horder.arm hac (Nat.le_refl _)) hmade hpos hfit
      (fun u hu => hhint u (List.mem_append_right _ hu))
      (fun u hu => hgoal u (List.mem_append_right _ hu))
  · have := horder.inOrder hloop
    omega

theorem choice (n : Nat) (hr : r.RunMeets widths t groups) (hs : s.RunMeets widths t groups) :
    (Re.choice n r s).RunMeets widths t groups := by
  intro a b inside o inLoop bound top top' next e goal aim w hplaced horder hmade hpos hfit hhint hgoal
  obtain ⟨hone, hshut, c, hyes, hno⟩ := hplaced.choice
  have hac := hyes.le
  refine choice_meets hfit hone hshut (fun hn => ?_) (fun hn => ?_)
  · have hways : (Re.choice n r s).ways t w.1 w.2 = r.ways t w.1 w.2 := by simp [Re.ways, hn]
    rw [hways] at hhint hgoal
    refine hr hyes (horder.arm (Nat.le_refl _) hno.le) (fun l hl => ?_) hpos hfit (fun u hu => ?_) hgoal
    · split at hl
      · exact hmade l hl
      · cases hl
    · split
      · exact hhint u hu
      · exact Hinted.none t aim u
  · have hways : (Re.choice n r s).ways t w.1 w.2 = s.ways t w.1 w.2 := by simp [Re.ways, hn]
    rw [hways] at hhint hgoal
    exact (hs hno (horder.arm hac (Nat.le_refl _)) hmade hpos hfit hhint hgoal).mono (by omega)
      (Nat.le_refl _)

/-- The goal of what stands in a group is to shut the group. -/
theorem group (n : Nat) (hr : r.RunMeets widths t groups) : (Re.group n r).RunMeets widths t groups := by
  intro a b inside o inLoop bound top top' next e goal aim w hplaced horder hmade hpos hfit hhint hgoal
  obtain ⟨rfl, hinner⟩ := hplaced.group w.1
  have hab := hinner.le
  have hn := Nat.le_trans hab hplaced.room
  have hfirst := horder.left (Nat.le_succ a) hab
  refine group_meets (Nat.le_add_left ..) hn (show min a bound < a + 1 by omega)
    (show min a bound ≤ min (a + 1) bound by omega) hfirst.more hfirst.behind
    (hr hinner (horder.enter hab) (fun l hl => by cases hl) hpos hfit (fun u _ => Hinted.none t _ u)
      fun u hu => ?_)
  exact shut_meets (hplaced.shut_of_lt (Nat.lt_succ_self a)) hn (Nat.le_trans hab horder.behind)
    (hgoal _ (List.mem_map.2 ⟨u, hu, rfl⟩))

theorem plain (hr : r.RunMeets widths t groups) : (Re.plain r).RunMeets widths t groups := by
  intro a b inside o inLoop bound top top' next e goal aim w hplaced horder hmade hpos hfit hhint hgoal
  exact hr { hplaced with } horder hmade hpos hfit hhint hgoal

theorem ahead (negated : Bool) (hr : r.RunMeets widths t groups) :
    (Re.ahead negated r).RunMeets widths t groups := by
  intro a b inside o inLoop bound top top' next e goal aim w hplaced horder hmade hpos hfit hhint hgoal
    m hshows hknown
  refine look_run_meets 0 (horder.alone hplaced.le).more (fun hloop => (horder.inOrder hloop).2)
    (fun _ => hr.alone { hplaced with } horder hpos hfit) (fun u hu => ?_) hshows hknown
  exact (hgoal u hu).mono (Nat.le_refl _) (Ordered.between_le horder.behind)

theorem behind (negated : Bool) (width : Width) (hr : r.RunMeets widths t groups) :
    (Re.behind negated width r).RunMeets widths t groups := by
  intro a b inside o inLoop bound top top' next e goal aim w hplaced horder hmade hpos hfit hhint hgoal
    m hshows hknown
  have hback : w.1 - width.least ≤ t.size := Nat.le_trans (Nat.sub_le ..) hpos
  refine look_run_meets width.least (horder.alone hplaced.le).more (fun hloop => (horder.inOrder hloop).2)
    (fun _ => hr.alone { hplaced with } horder hback hfit) (fun u hu => ?_) hshows hknown
  exact (hgoal u hu).mono (Nat.le_refl _) (Ordered.between_le horder.behind)

theorem atomic (hr : r.RunMeets widths t groups) : (Re.atomic r).RunMeets widths t groups := by
  intro a b inside o inLoop bound top top' next e goal aim w hplaced horder hmade hpos hfit hhint hgoal
  have hbody := hr.alone { hplaced with } horder hpos hfit
  exact atomic_meets (Nat.min_le_right ..) (hbody.mono (Nat.min_le_left ..) (Nat.le_refl _))
    fun u hu => (hgoal u hu).mono (Nat.le_refl _) (Ordered.between_le horder.behind)

theorem loop (greed : Greed) (least : Nat) (most : Option Nat) (hr : r.RunMeets widths t groups) :
    (Re.loop greed least most r).RunMeets widths t groups := by
  intro a b inside o inLoop bound top top' next e goal aim w hplaced horder hmade hpos hfit hhint hgoal
  obtain ⟨hgreed, hmost, hbody⟩ := hplaced.loop
  have hle := hbody.le
  cases hsingle : r.single? with
  | some l =>
    refine (loop_meets_of_single hsingle hmost (fun hloop => ?_) hmade hpos hhint fun u hu =>
      (hgoal u hu).mono (Nat.le_refl _) horder.more).mono (Nat.min_le_right ..) (Nat.le_refl _)
    have := horder.inOrder hloop
    omega
  | none =>
    have halone := horder.alone hle
    refine (loop_meets hsingle (fun h => ?_) (hr.rounds hbody halone.behind) (fun hloop => ?_) hpos hfit
      fun u hu => (hgoal u hu).mono (Nat.le_refl _) (Ordered.between_le horder.behind)).mono
        (Nat.le_refl _) halone.more
    · cases hsingle ▸ hgreed h
    · rw [hloop]
      exact (horder.inOrder hloop).1

end Re.RunMeets

theorem Re.runMeets (widths : Nat → Option Width) (t : Array Char) (groups : Nat) (r : Re) :
    r.RunMeets widths t groups := by
  induction r with
  | empty => exact .empty
  | never => exact .never
  | cat r s ihr ihs => exact ihr.cat ihs
  | alt r s ihr ihs => exact ihr.alt ihs
  | letter l => exact .letter l
  | anchor k => exact .anchor k
  | group n r ih => exact ih.group n
  | plain r ih => exact ih.plain
  | backref n width folding => exact .backref n width folding
  | choice n yes no ihyes ihno => exact ihyes.choice n ihno
  | ahead negated r ih => exact ih.ahead negated
  | behind negated width r ih => exact ih.behind negated width
  | atomic r ih => exact ih.atomic
  | loop greed least most r ih => exact ih.loop greed least most

/-! ## Searching -/

/-- Is there a way through a pattern from some place of a text? -/
def Re.occurs (r : Re) (t : Array Char) : Bool :=
  (List.range (t.size + 1)).any fun i => !(r.ways t i .none).isEmpty

theorem Re.occurs_iff {r : Re} {t : Array Char} :
    r.occurs t = true ↔ ∃ i ≤ t.size, r.ways t i .none ≠ [] := by
  simp only [occurs, List.any_eq_true, List.mem_range, Nat.lt_add_one_iff, Bool.not_eq_true',
    List.isEmpty_eq_false_iff]

/-- A memory in which no mark counts shows that no group has matched. -/
theorem Shows.fresh {groups : Nat} {m : Memory} (hroom : m.marks.size = 2 * groups)
    (hknown : m.known = 0) : Shows groups (fun _ => none) .none m := by
  refine ⟨hroom, fun n hn _ => ?_, fun n first h => by cases h⟩
  rw [Memory.ends?, if_neg (by omega)]
  rfl

namespace Compiled

variable {c : Compiled} {widths : Nat → Option Width} {t : Array Char}

theorem add_least_le_of_ways (hlaid : c.re.Laid widths 0 c.groups) {i : Nat} (hi : i ≤ t.size)
    (h : c.re.ways t i .none ≠ []) : i + c.re.width.least ≤ t.size := by
  obtain ⟨w, hw⟩ := List.exists_mem_of_ne_nil _ h
  have hspans := Re.spans_ways hlaid hi (Captures.fit_none widths) hw
  exact Nat.le_trans hspans.far hspans.inside

/-- Where no match may begin too little of the text is left for one. -/
theorem size_lt_of_not_mayBegin {size i : Nat} (h : ¬ c.mayBegin size i = true) :
    size < i + c.re.width.least := by
  simp only [mayBegin] at h
  grind

/-- An attempt from one place, whatever earlier attempts have left behind. -/
theorem run_answers (hlaid : c.re.Laid widths 0 c.groups) (hcalm : c.re.isCalm [] = true) {i : Nat}
    (hi : i ≤ t.size) {m : Memory} (hroom : m.marks.size = 2 * c.groups) (hknown : m.known = 0) :
    Answers c.groups ⟨fun _ => none, c.groups⟩ (fun _ => none) 0 m
      (c.re.run t false none arrive i m) (c.re.ways t i .none).head? := by
  have horder : Ordered false 0 c.groups c.groups 0 c.groups :=
    ⟨Nat.le_refl _, Nat.zero_le _, fun _ => ⟨Nat.le_refl _, Nat.le_refl _⟩⟩
  have hplaced : c.re.Placed widths c.groups [] (fun _ => none) 0 c.groups :=
    ⟨hlaid, Nat.le_refl _, hcalm, fun n h => absurd rfl h⟩
  have hrun := c.re.runMeets widths t c.groups (w := (i, .none)) hplaced horder
    (fun l hl => by cases hl) hi (Captures.fit_none widths) (fun u _ => Hinted.none t some u)
    (fun u _ => arrive_meets _ c.groups c.groups u)
  rw [← firstOf_some]
  exact (hrun m (.fresh hroom hknown) (by omega)).mono (Nat.zero_le _)

/-- A search from the place `i` on ends in a match that shows what its groups matched, or there is no
way from any place from there on. -/
theorem searchFrom_cases (hlaid : c.re.Laid widths 0 c.groups) (hcalm : c.re.isCalm [] = true)
    {i n : Nat} (hn : i + n = t.size + 1) {m : Memory} (hroom : m.marks.size = 2 * c.groups) :
    (c.searchFrom t m i n = none ∧ ∀ j, i ≤ j → j ≤ t.size → c.re.ways t j .none = []) ∨
      ∃ x v, c.searchFrom t m i n = some x ∧ Shows c.groups (fun _ => none) v x ∧ v.Fit widths ∧
        ∃ j ≤ t.size, c.re.ways t j .none ≠ [] := by
  induction n generalizing i m with
  | zero => exact .inl ⟨rfl, fun j hij hj => by omega⟩
  | succ n ih =>
    have hi : i ≤ t.size := by omega
    unfold searchFrom
    by_cases hmay : c.mayBegin t.size i = true
    · rw [if_pos hmay]
      have hanswer := run_answers (m := { m with place := i, known := 0 }) hlaid hcalm hi hroom rfl
      generalize c.re.run t false none arrive i _ = outcome at hanswer ⊢
      generalize hways : c.re.ways t i .none = ways at hanswer
      cases ways with
      | nil =>
        cases hanswer with
        | failed kept =>
          obtain ⟨hnone, hrest⟩ | hfound := ih (i := i + 1) (by omega) (kept.room.trans hroom)
          · refine .inl ⟨hnone, fun j hij hj => ?_⟩
            rcases Nat.eq_or_lt_of_le hij with rfl | hlt
            · exact hways
            · exact hrest j hlt hj
          · exact .inr hfound
      | cons w ws =>
        cases hanswer with
        | reached place shows known top kept =>
          have hw : w ∈ c.re.ways t i .none := hways ▸ List.mem_cons_self
          exact .inr ⟨_, w.2, rfl, shows, (Re.spans_ways hlaid hi (Captures.fit_none widths) hw).fit,
            i, hi, List.ne_nil_of_mem hw⟩
    · rw [if_neg hmay]
      refine .inl ⟨rfl, fun j hij hj => by_contra fun hways => ?_⟩
      have := add_least_le_of_ways hlaid hj hways
      have := size_lt_of_not_mayBegin hmay
      omega

theorem hasWrongSpan_of_shows {v : Captures} {m : Memory}
    (hshows : Shows c.groups (fun _ => none) v m) (hfit : v.Fit widths) : c.hasWrongSpan m = false := by
  rw [hasWrongSpan, List.any_eq_false]
  intro i _
  rw [hshows.shut (i + 1) (Nat.le_add_left ..) rfl]
  cases hv : v (i + 1) with
  | none => simp
  | some s => simpa using (hfit (i + 1) s.1 s.2 hv).1

/-- A search for a calm pattern finds out whether there is a way through it from some place of the
text, and never stops with an error. -/
theorem search_eq (hlaid : c.re.Laid widths 0 c.groups) (hcalm : c.re.isCalm [] = true)
    (text : String) : c.search text = .ok (c.re.occurs text.toList.toArray) := by
  unfold search
  generalize text.toList.toArray = t
  have hnowhere (h : ∀ j ≤ t.size, c.re.ways t j .none = []) : c.re.occurs t = false := by
    rw [Bool.eq_false_iff]
    intro hoccurs
    obtain ⟨j, hj, hways⟩ := Re.occurs_iff.1 hoccurs
    exact hways (h j hj)
  by_cases hshort : t.size < c.re.width.least
  · rw [if_pos hshort, hnowhere fun j hj => by_contra fun hways => ?_]
    have := add_least_le_of_ways hlaid hj hways
    omega
  · rw [if_neg hshort]
    have hroom : (Memory.empty c.groups).marks.size = 2 * c.groups := by simp [Memory.empty]
    obtain ⟨hnone, hrest⟩ | ⟨x, v, hfound, hshows, hfit, hways⟩ :=
      searchFrom_cases (t := t) (i := 0) hlaid hcalm (Nat.zero_add _) hroom
    · simp only [hnone, hnowhere fun j hj => hrest j (Nat.zero_le _) hj]
    · simp only [hfound, hasWrongSpan_of_shows hshows hfit, Re.occurs_iff.2 hways, Bool.false_eq_true,
        if_false]

end Compiled
end ChatAutomation.Pattern
