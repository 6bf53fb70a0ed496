import ChatAutomation.Proofs.Pattern.Answer

/-!
# Repetitions of one letter

A repetition of a single letter is not matched round by round: the letters are counted, and the goal is
tried behind as many of them as there may be, or as few. It answers the rounds of the letter.
-/
namespace ChatAutomation.Pattern

namespace Letter
variable (l : Letter) (t : Array Char)

theorem le_endFrom (i n : Nat) : i ≤ l.endFrom t i n := by
  induction n generalizing i with
  | zero => exact Nat.le_refl _
  | succ n ih =>
    unfold endFrom
    split
    · exact Nat.le_trans (Nat.le_succ i) (ih (i + 1))
    · exact Nat.le_refl _

theorem endFrom_le (i n : Nat) : l.endFrom t i n ≤ i + n := by
  induction n generalizing i with
  | zero => exact Nat.le_refl _
  | succ n ih =>
    unfold endFrom
    split
    · have := ih (i + 1)
      omega
    · omega

/-- The letters are counted in two goes. -/
theorem endFrom_add (i m n : Nat) : l.endFrom t i (m + n) =
    if l.endFrom t i m = i + m then l.endFrom t (i + m) n else l.endFrom t i m := by
  induction m generalizing i with
  | zero => simp [endFrom]
  | succ m ih =>
    rw [Nat.succ_add, endFrom, endFrom]
    split
    · rw [ih, Nat.add_assoc, Nat.add_comm 1 m]
    · rw [if_neg (by omega)]

/-- Behind the letters that have to be there come those that may. -/
theorem endFrom_add_sub {i m : Nat} (h : l.endFrom t i m = i + m) (n : Nat) :
    l.endFrom t i (m + n) - i = m + (l.endFrom t (i + m) n - (i + m)) := by
  have := l.le_endFrom t (i + m) n
  rw [endFrom_add, if_pos h]
  omega

theorem endFrom_le_size {i : Nat} (hi : i ≤ t.size) (n : Nat) : l.endFrom t i n ≤ t.size := by
  induction n generalizing i with
  | zero => exact hi
  | succ n ih =>
    unfold endFrom
    split
    · rename_i hfits
      exact ih (Letter.lt_of_fitsAt hfits)
    · exact hi

end Letter

/-- The places from `extra` behind `first` down to it, as ways. -/
def descending (v : Captures) (first : Nat) : (extra : Nat) → List Way
  | 0 => [(first, v)]
  | extra + 1 => (first + (extra + 1), v) :: descending v first extra

theorem descending_succ (v : Captures) (first extra : Nat) :
    descending v first (extra + 1) = descending v (first + 1) extra ++ [(first, v)] := by
  induction extra with
  | zero => rfl
  | succ extra ih =>
    rw [descending, ih, descending, List.cons_append,
      show first + 1 + (extra + 1) = first + (extra + 1 + 1) by omega]

theorem head?_descending (v : Captures) (first extra : Nat) :
    (descending v first extra).head? = some (first + extra, v) := by
  cases extra <;> rfl

section rounds
variable {t : Array Char} {l : Letter} {isLazy : Bool} {least : Nat} {most : Option Nat}

theorem ways_letter (l : Letter) (t : Array Char) (pos : Nat) (v : Captures) :
    (Re.letter l).ways t pos v = if l.fitsAt t pos then [(pos + 1, v)] else [] := rfl

/-- The rounds that have to be pass the letters that there have to be. -/
theorem rounds_letter_least {fuel count : Nat} {last : Option Nat} {pos : Nat} {v : Captures}
    (hcount : count ≤ least) (hfuel : least - count ≤ fuel) :
    rounds isLazy ((Re.letter l).ways t) least most fuel count last pos v =
      if l.endFrom t pos (least - count) = pos + (least - count) then
        rounds isLazy ((Re.letter l).ways t) least most (fuel - (least - count)) least last
          (pos + (least - count)) v
      else [] := by
  induction fuel generalizing count pos with
  | zero =>
    obtain rfl : count = least := by omega
    simp [Letter.endFrom]
  | succ fuel ih =>
    rcases Nat.lt_or_eq_of_le hcount with hlt | rfl
    · have hsucc : least - count = least - (count + 1) + 1 := by omega
      rw [rounds, if_pos hlt, ways_letter, hsucc, Letter.endFrom]
      split
      · rw [List.flatMap_singleton, ih (by omega) (by omega), Nat.succ_sub_succ,
          Nat.add_right_comm, ← Nat.add_assoc]
      · rw [if_neg (by omega)]
        rfl
    · simp [Letter.endFrom]

/-- A round that begins behind the last one is tried. -/
theorem bne_of_forall_lt {last : Option Nat} {pos : Nat} (hlast : ∀ p, last = some p → p < pos) :
    (last != some pos) = true := by
  rw [bne_iff_ne]
  rintro rfl
  exact Nat.lt_irrefl pos (hlast pos rfl)

/-- From then on greedy rounds end behind every letter, the last one first. -/
theorem rounds_letter_greedy {k fuel count : Nat} {last : Option Nat} {pos : Nat} {v : Captures}
    (hcount : least ≤ count) (hfuel : t.size - pos < fuel) (hlast : ∀ p, last = some p → p < pos)
    (hk : ∀ j, pos + j < t.size → (mayRepeat most (count + j) = true ↔ j < k)) :
    rounds false ((Re.letter l).ways t) least most fuel count last pos v =
      descending v pos (l.endFrom t pos k - pos) := by
  induction fuel generalizing k count last pos with
  | zero => omega
  | succ fuel ih =>
    have hnew := bne_of_forall_lt hlast
    rw [rounds, if_neg (by omega), hnew, Bool.and_true, ways_letter]
    simp only [Bool.false_eq_true, if_false]
    by_cases hfits : l.fitsAt t pos = true
    · have hlt := Letter.lt_of_fitsAt hfits
      rw [if_pos hfits, List.flatMap_singleton]
      have hzero := hk 0 hlt
      rw [Nat.add_zero] at hzero
      cases k with
      | zero =>
        rw [if_neg (by simp [hzero]), Letter.endFrom, Nat.sub_self]
        rfl
      | succ k =>
        rw [if_pos (hzero.2 (by omega)), ih (by omega) (by omega)
          (fun p hp => by rw [← Option.some.inj hp]; omega) (k := k) ?_, Letter.endFrom, if_pos hfits]
        · have := l.le_endFrom t (pos + 1) k
          rw [show l.endFrom t (pos + 1) k - pos = l.endFrom t (pos + 1) k - (pos + 1) + 1 by omega,
            descending_succ]
        · intro j hj
          have := hk (j + 1) (by omega)
          rw [Nat.add_right_comm, Nat.add_assoc, this]
          omega
    · have hend : l.endFrom t pos k = pos := by
        cases k with
        | zero => rfl
        | succ k => rw [Letter.endFrom, if_neg hfits]
      rw [if_neg hfits, hend, Nat.sub_self]
      split <;> rfl

end rounds

/-! ## The attempts -/

section attempts
variable {groups : Nat} {e : Arrival} {o : Opened} {bound top : Nat} {goal : Goal}
  {aim : Way → Option Way} {t : Array Char} {l : Letter} {least : Nat} {most : Option Nat}
  {next : Option Letter} {inLoop : Bool} {v : Captures} {saved m : Memory}

theorem giveBack_answers {first extra : Nat} (hmade : ∀ k, next = some k → k.IsMade)
    (hhint : ∀ w ∈ descending v first extra, Hinted t next aim w)
    (hgoal : ∀ w ∈ descending v first extra, Meets groups e o bound top goal aim w)
    (hsaved : Shows groups o v saved) (htop : saved.known ≤ 2 * top)
    (hbound : inLoop = false → saved.known ≤ 2 * bound) (hshows : Shows groups o v m)
    (hkept : Kept o bound saved m) (hknown : m.known = saved.known) :
    Answers groups e o bound saved
      (giveBack t (next.bind Letter.code?) inLoop saved goal first extra m)
      (firstOf aim (descending v first extra)) := by
  induction extra generalizing m with
  | zero =>
    rw [descending, firstOf_singleton, giveBack]
    split
    · rw [← Option.or_none (o := aim _)]
      refine ((hgoal _ List.mem_cons_self).resume hshows hkept hknown htop _).orElse (Nat.le_refl _) fun x hx => ?_
      exact .failed (hx.restore inLoop)
    · rename_i hstands
      obtain ⟨k, hk, hfits⟩ := fitsAt_of_not_standsAt hmade (by simpa using hstands)
      rw [hhint _ List.mem_cons_self k hk hfits]
      exact .failed hkept
  | succ extra ih =>
    have ih {m : Memory} := ih (m := m) (fun w hw => hhint w (List.mem_cons_of_mem _ hw))
      fun w hw => hgoal w (List.mem_cons_of_mem _ hw)
    rw [descending, firstOf_cons, giveBack]
    split
    · refine ((hgoal _ List.mem_cons_self).resume hshows hkept hknown htop _).orElse (Nat.le_refl _) fun x hx => ?_
      exact ih (hsaved.restore hx hbound) (hx.restore inLoop) rfl
    · rename_i hstands
      obtain ⟨k, hk, hfits⟩ := fitsAt_of_not_standsAt hmade (by simpa using hstands)
      rw [hhint _ List.mem_cons_self k hk hfits, Option.none_or]
      exact ih hshows hkept hknown

theorem takeMore_answers {fuel fuel' count pos : Nat} {last : Option Nat} (hcount : least ≤ count)
    (hfuel : t.size - pos < fuel) (hfuel' : t.size - pos < fuel')
    (hlast : ∀ p, last = some p → p < pos)
    (hgoal : ∀ w ∈ rounds true ((Re.letter l).ways t) least most fuel' count last pos v,
      Meets groups e o bound top goal aim w)
    (hsaved : Shows groups o v saved) (htop : saved.known ≤ 2 * top)
    (hbound : inLoop = false → saved.known ≤ 2 * bound) (hshows : Shows groups o v m)
    (hkept : Kept o bound saved m) (hknown : m.known = saved.known) :
    Answers groups e o bound saved (takeMore t l most inLoop saved goal fuel count pos m)
      (firstOf aim (rounds true ((Re.letter l).ways t) least most fuel' count last pos v)) := by
  induction fuel generalizing fuel' count pos last m with
  | zero => omega
  | succ fuel ih =>
    obtain ⟨fuel', rfl⟩ : ∃ n, fuel' = n + 1 := ⟨fuel' - 1, by omega⟩
    have hnew := bne_of_forall_lt hlast
    rw [rounds, if_neg (by omega), hnew, Bool.and_true, ways_letter] at hgoal ⊢
    simp only [if_true] at hgoal ⊢
    rw [firstOf_cons, takeMore]
    refine ((hgoal _ List.mem_cons_self).resume hshows hkept hknown htop _).orElse (Nat.le_refl _) fun x hx => ?_
    have hrest (pos : Nat) : Kept o bound saved ((x.restore saved inLoop).moveTo pos) :=
      (hx.restore inLoop).moveTo pos
    by_cases hfits : l.fitsAt t pos = true
    · have hlt := Letter.lt_of_fitsAt hfits
      simp only [hfits, if_true, List.flatMap_singleton] at hgoal ⊢
      by_cases hmore : mayRepeat most count = true
      · simp only [hmore, if_true] at hgoal ⊢
        refine ih (by omega) (by omega) (by omega) (fun p hp => by rw [← Option.some.inj hp]; omega)
          (fun w hw => hgoal w (List.mem_cons_of_mem _ hw)) ?_ ?_ ?_
        · split
          · exact ((hsaved.restore hx hbound).moveTo _).moveTo _
          · exact (hsaved.restore hx hbound).moveTo _
        · split
          · exact (hrest pos).moveTo _
          · exact hrest pos
        · split <;> rfl
      · simp only [hmore, Bool.false_eq_true, if_false, firstOf_nil]
        refine .failed ?_
        split
        · exact (hrest pos).moveTo _
        · exact hrest pos
    · simp only [hfits, Bool.false_eq_true, if_false, List.flatMap_nil, ite_self, firstOf_nil]
      exact .failed (hrest pos)

/-- How many letters may follow those that have to be there. -/
theorem exists_mayRepeat {most : Option Nat} {least left : Nat}
    (hmost : ∀ n, most = some n → least ≤ n) (hleft : least ≤ left) :
    ∃ k, (most.map (min left)).getD left = least + k ∧
      ∀ j, least + j < left → (mayRepeat most (least + j) = true ↔ j < k) := by
  cases most with
  | none => exact ⟨left - least, by simp; omega, fun j hj => by simp [mayRepeat]; omega⟩
  | some n =>
    have := hmost n rfl
    refine ⟨min left n - least, by simp; omega, fun j hj => ?_⟩
    simp only [mayRepeat, decide_eq_true_eq]
    omega

theorem size_add_le_roundLimit (t : Array Char) (least : Nat) :
    least + (t.size + 2) ≤ roundLimit t least :=
  Nat.add_le_add_left (Nat.le_mul_self _) least

section ways
variable {greed : Greed} {pos : Nat}

/-- Nothing matches where there are too few letters. -/
theorem ways_loop_letter_of_ne (h : l.endFrom t pos least ≠ pos + least) :
    (Re.loop greed least most (.letter l)).ways t pos v = [] := by
  have hlimit := size_add_le_roundLimit t least
  rw [Re.ways, rounds_letter_least (Nat.zero_le _) (by omega), Nat.sub_zero, if_neg h]
  exact ite_self _

/-- The rounds behind the letters that have to be there. -/
theorem ways_loop_letter_of_eq (h : l.endFrom t pos least = pos + least) :
    (Re.loop greed least most (.letter l)).ways t pos v =
      let all := rounds (greed == .lazy) ((Re.letter l).ways t) least most
        (roundLimit t least - least) least none (pos + least) v
      if greed == .possessive then all.head?.toList else all := by
  have hlimit := size_add_le_roundLimit t least
  rw [Re.ways, rounds_letter_least (Nat.zero_le _) (by omega), Nat.sub_zero, if_pos h]

theorem rounds_letter_of_limit {k : Nat}
    (hk : ∀ j, least + j < t.size - pos → (mayRepeat most (least + j) = true ↔ j < k)) :
    rounds false ((Re.letter l).ways t) least most (roundLimit t least - least) least none
      (pos + least) v = descending v (pos + least) (l.endFrom t (pos + least) k - (pos + least)) := by
  have hlimit := size_add_le_roundLimit t least
  refine rounds_letter_greedy (Nat.le_refl _) (by omega) (fun p hp => by cases hp) fun j hj => ?_
  exact hk j (by omega)

end ways

/-- Too few letters: the run fails before anything is tried behind it. -/
theorem letterRun_answers_short {greed : Greed} {next? : Option Nat} {pos : Nat}
    (hmost : ∀ n, most = some n → least ≤ n) (hshort : l.endFrom t pos least ≠ pos + least) :
    Answers groups e o bound m (letterRun t l greed least most next? inLoop goal pos m) none := by
  have hfew : l.endFrom t pos least - pos < least := by
    have := l.le_endFrom t pos least
    have := l.endFrom_le t pos least
    omega
  unfold letterRun
  by_cases hleft : t.size - pos < least
  · simp only [if_pos hleft]
    exact .failed (.refl ..)
  · simp only [if_neg hleft]
    obtain ⟨k, hwanted, -⟩ := exists_mayRepeat hmost (Nat.not_lt.1 hleft)
    have hend : l.endFrom t pos (least + k) = l.endFrom t pos least := by
      rw [Letter.endFrom_add, if_neg hshort]
    cases greed with
    | lazy =>
      simp only [if_pos hfew]
      exact .failed ((Kept.refl ..).moveTo _)
    | greedy | possessive =>
      simp only [hwanted, hend, if_pos hfew]
      exact .failed ((Kept.refl ..).moveTo _)

/-! A run that finds the letters that have to be there tries its ways, each kind in its own order. -/

section full
variable {pos : Nat} (hfull : l.endFrom t pos least = pos + least) (hleft : least ≤ t.size - pos)
  (hshows : Shows groups o v m) (hknown : m.known ≤ 2 * top)
include hfull hleft hshows hknown

theorem letterRun_answers_greedy (hmost : ∀ n, most = some n → least ≤ n)
    (hmade : ∀ k, next = some k → k.IsMade) (hbound : inLoop = false → m.known ≤ 2 * bound)
    (hhint : ∀ u ∈ (Re.loop .greedy least most (.letter l)).ways t pos v, Hinted t next aim u)
    (hgoal : ∀ u ∈ (Re.loop .greedy least most (.letter l)).ways t pos v,
      Meets groups e o bound top goal aim u) :
    Answers groups e o bound m
      (letterRun t l .greedy least most (next.bind Letter.code?) inLoop goal pos m)
      (firstOf aim ((Re.loop .greedy least most (.letter l)).ways t pos v)) := by
  obtain ⟨k, hwanted, hk⟩ := exists_mayRepeat hmost hleft
  have hcount := l.endFrom_add_sub t hfull k
  have hgreedy : (Greed.greedy == Greed.lazy) = false ∧ (Greed.greedy == Greed.possessive) = false := by
    decide
  rw [ways_loop_letter_of_eq hfull] at hhint hgoal ⊢
  simp only [letterRun, if_neg (Nat.not_lt.2 hleft), hwanted, hcount,
    if_neg (Nat.not_lt.2 (Nat.le_add_right least _)), Nat.add_sub_cancel_left]
  simp only [hgreedy, Bool.false_eq_true, if_false, rounds_letter_of_limit hk] at hhint hgoal ⊢
  exact Answers.of_prior (giveBack_answers hmade hhint hgoal (hshows.moveTo _) hknown hbound
    (hshows.moveTo _) (.refl ..) rfl) (Nat.le_refl _) fun _ hkept => hkept.of_moveTo

theorem letterRun_answers_lazy {next? : Option Nat} (hbound : inLoop = false → m.known ≤ 2 * bound)
    (hgoal : ∀ u ∈ (Re.loop .lazy least most (.letter l)).ways t pos v,
      Meets groups e o bound top goal aim u) :
    Answers groups e o bound m (letterRun t l .lazy least most next? inLoop goal pos m)
      (firstOf aim ((Re.loop .lazy least most (.letter l)).ways t pos v)) := by
  have hlimit := size_add_le_roundLimit t least
  have hlazy : (Greed.lazy == Greed.lazy) = true ∧ (Greed.lazy == Greed.possessive) = false := by
    decide
  have hleast : l.endFrom t pos least - pos = least := by omega
  rw [ways_loop_letter_of_eq hfull] at hgoal ⊢
  simp only [letterRun, if_neg (Nat.not_lt.2 hleft), hleast, if_neg (Nat.lt_irrefl least)]
  simp only [hlazy, Bool.false_eq_true, if_false] at hgoal ⊢
  exact Answers.of_prior (takeMore_answers (Nat.le_refl _) (by omega) (by omega)
    (fun p hp => by cases hp) hgoal (hshows.moveTo _) hknown hbound (hshows.moveTo _)
    (.refl ..) rfl) (Nat.le_refl _) fun _ hkept => hkept.of_moveTo

theorem letterRun_answers_possessive {next? : Option Nat} (hmost : ∀ n, most = some n → least ≤ n)
    (hgoal : ∀ u ∈ (Re.loop .possessive least most (.letter l)).ways t pos v,
      Meets groups e o bound top goal aim u) :
    Answers groups e o bound m (letterRun t l .possessive least most next? inLoop goal pos m)
      (firstOf aim ((Re.loop .possessive least most (.letter l)).ways t pos v)) := by
  obtain ⟨k, hwanted, hk⟩ := exists_mayRepeat hmost hleft
  have hcount := l.endFrom_add_sub t hfull k
  have hpossessive : (Greed.possessive == Greed.lazy) = false ∧
      (Greed.possessive == Greed.possessive) = true := by decide
  rw [ways_loop_letter_of_eq hfull] at hgoal ⊢
  simp only [letterRun, if_neg (Nat.not_lt.2 hleft), hwanted, hcount,
    if_neg (Nat.not_lt.2 (Nat.le_add_right least _)), ← Nat.add_assoc]
  simp only [hpossessive, if_true, rounds_letter_of_limit hk, head?_descending, Option.toList_some,
    firstOf_singleton] at hgoal ⊢
  exact (hgoal _ List.mem_cons_self).at_moved hshows hknown _

end full

theorem letterRun_meets {greed : Greed} (hmost : ∀ n, most = some n → least ≤ n)
    (hbound : inLoop = false → top ≤ bound) (hmade : ∀ k, next = some k → k.IsMade) {w : Way}
    (hpos : w.1 ≤ t.size)
    (hhint : ∀ u ∈ (Re.loop greed least most (.letter l)).ways t w.1 w.2, Hinted t next aim u)
    (hgoal : ∀ u ∈ (Re.loop greed least most (.letter l)).ways t w.1 w.2,
      Meets groups e o bound top goal aim u) :
    Meets groups e o bound top (letterRun t l greed least most (next.bind Letter.code?) inLoop goal)
      ((Re.loop greed least most (.letter l)).first t aim) w := by
  intro m hshows hknown
  rw [Re.first]
  by_cases hfull : l.endFrom t w.1 least = w.1 + least
  · have hleft : least ≤ t.size - w.1 := by
      have := l.endFrom_le_size t hpos least
      omega
    have hrestore (hloop : inLoop = false) : m.known ≤ 2 * bound := by
      have := hbound hloop
      omega
    cases greed with
    | greedy => exact letterRun_answers_greedy hfull hleft hshows hknown hmost hmade hrestore hhint hgoal
    | lazy => exact letterRun_answers_lazy hfull hleft hshows hknown hrestore hgoal
    | possessive => exact letterRun_answers_possessive hfull hleft hshows hknown hmost hgoal
  · rw [ways_loop_letter_of_ne hfull, firstOf_nil]
    exact letterRun_answers_short hmost hfull

end attempts
end ChatAutomation.Pattern
