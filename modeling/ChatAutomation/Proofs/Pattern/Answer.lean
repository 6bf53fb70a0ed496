import ChatAutomation.Proofs.Pattern.Attempt

/-!
# Attempts and ways

An attempt answers a list of ways if it succeeds with the first way from which its goal is reached, and
fails, with the marks kept that count, where there is none. Sequences, alternatives and repetitions are
attempts of this kind if their parts are.
-/
namespace ChatAutomation.Pattern

/-- Where attempts arrive in the end: which groups are open there, and how many may have been met. -/
structure Arrival where
  opened : Opened
  top : Nat

/-- What becomes of an attempt for which `way?` is the way to take. -/
inductive Answers (groups : Nat) (e : Arrival) (o : Opened) (bound : Nat) (m : Memory) :
    Outcome → (way? : Option Way) → Prop
  | reached {x : Memory} {w : Way} (place : x.place = w.1) (shows : Shows groups e.opened w.2 x)
      (known : m.known ≤ x.known) (top : x.known ≤ 2 * e.top) (kept : Kept o bound m x) :
      Answers groups e o bound m (.ok x) (some w)
  | failed {x : Memory} (kept : Kept o bound m x) : Answers groups e o bound m (.error x) none

/-- A goal answers what `aim` makes of a way, whatever else the memory holds. At most `top` groups have
been met then. -/
def Meets (groups : Nat) (e : Arrival) (o : Opened) (bound top : Nat) (goal : Goal)
    (aim : Way → Option Way) (w : Way) : Prop :=
  ∀ m, Shows groups o w.2 m → m.known ≤ 2 * top → Answers groups e o bound m (goal w.1 m) (aim w)

/-- The first way from which the aim is reached. -/
def firstOf (aim : Way → Option Way) (ways : List Way) : Option Way := ways.findSome? aim

section firstOf
variable (aim : Way → Option Way)

@[simp] theorem firstOf_nil : firstOf aim [] = none := rfl

@[simp] theorem firstOf_singleton (w : Way) : firstOf aim [w] = aim w := List.findSome?_singleton

theorem firstOf_append (ws us : List Way) :
    firstOf aim (ws ++ us) = (firstOf aim ws).or (firstOf aim us) := List.findSome?_append

theorem firstOf_cons (w : Way) (ws : List Way) :
    firstOf aim (w :: ws) = (aim w).or (firstOf aim ws) := by
  rw [← List.singleton_append, firstOf_append, firstOf_singleton]

theorem firstOf_flatMap (f : Way → List Way) (ws : List Way) :
    firstOf aim (ws.flatMap f) = firstOf (fun w => firstOf aim (f w)) ws := by
  induction ws with
  | nil => rfl
  | cons w ws ih => rw [List.flatMap_cons, firstOf_append, firstOf_cons, ih]

theorem firstOf_map (f : Way → Way) (ws : List Way) :
    firstOf aim (ws.map f) = firstOf (fun w => aim (f w)) ws := List.findSome?_map

theorem firstOf_some (ws : List Way) : firstOf some ws = ws.head? := by
  cases ws <;> rfl

end firstOf

variable {groups : Nat} {e : Arrival} {o : Opened} {bound : Nat} {m : Memory}

namespace Answers

/-- An answer from a memory in which more is known is one from the memory before. -/
theorem of_prior {o' : Opened} {bound' : Nat} {m' : Memory} {r : Outcome} {way? : Option Way}
    (h : Answers groups e o' bound' m' r way?) (hknown : m.known ≤ m'.known)
    (hkept : ∀ x, Kept o' bound' m' x → Kept o bound m x) : Answers groups e o bound m r way? := by
  cases h with
  | reached place shows known top kept =>
    exact .reached place shows (Nat.le_trans hknown known) top (hkept _ kept)
  | failed kept => exact .failed (hkept _ kept)

theorem mono {bound' : Nat} {r : Outcome} {way? : Option Way}
    (h : Answers groups e o bound' m r way?) (hle : bound ≤ bound') :
    Answers groups e o bound m r way? := h.of_prior (Nat.le_refl _) fun _ hkept => hkept.mono hle

/-- What comes after a failure is asked for in its turn. -/
theorem orElse {bound' : Nat} {r : Outcome} {way? way?' : Option Way}
    (h : Answers groups e o bound' m r way?) (hle : bound ≤ bound') {f : Memory → Outcome}
    (hf : ∀ x, Kept o bound' m x → Answers groups e o bound m (f x) way?') :
    Answers groups e o bound m (r.orElse f) (way?.or way?') := by
  cases h with
  | reached place shows known top kept => exact .reached place shows known top (kept.mono hle)
  | failed kept => exact hf _ kept

theorem backTo {r : Outcome} {way? : Option Way} (h : Answers groups e o bound m r way?)
    (pos : Nat) : Answers groups e o bound m (r.backTo pos) way? := by
  rw [← Option.or_none (o := way?)]
  exact h.orElse (Nat.le_refl _) fun x hkept => .failed (hkept.moveTo pos)

end Answers

namespace Meets

variable {top : Nat} {goal : Goal} {aim : Way → Option Way} {w : Way}

theorem mono (h : Meets groups e o bound top goal aim w) {bound' top' : Nat} (hbound : bound' ≤ bound)
    (htop : top' ≤ top) : Meets groups e o bound' top' goal aim w := fun m hshows hknown =>
  (h m hshows (by omega)).mono hbound

/-- The place in the memory does not matter to a goal. -/
theorem at_moved (h : Meets groups e o bound top goal aim w) (hshows : Shows groups o w.2 m)
    (hknown : m.known ≤ 2 * top) (pos : Nat) :
    Answers groups e o bound m (goal w.1 (m.moveTo pos)) (aim w) :=
  (h _ (hshows.moveTo pos) hknown).of_prior (Nat.le_refl _) fun _ hkept => hkept.of_moveTo

/-- The goal from a memory that kept what counted in one before. -/
theorem goOn {saved : Memory} {bound' : Nat} (h : Meets groups e o bound' top goal aim w)
    (hshows : Shows groups o w.2 m) (hkept : Kept o bound saved m) (hknown : saved.known ≤ m.known)
    (htop : m.known ≤ 2 * top) (hle : bound ≤ bound') :
    Answers groups e o bound saved (goal w.1 m) (aim w) :=
  (h m hshows htop).of_prior hknown fun _ hx => hkept.trans hknown (hx.mono hle)

theorem resume {saved : Memory} (h : Meets groups e o bound top goal aim w)
    (hshows : Shows groups o w.2 m) (hkept : Kept o bound saved m) (hknown : m.known = saved.known)
    (htop : saved.known ≤ 2 * top) (pos : Nat) :
    Answers groups e o bound saved (goal w.1 (m.moveTo pos)) (aim w) :=
  h.goOn (hshows.moveTo pos) (hkept.moveTo pos) (Nat.le_of_eq hknown.symm)
    (Nat.le_trans (Nat.le_of_eq hknown) htop) (Nat.le_refl _)

end Meets

/-! ## Hints -/

/-- A letter that the aim is said to begin with does begin it. -/
def Hinted (t : Array Char) (next : Option Letter) (aim : Way → Option Way) (w : Way) : Prop :=
  ∀ l, next = some l → l.fitsAt t w.1 = false → aim w = none

theorem Hinted.none (t : Array Char) (aim : Way → Option Way) (w : Way) : Hinted t none aim w := by
  intro l hl
  cases hl

/-- The first way through a pattern from which the aim is reached. -/
def Re.first (t : Array Char) (r : Re) (aim : Way → Option Way) (w : Way) : Option Way :=
  firstOf aim (r.ways t w.1 w.2)

section first
variable (t : Array Char) (aim : Way → Option Way) (w : Way)

theorem Re.first_empty : Re.empty.first t aim w = aim w := firstOf_singleton aim w

theorem Re.first_cat (r s : Re) : (cat r s).first t aim w = r.first t (s.first t aim) w :=
  firstOf_flatMap ..

theorem Re.first_alt (r s : Re) :
    (alt r s).first t aim w = (r.first t aim w).or (s.first t aim w) := firstOf_append ..

theorem Re.first_letter (l : Letter) :
    (letter l).first t aim w = if l.fitsAt t w.1 then aim (w.1 + 1, w.2) else none := by
  rw [first, ways]
  split
  · exact firstOf_singleton ..
  · rfl

theorem Re.first_anchor (k : Anchor) :
    (anchor k).first t aim w = if k.holds t w.1 then aim w else none := by
  rw [first, ways]
  split
  · exact firstOf_singleton ..
  · rfl

theorem Re.first_group (n : Nat) (r : Re) : (group n r).first t aim w =
    r.first t (fun u => aim (u.1, u.2.capture n w.1 u.1)) w := firstOf_map ..

end first

/-! One step of an attempt, for the patterns that look at the place or at the memory. -/

section run
variable (t : Array Char) (inLoop : Bool) (next : Option Letter) (goal : Goal) (pos : Nat) (m : Memory)

theorem Re.run_alt (r s : Re) : (alt r s).run t inLoop next goal pos m =
    if mayOpen t pos (r.opening none) then
      match r.run t inLoop none goal pos (m.moveTo pos) with
      | .ok m => .ok m
      | .error failed => s.run t inLoop next goal pos (failed.restore m inLoop)
    else s.run t inLoop next goal pos m := rfl

theorem Re.run_letter (l : Letter) : (letter l).run t inLoop next goal pos m =
    if l.fitsAt t pos then goal (pos + 1) m else .error m := rfl

theorem Re.run_anchor (k : Anchor) : (anchor k).run t inLoop next goal pos m =
    if k.holds t pos then goal pos m else .error m := rfl

theorem Re.run_backref (n : Nat) (width : Width) (folding : Folding) :
    (backref n width folding).run t inLoop next goal pos m =
      match m.span? n with
      | some (first, last) =>
        if repeats t folding first pos (last - first) then goal (pos + (last - first)) m else .error m
      | none => .error m := rfl

theorem Re.run_choice (n : Nat) (r s : Re) : (choice n r s).run t inLoop next goal pos m =
    if (m.span? n).isSome then r.run t inLoop (if s = empty then next else none) goal pos m
    else s.run t inLoop next goal pos m := rfl

theorem Re.run_atomic (r : Re) : (atomic r).run t inLoop next goal pos m =
    match r.run t inLoop none arrive pos (m.moveTo pos) with
    | .ok m => goal m.place m
    | .error m => .error (m.moveTo pos) := rfl

theorem Re.run_loop_of_single {r : Re} {l : Letter} (h : r.single? = some l) (greed : Greed) (least : Nat)
    (most : Option Nat) : (loop greed least most r).run t inLoop next goal =
      letterRun t l greed least most (next.bind Letter.code?) inLoop goal := by
  simp only [run, h]

theorem Re.run_greedyLoop {r : Re} (h : r.single? = none) (least : Nat) (most : Option Nat) :
    (loop .greedy least most r).run t inLoop next goal pos m =
      greedyLoop (r.run t true none) least most goal (roundLimit t least) 0 none pos m := by
  simp only [run, h]

theorem Re.run_lazyLoop {r : Re} (h : r.single? = none) (least : Nat) (most : Option Nat) :
    (loop .lazy least most r).run t inLoop next goal pos m =
      lazyLoop (r.run t true none) least most inLoop goal (roundLimit t least) 0 none pos m := by
  simp only [run, h]

end run

/-- The opening of a pattern is what it begins with. -/
theorem Hinted.opening {t : Array Char} {next : Option Letter} {aim : Way → Option Way} {r : Re}
    {w : Way} (h : ∀ u ∈ r.ways t w.1 w.2, Hinted t next aim u) :
    Hinted t (r.opening next) (r.first t aim) w := by
  induction r generalizing next aim w with
  | empty =>
    intro l hl hfits
    rw [Re.first_empty]
    exact h w (by simp [Re.ways]) l hl hfits
  | cat r s ihr ihs =>
    intro l hl hfits
    rw [Re.first_cat]
    refine ihr (fun u hu => ihs fun u' hu' => ?_) l hl hfits
    exact h u' (List.mem_flatMap.2 ⟨u, hu, hu'⟩)
  | letter k =>
    intro l hl hfits
    obtain rfl : k = l := Option.some.inj hl
    rw [Re.first_letter, hfits]
    rfl
  | plain r ih => exact ih h
  | _ =>
    intro l hl
    cases hl

/-- A character that is looked up as it stands fits nothing but itself. -/
theorem Letter.fits_of_code? {l : Letter} (hmade : l.IsMade) {n : Nat} (hn : l.code? = some n)
    (c : Char) : l.fits c = (Text.code c == n) := by
  obtain ⟨ignoreCase, ascii, hset⟩ := hmade
  have hsymbol : l.symbol = .one false n ∧ l.isExact = true := by
    unfold code? at hn
    split at hn
    · rename_i k hk
      split at hn
      · rename_i hexact
        exact ⟨hk.trans (by rw [Option.some.inj hn]), hexact⟩
      · cases hn
    · cases hn
  have hpoint : l.set = ⟨false, .exact, [point n]⟩ := by
    have hexact := hsymbol.2
    rw [hset, hsymbol.1] at hexact ⊢
    simp only [isExact, ofSymbol, Symbol.toSet, CharSet.ofCode, beq_iff_eq] at hexact ⊢
    split
    · rename_i hcases
      cases ascii <;> simp [hcases] at hexact
    · rfl
  rw [fits, hpoint]
  simp only [CharSet.contains, point, List.any_cons, List.any_nil, Bool.or_false, Member.holds,
    Folding.apply, Nat.mod_one]
  grind

theorem fitsAt_of_not_standsAt {t : Array Char} {next : Option Letter} {pos : Nat}
    (hmade : ∀ l, next = some l → l.IsMade)
    (h : standsAt t (next.bind Letter.code?) pos = false) :
    ∃ l, next = some l ∧ l.fitsAt t pos = false := by
  cases next with
  | none => cases h
  | some l =>
    refine ⟨l, rfl, ?_⟩
    cases hn : l.code? with
    | none => simp [hn, standsAt] at h
    | some n =>
      simp only [Option.bind_some, hn, standsAt] at h
      unfold Letter.fitsAt
      split at h <;> simp_all [Letter.fits_of_code?]

end ChatAutomation.Pattern
