import Mathlib.Data.List.Forall2
import ChatAutomation.Proofs.Pattern.Meaning

/-!
# Patterns that mean the same

A way that comes up a second time changes nothing, since it fails where it failed before. `Same` compares
lists of ways by the first one that reaches an aim, and `Re.Alike` compares patterns by their ways; every
way to build patterns respects it. Drawing out what alternatives begin with, and joining letters to a set,
keep the meaning of alternatives: `alike_joinArms`.
-/
namespace ChatAutomation.Pattern

/-- The first way that reaches an aim is the same in both lists, whatever the aim. -/
def Same (ws us : List Way) : Prop := ∀ aim, firstOf aim ws = firstOf aim us

namespace Same

variable {ws us ws' us' : List Way}

theorem refl (ws : List Way) : Same ws ws := fun _ => rfl

theorem of_eq (h : ws = us) : Same ws us := fun _ => by rw [h]

theorem symm (h : Same ws us) : Same us ws := fun aim => (h aim).symm

theorem trans (h : Same ws us) (h' : Same us us') : Same ws us' := fun aim => (h aim).trans (h' aim)

theorem append (h : Same ws us) (h' : Same ws' us') : Same (ws ++ ws') (us ++ us') := fun aim => by
  rw [firstOf_append, firstOf_append, h, h']

theorem cons (w : Way) (h : Same ws us) : Same (w :: ws) (w :: us) := append (.refl [w]) h

theorem flatMap (h : Same ws us) {f g : Way → List Way} (hfg : ∀ w, Same (f w) (g w)) :
    Same (ws.flatMap f) (us.flatMap g) := fun aim => by
  rw [firstOf_flatMap, firstOf_flatMap, h]
  exact congrArg (firstOf · us) (funext fun w => hfg w aim)

theorem map (h : Same ws us) (f : Way → Way) : Same (ws.map f) (us.map f) := fun aim => by
  rw [firstOf_map, firstOf_map, h]

theorem head? (h : Same ws us) : ws.head? = us.head? := by
  rw [← firstOf_some, ← firstOf_some, h]

theorem eq_nil_iff (h : Same ws us) : ws = [] ↔ us = [] := by
  rw [← List.head?_eq_none_iff, h.head?, List.head?_eq_none_iff]

/-- A way twice is that way once. -/
theorem twice (ws : List Way) : Same (ws ++ ws) ws := fun aim => by
  rw [firstOf_append]
  cases firstOf aim ws <;> rfl

theorem passing (h : Same ws us) (negated : Bool) (pos : Nat) (v : Captures) :
    Same (passing negated pos v ws) (passing negated pos v us) := by
  have hhead := h.head?
  cases ws <;> cases us <;> cases negated <;> simp_all [Pattern.passing, of_eq]

theorem rounds {body body' : Nat → Captures → List Way} (h : ∀ pos v, Same (body pos v) (body' pos v))
    (isLazy : Bool) (least : Nat) (most : Option Nat) (fuel count : Nat) (last : Option Nat) (pos : Nat)
    (v : Captures) : Same (rounds isLazy body least most fuel count last pos v)
      (rounds isLazy body' least most fuel count last pos v) := by
  induction fuel generalizing count last pos v with
  | zero => exact .refl _
  | succ fuel ih =>
    have hround last := (h pos v).flatMap fun w => ih (count + 1) last w.1 w.2
    unfold Pattern.rounds
    split
    · exact hround last
    · have hmore : Same
          (if (mayRepeat most count && last != some pos) = true then (body pos v).flatMap fun w =>
            Pattern.rounds isLazy body least most fuel (count + 1) (some pos) w.1 w.2 else [])
          (if (mayRepeat most count && last != some pos) = true then (body' pos v).flatMap fun w =>
            Pattern.rounds isLazy body' least most fuel (count + 1) (some pos) w.1 w.2 else []) := by
        split
        · exact hround (some pos)
        · exact .refl _
      cases isLazy with
      | true => exact hmore.cons _
      | false => exact hmore.append (.refl _)

end Same

/-- Two patterns lead to the same ways through a text. -/
def Re.Alike (t : Array Char) (r s : Re) : Prop := ∀ pos v, Same (r.ways t pos v) (s.ways t pos v)

namespace Re.Alike

variable {t : Array Char} {r r' s s' : Re}

theorem refl (r : Re) : r.Alike t r := fun _ _ => .refl _

theorem symm (h : r.Alike t s) : s.Alike t r := fun pos v => (h pos v).symm

theorem trans (h : r.Alike t s) (h' : s.Alike t s') : r.Alike t s' := fun pos v =>
  (h pos v).trans (h' pos v)

theorem cat (h : r.Alike t r') (h' : s.Alike t s') : (cat r s).Alike t (cat r' s') := fun pos v =>
  (h pos v).flatMap fun w => h' w.1 w.2

theorem alt (h : r.Alike t r') (h' : s.Alike t s') : (alt r s).Alike t (alt r' s') := fun pos v =>
  (h pos v).append (h' pos v)

theorem group (n : Nat) (h : r.Alike t r') : (group n r).Alike t (group n r') := fun pos v =>
  (h pos v).map _

theorem plain (h : r.Alike t r') : (plain r).Alike t (plain r') := h

theorem atomic (h : r.Alike t r') : (atomic r).Alike t (atomic r') := fun pos v =>
  .of_eq (by rw [ways, ways, (h pos v).head?])

theorem ahead (negated : Bool) (h : r.Alike t r') : (ahead negated r).Alike t (ahead negated r') :=
  fun pos v => (h pos v).passing negated pos v

theorem behind (negated : Bool) (w : Width) (h : r.Alike t r') :
    (behind negated w r).Alike t (behind negated w r') := fun pos v => by
  rw [ways, ways]
  split
  · exact .refl _
  · exact (h _ v).passing negated pos v

theorem choice (n : Nat) (h : r.Alike t r') (h' : s.Alike t s') :
    (choice n r s).Alike t (choice n r' s') := fun pos v => by
  rw [ways, ways]
  split
  · exact h pos v
  · exact h' pos v

theorem loop (greed : Greed) (least : Nat) (most : Option Nat) (h : r.Alike t r') :
    (loop greed least most r).Alike t (loop greed least most r') := fun pos v => by
  have hrounds := Same.rounds h (greed == .lazy) least most (roundLimit t least) 0 none pos v
  rw [ways, ways]
  split
  · exact .of_eq (by rw [hrounds.head?])
  · exact hrounds

/-- Letters that match the same characters of the text. -/
theorem letter {l k : Letter} (h : ∀ c ∈ t, l.fits c = k.fits c) :
    (letter l).Alike t (Re.letter k) := fun pos v => by
  have hfits : l.fitsAt t pos = k.fitsAt t pos := by
    unfold Letter.fitsAt
    split
    · rename_i c hc
      exact h c (Array.mem_of_getElem? hc)
    · rfl
  rw [ways, ways, hfits]
  exact .refl _

theorem occurs_eq (h : r.Alike t s) : r.occurs t = s.occurs t := by
  rw [Bool.eq_iff_iff, occurs_iff, occurs_iff]
  simp only [ne_eq, fun i => (h i .none).eq_nil_iff]

end Re.Alike

/-! ## Sequences and alternatives -/

namespace Re

variable {t : Array Char}

theorem alike_sequence_append {rs rs' ss ss' : List Re} (h : (sequence rs).Alike t (sequence rs'))
    (h' : (sequence ss).Alike t (sequence ss')) :
    (sequence (rs ++ ss)).Alike t (sequence (rs' ++ ss')) := fun pos v => by
  rw [ways_sequence_append, ways_sequence_append]
  exact (h pos v).flatMap fun w => h' w.1 w.2

theorem alike_sequence_singleton {r s : Re} (h : r.Alike t s) :
    (sequence [r]).Alike t (sequence [s]) := h.cat (.refl empty)

theorem alike_choices {arms arms' : List (List Re)}
    (h : List.Forall₂ (fun arm arm' => (sequence arm).Alike t (sequence arm')) arms arms') :
    (choices arms).Alike t (choices arms') := by
  induction h with
  | nil => exact .refl _
  | cons harm _ ih => exact harm.alt ih

/-- A part that may be drawn out leads nowhere or to one place. -/
theorem length_ways_le_one {r : Re} (h : r.isShareable = true) (pos : Nat) (v : Captures) :
    (r.ways t pos v).length ≤ 1 := by
  cases r with
  | letter l | anchor k =>
    rw [ways]
    split <;> simp
  | backref n w folding =>
    rw [ways]
    split
    · split <;> simp
    · simp
  | never => simp [ways]
  | _ => cases h

theorem length_ways_sequence_le_one {rs : List Re} (h : ∀ r ∈ rs, r.isShareable = true) (pos : Nat)
    (v : Captures) : ((sequence rs).ways t pos v).length ≤ 1 := by
  induction rs generalizing pos v with
  | nil => simp [sequence, ways]
  | cons r rs ih =>
    have hone := length_ways_le_one (t := t) (h r List.mem_cons_self) pos v
    rw [ways_sequence_cons, ways]
    rcases hways : r.ways t pos v with _ | ⟨w, _ | ⟨_, _⟩⟩
    · simp
    · simpa using ih (fun s hs => h s (List.mem_cons_of_mem _ hs)) w.1 w.2
    · simp [hways] at hone

/-- What is drawn out is tried once. -/
theorem alike_drawn_out {shared : List Re} (h : ∀ r ∈ shared, r.isShareable = true)
    (arms : List (List Re)) :
    (sequence (shared ++ [choices arms])).Alike t (choices (arms.map (shared ++ ·))) := fun pos v => by
  refine .of_eq ?_
  rw [ways_sequence_append, ways_choices]
  simp only [ways_sequence_singleton, ways_choices, List.flatMap_map, ways_sequence_append]
  have hone := length_ways_sequence_le_one (t := t) h pos v
  rcases hways : (sequence shared).ways t pos v with _ | ⟨w, _ | ⟨_, _⟩⟩
  · simp
  · simp
  · simp [hways] at hone

theorem commonStart_eq {others : List (List Re)} {arm shared first : List Re}
    {rest : List (List Re)} (h : commonStart others arm = (shared, first, rest)) :
    arm = shared ++ first ∧ others = rest.map (shared ++ ·) ∧ ∀ r ∈ shared, r.isShareable = true := by
  induction arm generalizing others shared first rest with
  | nil =>
    obtain ⟨rfl, rfl, rfl⟩ : [] = shared ∧ [] = first ∧ others = rest := by simpa [commonStart] using h
    simp
  | cons r rs ih =>
    unfold commonStart at h
    split at h
    · rename_i hshare
      rw [Bool.and_eq_true, List.all_eq_true] at hshare
      obtain ⟨hshare, hall⟩ := hshare
      cases hrest : commonStart (others.map List.tail) rs with
      | mk shared' p =>
        obtain ⟨first', rest'⟩ := p
        obtain ⟨hrs, hothers, hshared⟩ := ih hrest
        simp only [hrest, Prod.mk.injEq] at h
        obtain ⟨rfl, rfl, rfl⟩ := h
        refine ⟨by rw [hrs]; rfl, ?_, by simpa [hshare] using hshared⟩
        have hcons : others = (others.map List.tail).map (r :: ·) := by
          rw [List.map_map]
          refine (List.map_id others).symm.trans (List.map_congr_left fun arm harm => ?_)
          have hhead := beq_iff_eq.1 (hall arm harm)
          cases arm with
          | nil => cases hhead
          | cons s ss =>
            obtain rfl := Option.some.inj hhead
            rfl
        rw [hcons, hothers, List.map_map]
        rfl
    · simp only [Prod.mk.injEq] at h
      obtain ⟨rfl, rfl, rfl⟩ := h
      simp

end Re

/-- The parts that a symbol is written with. -/
def Symbol.items : Symbol → List SetItem
  | .one _ n => [.one n]
  | .among _ items => items
  | .any _ => []

namespace Re

theorem joinedParts?_eq_some {arms : List (List Re)} {parts : List SetItem}
    (h : joinedParts? arms = some parts) : ∃ ls : List Letter, arms = ls.map (fun l => [letter l]) ∧
      (∀ l ∈ ls, l.symbol.parts? = some l.symbol.items) ∧
      parts = ls.flatMap fun l => l.symbol.items := by
  unfold joinedParts? at h
  rw [Option.map_eq_some_iff] at h
  obtain ⟨pss, hpss, rfl⟩ := h
  induction arms generalizing pss with
  | nil =>
    obtain rfl : [] = pss := by simpa using hpss
    exact ⟨[], rfl, by simp, rfl⟩
  | cons arm arms ih =>
    rw [List.mapM_cons] at hpss
    simp only [Option.bind_eq_bind, Option.bind_eq_some_iff, Option.pure_def, Option.some.injEq] at hpss
    obtain ⟨ps, hps, pss', hpss', rfl⟩ := hpss
    obtain ⟨ls, rfl, hparts, hflat⟩ := ih _ hpss'
    split at hps
    · rename_i l
      have hitems : ps = l.symbol.items := by
        unfold Symbol.parts? at hps
        split at hps <;> simp_all [Symbol.items]
      subst hitems
      refine ⟨l :: ls, rfl, ?_, ?_⟩
      · intro k hk
        rcases List.mem_cons.1 hk with rfl | hk
        · exact hps
        · exact hparts k hk
      · rw [List.flatten_cons, hflat, List.flatMap_cons]
    · cases hps

variable {t : Array Char}

/-- Alternatives that are letters mean a letter that matches what one of them does. -/
theorem alike_choices_letters {ls : List Letter} {k : Letter}
    (h : ∀ c ∈ t, k.fits c = ls.any (·.fits c)) :
    (choices (ls.map fun l => [letter l])).Alike t (letter k) := fun pos v => by
  rw [ways_choices, ways, List.flatMap_map]
  simp only [ways_sequence_singleton, ways]
  have hk : k.fitsAt t pos = ls.any (·.fitsAt t pos) := by
    unfold Letter.fitsAt
    split
    · rename_i c hc
      exact h c (Array.mem_of_getElem? hc)
    · simp
  rw [hk]
  clear h hk
  induction ls with
  | nil => exact .refl _
  | cons l ls ih =>
    rw [List.flatMap_cons, List.any_cons]
    cases l.fitsAt t pos with
    | false => simpa using ih
    | true =>
      refine (Same.append (.refl [(pos + 1, v)]) ih).trans ?_
      cases ls.any (·.fitsAt t pos) with
      | false => exact .refl _
      | true => exact .twice _

/-- Alternatives that are joined are what all begin with, and a letter for the rest of them or the choice
between the rest of them. -/
theorem joinArms_cases (flags : Flags) {arms : List (List Re)} (hne : arms ≠ []) :
    (∃ arm, arms = [arm] ∧ Parse.joinArms flags arms = arm) ∨
      ∃ shared rest, rest ≠ [] ∧ arms = rest.map (shared ++ ·) ∧
        (∀ r ∈ shared, r.isShareable = true) ∧
        ((∃ ls : List Letter, rest = ls.map (fun l => [letter l]) ∧
            (∀ l ∈ ls, l.symbol.parts? = some l.symbol.items) ∧
            Parse.joinArms flags arms = shared ++ [Parse.letter flags
              (.among false (ls.flatMap fun l => l.symbol.items).eraseDups)]) ∨
          Parse.joinArms flags arms = shared ++ [choices rest]) := by
  match arms, hne with
  | [arm], _ => exact .inl ⟨arm, rfl, rfl⟩
  | arm :: arm' :: others, _ =>
    cases hstart : commonStart (arm' :: others) arm with
    | mk shared p =>
      obtain ⟨first, rest⟩ := p
      obtain ⟨harm, hothers, hshared⟩ := commonStart_eq hstart
      refine .inr ⟨shared, first :: rest, by simp, ?_, hshared, ?_⟩
      · rw [List.map_cons, ← harm, ← hothers]
      · simp only [Parse.joinArms, hstart]
        split
        · rename_i parts hparts
          obtain ⟨ls, hls, hitems, rfl⟩ := joinedParts?_eq_some hparts
          exact .inl ⟨ls, hls, hitems, rfl⟩
        · exact .inr rfl

/-- Joining alternatives keeps their meaning if the joined letters match what one of them does. -/
theorem alike_joinArms {flags : Flags} {arms : List (List Re)} (hne : arms ≠ [])
    (hjoin : ∀ ls : List Letter, (∀ l ∈ ls, ∃ arm ∈ arms, letter l ∈ arm) →
      (∀ l ∈ ls, l.symbol.parts? = some l.symbol.items) →
      Parse.letter flags (.among false (ls.flatMap fun l => l.symbol.items).eraseDups) ∈
        Parse.joinArms flags arms → ∀ c ∈ t,
      (Letter.ofSymbol flags.ignoreCase flags.ascii
        (.among false (ls.flatMap fun l => l.symbol.items).eraseDups)).fits c = ls.any (·.fits c)) :
    (sequence (Parse.joinArms flags arms)).Alike t (choices arms) := by
  obtain ⟨arm, rfl, hjoined⟩ | ⟨shared, rest, -, rfl, hshared, ⟨ls, rfl, hitems, hjoined⟩ | hjoined⟩ :=
    joinArms_cases flags hne
  · rw [hjoined]
    intro pos v
    rw [ways_choices, List.flatMap_singleton]
    exact .refl _
  · have hmem : Parse.letter flags (.among false (ls.flatMap fun l => l.symbol.items).eraseDups) ∈
        Parse.joinArms flags (List.map (shared ++ ·) (ls.map fun l => [letter l])) := by
      rw [hjoined]
      exact List.mem_append_right _ List.mem_cons_self
    rw [hjoined]
    refine .trans (alike_sequence_append (.refl _) (alike_sequence_singleton ?_))
      (alike_drawn_out hshared _)
    refine (alike_choices_letters fun c hc => hjoin ls (fun l hl => ?_) hitems hmem c hc).symm
    exact ⟨shared ++ [letter l], List.mem_map.2 ⟨_, List.mem_map.2 ⟨l, hl, rfl⟩, rfl⟩, by simp⟩
  · rw [hjoined]
    exact alike_drawn_out hshared rest

end Re
end ChatAutomation.Pattern
