import ChatAutomation.Proofs.Pattern.Alike

/-!
# What joining alternatives keeps

Besides the meaning of alternatives, joining them keeps their width and the numbers of their groups, and
the letters that are left say what the letters were.
-/
namespace ChatAutomation.Pattern

namespace Width

theorem add_either (u v w : Width) : u.add (v.either w) = (u.add v).either (u.add w) := by
  simp only [add, either, cap, Width.mk.injEq]
  omega

theorem cap_add (v w : Width) : (v.add w).cap = v.add w := by
  simp only [add, cap, Width.mk.injEq]
  omega

theorem cap_either (v w : Width) : (v.either w).cap = v.cap.either w.cap := by
  simp only [either, cap, Width.mk.injEq]
  omega

end Width

namespace Re

/-! ## Widths -/

theorem width_sequence_cons (r : Re) (rs : List Re) :
    (sequence (r :: rs)).width = r.width.add (sequence rs).width := rfl

theorem cap_width_sequence (rs : List Re) : (sequence rs).width.cap = (sequence rs).width := by
  cases rs with
  | nil => rfl
  | cons r rs => exact Width.cap_add ..

theorem width_sequence_append {rs rs' ss ss' : List Re} (h : (sequence rs).width = (sequence rs').width)
    (h' : (sequence ss).width = (sequence ss').width) :
    (sequence (rs ++ ss)).width = (sequence (rs' ++ ss')).width := by
  have hsplit (rs ss : List Re) :
      (sequence (rs ++ ss)).width = (sequence rs).width.add (sequence ss).width := by
    induction rs with
    | nil => simpa [sequence, width, Width.add] using (cap_width_sequence ss).symm
    | cons r rs ih =>
      rw [List.cons_append, width_sequence_cons, ih, width_sequence_cons]
      simp only [Width.add, Width.cap, Width.mk.injEq]
      omega
  rw [hsplit, hsplit, h, h']

theorem width_choices_cons {arms : List (List Re)} (hne : arms ≠ []) (arm : List Re) :
    (choices (arm :: arms)).width = (sequence arm).width.either (choices arms).width := by
  refine width_alt_of_ne ?_ _
  cases arms with
  | nil => exact absurd rfl hne
  | cons => exact fun h => by cases h

theorem cap_width_choices (arms : List (List Re)) : (choices arms).width.cap = (choices arms).width := by
  induction arms with
  | nil => rfl
  | cons arm arms ih =>
    by_cases hne : arms = []
    · subst hne
      exact cap_width_sequence arm
    · rw [width_choices_cons hne, Width.cap_either, cap_width_sequence, ih]

theorem width_choices_congr {arms arms' : List (List Re)}
    (h : List.Forall₂ (fun arm arm' => (sequence arm).width = (sequence arm').width) arms arms') :
    (choices arms).width = (choices arms').width := by
  induction h with
  | nil => rfl
  | @cons arm arm' arms arms' harm hrest ih =>
    cases hrest with
    | nil => exact harm
    | cons =>
      rw [width_choices_cons (List.cons_ne_nil _ _), width_choices_cons (List.cons_ne_nil _ _), harm, ih]

theorem width_choices_map_cons {arms : List (List Re)} (hne : arms ≠ []) (r : Re) :
    (choices (arms.map (r :: ·))).width = r.width.add (choices arms).width := by
  induction arms with
  | nil => exact absurd rfl hne
  | cons arm arms ih =>
    by_cases hrest : arms = []
    · subst hrest
      rfl
    · rw [List.map_cons, width_choices_cons (by simpa using hrest), ih hrest, width_sequence_cons,
        width_choices_cons hrest, Width.add_either]

theorem width_drawn_out {arms : List (List Re)} (hne : arms ≠ []) (shared : List Re) :
    (choices (arms.map (shared ++ ·))).width = (sequence (shared ++ [choices arms])).width := by
  induction shared with
  | nil =>
    simp only [List.nil_append, List.map_id']
    exact (cap_width_choices arms).symm
  | cons r shared ih =>
    rw [List.cons_append, width_sequence_cons, ← ih, ← width_choices_map_cons (by simpa using hne),
      List.map_map]
    rfl

theorem width_choices_letters {ls : List Letter} (hne : ls ≠ []) :
    (choices (ls.map fun l => [letter l])).width = ⟨1, 1⟩ := by
  induction ls with
  | nil => exact absurd rfl hne
  | cons l ls ih =>
    by_cases hrest : ls = []
    · subst hrest
      rfl
    · rw [List.map_cons, width_choices_cons (by simpa using hrest), ih hrest]
      rfl

theorem width_joinArms (flags : Flags) {arms : List (List Re)} (hne : arms ≠ []) :
    (sequence (Parse.joinArms flags arms)).width = (choices arms).width := by
  obtain ⟨arm, rfl, hjoined⟩ | ⟨shared, rest, hrest, rfl, -, ⟨ls, rfl, -, hjoined⟩ | hjoined⟩ :=
    joinArms_cases flags hne
  · rw [hjoined]
    rfl
  · rw [hjoined, width_drawn_out hrest]
    refine width_sequence_append rfl ?_
    rw [width_sequence_cons, width_sequence_cons, width_choices_letters (by simpa using hrest)]
    rfl
  · rw [hjoined, width_drawn_out hrest]

/-! ## Numbers of groups -/

section laid
variable {widths : Nat → Option Width} {a b : Nat}

theorem laid_sequence_append {rs ss : List Re} : (sequence (rs ++ ss)).Laid widths a b ↔
    ∃ c, (sequence rs).Laid widths a c ∧ (sequence ss).Laid widths c b := by
  induction rs generalizing a with
  | nil => exact ⟨fun h => ⟨a, rfl, h⟩, fun ⟨c, hc, h⟩ => by cases hc; exact h⟩
  | cons r rs ih =>
    constructor
    · rintro ⟨c, hr, hrest⟩
      obtain ⟨d, hrs, hss⟩ := ih.1 hrest
      exact ⟨d, ⟨c, hr, hrs⟩, hss⟩
    · rintro ⟨d, ⟨c, hr, hrs⟩, hss⟩
      exact ⟨c, hr, ih.2 ⟨d, hrs, hss⟩⟩

theorem laid_sequence_singleton {r : Re} : (sequence [r]).Laid widths a b ↔ r.Laid widths a b :=
  ⟨fun ⟨_, hr, hc⟩ => by cases hc; exact hr, fun hr => ⟨b, hr, rfl⟩⟩

/-- A part that may be drawn out has no groups, so it may stand before any. -/
theorem laid_of_isShareable {r : Re} (h : r.isShareable = true) (hr : r.Laid widths a b) :
    a = b ∧ ∀ c, r.Laid widths c c := by
  cases r with
  | letter l => exact ⟨hr.1, fun _ => ⟨rfl, hr.2⟩⟩
  | backref n w folding => exact ⟨hr.1, fun _ => ⟨rfl, hr.2⟩⟩
  | anchor k | never => exact ⟨hr, fun _ => rfl⟩
  | _ => cases h

theorem laid_shared {shared : List Re} (h : ∀ r ∈ shared, r.isShareable = true)
    (hshared : (sequence shared).Laid widths a b) :
    a = b ∧ ∀ c, (sequence shared).Laid widths c c := by
  induction shared generalizing a with
  | nil => exact ⟨hshared, fun _ => rfl⟩
  | cons r rs ih =>
    obtain ⟨c, hr, hrs⟩ := hshared
    obtain ⟨rfl, hfirst⟩ := laid_of_isShareable (h r List.mem_cons_self) hr
    obtain ⟨rfl, hrest⟩ := ih (fun s hs => h s (List.mem_cons_of_mem _ hs)) hrs
    exact ⟨rfl, fun c => ⟨c, hfirst c, hrest c⟩⟩

theorem laid_drawn_out {shared : List Re} (h : ∀ r ∈ shared, r.isShareable = true)
    {rest : List (List Re)} (hne : rest ≠ [])
    (hrest : (choices (rest.map (shared ++ ·))).Laid widths a b) :
    (∀ c, (sequence shared).Laid widths c c) ∧ (choices rest).Laid widths a b := by
  induction rest generalizing a with
  | nil => exact absurd rfl hne
  | cons arm rest ih =>
    obtain ⟨c, harm, hrest⟩ := hrest
    obtain ⟨d, hshared, harm⟩ := laid_sequence_append.1 harm
    obtain ⟨rfl, hall⟩ := laid_shared h hshared
    refine ⟨hall, c, harm, ?_⟩
    by_cases hnil : rest = []
    · subst hnil
      exact hrest
    · exact (ih hnil hrest).2

theorem laid_choices_letters {ls : List Letter}
    (h : (choices (ls.map fun l => [letter l])).Laid widths a b) : a = b := by
  induction ls generalizing a with
  | nil => exact h
  | cons l ls ih =>
    obtain ⟨c, hl, hrest⟩ := h
    exact (laid_sequence_singleton.1 hl).1.trans (ih hrest)

/-- Joining alternatives keeps the numbers of their groups. -/
theorem laid_joinArms (flags : Flags) {arms : List (List Re)} (hne : arms ≠ [])
    (h : (choices arms).Laid widths a b) :
    (sequence (Parse.joinArms flags arms)).Laid widths a b := by
  obtain ⟨arm, rfl, hjoined⟩ | ⟨shared, rest, hrest, rfl, hshared, hjoined⟩ :=
    joinArms_cases flags hne
  · obtain ⟨c, harm, rfl⟩ := h
    rwa [hjoined]
  · obtain ⟨hshared, hrest⟩ := laid_drawn_out hshared hrest h
    obtain ⟨ls, rfl, -, hjoined⟩ | hjoined := hjoined <;> rw [hjoined] <;>
      refine laid_sequence_append.2 ⟨a, hshared a, laid_sequence_singleton.2 ?_⟩
    · exact ⟨laid_choices_letters hrest, _, _, rfl⟩
    · exact hrest

end laid

/-! ## Letters -/

/-- The letters of a pattern. -/
def letters : Re → List Letter
  | empty | never | anchor _ | backref .. => []
  | letter l => [l]
  | cat a b | alt a b | choice _ a b => a.letters ++ b.letters
  | group _ r | plain r | atomic r | ahead _ r | behind _ _ r | loop _ _ _ r => r.letters

/-- `P` holds of the letters of a pattern, those aside that stand in a group with flags of its own, and
`Q` holds of those. -/
def Each (P Q : Letter → Prop) : Re → Prop
  | empty | never | anchor _ | backref .. => True
  | letter l => P l
  | cat a b | alt a b | choice _ a b => a.Each P Q ∧ b.Each P Q
  | plain r => ∀ l ∈ r.letters, Q l
  | group _ r | atomic r | ahead _ r | behind _ _ r | loop _ _ _ r => r.Each P Q

section each
variable {P Q : Letter → Prop}

theorem each_sequence {rs : List Re} : (sequence rs).Each P Q ↔ ∀ r ∈ rs, r.Each P Q := by
  induction rs with
  | nil => simp [sequence, Each]
  | cons r rs ih => exact (and_congr Iff.rfl ih).trans List.forall_mem_cons.symm

theorem each_choices {arms : List (List Re)} :
    (choices arms).Each P Q ↔ ∀ arm ∈ arms, ∀ r ∈ arm, r.Each P Q := by
  induction arms with
  | nil => simp [choices, Each]
  | cons arm arms ih =>
    rw [List.forall_mem_cons]
    exact and_congr each_sequence ih

/-- What holds of all letters, together with what holds of the outer ones. -/
theorem Each.of_letters {M : Letter → Prop} {r : Re} (hM : r.Each M fun _ => True)
    (hQ : ∀ l ∈ r.letters, Q l) (hP : ∀ l, M l → Q l → P l) : r.Each P Q := by
  induction r with
  | empty | never | anchor | backref => trivial
  | letter l => exact hP l hM (hQ l List.mem_cons_self)
  | cat a b iha ihb | alt a b iha ihb | choice _ a b iha ihb =>
    exact ⟨iha hM.1 fun l hl => hQ l (List.mem_append_left _ hl),
      ihb hM.2 fun l hl => hQ l (List.mem_append_right _ hl)⟩
  | plain r ih => exact hQ
  | group _ r ih | atomic r ih | ahead _ r ih | behind _ _ r ih | loop _ _ _ r ih => exact ih hM hQ

/-- What holds of the letters of joined alternatives holds of those of the alternatives, if it holds of
letters that were joined to one for which it holds. -/
theorem each_of_joinArms {flags : Flags} {arms : List (List Re)} (hne : arms ≠ [])
    (h : ∀ r ∈ Parse.joinArms flags arms, r.Each P Q)
    (hsplit : ∀ ls : List Letter, (∀ l ∈ ls, ∃ arm ∈ arms, letter l ∈ arm) →
      (∀ l ∈ ls, l.symbol.parts? = some l.symbol.items) →
      P (.ofSymbol flags.ignoreCase flags.ascii
        (.among false (ls.flatMap fun l => l.symbol.items).eraseDups)) → ∀ l ∈ ls, P l) :
    ∀ arm ∈ arms, ∀ r ∈ arm, r.Each P Q := by
  obtain ⟨arm, rfl, hjoined⟩ | ⟨shared, rest, -, rfl, -, ⟨ls, rfl, hitems, hjoined⟩ | hjoined⟩ :=
    joinArms_cases flags hne
  · rw [hjoined] at h
    intro arm' harm'
    rwa [List.mem_singleton.1 harm']
  · rw [hjoined] at h
    have hls := hsplit ls (fun l hl => ⟨shared ++ [letter l],
      List.mem_map.2 ⟨_, List.mem_map.2 ⟨l, hl, rfl⟩, rfl⟩, by simp⟩) hitems
      (h (Parse.letter flags _) (List.mem_append_right _ List.mem_cons_self))
    intro arm harm r hr
    obtain ⟨_, hrest, rfl⟩ := List.mem_map.1 harm
    obtain ⟨l, hl, rfl⟩ := List.mem_map.1 hrest
    rcases List.mem_append.1 hr with hr | hr
    · exact h r (List.mem_append_left _ hr)
    · rw [List.mem_singleton.1 hr]
      exact hls l hl
  · rw [hjoined] at h
    intro arm harm r hr
    obtain ⟨arm', hrest, rfl⟩ := List.mem_map.1 harm
    rcases List.mem_append.1 hr with hr | hr
    · exact h r (List.mem_append_left _ hr)
    · exact each_choices.1 (h _ (by simp)) arm' hrest r hr

theorem each_joinArms {flags : Flags} {arms : List (List Re)} (hne : arms ≠ [])
    (hmade : ∀ s, P (.ofSymbol flags.ignoreCase flags.ascii s))
    (h : ∀ arm ∈ arms, ∀ r ∈ arm, r.Each P Q) : ∀ r ∈ Parse.joinArms flags arms, r.Each P Q := by
  obtain ⟨arm, rfl, hjoined⟩ | ⟨shared, rest, hrest, rfl, -, hjoined⟩ := joinArms_cases flags hne
  · rw [hjoined]
    exact h arm List.mem_cons_self
  · obtain ⟨arm, harm⟩ := List.exists_mem_of_ne_nil _ hrest
    have hshared r (hr : r ∈ shared) : r.Each P Q :=
      h _ (List.mem_map.2 ⟨arm, harm, rfl⟩) r (List.mem_append_left _ hr)
    obtain ⟨ls, rfl, -, hjoined⟩ | hjoined := hjoined <;> rw [hjoined] <;> intro r hr <;>
      rcases List.mem_append.1 hr with hr | hr
    · exact hshared r hr
    · rw [List.mem_singleton.1 hr]
      exact hmade _
    · exact hshared r hr
    · rw [List.mem_singleton.1 hr]
      exact each_choices.2 fun arm harm r hr =>
        h _ (List.mem_map.2 ⟨arm, harm, rfl⟩) r (List.mem_append_right _ hr)

end each
end Re
end ChatAutomation.Pattern
