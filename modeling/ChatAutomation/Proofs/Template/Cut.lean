import ChatAutomation.Proofs.Template.SinglePass

/-!
# Where a template falls apart

A placeholder holds braces and word characters only, so a template can be cut at any other character, and the
two sides are filled in each by itself: `filled_append_cut`. `FilledAlike` says that two texts are filled in
alike in front of whatever follows, which allows to put such texts together.
-/
namespace ChatAutomation.Template
variable {vars : Variables} {c : Char} {cs ds : List Char}

/-- What the characters of a template are filled in to. -/
def filled (vars : Variables) (cs : List Char) : List Char := (pieces cs).flatMap (Piece.fill vars)

theorem toList_fill (vars : Variables) (template : String) :
    (fill vars template).toList = filled vars template.toList := by
  rw [fill, String.toList_ofList, filled]

@[simp] theorem filled_nil : filled vars [] = [] := by simp [filled]

theorem filled_copied (h : placeholder? (c :: cs) = none) :
    filled vars (c :: cs) = c :: filled vars cs := by
  rw [filled, pieces_literal h]
  rfl

theorem filled_cons (hc : c ≠ '\x7b') (cs : List Char) :
    filled vars (c :: cs) = c :: filled vars cs := by
  refine filled_copied (placeholder?_eq_none_iff.2 ?_)
  rintro ⟨name, after, -, -, h⟩
  exact hc (List.cons.inj h).1

theorem filled_append (h : ∀ c ∈ cs, c ≠ '\x7b') (ds : List Char) :
    filled vars (cs ++ ds) = cs ++ filled vars ds := by
  induction cs with
  | nil => rfl
  | cons c cs ih =>
    rw [List.cons_append, filled_cons (h c List.mem_cons_self),
      ih fun d hd => h d (List.mem_cons_of_mem _ hd), List.cons_append]

theorem filled_opens {name after : List Char} (h : Opens name after cs) :
    filled vars cs = emitted vars name ++ filled vars after := by
  rw [filled, pieces_placeholder (placeholder?_eq_some_iff.2 h), List.flatMap_cons, fill_placeholder]
  rfl

/-! ## Cuts -/

/-- A character that no placeholder holds. -/
structure IsCut (c : Char) : Prop where
  opening : c ≠ '\x7b'
  closing : c ≠ '\x7d'
  word : Text.isAsciiWord c = false

instance (c : Char) : Decidable (IsCut c) :=
  decidable_of_iff (c ≠ '\x7b' ∧ c ≠ '\x7d' ∧ Text.isAsciiWord c = false)
    ⟨fun h => ⟨h.1, h.2.1, h.2.2⟩, fun h => ⟨h.1, h.2, h.3⟩⟩

/-- A placeholder that opens in front of a cut closes in front of it. -/
theorem Opens.of_append_cut (hc : IsCut c) {name after : List Char}
    (h : Opens name after (cs ++ c :: ds)) : ∃ after', Opens name after' cs := by
  obtain ⟨hname, hword, heq⟩ := h
  -- the placeholder does not reach over the cut, as it does not hold that character
  have hmention : c ∉ '\x7b' :: '\x7b' :: (name ++ ['\x7d', '\x7d']) := by
    have hname : c ∉ name := fun hmem => by simpa [hc.word] using hword c hmem
    simp [hc.opening, hc.closing, hname]
  have happend : ('\x7b' :: '\x7b' :: (name ++ ['\x7d', '\x7d'])) ++ after = cs ++ c :: ds := by
    simp [heq]
  rcases List.append_eq_append_iff.1 happend with ⟨after', rfl, -⟩ | ⟨rest, hrest, hcut⟩
  · exact ⟨after', hname, hword, by simp⟩
  · cases rest with
    | nil => exact ⟨[], hname, hword, by simpa using hrest.symm⟩
    | cons d rest =>
      obtain rfl : c = d := (List.cons.inj hcut).1
      exact absurd (hrest ▸ List.mem_append_right cs List.mem_cons_self) hmention

/-- A template is filled in on both sides of a cut by itself. -/
theorem filled_append_cut (hc : IsCut c) (cs ds : List Char) :
    filled vars (cs ++ c :: ds) = filled vars cs ++ c :: filled vars ds := by
  fun_induction pieces cs with
  | case1 cs name after h ih =>
    have hopens := placeholder?_eq_some_iff.1 h
    obtain ⟨hname, hword, rfl⟩ := hopens
    have hlonger : Opens name (after ++ c :: ds)
        ('\x7b' :: '\x7b' :: (name ++ '\x7d' :: '\x7d' :: after) ++ c :: ds) := ⟨hname, hword, by simp⟩
    rw [filled_opens hlonger, filled_opens ⟨hname, hword, rfl⟩, ih, List.append_assoc]
  | case2 => rw [List.nil_append, filled_nil, List.nil_append, filled_cons hc.opening]
  | case3 b cs h ih =>
    have hcopied : placeholder? (b :: cs ++ c :: ds) = none := by
      rw [placeholder?_eq_none_iff] at h ⊢
      rintro ⟨name, after, hopens⟩
      exact h ⟨name, hopens.of_append_cut hc⟩
    rw [List.cons_append] at hcopied ⊢
    rw [filled_copied hcopied, filled_copied h, ih, List.cons_append]

/-! ## Texts that are filled in alike -/

/-- Two texts that are filled in to the same, in front of whatever follows. -/
def FilledAlike (vars : Variables) (cs ds : List Char) : Prop :=
  ∀ after, filled vars (cs ++ after) = filled vars (ds ++ after)

namespace FilledAlike
variable {cs' ds' : List Char}

theorem refl (vars : Variables) (cs : List Char) : FilledAlike vars cs cs := fun _ => rfl

theorem filled_eq (h : FilledAlike vars cs ds) : filled vars cs = filled vars ds := by
  simpa using h []

theorem cons (hc : c ≠ '\x7b') (h : FilledAlike vars cs ds) :
    FilledAlike vars (c :: cs) (c :: ds) := fun after => by
  rw [List.cons_append, List.cons_append, filled_cons hc, filled_cons hc, h]

theorem append_right (h : FilledAlike vars cs ds) : FilledAlike vars (cs ++ cs') (ds ++ cs') :=
  fun after => by rw [List.append_assoc, List.append_assoc, h]

/-- Texts that are filled in alike, in front of a cut and behind it. -/
theorem append_cut (hc : IsCut c) (h : FilledAlike vars cs ds) (h' : FilledAlike vars cs' ds') :
    FilledAlike vars (cs ++ c :: cs') (ds ++ c :: ds') := fun after => by
  rw [List.append_assoc, List.append_assoc, h, List.cons_append, List.cons_append,
    filled_append_cut hc, filled_append_cut hc, h']

/-- A brace opens no placeholder in front of a cut. -/
theorem cons_brace (hc : IsCut c) (h : FilledAlike vars (c :: cs) (c :: ds)) :
    FilledAlike vars ('\x7b' :: c :: cs) ('\x7b' :: c :: ds) := fun after => by
  have hbehind (es : List Char) : filled vars ('\x7b' :: c :: es) =
      filled vars ['\x7b'] ++ filled vars (c :: es) := by
    rw [filled_cons hc.opening]
    exact filled_append_cut hc ['\x7b'] es
  rw [List.cons_append, List.cons_append, List.cons_append, List.cons_append, hbehind, hbehind]
  exact congrArg _ (h after)

end FilledAlike
end ChatAutomation.Template
