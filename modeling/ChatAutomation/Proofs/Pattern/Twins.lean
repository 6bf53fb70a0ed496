import ChatAutomation.Proofs.Pattern.RecasedParts

/-!
# Patterns that were read side by side

What is read from a pattern and from its lower case form is not the same: alternatives that differ in the
case of a letter are joined in one of them only. `Re.Twins` is what the two have in common. They are laid
out alike, equally wide, and they mean the same in a text in lower case, provided that the letters of the
pattern are steady and ranges in its lower case form end in lower case.
-/
namespace ChatAutomation.Pattern

open Text

/-- Every character of the text is in lower case. -/
def InLower (t : Array Char) : Prop := ∀ c ∈ t, simpleLower c = c

/-- A letter was read under some flags. -/
def Letter.IsMadeUnder (flags : Flags) (l : Letter) : Prop :=
  l = .ofSymbol flags.ignoreCase flags.ascii l.symbol

namespace Re

/-- The letters that do not stand in a group with flags of its own were read under some flags. -/
def IsMadeUnder (flags : Flags) : Re → Prop := Each (·.IsMadeUnder flags) fun _ => True

/-- The letters are steady, under some flags if they do not stand in a group with flags of its own. -/
def IsSteadyUnder (flags : Flags) : Re → Prop :=
  Each (fun l => l.symbol.IsSteady flags.ignoreCase flags.ascii) Letter.IsSteady

def IsLow : Re → Prop := Each Letter.IsLow Letter.IsLow

theorem isSteadyUnder_of_letters {flags : Flags} {r : Re} (hmade : r.IsMadeUnder flags)
    (h : ∀ l ∈ r.letters, l.IsSteady) : r.IsSteadyUnder flags :=
  Each.of_letters hmade h fun _ hmade hsteady => hsteady _ _ hmade

theorem each_self {P : Letter → Prop} {r : Re} : r.Each P P ↔ ∀ l ∈ r.letters, P l := by
  induction r with
  | empty | never | anchor | backref => simp [Each, letters]
  | letter l => simp [Each, letters]
  | cat a b iha ihb | alt a b iha ihb | choice _ a b iha ihb =>
    simp only [Each, letters, iha, ihb, List.mem_append, or_imp, forall_and]
  | plain r ih => exact Iff.rfl
  | group _ r ih | atomic r ih | ahead _ r ih | behind _ _ r ih | loop _ _ _ r ih => exact ih

/-- What two sequences have in common that were read side by side under some flags. -/
structure Kin (flags : Flags) (rs rs' : List Re) : Prop where
  made : ∀ r ∈ rs, r.IsMadeUnder flags
  made' : ∀ r ∈ rs', r.IsMadeUnder flags
  width_eq : (sequence rs).width = (sequence rs').width
  isEmpty_eq : rs'.isEmpty = rs.isEmpty
  alike : (∀ r ∈ rs, r.IsSteadyUnder flags) → (∀ r ∈ rs', r.IsLow) → ∀ t, InLower t →
    (sequence rs).Alike t (sequence rs')

/-- Such sequences with the groups from `a + 1` to `b`. -/
structure Twins (flags : Flags) (widths : Nat → Option Width) (a b : Nat) (rs rs' : List Re) : Prop
    extends Kin flags rs rs' where
  laid : (sequence rs).Laid widths a b
  laid' : (sequence rs').Laid widths a b

namespace Twins

variable {flags flags' : Flags} {widths widths' : Nat → Option Width} {a b c : Nat}
  {rs rs' ss ss' : List Re}

theorem mono (h : Twins flags widths a b rs rs')
    (hwidths : ∀ n w, widths n = some w → widths' n = some w) : Twins flags widths' a b rs rs' :=
  ⟨h.toKin, h.laid.mono hwidths, h.laid'.mono hwidths⟩

theorem nil : Twins flags widths a a [] [] :=
  ⟨⟨by simp, by simp, rfl, rfl, fun _ _ _ _ => .refl _⟩, rfl, rfl⟩

theorem append (h : Twins flags widths a c rs rs') (h' : Twins flags widths c b ss ss') :
    Twins flags widths a b (rs ++ ss) (rs' ++ ss') where
  made := List.forall_mem_append.2 ⟨h.made, h'.made⟩
  made' := List.forall_mem_append.2 ⟨h.made', h'.made'⟩
  width_eq := width_sequence_append h.width_eq h'.width_eq
  isEmpty_eq := by
    have hrs := h.isEmpty_eq
    have hss := h'.isEmpty_eq
    cases rs <;> cases rs' <;> simp_all
  alike hsteady hlow t ht := by
    rw [List.forall_mem_append] at hsteady hlow
    exact alike_sequence_append (h.alike hsteady.1 hlow.1 t ht) (h'.alike hsteady.2 hlow.2 t ht)
  laid := laid_sequence_append.2 ⟨c, h.laid, h'.laid⟩
  laid' := laid_sequence_append.2 ⟨c, h.laid', h'.laid'⟩

/-- Two parts on their own. -/
theorem single {r r' : Re} (hmade : r.IsMadeUnder flags) (hmade' : r'.IsMadeUnder flags)
    (hwidth : r.width = r'.width)
    (halike : r.IsSteadyUnder flags → r'.IsLow → ∀ t, InLower t → r.Alike t r')
    (hlaid : r.Laid widths a b) (hlaid' : r'.Laid widths a b) : Twins flags widths a b [r] [r'] where
  made := by simpa using hmade
  made' := by simpa using hmade'
  width_eq := by rw [width_sequence_cons, width_sequence_cons, hwidth]
  isEmpty_eq := rfl
  alike hsteady hlow t ht := alike_sequence_singleton
    (halike (hsteady r List.mem_cons_self) (hlow r' List.mem_cons_self) t ht)
  laid := laid_sequence_singleton.2 hlaid
  laid' := laid_sequence_singleton.2 hlaid'

theorem leaf {r r' : Re} (h : r.LeafTwin flags widths r') : Twins flags widths a a [r] [r'] := by
  cases h with
  | letter h =>
    refine single h.made h.made' rfl (fun hsteady hlow t ht => ?_) ⟨rfl, _, _, h.made⟩ ⟨rfl, _, _, h.made'⟩
    exact .letter fun c hc => h.fits_eq hsteady hlow c (ht c hc)
  | anchor k => exact single trivial trivial rfl (fun _ _ _ _ => .refl _) rfl rfl
  | backref hn hw =>
    exact single trivial trivial rfl (fun _ _ _ _ => .refl _) ⟨rfl, hn, hw⟩ ⟨rfl, hn, hw⟩

/-! ### Parts of sequences -/

section wrap
variable (h : Twins flags widths a b rs rs')
include h

theorem atomic : Twins flags widths a b [.atomic (sequence rs)] [.atomic (sequence rs')] :=
  single (each_sequence.2 h.made) (each_sequence.2 h.made') h.width_eq
    (fun hsteady hlow t ht => (h.alike (each_sequence.1 hsteady) (each_sequence.1 hlow) t ht).atomic)
    h.laid h.laid'

theorem ahead (negated : Bool) :
    Twins flags widths a b [.ahead negated (sequence rs)] [.ahead negated (sequence rs')] :=
  single (each_sequence.2 h.made) (each_sequence.2 h.made') rfl
    (fun hsteady hlow t ht =>
      (h.alike (each_sequence.1 hsteady) (each_sequence.1 hlow) t ht).ahead negated)
    h.laid h.laid'

theorem behind (negated : Bool) :
    Twins flags widths a b [.behind negated (sequence rs).width (sequence rs)]
      [.behind negated (sequence rs').width (sequence rs')] := by
  rw [← h.width_eq]
  exact single (each_sequence.2 h.made) (each_sequence.2 h.made') rfl
    (fun hsteady hlow t ht =>
      (h.alike (each_sequence.1 hsteady) (each_sequence.1 hlow) t ht).behind negated _)
    h.laid h.laid'

theorem loop (greed : Greed) {least : Nat} {most : Option Nat} (hmost : ∀ n, most = some n → least ≤ n) :
    Twins flags widths a b [.loop greed least most (sequence rs)]
      [.loop greed least most (sequence rs')] :=
  single (each_sequence.2 h.made) (each_sequence.2 h.made') (by rw [width, width, h.width_eq])
    (fun hsteady hlow t ht =>
      (h.alike (each_sequence.1 hsteady) (each_sequence.1 hlow) t ht).loop greed least most)
    ⟨hmost, h.laid⟩ ⟨hmost, h.laid'⟩

/-- A group with flags of its own. -/
theorem plain : Twins flags' widths a b [.plain (sequence rs)] [.plain (sequence rs')] := by
  refine single (fun _ _ => trivial) (fun _ _ => trivial) h.width_eq (fun hsteady hlow t ht => ?_)
    h.laid h.laid'
  have hlow : (sequence rs').IsLow := each_self.2 hlow
  refine (h.alike (fun r hr => ?_) (each_sequence.1 hlow) t ht).plain
  exact each_sequence.1 (isSteadyUnder_of_letters (each_sequence.2 h.made) hsteady) r hr

/-- What no empty sequence may follow on fails everywhere. -/
theorem never (hempty : rs.isEmpty = true) : Twins flags widths a b [.never] [.never] := by
  obtain rfl := List.isEmpty_iff.1 hempty
  obtain rfl : a = b := h.laid
  exact single trivial trivial rfl (fun _ _ _ _ => .refl _) rfl rfl

end wrap

theorem group (h : Twins flags widths (a + 1) b rs rs') (hw : widths (a + 1) = some (sequence rs).width) :
    Twins flags widths a b [.group (a + 1) (sequence rs)] [.group (a + 1) (sequence rs')] :=
  single (each_sequence.2 h.made) (each_sequence.2 h.made') h.width_eq
    (fun hsteady hlow t ht =>
      (h.alike (each_sequence.1 hsteady) (each_sequence.1 hlow) t ht).group (a + 1))
    ⟨rfl, h.laid, hw⟩ ⟨rfl, h.laid', by rw [hw, h.width_eq]⟩

theorem choice {n : Nat} (hn : 1 ≤ n) (h : Twins flags widths a c rs rs')
    (h' : Twins flags widths c b ss ss') :
    Twins flags widths a b [.choice n (sequence rs) (sequence ss)]
      [.choice n (sequence rs') (sequence ss')] :=
  single ⟨each_sequence.2 h.made, each_sequence.2 h'.made⟩
    ⟨each_sequence.2 h.made', each_sequence.2 h'.made'⟩
    (by rw [width, width, h.width_eq, h'.width_eq])
    (fun hsteady hlow t ht =>
      (h.alike (each_sequence.1 hsteady.1) (each_sequence.1 hlow.1) t ht).choice n
        (h'.alike (each_sequence.1 hsteady.2) (each_sequence.1 hlow.2) t ht))
    ⟨hn, c, h.laid, h'.laid⟩ ⟨hn, c, h.laid', h'.laid'⟩

/-! ### Alternatives -/

theorem isSteady_of_joined {arms : List (List Re)} (hne : arms ≠ [])
    (h : ∀ r ∈ Parse.joinArms flags arms, r.IsSteadyUnder flags) :
    ∀ arm ∈ arms, ∀ r ∈ arm, r.IsSteadyUnder flags :=
  each_of_joinArms hne h fun _ _ hparts hjoined _ hl => (Letter.isSteady_of_joined hparts hjoined hl).1

theorem isLow_of_joined {arms : List (List Re)} (hne : arms ≠ [])
    (h : ∀ r ∈ Parse.joinArms flags arms, r.IsLow) : ∀ arm ∈ arms, ∀ r ∈ arm, r.IsLow :=
  each_of_joinArms hne h fun _ _ _ hjoined l hl i hi =>
    hjoined i (List.mem_eraseDups.2 (List.mem_flatMap.2 ⟨l, hl, hi⟩))

/-- Joining keeps the meaning of alternatives in lower case, if the single characters among the letters that
are joined are low. -/
theorem alike_joinArms_of_isLow {arms : List (List Re)} (hne : arms ≠ [])
    (hmade : ∀ arm ∈ arms, ∀ r ∈ arm, r.IsMadeUnder flags)
    (hlow : ∀ ls : List Letter, (∀ l ∈ ls, ∃ arm ∈ arms, letter l ∈ arm) →
      (∀ l ∈ ls, l.symbol.parts? = some l.symbol.items) →
      Parse.letter flags (.among false (ls.flatMap fun l => l.symbol.items).eraseDups) ∈
        Parse.joinArms flags arms →
      ∀ l ∈ ls, ∀ n, .one n ∈ l.symbol.items → (SetItem.one n).IsLow) {t : Array Char} (ht : InLower t) :
    (sequence (Parse.joinArms flags arms)).Alike t (choices arms) := by
  refine alike_joinArms hne fun ls hls hparts hjoined c hc => ?_
  refine Letter.fits_joined (ht c hc) (fun l hl => ?_) hparts (hlow ls hls hparts hjoined)
  obtain ⟨arm, harm, hmem⟩ := hls l hl
  exact hmade arm harm _ hmem

/-- Several alternatives are never joined to nothing. -/
theorem isEmpty_joinArms_cons (arm arm' : List Re) (arms : List (List Re)) :
    (Parse.joinArms flags (arm :: arm' :: arms)).isEmpty = false := by
  simp [Parse.joinArms, List.isEmpty_eq_false_iff]

section arms
variable {arms arms' : List (List Re)} (h : List.Forall₂ (Kin flags) arms arms')
include h

theorem forall_made : (∀ arm ∈ arms, ∀ r ∈ arm, r.IsMadeUnder flags) ∧
    ∀ arm ∈ arms', ∀ r ∈ arm, r.IsMadeUnder flags := by
  induction h with
  | nil => simp
  | cons harm _ ih =>
    exact ⟨List.forall_mem_cons.2 ⟨harm.made, ih.1⟩, List.forall_mem_cons.2 ⟨harm.made', ih.2⟩⟩

theorem alike_arms (hsteady : ∀ arm ∈ arms, ∀ r ∈ arm, r.IsSteadyUnder flags)
    (hlow : ∀ arm ∈ arms', ∀ r ∈ arm, r.IsLow) {t : Array Char} (ht : InLower t) :
    List.Forall₂ (fun arm arm' => (sequence arm).Alike t (sequence arm')) arms arms' := by
  induction h with
  | nil => exact .nil
  | cons harm _ ih =>
    rw [List.forall_mem_cons] at hsteady hlow
    exact .cons (harm.alike hsteady.1 hlow.1 t ht) (ih hsteady.2 hlow.2)

theorem isEmpty_joinArms_eq :
    (Parse.joinArms flags arms').isEmpty = (Parse.joinArms flags arms).isEmpty := by
  cases h with
  | nil => rfl
  | cons harm hrest =>
    cases hrest with
    | nil => exact harm.isEmpty_eq
    | cons => rw [isEmpty_joinArms_cons, isEmpty_joinArms_cons]

/-- Alternatives that were read side by side are joined to parts that were. -/
theorem joinArms (hne : arms ≠ []) (hlaid : (choices arms).Laid widths a b)
    (hlaid' : (choices arms').Laid widths a b) :
    Twins flags widths a b (Parse.joinArms flags arms) (Parse.joinArms flags arms') := by
  have hne' : arms' ≠ [] := by
    rintro rfl
    cases h
    exact hne rfl
  obtain ⟨hmade, hmade'⟩ := forall_made h
  have hwidth : (choices arms).width = (choices arms').width :=
    width_choices_congr (h.imp fun _ _ harm => harm.width_eq)
  refine ⟨⟨each_joinArms hne (fun _ => rfl) hmade, each_joinArms hne' (fun _ => rfl) hmade', ?_,
    isEmpty_joinArms_eq h, fun hsteady hlow t ht => ?_⟩, laid_joinArms flags hne hlaid,
    laid_joinArms flags hne' hlaid'⟩
  · rw [width_joinArms flags hne, width_joinArms flags hne', hwidth]
  · have hall' := isLow_of_joined hne' hlow
    have harms := alike_arms h (isSteady_of_joined hne hsteady) hall' ht
    refine .trans (alike_joinArms_of_isLow hne hmade (fun ls _ hparts hjoined l hl => ?_) ht)
      (.trans (alike_choices harms) (alike_joinArms_of_isLow hne' hmade'
        (fun ls hls _ _ l hl n hn => ?_) ht).symm)
    · exact (Letter.isSteady_of_joined hparts (hsteady _ hjoined) hl).2
    · obtain ⟨arm, harm, hmem⟩ := hls l hl
      exact hall' arm harm _ hmem _ hn

end arms

end Twins
end Re
end ChatAutomation.Pattern
