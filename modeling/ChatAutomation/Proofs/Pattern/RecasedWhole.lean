import ChatAutomation.Proofs.Pattern.RecasedGroups
import ChatAutomation.Proofs.Pattern.Twins

/-!
# A whole pattern and its lower case form

The functions that read a pattern call one another, each with less fuel. `ReadsAlike` says of all of them that
they read twins from a pattern and from its lower case form; `readsAlike` proves it by one step for each
function.
-/
namespace ChatAutomation.Pattern

open Text

/-- Groups have been added; those that were there before are as they were. -/
structure Source.Grows (s s₁ : Source) : Prop where
  size_le : s.groups.size ≤ s₁.groups.size
  kept : ∀ i < s.groups.size, s₁.groups[i]? = s.groups[i]?

namespace Source.Grows

theorem of_groups {s s₁ : Source} (h : s₁.groups = s.groups) : s.Grows s₁ :=
  ⟨by rw [h], fun i _ => by rw [h]⟩

theorem trans {s s₁ s₂ : Source} (h : s.Grows s₁) (h' : s₁.Grows s₂) : s.Grows s₂ :=
  ⟨h.size_le.trans h'.size_le, fun i hi => (h'.kept i (by have := h.size_le; omega)).trans (h.kept i hi)⟩

/-- Widths that are known stay known. -/
theorem widths {s s₁ : Source} (h : s.Grows s₁) (n : Nat) (w : Width) (hn : s.widths n = some w) :
    s₁.widths n = some w := by
  have hlt : n - 1 < s.groups.size := by
    by_contra hge
    rw [Source.widths, Array.getElem?_eq_none (by omega)] at hn
    cases hn
  rw [Source.widths, h.kept _ hlt]
  exact hn

end Source.Grows

theorem Beside.widths {s s₁ s₁' : Source} (h : Beside s s₁ s₁') : s₁.widths = s.widths := by
  unfold Source.widths
  rw [h.groups]

namespace Parse

open Re (Twins Kin)

/-- Where two readings of a sequence end that began where `s₀` was left to read. At the top of a pattern the
flags are those found so far, which `keeps` may say have not changed since `s`. -/
structure SeqEnd (keeps : Prop) (top : Bool) (flags : Flags) (s₀ s : Source) (rs : List Re) (s₁ : Source)
    (rs' : List Re) (s₁' : Source) : Prop where
  recased : s₁.Recased s₁'
  grows : s₀.Grows s₁
  flags_eq : keeps → s₁.flags = s.flags
  twins : Twins (if top then s₁.flags else flags) s₁.widths s₀.groups.size s₁.groups.size rs rs'

/-- Where two readings of one part end. -/
def PartEnd (flags : Flags) (s : Source) (r : Re) (s₁ : Source) (r' : Re) (s₁' : Source) : Prop :=
  SeqEnd True false flags s s [r] s₁ [r'] s₁'

/-- Where two readings of alternatives end. -/
structure ArmsEnd (flags : Flags) (s : Source) (arms : List (List Re)) (s₁ : Source)
    (arms' : List (List Re)) (s₁' : Source) : Prop where
  recased : s₁.Recased s₁'
  grows : s.Grows s₁
  flags_eq : s₁.flags = s.flags
  kin : List.Forall₂ (Kin flags) arms arms'
  laid : (Re.choices arms).Laid s₁.widths s.groups.size s₁.groups.size
  laid' : (Re.choices arms').Laid s₁.widths s.groups.size s₁.groups.size

/-- Where two readings of what an opening parenthesis begins end. Only at the start may flags of the whole
have been set. -/
inductive PieceEnd (atStart : Bool) (flags : Flags) (s : Source) :
    Option Piece → Source → Option Piece → Source → Prop
  | piece {p p' : Piece} {s₁ s₁' : Source}
      (h : SeqEnd True false flags s s p.items s₁ p'.items s₁') :
      PieceEnd atStart flags s (some p) s₁ (some p') s₁'
  | nothing {s₁ s₁' : Source} (recased : s₁.Recased s₁') (groups : s₁.groups = s.groups)
      (flags_eq : atStart = true ∨ s₁.flags = s.flags) : PieceEnd atStart flags s none s₁ none s₁'

/-- Pieces that were read side by side, the last one first. -/
inductive Pieces (flags : Flags) (widths : Nat → Option Width) (a : Nat) :
    Nat → List Piece → List Piece → Prop
  | nil : Pieces flags widths a a [] []
  | cons {b c : Nat} {p p' : Piece} {ps ps' : List Piece} (hps : Pieces flags widths a c ps ps')
      (hp : Twins flags widths c b p.items p'.items) : Pieces flags widths a b (p :: ps) (p' :: ps')

namespace Pieces

variable {flags : Flags} {widths : Nat → Option Width} {a b : Nat} {ps ps' : List Piece}

theorem mono {widths' : Nat → Option Width} (hwidths : ∀ n w, widths n = some w → widths' n = some w)
    (h : Pieces flags widths a b ps ps') : Pieces flags widths' a b ps ps' := by
  induction h with
  | nil => exact .nil
  | cons _ hp ih => exact .cons ih (hp.mono hwidths)

theorem isEmpty_eq (h : Pieces flags widths a b ps ps') : ps'.isEmpty = ps.isEmpty := by
  cases h <;> rfl

/-- Without pieces it does not matter under which flags they were read. -/
theorem of_nil {flags' : Flags} {widths' : Nat → Option Width} (h : Pieces flags widths a b [] ps') :
    Pieces flags' widths' a b [] ps' := by
  cases h
  exact .nil

theorem twins (h : Pieces flags widths a b ps ps') :
    Twins flags widths a b (ps.reverse.flatMap Piece.items) (ps'.reverse.flatMap Piece.items) := by
  induction h with
  | nil => exact .nil
  | cons _ hp ih =>
    simp only [List.reverse_cons, List.flatMap_append, List.flatMap_singleton]
    exact ih.append hp

end Pieces

/-- The functions that read a pattern read twins from a pattern and from its lower case form. -/
structure ReadsAlike (fuel : Nat) : Prop where
  alternatives : ∀ (top : Bool) (flags : Flags) (s s' : Source), s.Recased s' →
    (top = true → flags = s.flags) → Twin (SeqEnd (top = false) top flags s s)
      (alternatives fuel top flags) (alternatives fuel top flags) s s'
  furtherArms : ∀ (top : Bool) (flags : Flags) (s s' : Source), s.Recased s' →
    (top = true → flags = s.flags) → Twin (ArmsEnd flags s)
      (furtherArms fuel top flags) (furtherArms fuel top flags) s s'
  items : ∀ (top first : Bool) (flags : Flags) (done done' : List Piece) (s₀ s s' : Source),
    s.Recased s' → s₀.Grows s → (top = true → flags = s.flags) →
    Pieces flags s.widths s₀.groups.size s.groups.size done done' →
    Twin (SeqEnd (first = false ∨ done ≠ []) top flags s₀ s)
      (items fuel top first flags done) (items fuel top first flags done') s s'
  parenthesis : ∀ (start : Nat) (atStart : Bool) (flags : Flags) (s s' : Source), s.Recased s' →
    Twin (PieceEnd atStart flags s) (parenthesis fuel start atStart flags)
      (parenthesis fuel start atStart flags) s s'
  inner : ∀ (start : Nat) (flags : Flags) (s s' : Source), s.Recased s' →
    Twin (SeqEnd True false flags s s) (inner fuel start flags) (inner fuel start flags) s s'
  capture : ∀ (start : Nat) (flags : Flags) (s s' : Source), s.Recased s' →
    Twin (PartEnd flags s) (capture fuel start flags) (capture fuel start flags) s s'
  lookbehind : ∀ (start : Nat) (negated : Bool) (flags : Flags) (s s' : Source), s.Recased s' →
    Twin (PartEnd flags s) (lookbehind fuel start negated flags)
      (lookbehind fuel start negated flags) s s'
  condition : ∀ (start : Nat) (flags : Flags) (s s' : Source), s.Recased s' →
    Twin (PartEnd flags s) (condition fuel start flags) (condition fuel start flags) s s'

namespace SeqEnd

variable {keeps : Prop} {top : Bool} {flags : Flags} {s₀ s s₁ s₁' : Source} {rs rs' : List Re}

/-- A step before that left groups and flags alone, and one behind. -/
theorem of_beside {s' : Source} (hs : Beside s₀ s s') (h : SeqEnd keeps top flags s s rs s₁ rs' s₁') :
    SeqEnd keeps top flags s₀ s₀ rs s₁ rs' s₁' :=
  ⟨h.recased, (Source.Grows.of_groups hs.groups).trans h.grows,
    fun hkeeps => (h.flags_eq hkeeps).trans hs.flags, by rw [← hs.groups]; exact h.twins⟩

theorem beside {s₂ s₂' : Source} (h : SeqEnd keeps top flags s₀ s rs s₁ rs' s₁')
    (hs : Beside s₁ s₂ s₂') : SeqEnd keeps top flags s₀ s rs s₂ rs' s₂' :=
  ⟨hs.recased, h.grows.trans (.of_groups hs.groups), fun hkeeps => hs.flags.trans (h.flags_eq hkeeps),
    by rw [hs.widths, hs.groups, hs.flags]; exact h.twins⟩

theorem always (h : SeqEnd keeps top flags s₀ s rs s₁ rs' s₁') (hkeeps : keeps) :
    SeqEnd True top flags s₀ s rs s₁ rs' s₁' :=
  ⟨h.recased, h.grows, fun _ => h.flags_eq hkeeps, h.twins⟩

/-- What was read is made a part of. -/
theorem part {r r' : Re} (h : SeqEnd True false flags s s rs s₁ rs' s₁')
    (hpart : Twins flags s₁.widths s.groups.size s₁.groups.size rs rs' →
      Twins flags s₁.widths s.groups.size s₁.groups.size [r] [r']) : PartEnd flags s r s₁ r' s₁' :=
  ⟨h.recased, h.grows, h.flags_eq, hpart h.twins⟩

end SeqEnd

/-- A group is closed: its width becomes known, and nothing else changes. -/
theorem closed_end {flags : Flags} {s s₁ s₁' : Source} {rs rs' : List Re}
    (h : SeqEnd True false flags { s with groups := s.groups.push none }
      { s with groups := s.groups.push none } rs s₁ rs' s₁') :
    PartEnd flags s (.group (s.groups.size + 1) (.sequence rs))
      { s₁ with groups := s₁.groups.setIfInBounds s.groups.size (some (Re.sequence rs).width) }
      (.group (s.groups.size + 1) (.sequence rs'))
      { s₁' with groups := s₁'.groups.setIfInBounds s.groups.size (some (Re.sequence rs').width) } := by
  obtain ⟨hrecased, ⟨hsize, hkept⟩, hflags, htwins⟩ := h
  simp only [Array.size_push] at hsize hkept htwins
  have hopen : s₁.groups[s.groups.size]? = some none := by
    rw [hkept _ (Nat.lt_succ_self _), Array.getElem?_push_size]
  refine ⟨?_, ⟨?_, fun i hi => ?_⟩, fun _ => hflags trivial, ?_⟩
  · obtain ⟨htokens, hpos, hdangling, hflags, hglobals, hgroups, hlookbehind, hwanted⟩ := hrecased
    exact ⟨htokens, hpos, hdangling, hflags, hglobals, by rw [hgroups, htwins.width_eq], hlookbehind,
      hwanted⟩
  · simp only [Array.size_setIfInBounds]
    omega
  · have hne : s.groups.size ≠ i := by omega
    simp only [Array.getElem?_setIfInBounds, if_neg hne]
    rw [hkept i (by omega), Array.getElem?_push_lt hi, Array.getElem?_eq_getElem hi]
  · simp only [Array.size_setIfInBounds]
    refine .group (htwins.mono fun n w hn => ?_) ?_
    · have hne : s.groups.size ≠ n - 1 := by
        intro heq
        rw [Source.widths, ← heq, hopen] at hn
        cases hn
      simp only [Source.widths, Array.getElem?_setIfInBounds, if_neg hne]
      exact hn
    · simp only [Source.widths, Nat.add_sub_cancel, Array.getElem?_setIfInBounds, if_true]
      rw [if_pos (by omega)]
      rfl

/-- A group is made of what was read under flags of its own. -/
theorem plain_end {flags flags' : Flags} {s s₁ s₁' : Source} {rs rs' : List Re}
    (h : SeqEnd True false flags' s s rs s₁ rs' s₁') :
    PartEnd flags s (.plain (.sequence rs)) s₁ (.plain (.sequence rs')) s₁' :=
  ⟨h.recased, h.grows, h.flags_eq, h.twins.plain⟩

/-- The last piece is repeated on both sides. -/
theorem repeatLast_twin {flags : Flags} {widths : Nat → Option Width} {a b : Nat} {done done' : List Piece}
    (hdone : Pieces flags widths a b done done') {s s' : Source} (hs : s.Recased s') (place : Nat)
    {least : Nat} {most : Option Nat} (hmost : ∀ n, most = some n → least ≤ n) :
    Twin (fun ps s₁ ps' s₁' => (Pieces flags widths a b ps ps' ∧ ps ≠ []) ∧ Beside s s₁ s₁')
      (repeatLast place least most done) (repeatLast place least most done') s s' := by
  cases hdone with
  | nil => exact .throw_left _
  | @cons _ c p p' ps ps' hps hp =>
    unfold repeatLast
    by_cases hanchor : p.isAnchor = true
    · simp only [if_pos hanchor]
      exact .throw_bind_left _ _
    by_cases hanchor' : p'.isAnchor = true
    · simp only [if_pos hanchor']
      exact .throw_bind_right _ _
    by_cases hloop : p.isLoop = true
    · simp only [if_neg hanchor, if_pos hloop]
      exact .throw_bind_left _ _
    by_cases hloop' : p'.isLoop = true
    · simp only [if_neg hanchor', if_pos hloop']
      exact .throw_bind_right _ _
    simp only [if_neg hanchor, if_neg hanchor', if_neg hloop, if_neg hloop']
    refine greed_quiet.andThen hs fun g s₁ _ s₁' hg hs₁ => .pure ⟨⟨?_, by simp⟩, hs₁⟩
    subst hg
    exact .cons hps (hp.loop g hmost)

/-- A sign of repetition is no letter. -/
theorem repeatSign_lowers {c d : Char} (h : Lowers c d) : repeatSign d = repeatSign c := by
  have hsign {x : Char} (hx : repeatSign x ≠ none) : isMark x = true := by
    unfold repeatSign at hx
    split at hx
    · decide
    · decide
    · decide
    · exact absurd rfl hx
  by_cases hc : repeatSign c = none
  · by_cases hd : repeatSign d = none
    · rw [hc, hd]
    · have hmark := hsign hd
      rw [h.isMark_eq] at hmark
      rw [h.eq_of_isMark hmark]
  · rw [h.eq_of_isMark (hsign hc)]

theorem le_of_repeatSign {c : Char} {least n : Nat} {most : Option Nat}
    (h : repeatSign c = some (least, most)) (hn : most = some n) : least ≤ n := by
  unfold repeatSign at h
  split at h <;> simp_all
  omega

/-! ## What a parenthesis begins -/

section parenthesis
variable {fuel start : Nat} (ih : ReadsAlike fuel) {atStart : Bool} {flags : Flags} {s s₂ s₂' : Source}
include ih

/-- What stands in a group is read first, and then made a piece of. -/
theorem inner_piece {flags' : Flags} {p : List Re → Piece} (hs₂ : Beside s s₂ s₂')
    (hpart : ∀ rs rs' s₃ s₃', SeqEnd True false flags' s s rs s₃ rs' s₃' →
      SeqEnd True false flags s s (p rs).items s₃ (p rs').items s₃') :
    Twin (PieceEnd atStart flags s) (do return some (p (← inner fuel start flags')))
      (do return some (p (← inner fuel start flags'))) s₂ s₂' :=
  (ih.inner start flags' s₂ s₂' hs₂.recased).bind fun rs s₃ rs' s₃' hrs =>
    .pure (.piece (hpart rs rs' s₃ s₃' (.of_beside hs₂ hrs)))

theorem lookbehind_piece {negated : Bool} (hs₂ : Beside s s₂ s₂') :
    Twin (PieceEnd atStart flags s) (do return some (.item (← lookbehind fuel start negated flags)))
      (do return some (.item (← lookbehind fuel start negated flags))) s₂ s₂' :=
  (ih.lookbehind start negated flags s₂ s₂' hs₂.recased).bind fun _ _ _ _ hr =>
    .pure (.piece (.of_beside hs₂ hr))

/-- Flags that are set in front of all else, or for one group only. -/
theorem flagged_piece (hs₂ : Beside s s₂ s₂') (c : Char) :
    Twin (PieceEnd atStart flags s)
      (do
        match ← groupFlags c with
        | none =>
          unless atStart do throw (.malformed .lateFlags (some start))
          return none
        | some (on, off) =>
          return some (.item (.plain (.sequence (← inner fuel start (flags.change on off))))))
      (do
        match ← groupFlags c with
        | none =>
          unless atStart do throw (.malformed .lateFlags (some start))
          return none
        | some (on, off) =>
          return some (.item (.plain (.sequence (← inner fuel start (flags.change on off)))))) s₂ s₂' := by
  refine (groupFlags_twin hs₂.recased c).bind fun x s₃ y s₃' hflags => ?_
  obtain ⟨rfl, hrecased, hgroups, hflags⟩ := hflags
  cases y with
  | none =>
    exact .ite Iff.rfl
      (fun hstart => .pure (.nothing hrecased (hgroups.trans hs₂.groups) (.inl hstart)))
      fun _ => .throw_bind_left _ _
  | some p =>
    have hs₃ : Beside s s₃ s₃' :=
      ⟨hrecased, hgroups.trans hs₂.groups, (hflags rfl).trans hs₂.flags⟩
    exact inner_piece ih hs₃ (p := fun rs => .item (.plain (.sequence rs))) fun _ _ _ _ => plain_end

end parenthesis

/-! ## One step for each function -/

section step
variable {fuel : Nat} (ih : ReadsAlike fuel) {s s' : Source} (hs : s.Recased s')
include ih hs

theorem alternatives_step {top : Bool} {flags : Flags} (htop : top = true → flags = s.flags) :
    Twin (SeqEnd (top = false) top flags s s) (alternatives (fuel + 1) top flags)
      (alternatives (fuel + 1) top flags) s s' := by
  unfold alternatives
  refine (ih.items top top flags [] [] s s s' hs (.of_groups rfl) htop .nil).bind
    fun arm s₁ arm' s₁' harm => .get_bind ?_
  rw [harm.recased.flags]
  refine (ih.furtherArms top _ s₁ s₁' harm.recased fun h => if_pos h).bind
    fun arms s₂ arms' s₂' harms => .pure ?_
  have hflags : (if top then s₂.flags else flags) = if top then s₁.flags else flags := by
    rw [harms.flags_eq]
  have harm₂ := harm.twins.mono harms.grows.widths
  refine ⟨harms.recased, harm.grows.trans harms.grows, fun h => ?_, ?_⟩
  · exact harms.flags_eq.trans (harm.flags_eq (.inl h))
  · rw [hflags]
    exact .joinArms (.cons harm₂.toKin harms.kin) (by simp) ⟨_, harm₂.laid, harms.laid⟩
      ⟨_, harm₂.laid', harms.laid'⟩

theorem furtherArms_step {top : Bool} {flags : Flags} (htop : top = true → flags = s.flags) :
    Twin (ArmsEnd flags s) (furtherArms (fuel + 1) top flags) (furtherArms (fuel + 1) top flags) s s' := by
  unfold furtherArms
  refine (accept_quiet (by decide)).andThen hs fun more s₁ _ s₁' hmore hs₁ => ?_
  subst hmore
  have hflags : top = true → flags = s₁.flags := fun h => (htop h).trans hs₁.flags.symm
  refine .ite Iff.rfl (fun _ => ?_) fun _ => .pure ?_
  · refine (ih.items top false flags [] [] s₁ s₁ s₁' hs₁.recased (.of_groups rfl) hflags .nil).bind
      fun arm s₂ arm' s₂' harm => ?_
    have hflags₂ : s₂.flags = s₁.flags := harm.flags_eq (.inl rfl)
    refine (ih.furtherArms top flags s₂ s₂' harm.recased fun h => (hflags h).trans hflags₂.symm).bind
      fun arms s₃ arms' s₃' harms => .pure ?_
    have hsame : (if top then s₂.flags else flags) = flags := by
      rw [hflags₂]
      split
      · rename_i h
        exact (hflags h).symm
      · rfl
    have harm₃ := harm.twins.mono harms.grows.widths
    rw [hsame, hs₁.groups] at harm₃
    exact ⟨harms.recased, ((Source.Grows.of_groups hs₁.groups).trans harm.grows).trans harms.grows,
      (harms.flags_eq.trans hflags₂).trans hs₁.flags, .cons harm₃.toKin harms.kin,
      ⟨_, harm₃.laid, harms.laid⟩, ⟨_, harm₃.laid', harms.laid'⟩⟩
  · refine ⟨hs₁.recased, .of_groups hs₁.groups, hs₁.flags, .nil, ?_, ?_⟩ <;>
      exact congrArg Array.size hs₁.groups.symm

theorem inner_step {start : Nat} {flags : Flags} : Twin (SeqEnd True false flags s s)
    (inner (fuel + 1) start flags) (inner (fuel + 1) start flags) s s' := by
  unfold inner
  refine (ih.alternatives false flags s s' hs (fun h => by cases h)).bind fun rs s₁ rs' s₁' hrs => ?_
  exact (close_quiet start).andThen hrs.recased fun _ s₂ _ s₂' _ hs₂ =>
    .pure ((hrs.always rfl).beside hs₂)

theorem capture_step {start : Nat} {flags : Flags} : Twin (PartEnd flags s)
    (capture (fuel + 1) start flags) (capture (fuel + 1) start flags) s s' := by
  unfold capture
  simp only [groupCount, bind_assoc, pure_bind]
  refine .get_bind ?_
  rw [hs.groups, Nat.add_sub_cancel]
  refine .modify_bind ?_
  have hpush : Source.Recased { s with groups := s.groups.push none }
      { s' with groups := s'.groups.push none } :=
    ⟨hs.tokens, hs.pos, hs.dangling, hs.flags, hs.globals, by rw [hs.groups], hs.lookbehind, hs.wanted⟩
  refine (ih.inner start flags _ _ hpush).bind fun rs s₂ rs' s₂' hrs => .modify_bind (.pure ?_)
  exact closed_end hrs

theorem lookbehind_step {start : Nat} {negated : Bool} {flags : Flags} : Twin (PartEnd flags s)
    (lookbehind (fuel + 1) start negated flags) (lookbehind (fuel + 1) start negated flags) s s' := by
  unfold lookbehind
  refine .get_bind ?_
  rw [hs.lookbehind]
  refine groupCount_quiet.andThen hs fun n s₁ _ s₁' hn hs₁ => ?_
  subst hn
  refine Quiet.whenThen (.modify fun s s' hs => ?_) hs₁.recased fun s₂ s₂' hs₂ => ?_
  · obtain ⟨htokens, hpos, hdangling, hflags, hglobals, hgroups, -, hwanted⟩ := hs
    exact ⟨⟨htokens, hpos, hdangling, hflags, hglobals, hgroups, rfl, hwanted⟩, rfl, rfl⟩
  have hs₂ := hs₁.trans hs₂
  refine (ih.alternatives false flags s₂ s₂' hs₂.recased (fun h => by cases h)).bind
    fun rs s₃ rs' s₃' hrs => ?_
  refine Quiet.whenThen (.modify fun s s' hs => ?_) hrs.recased fun s₄ s₄' hs₄ => ?_
  · obtain ⟨htokens, hpos, hdangling, hflags, hglobals, hgroups, -, hwanted⟩ := hs
    exact ⟨⟨htokens, hpos, hdangling, hflags, hglobals, hgroups, rfl, hwanted⟩, rfl, rfl⟩
  refine (close_quiet start).andThen hs₄.recased fun _ s₅ _ s₅' _ hs₅ => ?_
  have hend : SeqEnd True false flags s s rs s₅ rs' s₅' :=
    .of_beside hs₂ ((hrs.always rfl).beside (hs₄.trans hs₅))
  rw [hend.twins.isEmpty_eq]
  refine .ite Iff.rfl (fun hnever => .pure (hend.part (·.never ?_))) fun _ =>
    .pure (hend.part (·.behind negated))
  exact (Bool.and_eq_true_iff.1 hnever).2

theorem condition_step {start : Nat} {flags : Flags} : Twin (PartEnd flags s)
    (condition (fuel + 1) start flags) (condition (fuel + 1) start flags) s s' := by
  unfold condition
  refine conditionGroup_quiet.andThen hs fun n s₁ n' s₁' hn hs₁ => ?_
  obtain ⟨rfl, hn⟩ := hn
  refine (ih.items false false flags [] [] s₁ s₁ s₁' hs₁.recased (.of_groups rfl) (fun h => by cases h) .nil).bind
    fun yes s₂ yes' s₂' hyes => ?_
  refine (accept_quiet (by decide)).andThen hyes.recased fun more s₃ _ s₃' hmore hs₃ => ?_
  subst hmore
  have hyes₃ := SeqEnd.of_beside hs₁ ((hyes.always (.inl rfl)).beside hs₃)
  have hend (no no' : List Re) (s₄ s₄' : Source) (hno : SeqEnd True false flags s₃ s₃ no s₄ no' s₄') :
      Twin (PartEnd flags s)
        (do close start; pure (Re.choice n' (.sequence yes) (.sequence no)))
        (do close start; pure (Re.choice n' (.sequence yes') (.sequence no'))) s₄ s₄' := by
    refine (close_quiet start).andThen hno.recased fun _ s₅ _ s₅' _ hs₅ => .pure ?_
    have hno := hno.beside hs₅
    exact ⟨hno.recased, hyes₃.grows.trans hno.grows,
      fun _ => (hno.flags_eq trivial).trans (hyes₃.flags_eq trivial),
      .choice hn (hyes₃.twins.mono hno.grows.widths) hno.twins⟩
  refine .ite Iff.rfl (fun _ => ?_) fun _ =>
    hend [] [] s₃ s₃' ⟨hs₃.recased, .of_groups rfl, fun _ => rfl, .nil⟩
  refine (ih.items false false flags [] [] s₃ s₃ s₃' hs₃.recased (.of_groups rfl) (fun h => by cases h)
    .nil).bind fun no s₄ no' s₄' hno => ?_
  refine peek_quiet.andThen hno.recased fun t? s₅ t?' s₅' ht hs₅ => ?_
  have hno := (hno.always (.inl rfl)).beside hs₅
  cases ht with
  | none => exact hend no no' s₅ s₅' hno
  | some ht =>
    exact .ite (by rw [ht.isChar_eq (by decide)]) (fun _ => .fail_bind_left _ _ _)
      fun _ => hend no no' s₅ s₅' hno

theorem parenthesis_step {start : Nat} {atStart : Bool} {flags : Flags} : Twin (PieceEnd atStart flags s)
    (parenthesis (fuel + 1) start atStart flags) (parenthesis (fuel + 1) start atStart flags) s s' := by
  unfold parenthesis
  refine (accept_quiet (by decide)).andThen hs fun more s₁ _ s₁' hmore hs₁ => ?_
  subst hmore
  refine .ite Iff.rfl (fun _ => ?_) fun _ => ?_
  swap
  · exact (ih.capture start flags s₁ s₁' hs₁.recased).bind fun r s₂ r' s₂' hr =>
      .pure (.piece (.of_beside hs₁ hr))
  refine next_quiet.andThen hs₁.recased fun t? s₂ t?' s₂' ht hs₂ => ?_
  have hs₂ := hs₁.trans hs₂
  cases ht with
  | none => exact .fail_left _ _
  | @some t t' ht =>
    have hchar {c : Char} (hc : isMark c = true) : t'.isChar c = true ↔ t.isChar c = true := by
      rw [ht.isChar_eq hc]
    refine .ite (hchar (by decide)) (fun _ => inner_piece ih hs₂ fun _ _ _ _ h => h) fun _ => ?_
    refine .ite (hchar (by decide))
      (fun _ => inner_piece ih hs₂ fun _ _ _ _ h => h.part (·.atomic)) fun _ => ?_
    refine .ite (hchar (by decide)) (fun _ => .get_bind ?_) fun _ => ?_
    · rw [← hs₂.recased.tokens.length_eq]
      exact (comment_quiet start _).andThen hs₂.recased fun _ s₃ _ s₃' _ hs₃ =>
        .pure (.nothing hs₃.recased (hs₂.trans hs₃).groups (.inr (hs₂.trans hs₃).flags))
    refine .ite (hchar (by decide))
      (fun _ => inner_piece ih hs₂ fun _ _ _ _ h => h.part (·.ahead false)) fun _ => ?_
    refine .ite (hchar (by decide)) (fun _ => inner_piece ih hs₂ fun rs rs' _ _ h => ?_) fun _ => ?_
    · rw [h.twins.isEmpty_eq]
      split
      · rename_i hempty
        exact h.part (·.never hempty)
      · exact h.part (·.ahead true)
    refine .ite (hchar (by decide)) (fun _ => ?_) fun _ => ?_
    · refine next_quiet.andThen hs₂.recased fun u? s₃ u?' s₃' hu hs₃ => ?_
      have hs₃ := hs₂.trans hs₃
      cases hu with
      | none => exact .fail_left _ _
      | some hu =>
        exact .ite (by rw [hu.isChar_eq (by decide)]) (fun _ => lookbehind_piece ih hs₃) fun _ =>
          .ite (by rw [hu.isChar_eq (by decide)]) (fun _ => lookbehind_piece ih hs₃) fun _ =>
            .fail_left _ _
    refine .ite (hchar (by decide)) (fun _ => ?_) fun _ => ?_
    · exact (ih.condition start flags s₂ s₂' hs₂.recased).bind fun r s₃ r' s₃' hr =>
        .pure (.piece (.of_beside hs₂ hr))
    obtain ⟨h, h', hsame⟩ | h | h := isAmong_flagLetters ht (.inr rfl)
    · simp only [if_pos h, if_pos h', hsame]
      exact flagged_piece ih hs₂ t.char
    · rw [if_neg h]
      exact .fail_left _ _
    · rw [if_neg h]
      exact .fail_right _ _

end step

/-! ## Pieces -/

section pieces
variable {fuel : Nat} (ih : ReadsAlike fuel) {top first : Bool} {flags : Flags} {done done' : List Piece}
  {s₀ s s₁ s₁' : Source} (hgrows : s₀.Grows s) (htop : top = true → flags = s.flags)
  (hdone : Pieces flags s.widths s₀.groups.size s.groups.size done done')
include hgrows htop

include ih in
/-- Reading goes on behind pieces that take the place of those so far. -/
theorem items_instead (hs₁ : Beside s s₁ s₁') {ps ps' : List Piece}
    (hps : Pieces flags s.widths s₀.groups.size s.groups.size ps ps') (hne : done ≠ [] → ps ≠ []) :
    Twin (SeqEnd (first = false ∨ done ≠ []) top flags s₀ s)
      (items fuel top first flags ps) (items fuel top first flags ps') s₁ s₁' := by
  refine (ih.items top first flags ps ps' s₀ s₁ s₁' hs₁.recased
    (hgrows.trans (.of_groups hs₁.groups)) (fun h => (htop h).trans hs₁.flags.symm) ?_).mono
    fun _ _ _ _ h => ⟨h.recased, h.grows, fun hkeeps => ?_, h.twins⟩
  · rw [hs₁.widths, hs₁.groups]
    exact hps
  · exact (h.flags_eq (hkeeps.imp_right hne)).trans hs₁.flags

include hdone

/-- The pieces so far are all there is. -/
theorem items_end (hs₁ : Beside s s₁ s₁') : Twin (SeqEnd (first = false ∨ done ≠ []) top flags s₀ s)
    (pure (done.reverse.flatMap Piece.items)) (pure (done'.reverse.flatMap Piece.items)) s₁ s₁' := by
  refine .pure ⟨hs₁.recased, hgrows.trans (.of_groups hs₁.groups), fun _ => hs₁.flags, ?_⟩
  have hflags : (if top then s₁.flags else flags) = flags := by
    split
    · rename_i h
      exact hs₁.flags.trans (htop h).symm
    · rfl
  rw [hflags, hs₁.widths, hs₁.groups]
  exact hdone.twins

include ih

/-- One more piece has been read. -/
theorem items_cons {p p' : Piece} (hp : SeqEnd True false flags s s p.items s₁ p'.items s₁') :
    Twin (SeqEnd (first = false ∨ done ≠ []) top flags s₀ s)
      (items fuel top first flags (p :: done)) (items fuel top first flags (p' :: done')) s₁ s₁' :=
  (ih.items top first flags _ _ s₀ s₁ s₁' hp.recased (hgrows.trans hp.grows)
    (fun h => (htop h).trans (hp.flags_eq trivial).symm)
    (.cons (hdone.mono hp.grows.widths) hp.twins)).mono fun _ _ _ _ h =>
      ⟨h.recased, h.grows, fun _ => (h.flags_eq (.inr (by simp))).trans (hp.flags_eq trivial), h.twins⟩

theorem items_leaf {r r' : Re} (hr : LeafEnd flags s r s₁ r' s₁') :
    Twin (SeqEnd (first = false ∨ done ≠ []) top flags s₀ s)
      (items fuel top first flags (.item r :: done)) (items fuel top first flags (.item r' :: done'))
      s₁ s₁' := by
  refine items_cons ih hgrows htop hdone ⟨hr.2.recased, .of_groups hr.2.groups, fun _ => hr.2.flags, ?_⟩
  rw [hr.2.widths, hr.2.groups]
  exact .leaf hr.1

theorem items_repeat (hs₁ : Beside s s₁ s₁') (place : Nat) {least : Nat} {most : Option Nat}
    (hmost : ∀ n, most = some n → least ≤ n) :
    Twin (SeqEnd (first = false ∨ done ≠ []) top flags s₀ s)
      (do items fuel top first flags (← repeatLast place least most done))
      (do items fuel top first flags (← repeatLast place least most done')) s₁ s₁' :=
  (repeatLast_twin hdone hs₁.recased place hmost).bind fun _ _ _ _ ⟨⟨hps, hne⟩, hs₂⟩ =>
    items_instead ih hgrows htop (hs₁.trans hs₂) hps fun _ => hne

/-- What a parenthesis begins is one more piece, or a comment, or sets flags of the whole pattern. -/
theorem items_parenthesis (hs₁ : Beside s s₁ s₁') (place : Nat) :
    Twin (SeqEnd (first = false ∨ done ≠ []) top flags s₀ s)
      (do
        match ← parenthesis fuel place (first && done.isEmpty) flags with
        | some p => items fuel top first flags (p :: done)
        | none =>
          let found := (← get).flags
          items fuel top first (if top then found else flags) done)
      (do
        match ← parenthesis fuel place (first && done'.isEmpty) flags with
        | some p => items fuel top first flags (p :: done')
        | none =>
          let found := (← get).flags
          items fuel top first (if top then found else flags) done') s₁ s₁' := by
  rw [hdone.isEmpty_eq]
  refine (ih.parenthesis _ (first && done.isEmpty) flags s₁ s₁' hs₁.recased).bind
    fun p? s₂ p?' s₂' hp => ?_
  cases hp with
  | piece hp => exact items_cons ih hgrows htop hdone (.of_beside hs₁ hp)
  | nothing hrecased hgroups hflags =>
    refine .get_bind ?_
    rw [hrecased.flags]
    have hgroups := hgroups.trans hs₁.groups
    obtain hstart | hflags := hflags
    · -- Flags of the whole pattern, in front of all else.
      rw [Bool.and_eq_true, List.isEmpty_iff] at hstart
      obtain ⟨rfl, rfl⟩ := hstart
      refine (ih.items top true _ _ _ s₀ s₂ s₂' hrecased (hgrows.trans (.of_groups hgroups))
        (fun h => if_pos h) ?_).mono fun rs s₃ rs' s₃' h => ⟨h.recased, h.grows, by simp, ?_⟩
      · rw [hgroups]
        exact hdone.of_nil
      · have htwins := h.twins
        cases top <;> exact htwins
    · have hflags := hflags.trans hs₁.flags
      have hfound : (if top then s₂.flags else flags) = flags := by
        split
        · rename_i h
          exact hflags.trans (htop h).symm
        · rfl
      simp only [hfound]
      exact items_instead ih hgrows htop ⟨hrecased, hgroups, hflags⟩ hdone id

theorem items_step {s' : Source} (hs : s.Recased s') :
    Twin (SeqEnd (first = false ∨ done ≠ []) top flags s₀ s)
      (items (fuel + 1) top first flags done) (items (fuel + 1) top first flags done') s s' := by
  unfold items
  refine peek_quiet.andThen hs fun t? s₁ t?' s₁' ht hs₁ => ?_
  cases ht with
  | none => exact items_end hgrows htop hdone hs₁
  | @some t t' ht =>
    refine .ite (by rw [ht.isAmong_eq (by decide)]) (fun _ => items_end hgrows htop hdone hs₁)
      fun _ => .get_bind ?_
    rw [hs₁.recased.pos]
    refine next_quiet.andThen hs₁.recased fun _ s₂ _ s₂' _ hs₂ => ?_
    have hs₂ := hs₁.trans hs₂
    refine .ite (by rw [ht.isAmong_eq (by decide)]) (fun _ => items_instead ih hgrows htop hs₂ hdone id)
      fun _ => ?_
    refine .ite (by rw [ht.isChar_eq (by decide)]) (fun _ => .get_bind ?_) fun _ => ?_
    · rw [← hs₂.recased.tokens.length_eq]
      exact (lineComment_quiet _).andThen hs₂.recased fun _ _ _ _ _ hs₃ =>
        items_instead ih hgrows htop (hs₂.trans hs₃) hdone id
    refine .ite (by rw [ht.escaped_eq]) (fun hescaped => ?_) fun hplain => ?_
    · exact (escape_twin hs₂.recased flags ht hescaped).bind fun r _ r' _ hr =>
        items_leaf ih hgrows htop hdone ⟨hs₂.widths ▸ hr.1, hs₂.trans hr.2⟩
    have hlowers := ht.lowers (Bool.eq_false_iff.2 hplain)
    have hchar {c : Char} (hc : isMark c = true) : t'.char = c ↔ t.char = c := hlowers.eq_mark_iff hc
    refine .ite (hchar (by decide))
      (fun _ => (set_twin hs₂ flags).bind fun _ _ _ _ => items_leaf ih hgrows htop hdone) fun _ => ?_
    refine .ite (hchar (by decide))
      (fun _ => items_leaf ih hgrows htop hdone ⟨.letter (.self flags _), hs₂⟩) fun _ => ?_
    refine .ite (hchar (by decide))
      (fun _ => items_leaf ih hgrows htop hdone ⟨.anchor _, hs₂⟩) fun _ => ?_
    refine .ite (hchar (by decide))
      (fun _ => items_leaf ih hgrows htop hdone ⟨.anchor _, hs₂⟩) fun _ => ?_
    refine .ite (hchar (by decide)) (fun hbrace => ?_) fun _ => ?_
    · refine bounds_quiet.andThen hs₂.recased fun b s₃ b' s₃' hb hs₃ => ?_
      obtain ⟨rfl, hb⟩ := hb
      have hs₃ := hs₂.trans hs₃
      cases b' with
      | none =>
        rw [hbrace, (hchar (by decide)).2 hbrace]
        exact items_leaf ih hgrows htop hdone (oneOf_end (.inl rfl) hs₃)
      | some b => exact items_repeat ih hgrows htop hdone hs₃ _ fun n hn => hb b.1 n (by rw [← hn])
    refine .ite (hchar (by decide)) (fun _ => items_parenthesis ih hgrows htop hdone hs₂ _) fun _ => ?_
    rw [repeatSign_lowers hlowers]
    cases hsign : repeatSign t.char with
    | none => exact items_leaf ih hgrows htop hdone (oneOf_end (.of_lowers hlowers) hs₂)
    | some b => exact items_repeat ih hgrows htop hdone hs₂ _ fun n hn => le_of_repeatSign hsign hn

end pieces

/-- All of them do, as long as there is fuel. -/
theorem readsAlike (fuel : Nat) : ReadsAlike fuel := by
  induction fuel with
  | zero =>
    constructor <;> intros
    all_goals
      simp only [alternatives, furtherArms, items, parenthesis, inner, capture, lookbehind, condition]
      exact .fail_left _ _
  | succ fuel ih =>
    exact ⟨fun _ _ _ _ hs htop => alternatives_step ih hs htop,
      fun _ _ _ _ hs htop => furtherArms_step ih hs htop,
      fun _ _ _ _ _ _ _ _ hs hgrows htop hdone => items_step ih hgrows htop hdone hs,
      fun _ _ _ _ _ hs => parenthesis_step ih hs, fun _ _ _ _ hs => inner_step ih hs,
      fun _ _ _ _ hs => capture_step ih hs, fun _ _ _ _ _ hs => lookbehind_step ih hs,
      fun _ _ _ _ hs => condition_step ih hs⟩

end Parse
end ChatAutomation.Pattern
