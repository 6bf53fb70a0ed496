import ChatAutomation.Proofs.Pattern.Ways

/-!
# How patterns are laid out

The groups of a pattern are numbered from left to right, and a reference knows the width of the group
that it refers to. The ways of such a pattern are as long as its width says, and every group has matched
as much as its own width says.
-/
namespace ChatAutomation.Pattern

/-- A letter holds the set of its symbol. -/
def Letter.IsMade (l : Letter) : Prop := ∃ ignoreCase ascii, l = .ofSymbol ignoreCase ascii l.symbol

/-- The groups in the pattern are those from `a + 1` to `b`, and `widths` says how wide groups are. -/
def Re.Laid (widths : Nat → Option Width) : Re → (a b : Nat) → Prop
  | .empty, a, b | .never, a, b | .anchor _, a, b => a = b
  | .letter l, a, b => a = b ∧ l.IsMade
  | .cat r s, a, b | .alt r s, a, b => ∃ c, r.Laid widths a c ∧ s.Laid widths c b
  | .choice n yes no, a, b => 1 ≤ n ∧ ∃ c, yes.Laid widths a c ∧ no.Laid widths c b
  | .group n r, a, b => n = a + 1 ∧ r.Laid widths (a + 1) b ∧ widths n = some r.width
  | .plain r, a, b | .atomic r, a, b | .ahead _ r, a, b | .behind _ _ r, a, b => r.Laid widths a b
  | .loop _ least most r, a, b => (∀ n, most = some n → least ≤ n) ∧ r.Laid widths a b
  | .backref n w _, a, b => a = b ∧ 1 ≤ n ∧ widths n = some w

theorem Re.Laid.le {widths : Nat → Option Width} {r : Re} {a b : Nat} (h : r.Laid widths a b) :
    a ≤ b := by
  induction r generalizing a b with
  | empty | never | anchor => exact Nat.le_of_eq h
  | letter | backref => exact Nat.le_of_eq h.1
  | cat r s ihr ihs | alt r s ihr ihs =>
    obtain ⟨c, hr, hs⟩ := h
    exact Nat.le_trans (ihr hr) (ihs hs)
  | choice n yes no ihyes ihno =>
    obtain ⟨-, c, hyes, hno⟩ := h
    exact Nat.le_trans (ihyes hyes) (ihno hno)
  | group n r ih => exact Nat.le_trans (Nat.le_succ a) (ih h.2.1)
  | plain r ih | atomic r ih | ahead _ r ih | behind _ _ r ih => exact ih h
  | loop _ _ _ r ih => exact ih h.2

/-- Widths of more groups may be known. -/
theorem Re.Laid.mono {widths widths' : Nat → Option Width}
    (hwidths : ∀ n w, widths n = some w → widths' n = some w) {r : Re} {a b : Nat}
    (h : r.Laid widths a b) : r.Laid widths' a b := by
  induction r generalizing a b with
  | empty | never | anchor | letter => exact h
  | backref => exact ⟨h.1, h.2.1, hwidths _ _ h.2.2⟩
  | cat r s ihr ihs | alt r s ihr ihs =>
    obtain ⟨c, hr, hs⟩ := h
    exact ⟨c, ihr hr, ihs hs⟩
  | choice n yes no ihyes ihno =>
    obtain ⟨hn, c, hyes, hno⟩ := h
    exact ⟨hn, c, ihyes hyes, ihno hno⟩
  | group n r ih => exact ⟨h.1, ih h.2.1, hwidths _ _ h.2.2⟩
  | plain r ih | atomic r ih | ahead _ r ih | behind _ _ r ih => exact ih h
  | loop _ _ _ r ih => exact ⟨h.1, ih h.2⟩

/-! ## The length of a way -/

/-- Groups end behind where they begin, and have matched as much as their width says. -/
def Captures.Fit (widths : Nat → Option Width) (v : Captures) : Prop :=
  ∀ n first last, v n = some (first, last) →
    first ≤ last ∧ ∀ w, widths n = some w → first + w.least ≤ last

theorem Captures.fit_none (widths : Nat → Option Width) : Captures.none.Fit widths := by
  intro n first last h
  cases h

theorem Captures.Fit.capture {widths : Nat → Option Width} {v : Captures} (h : v.Fit widths)
    {n first last : Nat} {w : Width} (hn : widths n = some w) (hlast : first + w.least ≤ last) :
    (v.capture n first last).Fit widths := by
  intro k first' last' hk
  by_cases hkn : k = n
  · subst hkn
    rw [capture_self] at hk
    cases hk
    refine ⟨by omega, fun w' hw' => ?_⟩
    rw [hn] at hw'
    cases hw'
    exact hlast
  · rw [capture_of_ne hkn] at hk
    exact h k first' last' hk

/-- What holds of a way that leads from one place to another through a part of some width. -/
structure Spans (widths : Nat → Option Width) (t : Array Char) (least pos : Nat) (w : Way) : Prop where
  far : pos + least ≤ w.1
  inside : w.1 ≤ t.size
  fit : w.2.Fit widths

namespace Spans

variable {widths : Nat → Option Width} {t : Array Char} {pos least : Nat} {v : Captures} {u w : Way}

theorem stay (hpos : pos ≤ t.size) (hv : v.Fit widths) : Spans widths t 0 pos (pos, v) :=
  ⟨Nat.le_refl _, hpos, hv⟩

theorem trans {least' : Nat} (h : Spans widths t least pos u) (h' : Spans widths t least' u.1 w) :
    Spans widths t (least + least') pos w :=
  ⟨by have := h.far; have := h'.far; omega, h'.inside, h'.fit⟩

theorem of_le {least' : Nat} (h : Spans widths t least pos w) (hle : least' ≤ least) :
    Spans widths t least' pos w :=
  ⟨by have := h.far; omega, h.inside, h.fit⟩

theorem passing (hpos : pos ≤ t.size) (hv : v.Fit widths) {negated : Bool} {ways : List Way}
    (hways : ∀ w ∈ ways, w.2.Fit widths) (hw : w ∈ passing negated pos v ways) :
    Spans widths t 0 pos w := by
  unfold Pattern.passing at hw
  split at hw
  · rename_i w' ws
    rw [List.mem_singleton.1 hw]
    exact .stay hpos (hways w' List.mem_cons_self)
  · rw [List.mem_singleton.1 hw]
    exact .stay hpos hv
  · cases hw

end Spans

theorem mem_rounds_of_lt {isLazy : Bool} {body : Nat → Captures → List Way} {least : Nat}
    {most : Option Nat} {fuel count : Nat} {last : Option Nat} {pos : Nat} {v : Captures} {w : Way}
    (hcount : count < least) (hw : w ∈ rounds isLazy body least most (fuel + 1) count last pos v) :
    ∃ u ∈ body pos v, w ∈ rounds isLazy body least most fuel (count + 1) last u.1 u.2 := by
  rw [rounds, if_pos hcount] at hw
  exact List.mem_flatMap.1 hw

/-- Where enough rounds have been made, a way stops there or begins with one more round. -/
theorem mem_rounds_of_le {isLazy : Bool} {body : Nat → Captures → List Way} {least : Nat}
    {most : Option Nat} {fuel count : Nat} {last : Option Nat} {pos : Nat} {v : Captures} {w : Way}
    (hcount : least ≤ count) (hw : w ∈ rounds isLazy body least most (fuel + 1) count last pos v) :
    w = (pos, v) ∨
      ∃ u ∈ body pos v, w ∈ rounds isLazy body least most fuel (count + 1) (some pos) u.1 u.2 := by
  rw [rounds, if_neg (Nat.not_lt.2 hcount)] at hw
  generalize hmore : (if (mayRepeat most count && last != some pos) = true then _ else _) = more at hw
  have hround : w ∈ more →
      ∃ u ∈ body pos v, w ∈ rounds isLazy body least most fuel (count + 1) (some pos) u.1 u.2 := by
    rintro hw
    subst hmore
    split at hw
    · exact List.mem_flatMap.1 hw
    · cases hw
  cases isLazy with
  | true => exact (List.mem_cons.1 hw).imp_right hround
  | false => exact (List.mem_append.1 hw).symm.imp List.mem_singleton.1 hround

/-- Rounds of a body are as long as those that have to be. -/
theorem Spans.rounds {widths : Nat → Option Width} {t : Array Char} {width : Nat}
    {body : Nat → Captures → List Way}
    (hbody : ∀ pos v, pos ≤ t.size → v.Fit widths → ∀ w ∈ body pos v, Spans widths t width pos w)
    {isLazy : Bool} {least : Nat} {most : Option Nat} {fuel count : Nat} {last : Option Nat} {pos : Nat}
    {v : Captures} (hpos : pos ≤ t.size) (hv : v.Fit widths) {w : Way}
    (hw : w ∈ rounds isLazy body least most fuel count last pos v) :
    Spans widths t (width * (least - count)) pos w := by
  induction fuel generalizing count last pos v w with
  | zero => cases hw
  | succ fuel ih =>
    rcases Nat.lt_or_ge count least with hcount | hcount
    · obtain ⟨u, hu, hw⟩ := mem_rounds_of_lt hcount hw
      have hround := hbody pos v hpos hv u hu
      have hsplit : width * (least - count) = width + width * (least - (count + 1)) := by
        rw [show least - count = (least - (count + 1)) + 1 by omega, Nat.mul_add, Nat.mul_one,
          Nat.add_comm]
      rw [hsplit]
      exact hround.trans (ih hround.inside hround.fit hw)
    · rw [Nat.sub_eq_zero_of_le hcount, Nat.mul_zero]
      obtain rfl | ⟨u, hu, hw⟩ := mem_rounds_of_le hcount hw
      · exact .stay hpos hv
      · have hround := hbody pos v hpos hv u hu
        exact (hround.trans (ih hround.inside hround.fit hw)).of_le (Nat.zero_le _)

theorem Letter.lt_of_fitsAt {l : Letter} {t : Array Char} {i : Nat} (h : l.fitsAt t i = true) :
    i < t.size := by
  unfold fitsAt at h
  split at h
  · rename_i c hc
    exact (Array.getElem?_eq_some_iff.1 hc).1
  · cases h

theorem add_le_of_repeats {t : Array Char} {folding : Folding} {first i n : Nat}
    (h : repeats t folding first i n = true) (hi : i ≤ t.size) : i + n ≤ t.size := by
  induction n generalizing first i with
  | zero => exact hi
  | succ n ih =>
    unfold repeats at h
    split at h
    · rename_i _ _ _ hb
      have hlt := (Array.getElem?_eq_some_iff.1 hb).1
      have := ih (Bool.and_eq_true_iff.1 h).2 hlt
      omega
    · cases h

namespace Re

theorem width_alt_of_ne {b : Re} (h : b ≠ never) (a : Re) :
    (alt a b).width = a.width.either b.width := by
  cases b with
  | never => exact absurd rfl h
  | _ => rfl

theorem width_alt_le (a b : Re) :
    (alt a b).width.least ≤ a.width.least ∧ (b ≠ never → (alt a b).width.least ≤ b.width.least) := by
  by_cases h : b = never
  · subst h
    exact ⟨Nat.le_refl _, fun h => absurd rfl h⟩
  · rw [width_alt_of_ne h]
    exact ⟨Nat.min_le_left .., fun _ => Nat.min_le_right ..⟩

section spans
variable {widths : Nat → Option Width} {t : Array Char} {pos : Nat} {v : Captures} {w : Way}

theorem spans_letter {l : Letter} (hv : v.Fit widths) (hw : w ∈ (letter l).ways t pos v) :
    Spans widths t 1 pos w := by
  rw [ways] at hw
  split at hw
  · rename_i hfits
    obtain rfl := List.mem_singleton.1 hw
    exact ⟨Nat.le_refl _, Letter.lt_of_fitsAt hfits, hv⟩
  · cases hw

theorem spans_anchor {k : Anchor} (hpos : pos ≤ t.size) (hv : v.Fit widths)
    (hw : w ∈ (anchor k).ways t pos v) : Spans widths t 0 pos w := by
  rw [ways] at hw
  split at hw
  · obtain rfl := List.mem_singleton.1 hw
    exact .stay hpos hv
  · cases hw

/-- What a group matched is as long as its width says, and so is what repeats it. -/
theorem spans_backref {n : Nat} {width : Width} {folding : Folding} (hn : widths n = some width)
    (hpos : pos ≤ t.size) (hv : v.Fit widths) (hw : w ∈ (backref n width folding).ways t pos v) :
    Spans widths t width.least pos w := by
  rw [ways] at hw
  split at hw
  · rename_i first last hspan
    split at hw
    · rename_i hrepeats
      obtain rfl := List.mem_singleton.1 hw
      have := (hv n first last hspan).2 width hn
      exact ⟨show pos + width.least ≤ pos + (last - first) by omega, add_le_of_repeats hrepeats hpos, hv⟩
    · cases hw
  · cases hw

theorem spans_loop {greed : Greed} {least : Nat} {most : Option Nat} {r : Re}
    (hbody : ∀ pos v, pos ≤ t.size → v.Fit widths → ∀ w ∈ r.ways t pos v,
      Spans widths t r.width.least pos w)
    (hpos : pos ≤ t.size) (hv : v.Fit widths) (hw : w ∈ (loop greed least most r).ways t pos v) :
    Spans widths t (loop greed least most r).width.least pos w := by
  have hall : w ∈ rounds (greed == .lazy) (r.ways t) least most (roundLimit t least) 0 none pos v := by
    rw [ways] at hw
    split at hw
    · exact List.mem_of_mem_head? (Option.mem_toList.1 hw)
    · exact hw
  exact (Spans.rounds hbody hpos hv hall).of_le (Nat.min_le_left ..)

end spans

/-- Every way of a pattern is as long as the pattern is wide. -/
theorem spans_ways {widths : Nat → Option Width} {r : Re} {a b : Nat} (h : r.Laid widths a b)
    {t : Array Char} {pos : Nat} (hpos : pos ≤ t.size) {v : Captures} (hv : v.Fit widths) {w : Way}
    (hw : w ∈ r.ways t pos v) : Spans widths t r.width.least pos w := by
  induction r generalizing a b pos v w with
  | empty =>
    obtain rfl := List.mem_singleton.1 hw
    exact .stay hpos hv
  | never => cases hw
  | cat r s ihr ihs =>
    obtain ⟨c, hr, hs⟩ := h
    obtain ⟨u, hu, hw⟩ := List.mem_flatMap.1 hw
    have hfirst := ihr hr hpos hv hu
    exact (hfirst.trans (ihs hs hfirst.inside hfirst.fit hw)).of_le (Nat.min_le_left ..)
  | alt r s ihr ihs =>
    obtain ⟨c, hr, hs⟩ := h
    obtain ⟨hler, hles⟩ := width_alt_le r s
    rcases List.mem_append.1 hw with hw | hw
    · exact (ihr hr hpos hv hw).of_le hler
    · refine (ihs hs hpos hv hw).of_le (hles ?_)
      rintro rfl
      cases hw
  | letter l => exact spans_letter hv hw
  | anchor k => exact spans_anchor hpos hv hw
  | group n r ih =>
    obtain ⟨hn, hr, hwidth⟩ := h
    obtain ⟨u, hu, rfl⟩ := List.mem_map.1 hw
    have hspans := ih hr hpos hv hu
    exact ⟨hspans.far, hspans.inside, hspans.fit.capture hwidth hspans.far⟩
  | plain r ih => exact ih h hpos hv hw
  | backref n width folding => exact spans_backref h.2.2 hpos hv hw
  | choice n yes no ihyes ihno =>
    obtain ⟨-, c, hyes, hno⟩ := h
    rw [ways] at hw
    split at hw
    · exact (ihyes hyes hpos hv hw).of_le (Nat.min_le_left ..)
    · exact (ihno hno hpos hv hw).of_le (Nat.min_le_right ..)
  | ahead negated r ih =>
    exact .passing hpos hv (fun w hw => (ih h hpos hv hw).fit) hw
  | behind negated width r ih =>
    refine .passing hpos hv (fun w hw => ?_) hw
    split at hw
    · cases hw
    · exact (ih h (by omega) hv hw).fit
  | atomic r ih =>
    exact ih h hpos hv (List.mem_of_mem_head? (Option.mem_toList.1 hw))
  | loop greed least most r ih =>
    exact spans_loop (fun pos v hpos hv w hw => ih h.2 hpos hv hw) hpos hv hw

end Re
end ChatAutomation.Pattern
