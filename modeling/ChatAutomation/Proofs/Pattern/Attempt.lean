import ChatAutomation.Proofs.Pattern.Layout

/-!
# What an attempt leaves in the memory

An attempt may fail with marks that it does not take back. They do no harm where only marks of groups
that are still to come were written: `Kept` says which marks an attempt leaves alone, `Shows` what a memory
says of the groups, and `Shows.restore` that the two are enough to go on after a failure. A group that is
still open is the exception, because its end may be left behind from an attempt that failed.
-/
namespace ChatAutomation.Pattern

/-- The groups that are open, and where they began. -/
abbrev Opened := Nat → Option Nat

namespace Memory

theorem size_clear (marks : Array (Option Nat)) (s n : Nat) :
    ((List.range' s n).foldl (fun ms i => ms.setIfInBounds i none) marks).size = marks.size := by
  induction n generalizing s marks with
  | zero => rfl
  | succ n ih => rw [List.range'_succ, List.foldl_cons, ih, Array.size_setIfInBounds]

theorem getElem?_clear (marks : Array (Option Nat)) (s n j : Nat) :
    ((List.range' s n).foldl (fun ms i => ms.setIfInBounds i none) marks)[j]? =
      if s ≤ j ∧ j < s + n ∧ j < marks.size then some none else marks[j]? := by
  induction n generalizing s marks with
  | zero =>
    rw [if_neg (by omega)]
    rfl
  | succ n ih =>
    rw [List.range'_succ, List.foldl_cons, ih, Array.getElem?_setIfInBounds, Array.size_setIfInBounds]
    grind

@[simp] theorem size_mark (m : Memory) (i pos : Nat) : (m.mark i pos).marks.size = m.marks.size := by
  simp only [mark, Array.size_setIfInBounds, size_clear]

@[simp] theorem known_mark (m : Memory) (i pos : Nat) : (m.mark i pos).known = max m.known (i + 1) := rfl

theorem getElem?_mark (m : Memory) (i pos j : Nat) : (m.mark i pos).marks[j]? =
    if j < m.marks.size ∧ j = i then some (some pos)
    else if j < m.marks.size ∧ m.known ≤ j ∧ j < i then some none
    else m.marks[j]? := by
  simp only [mark, Array.getElem?_setIfInBounds, size_clear, getElem?_clear]
  grind

/-- The mark that is noted, and those that it clears, are the only ones to change. -/
theorem getElem?_mark_of_known {m : Memory} (i pos : Nat) {j : Nat} (hj : j < m.known) (hne : j ≠ i) :
    (m.mark i pos).marks[j]? = m.marks[j]? := by
  rw [getElem?_mark, if_neg (fun h => hne h.2), if_neg (fun h => by omega)]

@[simp] theorem known_moveTo (m : Memory) (pos : Nat) : (m.moveTo pos).known = m.known := rfl

@[simp] theorem known_restore (m saved : Memory) (inLoop : Bool) :
    (m.restore saved inLoop).known = saved.known := rfl

theorem ends?_congr {m m' : Memory} {n : Nat} (hknown : 2 * n ≤ m.known ↔ 2 * n ≤ m'.known)
    (hfirst : 2 * n ≤ m.known → m'.marks[2 * n - 2]? = m.marks[2 * n - 2]?)
    (hlast : 2 * n ≤ m.known → m'.marks[2 * n - 1]? = m.marks[2 * n - 1]?) :
    m'.ends? n = m.ends? n := by
  unfold ends?
  by_cases h : 2 * n ≤ m.known
  · rw [if_pos h, if_pos (hknown.1 h), hfirst h, hlast h]
  · rw [if_neg h, if_neg (fun h' => h (hknown.2 h'))]

/-- Noting a mark of one group changes nothing about another one: those that come to count with it are
cleared. -/
theorem ends?_mark_of_ne {m : Memory} {i k pos : Nat} (hk : 1 ≤ k) (hfirst : i ≠ 2 * k - 2)
    (hlast : i ≠ 2 * k - 1) : (m.mark i pos).ends? k = m.ends? k := by
  by_cases hknown : 2 * k ≤ m.known
  · refine ends?_congr ⟨fun _ => by simp only [known_mark]; omega, fun _ => hknown⟩ (fun _ => ?_)
      (fun _ => ?_)
    · exact getElem?_mark_of_known _ _ (by omega) (Ne.symm hfirst)
    · exact getElem?_mark_of_known _ _ (by omega) (Ne.symm hlast)
  · rw [ends?, ends?, if_neg hknown]
    split
    · rename_i hmarked
      rw [known_mark] at hmarked
      have hcleared : ((m.mark i pos).marks[2 * k - 1]?).join = none := by
        rw [getElem?_mark, if_neg (fun h => hlast h.2.symm)]
        by_cases hsize : 2 * k - 1 < m.marks.size
        · rw [if_pos ⟨hsize, by omega, by omega⟩]
          rfl
        · rw [if_neg (fun h => hsize h.1), Array.getElem?_eq_none (by omega)]
          rfl
      rw [hcleared]
      split <;> simp_all
    · rfl

end Memory

/-- A memory with room for `groups` groups says what they have matched, those aside that are open. -/
structure Shows (groups : Nat) (o : Opened) (v : Captures) (m : Memory) : Prop where
  room : m.marks.size = 2 * groups
  shut : ∀ n, 1 ≤ n → o n = none → m.ends? n = v n
  begun : ∀ n first, o n = some first →
    1 ≤ n ∧ 2 * n - 2 < m.known ∧ m.marks[2 * n - 2]? = some (some first)

/-- The marks that counted in `m`, below those of the group `bound + 1`, are in `x` as they were, but for
the ends of open groups. -/
structure Kept (o : Opened) (bound : Nat) (m x : Memory) : Prop where
  room : x.marks.size = m.marks.size
  same : ∀ i, i < m.known → i < 2 * bound → (∀ n, o n ≠ none → i ≠ 2 * n - 1) →
    x.marks[i]? = m.marks[i]?

namespace Kept

theorem refl (o : Opened) (bound : Nat) (m : Memory) : Kept o bound m m := ⟨rfl, fun _ _ _ _ => rfl⟩

theorem trans {o : Opened} {bound : Nat} {m x y : Memory} (h : Kept o bound m x)
    (hknown : m.known ≤ x.known) (h' : Kept o bound x y) : Kept o bound m y :=
  ⟨h'.room.trans h.room, fun i hi hbound hopen =>
    (h'.same i (by omega) hbound hopen).trans (h.same i hi hbound hopen)⟩

theorem mono {o : Opened} {bound bound' : Nat} {m x : Memory} (h : Kept o bound m x)
    (hle : bound' ≤ bound) : Kept o bound' m x :=
  ⟨h.room, fun i hi hbound hopen => h.same i hi (by omega) hopen⟩

theorem moveTo {o : Opened} {bound : Nat} {m x : Memory} (h : Kept o bound m x) (pos : Nat) :
    Kept o bound m (x.moveTo pos) := ⟨h.room, h.same⟩

theorem of_moveTo {o : Opened} {bound pos : Nat} {m x : Memory} (h : Kept o bound (m.moveTo pos) x) :
    Kept o bound m x := ⟨h.room, h.same⟩

theorem of_prior_moveTo {o : Opened} {bound : Nat} {m x : Memory} (h : Kept o bound m x) (pos : Nat) :
    Kept o bound (m.moveTo pos) x := ⟨h.room, h.same⟩

/-- What is kept from where a group is opened on is kept from before, below that group. -/
theorem of_enter {o : Opened} {bound bound' n first pos : Nat} {m x : Memory}
    (h : Kept (Function.update o n (some first)) bound' (m.mark (2 * n - 2) pos) x)
    (hle : bound ≤ bound') (hn : bound < n) : Kept o bound m x := by
  refine ⟨h.room.trans (Memory.size_mark ..), fun i hi hbound hopen => ?_⟩
  rw [← Memory.getElem?_mark_of_known (2 * n - 2) pos hi (by omega)]
  refine h.same i (by simp only [Memory.known_mark]; omega) (by omega) fun k hk => ?_
  by_cases hkn : k = n
  · omega
  · exact hopen k (by rwa [Function.update_of_ne hkn] at hk)

/-- What is kept from where a group is shut on is kept from before, but for its own end. -/
theorem of_leave {o : Opened} {bound n first last : Nat} {m x : Memory}
    (h : Kept o bound (m.mark (2 * n - 1) last) x) (hn : o n = none) :
    Kept (Function.update o n (some first)) bound m x := by
  refine ⟨h.room.trans (Memory.size_mark ..), fun i hi hbound hopen => ?_⟩
  have hne : i ≠ 2 * n - 1 := hopen n (by simp)
  rw [← Memory.getElem?_mark_of_known (2 * n - 1) last hi hne]
  refine h.same i (by simp only [Memory.known_mark]; omega) hbound fun k hk => ?_
  have hkn : k ≠ n := by
    rintro rfl
    exact hk hn
  exact hopen k (by rwa [Function.update_of_ne hkn])

theorem restore {o : Opened} {bound : Nat} {m x : Memory} (h : Kept o bound m x) (inLoop : Bool) :
    Kept o bound m (x.restore m inLoop) := by
  cases inLoop with
  | false => exact ⟨h.room, h.same⟩
  | true => exact ⟨rfl, fun _ _ _ _ => rfl⟩

end Kept

namespace Shows

variable {groups : Nat} {o : Opened} {v : Captures} {m x : Memory}

theorem one_le (h : Shows groups o v m) {n : Nat} (hn : o n ≠ none) : 1 ≤ n := by
  obtain ⟨first, hfirst⟩ := Option.ne_none_iff_exists'.1 hn
  exact (h.begun n first hfirst).1

theorem moveTo (h : Shows groups o v m) (pos : Nat) : Shows groups o v (m.moveTo pos) :=
  ⟨h.room, h.shut, h.begun⟩

/-- After a failure that kept the marks that count, restoring shows the groups as they were. -/
theorem restore (h : Shows groups o v m) {bound : Nat} (hkept : Kept o bound m x) {inLoop : Bool}
    (hbound : inLoop = false → m.known ≤ 2 * bound) : Shows groups o v (x.restore m inLoop) := by
  cases inLoop with
  | true => exact ⟨h.room, h.shut, h.begun⟩
  | false =>
    have hbound := hbound rfl
    refine ⟨hkept.room.trans h.room, fun n hn hshut => ?_, fun n first hopen => ?_⟩
    · rw [← h.shut n hn hshut]
      -- The marks of a group that is shut are not the end of one that is open.
      refine Memory.ends?_congr Iff.rfl (fun hk => ?_) (fun hk => ?_)
      · refine hkept.same _ (by omega) (by omega) fun k hopen => ?_
        have := h.one_le hopen
        omega
      · refine hkept.same _ (by omega) (by omega) fun k hopen heq => ?_
        have := h.one_le hopen
        obtain rfl : k = n := by omega
        exact hopen hshut
    · obtain ⟨hn, hknown, hmark⟩ := h.begun n first hopen
      refine ⟨hn, hknown, ?_⟩
      rw [← hmark]
      refine hkept.same _ hknown (by omega) fun k hk => ?_
      have := h.one_le hk
      omega

/-- A group is opened. -/
theorem enter (h : Shows groups o v m) {n : Nat} (hn : 1 ≤ n) (hgroups : n ≤ groups) (pos : Nat) :
    Shows groups (Function.update o n (some pos)) v (m.mark (2 * n - 2) pos) := by
  refine ⟨(Memory.size_mark ..).trans h.room, fun k hk hshut => ?_, fun k first hopen => ?_⟩
  · have hkn : k ≠ n := by
      rintro rfl
      rw [Function.update_self] at hshut
      cases hshut
    rw [Function.update_of_ne hkn] at hshut
    rw [Memory.ends?_mark_of_ne hk (by omega) (by omega), h.shut k hk hshut]
  · by_cases hkn : k = n
    · subst hkn
      rw [Function.update_self] at hopen
      cases hopen
      refine ⟨hn, by simp only [Memory.known_mark]; omega, ?_⟩
      rw [Memory.getElem?_mark, if_pos ⟨by rw [h.room]; omega, rfl⟩]
    · rw [Function.update_of_ne hkn] at hopen
      obtain ⟨hk, hknown, hmark⟩ := h.begun k first hopen
      refine ⟨hk, by simp only [Memory.known_mark]; omega, ?_⟩
      rw [Memory.getElem?_mark_of_known _ _ hknown (by omega), hmark]

/-- An open group is shut. -/
theorem leave {n first : Nat} (h : Shows groups (Function.update o n (some first)) v m)
    (hn : o n = none) (hgroups : n ≤ groups) (last : Nat) :
    Shows groups o (v.capture n first last) (m.mark (2 * n - 1) last) := by
  obtain ⟨hone, hknown, hmark⟩ := h.begun n first (Function.update_self ..)
  refine ⟨(Memory.size_mark ..).trans h.room, fun k hk hshut => ?_, fun k first' hopen => ?_⟩
  · by_cases hkn : k = n
    · subst hkn
      have hfirst : (m.mark (2 * k - 1) last).marks[2 * k - 2]? = some (some first) := by
        rw [Memory.getElem?_mark_of_known _ _ hknown (by omega), hmark]
      have hlast : (m.mark (2 * k - 1) last).marks[2 * k - 1]? = some (some last) := by
        rw [Memory.getElem?_mark, if_pos ⟨by rw [h.room]; omega, rfl⟩]
      rw [Captures.capture_self, Memory.ends?, if_pos (by rw [Memory.known_mark]; omega), hfirst, hlast]
      rfl
    · rw [Memory.ends?_mark_of_ne hk (by omega) (by omega), Captures.capture_of_ne hkn]
      exact h.shut k hk (by rwa [Function.update_of_ne hkn])
  · have hkn : k ≠ n := by
      rintro rfl
      rw [hn] at hopen
      cases hopen
    obtain ⟨hk, hknown', hmark'⟩ := h.begun k first' (by rwa [Function.update_of_ne hkn])
    refine ⟨hk, by simp only [Memory.known_mark]; omega, ?_⟩
    rw [Memory.getElem?_mark_of_known _ _ hknown' (by omega), hmark']

/-- A group that is not open reads as it matched. -/
theorem span? {widths : Nat → Option Width} (h : Shows groups o v m) (hfit : v.Fit widths) {n : Nat}
    (hn : 1 ≤ n) (hshut : o n = none) : m.span? n = v n := by
  rw [Memory.span?, h.shut n hn hshut]
  cases hv : v n with
  | none => rfl
  | some s => exact Option.filter_eq_some_iff.2 ⟨rfl, by simpa using (hfit n s.1 s.2 hv).1⟩

end Shows
end ChatAutomation.Pattern
