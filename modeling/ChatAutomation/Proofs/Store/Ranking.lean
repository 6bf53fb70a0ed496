import Mathlib.Data.List.Basic
import Mathlib.Order.Lattice

/-!
# Ranked lists

A listing has what is stored, the greatest keys in front, and what has the same key in the order in which
it is stored. There is one such listing only, `Ranked.unique`; leaving elements out of it gives the listing
of those that are left, `Ranked.filter`; and a stable sort makes it, `ranked_mergeSort`.
-/
namespace ChatAutomation

variable {α κ : Type} [LinearOrder κ]

/-- The second list has the elements of the first one, by descending keys and otherwise in order. -/
structure Ranked (key : α → κ) (stored listed : List α) : Prop where
  perm : listed.Perm stored
  sorted : listed.Pairwise fun a b => key b ≤ key a
  stable : ∀ k, listed.filter (fun a => key a = k) = stored.filter fun a => key a = k

variable {key : α → κ} {stored l l' : List α}

theorem Ranked.filter (h : Ranked key stored l) (p : α → Bool) :
    Ranked key (stored.filter p) (l.filter p) where
  perm := h.perm.filter p
  sorted := h.sorted.filter p
  stable k := by rw [List.filter_comm, h.stable k, List.filter_comm]

theorem mem_of_filter_key_eq
    (hsame : ∀ k, l.filter (fun a => key a = k) = l'.filter fun a => key a = k) {a : α} :
    a ∈ l ↔ a ∈ l' := by
  have hiff := congrArg (a ∈ ·) (hsame (key a))
  simpa using hiff

/-- Sorted lists with the same elements of every key are the same. -/
theorem eq_of_sorted_key (hl : l.Pairwise fun a b => key b ≤ key a)
    (hl' : l'.Pairwise fun a b => key b ≤ key a)
    (hsame : ∀ k, l.filter (fun a => key a = k) = l'.filter fun a => key a = k) : l = l' := by
  induction l generalizing l' with
  | nil =>
    cases l' with
    | nil => rfl
    | cons b l' => exact absurd ((mem_of_filter_key_eq hsame).2 List.mem_cons_self) List.not_mem_nil
  | cons a l ih =>
    cases l' with
    | nil => exact absurd ((mem_of_filter_key_eq hsame).1 List.mem_cons_self) List.not_mem_nil
    | cons b l' =>
      rw [List.pairwise_cons] at hl hl'
      -- each head is among the other list, so both have the same key
      have hkey : key a = key b := by
        have ha := (mem_of_filter_key_eq hsame).1 (List.mem_cons_self (a := a) (l := l))
        have hb := (mem_of_filter_key_eq hsame).2 (List.mem_cons_self (a := b) (l := l'))
        rcases List.mem_cons.1 ha with rfl | ha
        · rfl
        · rcases List.mem_cons.1 hb with rfl | hb
          · rfl
          · exact le_antisymm (hl'.1 a ha) (hl.1 b hb)
      have hhead := hsame (key a)
      rw [List.filter_cons_of_pos (by simp), List.filter_cons_of_pos (by simp [hkey])] at hhead
      obtain ⟨rfl, -⟩ := List.cons.inj hhead
      have htail (k : κ) : l.filter (fun b => key b = k) = l'.filter fun b => key b = k := by
        have hk := hsame k
        by_cases ha : key a = k <;> simpa [List.filter_cons, ha] using hk
      rw [ih hl.2 hl'.2 htail]

theorem Ranked.unique (h : Ranked key stored l) (h' : Ranked key stored l') : l = l' :=
  eq_of_sorted_key h.sorted h'.sorted fun k => (h.stable k).trans (h'.stable k).symm

/-- A sort that compares the elements of a list by their keys lists them. -/
theorem ranked_mergeSort {le : α → α → Bool}
    (hle : ∀ a ∈ l, ∀ b ∈ l, le a b = decide (key b ≤ key a)) : Ranked key l (l.mergeSort le) := by
  have hsort : l.mergeSort le = l.mergeSort fun a b => decide (key b ≤ key a) := by
    simpa using List.map_mergeSort (f := id) hle
  rw [hsort]
  have htrans : ∀ a b c : α, decide (key b ≤ key a) = true → decide (key c ≤ key b) = true →
      decide (key c ≤ key a) = true := by
    intro a b c hab hbc
    rw [decide_eq_true_eq] at *
    exact le_trans hbc hab
  have htotal : ∀ a b : α, (decide (key b ≤ key a) || decide (key a ≤ key b)) = true := by
    intro a b
    simpa using le_total (key b) (key a)
  have hperm := List.mergeSort_perm l fun a b => decide (key b ≤ key a)
  refine ⟨hperm, ?_, fun k => ?_⟩
  · exact (List.pairwise_mergeSort htrans htotal l).imp (by simp)
  · have hties : (l.filter fun a => key a = k).Pairwise fun a b => decide (key b ≤ key a) = true := by
      refine List.pairwise_of_forall_mem_list fun a ha b hb => ?_
      simp only [List.mem_filter, decide_eq_true_eq] at ha hb ⊢
      rw [ha.2, hb.2]
    have hsub := (List.sublist_mergeSort htrans htotal hties List.filter_sublist).filter
      fun a => decide (key a = k)
    simp only [List.filter_filter, Bool.and_self] at hsub
    exact (hsub.eq_of_length (hperm.filter _).length_eq.symm).symm

end ChatAutomation
