import ChatAutomation.Proofs.Log.Hierarchy
import Mathlib.Logic.Function.Iterate

/-!
# Which records are written

However often the log is set up, a record that passes leaves one line. Yet the level that a noisy library gets
takes the place of the one that was asked for, also where the latter is the higher. So what is due is written
and nothing else is, unless such a library logs a warning below the level: `written_eq_due_iff`. There is one
more exception: where every level is asked for, a record of the level zero is still not written.
-/
namespace ChatAutomation.Log

/-- Is a logger that of a noisy library, or below one? -/
def IsNoisy (name : String) : Prop := ∃ library ∈ noisyLoggers, library = name ∨ IsBelow library name

/-- Is a record to be written at a level? Those of noisy libraries are from warnings on. -/
def IsDue (level : Nat) (r : Record) : Prop :=
  (level : Int) ≤ r.level ∧ (IsNoisy r.logger → (warning : Int) ≤ r.level)

theorem isNoisy_iff_ancestors {name : String} :
    IsNoisy name ↔ ∃ library ∈ noisyLoggers, library ∈ Loggers.ancestors name := by
  have hlast : ∀ library ∈ noisyLoggers, (Text.splitAt '.' library).getLast? ≠ some "" := by decide +kernel
  exact exists_congr fun library => and_congr_right fun h => (Loggers.mem_ancestors_iff (hlast library h)).symm

instance (name : String) : Decidable (IsNoisy name) := decidable_of_iff _ isNoisy_iff_ancestors.symm

instance (level : Nat) (r : Record) : Decidable (IsDue level r) :=
  inferInstanceAs (Decidable (_ ∧ (_ → _)))

namespace Loggers

/-- The loggers as they are once the log is set up. -/
structure IsSetUp (level : Nat) (l : Loggers) : Prop where
  rootLevel : l.rootLevel = level
  ownLevel : ∀ name, l.ownLevels.get? name = if name ∈ noisyLoggers then some warning else none
  handlers : l.handlers.count .application = 1

section
variable {level : Nat} {l : Loggers}

theorem isSetUp_setUp (level : Nat) (h : ∀ name ∉ noisyLoggers, l.ownLevels.get? name = none) :
    IsSetUp level (l.setUp level) where
  rootLevel := rfl
  ownLevel name := by
    have hown : (l.setUp level).ownLevels = l.ownLevels.putAll (noisyLoggers.map fun k => (k, warning)) := rfl
    rw [hown, Entries.get?_putAll_map]
    split
    · rfl
    · exact h name ‹_›
  handlers := count_handlers_setUp level l

theorem IsSetUp.ownLevel_eq_none (h : IsSetUp level l) : ∀ name ∉ noisyLoggers, l.ownLevels.get? name = none :=
  fun name hname => by rw [h.ownLevel, if_neg hname]

theorem isSetUp_iterate (level n : Nat) (h : ∀ name ∉ noisyLoggers, l.ownLevels.get? name = none) :
    IsSetUp level ((setUp level)^[n + 1] l) := by
  induction n with
  | zero => exact isSetUp_setUp level h
  | succ n ih =>
    rw [Function.iterate_succ_apply']
    exact isSetUp_setUp level ih.ownLevel_eq_none

namespace IsSetUp

theorem levelOf_eq (h : IsSetUp level l) (name : String) :
    l.levelOf name = if IsNoisy name then warning else level := by
  have hown : (fun a => (l.ownLevels.get? a).filter (0 < ·)) =
      fun a => if a ∈ noisyLoggers then some warning else none := by
    funext a
    rw [h.ownLevel]
    split <;> rfl
  rw [levelOf, hown, h.rootLevel]
  cases hfound : (ancestors name).findSome? fun a => if a ∈ noisyLoggers then some warning else none with
  | none =>
    rw [if_neg]
    · rfl
    · rw [isNoisy_iff_ancestors]
      rintro ⟨library, hlibrary, habove⟩
      simpa [hlibrary] using List.findSome?_eq_none_iff.1 hfound library habove
  | some found =>
    obtain ⟨library, habove, hlibrary⟩ := List.exists_of_findSome?_eq_some hfound
    obtain ⟨hnoisy, rfl⟩ : library ∈ noisyLoggers ∧ warning = found := by simpa using hlibrary
    rw [if_pos (isNoisy_iff_ancestors.2 ⟨library, hnoisy, habove⟩)]
    rfl

theorem passes_iff (h : IsSetUp level l) (r : Record) :
    l.passes r = true ↔ 0 < r.level ∧ ((if IsNoisy r.logger then warning else level : Nat) : Int) ≤ r.level := by
  rw [passes, h.levelOf_eq, Bool.and_eq_true, decide_eq_true_eq, decide_eq_true_eq]

theorem lines_eq (h : IsSetUp level l) (environment : String) (r : Record) :
    l.lines environment r = if l.passes r then [r.entries environment] else [] := by
  rw [lines, h.handlers]
  rfl

theorem written_eq (h : IsSetUp level l) (environment : String) (records : List Record) :
    l.written environment records = (records.filter l.passes).map (Record.entries environment) := by
  induction records with
  | nil => rfl
  | cons r records ih =>
    rw [written, List.flatMap_cons, ← written, ih, h.lines_eq]
    cases hr : l.passes r <;> simp [hr]

end IsSetUp
end

end Loggers

/-- If one selection from a list is within another and the two leave as much, they take the same members. -/
theorem map_filter_eq_iff {α β : Type} {f : α → β} {p q : α → Bool} {xs : List α}
    (h : (∀ a, p a = true → q a = true) ∨ ∀ a, q a = true → p a = true) :
    (xs.filter p).map f = (xs.filter q).map f ↔ ∀ x ∈ xs, p x = q x := by
  refine ⟨fun heq x hx => ?_, fun heq => by rw [List.filter_congr heq]⟩
  have hlength : (xs.filter p).length = (xs.filter q).length := by simpa using congrArg List.length heq
  have hfilter : xs.filter p = xs.filter q := by
    rcases h with h | h
    · exact (List.monotone_filter_right xs h).eq_of_length hlength
    · exact ((List.monotone_filter_right xs h).eq_of_length hlength.symm).symm
  have hmem : x ∈ xs.filter p ↔ x ∈ xs.filter q := by rw [hfilter]
  rw [List.mem_filter, List.mem_filter] at hmem
  exact Bool.eq_iff_iff.2 (by simpa [hx] using hmem)

/-- However often the log is set up with a level, what is due is written once and nothing else is, just if no
noisy library logs a warning below the level, and nothing has the level zero when that is asked for. -/
theorem written_eq_due_iff (environment : String) (asked settings : Value) (n rootLevel : Nat)
    (handlers : List Handler) (records : List Record) :
    let level := chosenLevel asked settings
    let l := (Loggers.setUp level)^[n + 1] ⟨rootLevel, [], handlers⟩
    l.written environment records =
        (records.filter fun r => IsDue level r).map (Record.entries environment) ↔
      ∀ r ∈ records, ¬ (IsNoisy r.logger ∧ (warning : Int) ≤ r.level ∧ r.level < level) ∧
        ¬ (¬ IsNoisy r.logger ∧ level = 0 ∧ r.level = 0) := by
  intro level l
  have hsetUp : Loggers.IsSetUp level l := Loggers.isSetUp_iterate level n fun _ _ => rfl
  rw [hsetUp.written_eq, map_filter_eq_iff]
  · refine forall₂_congr fun r _ => ?_
    rw [Bool.eq_iff_iff, hsetUp.passes_iff, decide_eq_true_eq, IsDue]
    by_cases hnoisy : IsNoisy r.logger <;> simp [hnoisy, warning] <;> omega
  · simp only [hsetUp.passes_iff, IsDue]
    -- at level zero less passes than is due, above it more
    rcases Nat.eq_zero_or_pos level with hlevel | hlevel
    · refine .inl fun r hr => ?_
      by_cases hnoisy : IsNoisy r.logger
      · simp_all
        omega
      · simp_all
    · refine .inr fun r hr => ?_
      by_cases hnoisy : IsNoisy r.logger <;> simp_all [warning] <;> omega

/-- A warning of a library is written though only errors are asked for. -/
theorem louder_by_quietening :
    let r : Record := ⟨"httpx", 30, "slow"⟩
    let level := chosenLevel (.text "ERROR") .null
    ¬ IsDue level r ∧ (Loggers.fresh.setUp level).written "development" [r] = [r.entries "development"] := by
  intro r level
  have hsetUp : Loggers.IsSetUp level (Loggers.fresh.setUp level) :=
    Loggers.isSetUp_setUp level fun _ _ => rfl
  have hpasses : (Loggers.fresh.setUp level).passes r = true := by decide +kernel
  refine ⟨by decide +kernel, ?_⟩
  rw [hsetUp.written_eq, List.filter_cons_of_pos hpasses]
  rfl

end ChatAutomation.Log
