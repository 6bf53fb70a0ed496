import ChatAutomation.Proofs.Contact.Phone
import Mathlib.Data.List.DropRight

/-!
# The form of a form

The form under which an id is compared may be taken for an id itself. It is its own form unless a step has
uncovered what an earlier one drops: blanks behind the plus signs or in front of the device, or one more domain
in front of the domain: `normalList_normalList_iff`. The spellings of a number are not of this kind, so their
form is final: `one_form_iff`.
-/
namespace ChatAutomation.Contact

open Text

/-- An id from which nothing is dropped and in which nothing changes. -/
structure IsSettled (cs : List Char) : Prop where
  lower : ∀ c ∈ cs, simpleLower c = c
  trimmed : trimList cs = cs
  undomained : ¬ personalDomain.toList <:+ cs
  unsigned : cs.dropWhile (· == '+') = cs

section
variable {cs ds : List Char}

theorem personalList_isPrefix (cs : List Char) : personalList cs <+: cs := by
  rcases personalList_cases cs with ⟨front, rfl, hcut⟩ | hwhole
  · rw [hcut]
    exact (List.takeWhile_prefix _).trans (List.prefix_append _ _)
  · exact ⟨[], by rw [hwhole, List.append_nil]⟩

/-- A form is a part of the lower case form of the id. -/
theorem normalList_isInfix (cs : List Char) : normalList cs <:+: lowerList (trimList cs) :=
  (List.dropWhile_suffix _).isInfix.trans (personalList_isPrefix _).isInfix

theorem simpleLower_of_mem_normalList {c : Char} (h : c ∈ normalList cs) : simpleLower c = c :=
  simpleLower_of_mem_lowerAfter ((normalList_isInfix cs).subset h)

theorem personalList_eq_self_iff : personalList cs = cs ↔ ¬ personalDomain.toList <:+ cs := by
  constructor
  · rintro h ⟨front, rfl⟩
    have hshort := congrArg List.length h
    rw [personalList_append, List.length_append, String.length_toList] at hshort
    have hfront := (List.takeWhile_prefix (· != ':') (l := front)).length_le
    have hdomain : 0 < personalDomain.length := by decide
    omega
  · exact fun h => if_neg (mt List.isSuffixOf_iff_suffix.1 h)

/-- An id is its own form just if it is settled. -/
theorem normalList_eq_self_iff : normalList cs = cs ↔ IsSettled cs := by
  constructor
  · intro h
    have hlower : ∀ c ∈ cs, simpleLower c = c := fun c hc =>
      simpleLower_of_mem_normalList (h.symm ▸ hc)
    have hlowered : lowerList (trimList cs) = trimList cs :=
      lowerAfter_eq_self_iff.2 fun c hc => hlower c ((isInfix_trimList cs).subset hc)
    -- what is dropped would be missing from the form
    have htrimmed : trimList cs = cs := by
      have hform := normalList_isInfix cs
      rw [h, hlowered] at hform
      exact (isInfix_trimList cs).eq_of_length_le hform.length_le
    rw [normalList, hlowered, htrimmed] at h
    have hpersonal : personalList cs = cs := by
      have hform := (List.dropWhile_suffix (· == '+') (l := personalList cs)).length_le
      rw [h] at hform
      exact (personalList_isPrefix cs).eq_of_length_le hform
    rw [hpersonal] at h
    exact ⟨hlower, htrimmed, personalList_eq_self_iff.1 hpersonal, h⟩
  · intro h
    rw [normalList, h.trimmed, lowerList, lowerAfter_eq_self_iff.2 h.lower,
      personalList_eq_self_iff.2 h.undomained, h.unsigned]

/-- A form is in lower case and has no sign in front, so there are two things left that can unsettle it. -/
theorem normalList_normalList_iff : normalList (normalList cs) = normalList cs ↔
    trimList (normalList cs) = normalList cs ∧ ¬ personalDomain.toList <:+ normalList cs := by
  rw [normalList_eq_self_iff]
  constructor
  · exact fun h => ⟨h.trimmed, h.undomained⟩
  · rintro ⟨htrimmed, hundomained⟩
    exact ⟨fun c => simpleLower_of_mem_normalList, htrimmed, hundomained,
      List.dropWhile_idempotent (· == '+') _⟩

end

/-- The form of an id is a number just if the id spells that number, so spellings of different numbers never have
the same form. The form is its own form just if it has no blank at its ends and no domain. -/
theorem one_form_iff (jid : String) :
    (∀ number, IsNumber number → (normalize jid = String.ofList number ↔ Spells number jid.toList)) ∧
    (∀ number number' other, IsNumber number → IsNumber number' →
      Spells number jid.toList → Spells number' other.toList →
        (normalize jid = normalize other ↔ number = number')) ∧
    (normalize (normalize jid) = normalize jid ↔
      trim (normalize jid) = normalize jid ∧ endsWith (normalize jid) personalDomain = false) := by
  refine ⟨fun number hnumber => normalize_eq_iff_spells hnumber,
    fun number number' other hnumber hnumber' hjid hother => ?_, ?_⟩
  · rw [(normalize_eq_iff_spells hnumber).2 hjid, (normalize_eq_iff_spells hnumber').2 hother,
      String.ofList_inj]
  · rw [trim_eq_self_iff, ← Bool.not_eq_true, endsWith, List.isSuffixOf_iff_suffix, ← String.toList_inj,
      toList_normalize, toList_normalize, normalList_normalList_iff]

/-- A spelling of a number with all that may surround it, and one of another number. -/
theorem one_form_device :
    let a := " ++5511:3@S.WhatsApp.net\n"
    let b := "\t٥٥١١@s.whatsapp.net"
    normalize a = "5511" ∧ normalize b = "٥٥١١" ∧ normalize a ≠ normalize b ∧
      normalize (normalize a) = normalize a := by
  intro a b
  have hnumber : IsNumber "5511".toList := ⟨by decide, List.all_eq_true.1 (by decide +kernel)⟩
  have hother : IsNumber "٥٥١١".toList := ⟨by decide, List.all_eq_true.1 (by decide +kernel)⟩
  obtain ⟨hform, hapart, hsettled⟩ := one_form_iff a
  have ha : Spells "5511".toList a.toList := (hform _ hnumber).1 (by decide +kernel)
  have hb : Spells "٥٥١١".toList b.toList := ((one_form_iff b).1 _ hother).1 (by decide +kernel)
  exact ⟨(hform _ hnumber).2 ha, ((one_form_iff b).1 _ hother).2 hb,
    mt (hapart _ _ b hnumber hother ha hb).1 (by decide),
    hsettled.2 ⟨by decide +kernel, by decide +kernel⟩⟩

/-- Behind a sign, in front of a device or a domain, and in front of a second domain: what one step uncovers no
other drops, and only the form of the form is the number. -/
theorem form_not_settled :
    (normalize "+ 5511" = " 5511" ∧ normalize " 5511" = "5511") ∧
    (normalize "5511 :3@s.whatsapp.net" = "5511 " ∧ normalize "5511 " = "5511") ∧
    (normalize "5511@s.whatsapp.net@s.whatsapp.net" = "5511@s.whatsapp.net" ∧
      normalize "5511@s.whatsapp.net" = "5511") := by
  decide +kernel

end ChatAutomation.Contact
