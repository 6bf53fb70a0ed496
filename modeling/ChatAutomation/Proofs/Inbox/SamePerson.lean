import ChatAutomation.Proofs.Contact.Phone
import ChatAutomation.Proofs.Inbox.Blocklist

/-!
# Who is blocked along with a contact

The blocklist compares ids by their form, and messages go to the phone number behind them. Of the ids with one
phone number, whoever blocks one blocks those of the same form: `blocks_same_phone_iff`. That is all of them as
long as they are understood. A number that is written with breaks, or with a device and no domain, has a form of
its own.
-/
namespace ChatAutomation

namespace Contact

/-- The id of a person: it has no domain, or the one of persons. -/
def IsPersonal (jid : String) : Prop :=
  '@' ∉ jid.toList ∨ Text.endsWith jid personalDomain = true

instance (jid : String) : Decidable (IsPersonal jid) := inferInstanceAs (Decidable (_ ∨ _))

end Contact

namespace Inbox

open Contact

variable {a b : String}

theorem isBlocked_block_iff {i : Inbox} :
    (i.block a).isBlocked b = true ↔ i.isBlocked b = true ∨ normalize a = normalize b := by
  rw [isBlocked_iff, mem_blocked_block, isBlocked_iff, or_comm, eq_comm]

theorem isBlocked_new_iff {s : Settings} : (new s).isBlocked b = true ↔
    ∃ part ∈ Text.splitAt ',' s.blockedContacts, Text.trim part ≠ "" ∧ normalize part = normalize b := by
  rw [isBlocked_iff]
  exact mem_ofList

/-- An id with a phone number is no blank entry of a list. -/
theorem trim_ne_empty_of_digits (h : digits a ≠ []) : Text.trim a ≠ "" := by
  intro htrim
  have hlist : Text.trimList a.toList = [] := by
    rw [← String.toList_inj, Text.trim, String.toList_ofList] at htrim
    exact htrim
  apply h
  rw [digits_eq_digitList, ← digitList_trimList, hlist]
  rfl

theorem isBlocked_listed_iff (h : digits a ≠ []) {s : Settings} {before after : List String}
    (hlist : Text.splitAt ',' s.blockedContacts = before ++ a :: after) :
    (new s).isBlocked b = true ↔ normalize a = normalize b ∨
      ∃ part ∈ before ++ after, Text.trim part ≠ "" ∧ normalize part = normalize b := by
  rw [isBlocked_new_iff, hlist]
  simp only [List.mem_append, List.mem_cons]
  constructor
  · rintro ⟨part, hpart | rfl | hpart, hne, heq⟩
    · exact .inr ⟨part, .inl hpart, hne, heq⟩
    · exact .inl heq
    · exact .inr ⟨part, .inr hpart, hne, heq⟩
  · rintro (heq | ⟨part, hpart | hpart, hne, heq⟩)
    · exact ⟨a, .inr (.inl rfl), trim_ne_empty_of_digits h, heq⟩
    · exact ⟨part, .inl hpart, hne, heq⟩
    · exact ⟨part, .inr (.inr hpart), hne, heq⟩

/-- Whoever blocks an id, by name or as an entry of the settings, blocks along with it the ids that are compared
alike. These have its phone number, all of them. Conversely an id of that phone number is compared alike if
both are understood; if just one of them is, it is not. -/
theorem blocks_same_phone_iff (hgiven : phone a ≠ "") (b : String) :
    let alike := normalize a = normalize b
    (∀ i : Inbox, (i.block a).isBlocked b = true ↔ i.isBlocked b = true ∨ alike) ∧
    (∀ (s : Settings) (before after : List String),
      Text.splitAt ',' s.blockedContacts = before ++ a :: after →
        ((new s).isBlocked b = true ↔ alike ∨
          ∃ part ∈ before ++ after, Text.trim part ≠ "" ∧ normalize part = normalize b)) ∧
    (alike → phone a = phone b) ∧
    (phone a = phone b → (Understood a ∨ Understood b) → (alike ↔ Understood a ∧ Understood b)) := by
  have hne : digits a ≠ [] := mt phone_eq_empty_iff.2 hgiven
  refine ⟨fun i => isBlocked_block_iff, fun s before after => isBlocked_listed_iff hne,
    fun halike => ?_, fun hphone => ?_⟩
  · rw [← phone_normalize a, halike, phone_normalize]
  · have hsame : digits a = digits b := phone_eq_iff.1 hphone
    rintro (ha | hb)
    · rw [normalize_eq_iff_of_understood hne hsame ha, and_iff_right ha]
    · rw [eq_comm, normalize_eq_iff_of_understood (hsame ▸ hne) hsame.symm hb, and_iff_left hb]

/-- The entry of a list has a device, and the other id nothing but a plus sign. -/
theorem blocks_same_phone_device :
    let a := " 5511:3@S.WhatsApp.net"
    let b := "+5511"
    phone a ≠ "" ∧ (∀ i : Inbox, (i.block a).isBlocked b = true) ∧
      (new { Settings.usual with blockedContacts := "5599, 5511:3@S.WhatsApp.net" }).isBlocked b = true := by
  intro a b
  have hgiven : phone a ≠ "" := by decide +kernel
  have ha : Understood a := (understood_iff (by decide +kernel)).2 (by decide +kernel)
  have hb : Understood b := (understood_iff (by decide +kernel)).2 (by decide +kernel)
  obtain ⟨hnamed, hlisted, -, hunderstood⟩ := blocks_same_phone_iff hgiven b
  have halike := (hunderstood (by decide +kernel) (.inl ha)).2 ⟨ha, hb⟩
  exact ⟨hgiven, fun i => (hnamed i).2 (.inr halike),
    (hlisted _ ["5599"] [] (by decide +kernel)).2 (.inl halike)⟩

/-- Two ids of persons with one phone number, of which the second is not blocked along with the first. -/
structure Missed (a b : String) : Prop where
  personal : IsPersonal a ∧ IsPersonal b
  phone_eq : phone a = phone b
  given : phone a ≠ ""
  single : ',' ∉ a.toList
  named : ((new .usual).block a).isBlocked b = false
  listed : (new { Settings.usual with blockedContacts := a }).isBlocked b = false

/-- A number that is written with breaks is not understood, nor is one with a device and no domain. -/
theorem missed_with_breaks :
    Missed "+55 (11) 99999-8888" "5511999998888@s.whatsapp.net" ∧
      Missed "5511:3" "5511:3@s.whatsapp.net" := by
  constructor <;> constructor <;> decide +kernel

end Inbox
end ChatAutomation
