import ChatAutomation.Proofs.Inbox.History

/-!
# Blocked contacts

A contact is put on the blocklist by the settings, by name, by the owner's command in its chat, or by a
message of its own with the block word, and taken off by name alone. `blocked_silent` says that the list
holds just the contacts that were put on it and not taken off since, in whatever spelling, and that a message
from one of them changes nothing.
-/
namespace ChatAutomation

namespace Contact

theorem mem_ofList {raw c : String} :
    c ∈ ofList raw ↔ ∃ part ∈ Text.splitAt ',' raw, Text.trim part ≠ "" ∧ normalize part = c := by
  simp [ofList, List.mem_eraseDups, and_assoc]

end Contact

namespace Inbox

variable {i j : Inbox} {m : Inbound}

theorem hears_congr (h : i.settings = j.settings) : i.Hears m ↔ j.Hears m := by
  have hgroup : i.isForeignGroup m = j.isForeignGroup m := by
    rw [isForeignGroup, isForeignGroup, allowedGroups, allowedGroups, h]
  constructor <;> rintro ⟨hnamed, hanswered, hon, hforeign⟩
  · exact ⟨hnamed, hanswered, h ▸ hon, hgroup ▸ hforeign⟩
  · exact ⟨hnamed, hanswered, h ▸ hon, hgroup ▸ hforeign⟩

theorem blocks_congr (h : i.settings = j.settings) : i.blocks m = j.blocks m := by
  rw [blocks, blocks, blockWord, blockWord, h]

end Inbox

/-- A message from a blocked contact is ignored, and nothing else happens. -/
theorem Handling.handle_of_isBlocked {σ : Type} (h : Handling σ) {m : Inbound} {d : Desk σ}
    (hblocked : d.inbox.isBlocked m.jid = true) : h.handle m d = (.ok .ignored, d) := by
  have hignored : d.inbox.isIgnored m = true := by simp [Inbox.isIgnored, hblocked]
  have hscreen : d.inbox.screen m = (false, d.inbox) := by rw [Inbox.screen, if_pos hignored]
  rw [handle, hscreen]
  rfl

namespace Desk
variable {σ : Type}

/-- A turn that puts a contact on the blocklist of an inbox with the given settings. -/
inductive Turn.Lists (s : Settings) (c : String) : Turn σ → Prop
  | named {jid : String} (hc : Contact.normalize jid = c) : Lists s c (.block jid)
  /-- The owner's command in a chat is the block word alone. -/
  | ordered {h : Handling σ} {m : Inbound} (hc : Contact.normalize m.jid = c)
      (hheard : (Inbox.new s).Hears m) (hown : m.fromMe = true) (hword : (Inbox.new s).blockWord ≠ "")
      (hsaid : Inbox.said m = (Inbox.new s).blockWord) : Lists s c (.handle h m)
  /-- A contact need only mention the block word. -/
  | asked {h : Handling σ} {m : Inbound} (hc : Contact.normalize m.jid = c)
      (hheard : (Inbox.new s).Hears m) (hown : m.fromMe = false) (hword : (Inbox.new s).blockWord ≠ "")
      (hsaid : (Inbox.new s).blockWord.toList <:+: (Inbox.said m).toList) : Lists s c (.handle h m)

/-- A turn that takes a contact off the blocklist. -/
inductive Turn.Unlists (c : String) : Turn σ → Prop
  | named {jid : String} (hc : Contact.normalize jid = c) : Unlists c (.unblock jid)

/-- A contact is listed that was so at first, or was put on the list by a turn, and by no later turn taken
off. -/
def Listed (s : Settings) (c : String) (atFirst : Prop) (turns : List (Turn σ)) : Prop :=
  (atFirst ∧ ∀ t ∈ turns, ¬ t.Unlists c) ∨
    ∃ before t since, turns = before ++ t :: since ∧ t.Lists s c ∧ ∀ u ∈ since, ¬ u.Unlists c

variable {s : Settings} {c : String}

theorem Turn.lists_handle_iff {h : Handling σ} {m : Inbound} : (Turn.handle h m).Lists s c ↔
    Contact.normalize m.jid = c ∧ (Inbox.new s).Hears m ∧ (Inbox.new s).blocks m = true := by
  rw [Inbox.blocks_iff]
  constructor
  · rintro (_ | ⟨hc, hheard, hown, hword, hsaid⟩ | ⟨hc, hheard, hown, hword, hsaid⟩)
    · exact ⟨hc, hheard, hword, .inl ⟨hown, hsaid⟩⟩
    · exact ⟨hc, hheard, hword, .inr ⟨hown, hsaid⟩⟩
  · rintro ⟨hc, hheard, hword, ⟨hown, hsaid⟩ | ⟨hown, hsaid⟩⟩
    · exact .ordered hc hheard hown hword hsaid
    · exact .asked hc hheard hown hword hsaid

theorem Turn.unlists_unblock_iff {jid : String} :
    (Turn.unblock jid : Turn σ).Unlists c ↔ Contact.normalize jid = c := by
  constructor
  · rintro ⟨hc⟩
    exact hc
  · exact .named

/-- All that a turn does to the blocklist. -/
theorem mem_blocked_step {d : Desk σ} (hs : d.inbox.settings = s) (t : Turn σ) :
    c ∈ (d.step t).inbox.blocked ↔ t.Lists s c ∨ c ∈ d.inbox.blocked ∧ ¬ t.Unlists c := by
  cases t with
  | handle h m =>
    have hkeeps : ¬ (Turn.handle h m).Unlists c := by rintro ⟨⟩
    rw [step, Handling.inbox_handle, Inbox.mem_blocked_receive, Turn.lists_handle_iff,
      Inbox.hears_congr (j := .new s) hs, Inbox.blocks_congr (j := .new s) hs, and_iff_left hkeeps]
  | block jid =>
    have hkeeps : ¬ (Turn.block jid : Turn σ).Unlists c := by rintro ⟨⟩
    have hlists : (Turn.block jid : Turn σ).Lists s c ↔ c = Contact.normalize jid := by
      constructor
      · rintro ⟨hc⟩
        exact hc.symm
      · exact fun hc => .named hc.symm
    rw [step, Inbox.mem_blocked_block, hlists, and_iff_left hkeeps]
  | unblock jid =>
    have hlists : ¬ (Turn.unblock jid : Turn σ).Lists s c := by rintro ⟨⟩
    rw [step, Inbox.mem_blocked_unblock, Turn.unlists_unblock_iff, or_iff_right hlists]

theorem listed_cons (atFirst : Prop) (t : Turn σ) (turns : List (Turn σ)) :
    Listed s c atFirst (t :: turns) ↔ Listed s c (t.Lists s c ∨ atFirst ∧ ¬ t.Unlists c) turns := by
  constructor
  · rintro (⟨h, hkept⟩ | ⟨before, u, since, hturns, hlists, hkept⟩)
    · obtain ⟨hnow, hlater⟩ := List.forall_mem_cons.1 hkept
      exact .inl ⟨.inr ⟨h, hnow⟩, hlater⟩
    · cases before with
      | nil =>
        obtain ⟨rfl, rfl⟩ := List.cons.inj hturns
        exact .inl ⟨.inl hlists, hkept⟩
      | cons _ before =>
        obtain ⟨rfl, rfl⟩ := List.cons.inj hturns
        exact .inr ⟨before, u, since, rfl, hlists, hkept⟩
  · rintro (⟨hlists | ⟨h, hnow⟩, hlater⟩ | ⟨before, u, since, rfl, hlists, hkept⟩)
    · exact .inr ⟨[], t, turns, rfl, hlists, hlater⟩
    · exact .inl ⟨h, List.forall_mem_cons.2 ⟨hnow, hlater⟩⟩
    · exact .inr ⟨t :: before, u, since, rfl, hlists, hkept⟩

/-- The blocklist holds who was put on it and not taken off since. -/
theorem mem_blocked_run {d : Desk σ} (hs : d.inbox.settings = s) (turns : List (Turn σ)) :
    c ∈ (d.run turns).inbox.blocked ↔ Listed s c (c ∈ d.inbox.blocked) turns := by
  induction turns generalizing d with
  | nil => simp [run, Listed]
  | cons t turns ih =>
    rw [listed_cons, ← mem_blocked_step hs, ← ih ((d.settings_step t).trans hs)]
    rfl

theorem mem_blocked_later {d : Desk σ} (hlisted : c ∈ d.inbox.blocked) {later : List (Turn σ)}
    (hkept : ∀ t ∈ later, ¬ t.Unlists c) : c ∈ (d.run later).inbox.blocked :=
  (mem_blocked_run rfl later).2 (.inl ⟨hlisted, hkept⟩)

/-- A contact is on the blocklist just as long as it was put there, by the settings or by a turn, and not
taken off since. From then on every message from it, in whatever spelling, is ignored, and it changes
nothing: whatever the store holds, and whoever would carry out flows, send and reply. Handling a message
takes nobody off. -/
theorem blocked_silent (s : Settings) (outside : σ) (turns : List (Turn σ)) (c : String) :
    let d := (Desk.new s outside).run turns
    (c ∈ d.inbox.blocked ↔
      Listed s c (∃ part ∈ Text.splitAt ',' s.blockedContacts,
        Text.trim part ≠ "" ∧ Contact.normalize part = c) turns) ∧
    (c ∈ d.inbox.blocked → ∀ later : List (Turn σ), (∀ t ∈ later, ¬ t.Unlists c) →
      ∀ (h : Handling σ) (m : Inbound), Contact.normalize m.jid = c →
        h.handle m (d.run later) = (.ok .ignored, d.run later)) ∧
    ∀ (h : Handling σ) (m : Inbound), d.inbox.blocked ⊆ (h.handle m d).2.inbox.blocked := by
  intro d
  refine ⟨?_, fun hlisted later hkept h m hc => ?_, fun h m c hlisted => ?_⟩
  · rw [← Contact.mem_ofList]
    exact mem_blocked_run rfl turns
  · apply h.handle_of_isBlocked
    rw [Inbox.isBlocked_iff, hc]
    exact mem_blocked_later hlisted hkept
  · rw [Handling.inbox_handle, Inbox.mem_blocked_receive]
    exact .inr hlisted

def wordSaid : Inbound := ⟨"5511@s.whatsapp.net", "Por favor PARAR agora", false, false, false, none⟩

/-- A contact asks not to be answered, another one is unblocked, and the first writes from a device. -/
theorem silent_after_block_word :
    let h : Handling Unit := .over default
    let writes : Inbound := ⟨" 5511:3@S.WhatsApp.net", "oi", false, false, false, none⟩
    let asked : List (Turn Unit) := [.handle h wordSaid]
    let later : List (Turn Unit) := [.unblock "+5522", .handle h wordSaid]
    "5511" ∈ ((Desk.new .usual ()).run asked).inbox.blocked ∧
      h.handle writes (((Desk.new .usual ()).run asked).run later) =
        (.ok .ignored, ((Desk.new .usual ()).run asked).run later) := by
  intro h writes asked later
  obtain ⟨hlisted, hsilent, -⟩ := blocked_silent .usual () asked "5511"
  have hheard : (Inbox.new .usual).Hears wordSaid := by
    constructor <;> decide +kernel
  have hasked : (Turn.handle h wordSaid).Lists .usual "5511" := by
    apply Turn.lists_handle_iff.2
    exact ⟨by decide +kernel, hheard, by decide +kernel⟩
  have hblocked := hlisted.2 (.inr ⟨[], _, [], rfl, hasked, List.forall_mem_nil _⟩)
  have hother : ¬ (Turn.unblock "+5522" : Turn Unit).Unlists "5511" := by
    rw [Turn.unlists_unblock_iff]
    decide +kernel
  have hkept : ∀ t ∈ later, ¬ t.Unlists "5511" :=
    List.forall_mem_cons.2 ⟨hother, List.forall_mem_singleton.2 nofun⟩
  have hsame : Contact.normalize writes.jid = "5511" := by decide +kernel
  exact ⟨hblocked, hsilent hblocked later hkept h writes hsame⟩

end Desk
end ChatAutomation
