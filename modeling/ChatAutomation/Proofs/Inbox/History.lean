import ChatAutomation.Inbox
import Mathlib.Data.List.Basic

/-!
# The history of an inbox

Messages are handled, each at its own time and on the store as it is then, and contacts are blocked and
unblocked in between: `Desk.run`. All that flows and replies do is done outside, so what the inbox remembers
depends on the screens and on who has written alone: `inbox_handle`.
-/
namespace ChatAutomation

/-- The settings that hold where none are given. -/
def Settings.usual : Settings where
  environment := "production"
  apiVersion := "v1"
  autoReply := true
  respondGroups := false
  agentPrompt := Settings.defaultPrompt
  logLevel := "INFO"
  blockedContacts := ""
  blockWord := "parar"
  allowedGroups := ""
  mongoUri := "mongodb://localhost:27017"
  mongoDatabase := "flowbot"
  maxPoolSize := 10
  minPoolSize := 1
  accessToken := none
  phoneId := none
  verifyToken := none
  apiBaseUrl := Settings.defaultBaseUrl
  geminiKey := none
  openaiKey := none
  geminiModel := "gemini-2.5-flash"
  openaiModel := "gpt-4o-mini"
  requestTimeout := .ofDecimal false 15 0
  defaultDelay := .ofDecimal false 1 0

theorem Settings.read_nothing : Settings.read [] [] = .ok .usual := rfl

/-- Messages are handled on a store; what is sent arrives, and all replies are alike. -/
def Handling.over (store : Store) : Handling Unit where
  now := ⟨0, none⟩
  store := store
  engine :=
    { collaborators :=
        { send := fun _ _ s => (.ok (), s)
          respond := fun _ _ s => (.ok (.text "Oi"), s)
          fetch := fun _ s => (.ok ⟨200, ""⟩, s)
          sleep := fun _ s => (.ok (), s) }
      defaultDelay := .int 1 }
  respond := fun _ _ s => (.ok (.text "Oi"), s)

namespace Inbox

/-- A message that no screen before the blocklist stops. -/
structure Hears (i : Inbox) (m : Inbound) : Prop where
  named : m.jid ≠ ""
  answered : Contact.isIgnored m.jid = false
  on : i.settings.autoReply = true
  group : i.isForeignGroup m = false

/-- The text of a message as it is compared with the block word. -/
def said (m : Inbound) : String := Text.trim (Text.lower m.body)

/-- What is remembered of a message that was handled. -/
def receive (m : Inbound) (i : Inbox) : Inbox :=
  let (passes, i) := i.screen m
  if passes then (i.meet m.jid).2 else i

variable {i : Inbox} {m : Inbound} {jid c : String}

theorem isBlocked_iff : i.isBlocked jid = true ↔ Contact.normalize jid ∈ i.blocked :=
  List.contains_iff_mem

theorem isIgnored_eq_false_iff : i.isIgnored m = false ↔ i.Hears m ∧ i.isBlocked m.jid = false := by
  constructor
  · intro h
    simp only [isIgnored, Bool.or_eq_false_iff, Bool.not_eq_false', String.isEmpty_eq_false_iff] at h
    obtain ⟨⟨⟨⟨hnamed, hanswered⟩, hon⟩, hgroup⟩, hblocked⟩ := h
    exact ⟨⟨hnamed, hanswered, hon, hgroup⟩, hblocked⟩
  · rintro ⟨⟨hnamed, hanswered, hon, hgroup⟩, hblocked⟩
    simp [isIgnored, hnamed, hanswered, hon, hgroup, hblocked]

theorem blocks_iff : i.blocks m = true ↔ i.blockWord ≠ "" ∧
    (m.fromMe = true ∧ said m = i.blockWord ∨
      m.fromMe = false ∧ i.blockWord.toList <:+: (said m).toList) := by
  unfold blocks said
  cases m.fromMe <;> simp [Text.contains_iff]

/-- All that is remembered of a message: nothing, that its chat is blocked, or that it has written. -/
theorem receive_cases (i : Inbox) (m : Inbound) :
    (i.isIgnored m = true ∨ i.blocks m = false ∧ m.fromMe = true) ∧ i.screen m = (false, i) ∧
        i.receive m = i ∨
      (i.isIgnored m = false ∧ i.blocks m = true) ∧ i.screen m = (false, i.block m.jid) ∧
        i.receive m = i.block m.jid ∨
      (i.isIgnored m = false ∧ i.blocks m = false ∧ m.fromMe = false) ∧ i.screen m = (true, i) ∧
        i.receive m = (i.meet m.jid).2 := by
  unfold receive screen
  cases i.isIgnored m with
  | true => exact .inl ⟨.inl rfl, rfl, rfl⟩
  | false =>
    cases i.blocks m with
    | true => exact .inr (.inl ⟨⟨rfl, rfl⟩, rfl, rfl⟩)
    | false =>
      cases m.fromMe with
      | true => exact .inl ⟨.inr ⟨rfl, rfl⟩, rfl, rfl⟩
      | false => exact .inr (.inr ⟨⟨rfl, rfl, rfl⟩, rfl, rfl⟩)

@[simp] theorem settings_block (jid : String) (i : Inbox) : (i.block jid).settings = i.settings := by
  unfold block
  split <;> rfl

@[simp] theorem settings_unblock (jid : String) (i : Inbox) :
    (i.unblock jid).settings = i.settings := rfl

@[simp] theorem settings_meet (jid : String) (i : Inbox) : (i.meet jid).2.settings = i.settings := by
  unfold meet
  split <;> rfl

@[simp] theorem settings_receive (m : Inbound) (i : Inbox) : (i.receive m).settings = i.settings := by
  obtain ⟨-, h⟩ | ⟨-, -, h⟩ | ⟨-, -, h⟩ := i.receive_cases m <;> simp [h]

@[simp] theorem seen_block (jid : String) (i : Inbox) : (i.block jid).seen = i.seen := by
  unfold block
  split <;> rfl

@[simp] theorem blocked_meet (jid : String) (i : Inbox) : (i.meet jid).2.blocked = i.blocked := by
  unfold meet
  split <;> rfl

theorem meet_fst (jid : String) (i : Inbox) : (i.meet jid).1 = !i.seen.contains jid := by
  unfold meet
  cases i.seen.contains jid <;> rfl

theorem mem_seen_meet {x : String} : x ∈ (i.meet jid).2.seen ↔ x = jid ∨ x ∈ i.seen := by
  unfold meet
  split
  · rename_i hseen
    have hmem : jid ∈ i.seen := List.contains_iff_mem.1 hseen
    exact ⟨.inr, fun h => h.elim (· ▸ hmem) id⟩
  · exact List.mem_cons

theorem mem_blocked_block : c ∈ (i.block jid).blocked ↔ c = Contact.normalize jid ∨ c ∈ i.blocked := by
  unfold block
  split
  · rename_i hblocked
    have hmem : Contact.normalize jid ∈ i.blocked := isBlocked_iff.1 hblocked
    exact ⟨.inr, fun h => h.elim (· ▸ hmem) id⟩
  · exact List.mem_cons

theorem mem_blocked_unblock :
    c ∈ (i.unblock jid).blocked ↔ c ∈ i.blocked ∧ Contact.normalize jid ≠ c := by
  simp [unblock, ne_comm]

theorem mem_blocked_receive : c ∈ (i.receive m).blocked ↔
    Contact.normalize m.jid = c ∧ i.Hears m ∧ i.blocks m = true ∨ c ∈ i.blocked := by
  obtain ⟨hstopped, -, h⟩ | ⟨⟨hignored, hblocks⟩, -, h⟩ | ⟨⟨-, hblocks, -⟩, -, h⟩ := i.receive_cases m
  · rw [h]
    refine ⟨.inr, fun hc => hc.elim ?_ id⟩
    -- a message that should have blocked its chat and was ignored comes from a chat that is blocked
    rintro ⟨rfl, hhears, hblocks⟩
    have hignored : i.isIgnored m = true := hstopped.resolve_right (by simp [hblocks])
    apply isBlocked_iff.1
    by_contra hfree
    rw [isIgnored_eq_false_iff.2 ⟨hhears, Bool.not_eq_true _ ▸ hfree⟩] at hignored
    cases hignored
  · rw [h, mem_blocked_block]
    have hhears := (isIgnored_eq_false_iff.1 hignored).1
    exact or_congr_left ⟨fun hc => ⟨hc.symm, hhears, hblocks⟩, fun hc => hc.1.symm⟩
  · rw [h, blocked_meet, hblocks]
    simp

end Inbox

namespace Desk
variable {σ : Type}

/-- The desk of an inbox that nothing has happened at. -/
def new (s : Settings) (outside : σ) : Desk σ := ⟨.new s, outside, []⟩

/-- What triggers look at in a message, if it passes the screens. -/
def incoming? (d : Desk σ) (m : Inbound) : Option Incoming :=
  if (d.inbox.screen m).1 then some ⟨m.body, !d.inbox.seen.contains m.jid, m.hasMedia⟩ else none

/-- What can happen at an inbox. -/
inductive Turn (σ : Type) where
  | handle (h : Handling σ) (m : Inbound)
  | block (jid : String)
  | unblock (jid : String)

def step (d : Desk σ) : Turn σ → Desk σ
  | .handle h m => (h.handle m d).2
  | .block jid => { d with inbox := d.inbox.block jid }
  | .unblock jid => { d with inbox := d.inbox.unblock jid }

/-- Takes some turns, one after the other. -/
def run (d : Desk σ) (turns : List (Turn σ)) : Desk σ := turns.foldl step d

end Desk

namespace Handling
variable {σ : Type}

/-- A message that passes is matched as one from a chat that is new, or is not; whatever becomes of it, the
inbox has taken it in. -/
theorem handle_eq (h : Handling σ) (m : Inbound) (d : Desk σ) :
    h.handle m d =
      let taken : Desk σ := { d with inbox := d.inbox.receive m }
      match d.incoming? m with
      | none => (.ok .ignored, taken)
      | some x =>
        match Automation.match? h.now x h.store with
        | .error f => (.error f, taken)
        | .ok (some hit) => (.ok .flow, h.run hit m taken)
        | .ok none => h.reply m taken := by
  unfold handle Desk.incoming?
  obtain ⟨-, hscreen, htaken⟩ | ⟨-, hscreen, htaken⟩ | ⟨-, hscreen, htaken⟩ := d.inbox.receive_cases m
  · rw [hscreen, htaken]
    rfl
  · rw [hscreen, htaken]
    rfl
  · rw [hscreen, htaken, ← Inbox.meet_fst]
    rfl

/-- A reply changes what is outside at most. -/
theorem exists_outside_reply (h : Handling σ) (m : Inbound) (d : Desk σ) :
    ∃ outside, (h.reply m d).2 = { d with outside } := by
  unfold reply
  split
  · exact ⟨_, rfl⟩
  · dsimp only
    split
    · exact ⟨_, rfl⟩
    · split
      · unfold sendReply
        split <;> exact ⟨_, rfl⟩
      · exact ⟨_, rfl⟩

theorem inbox_reply (h : Handling σ) (m : Inbound) (d : Desk σ) :
    (h.reply m d).2.inbox = d.inbox := by
  obtain ⟨_, hreply⟩ := h.exists_outside_reply m d
  rw [hreply]

theorem samples_reply (h : Handling σ) (m : Inbound) (d : Desk σ) :
    (h.reply m d).2.samples = d.samples := by
  obtain ⟨_, hreply⟩ := h.exists_outside_reply m d
  rw [hreply]

/-- Flows and replies leave the inbox alone. -/
theorem inbox_handle (h : Handling σ) (m : Inbound) (d : Desk σ) :
    (h.handle m d).2.inbox = d.inbox.receive m := by
  rw [handle_eq]
  dsimp only
  split
  · rfl
  · split
    · rfl
    · rfl
    · exact inbox_reply h m _

end Handling

namespace Desk
variable {σ : Type}

theorem settings_step (d : Desk σ) (t : Turn σ) : (d.step t).inbox.settings = d.inbox.settings := by
  cases t with
  | handle h m => rw [step, Handling.inbox_handle, Inbox.settings_receive]
  | block jid => exact Inbox.settings_block jid d.inbox
  | unblock jid => exact Inbox.settings_unblock jid d.inbox

end Desk
end ChatAutomation
