import ChatAutomation.Automation
import ChatAutomation.Contact
import ChatAutomation.Settings

/-!
# The inbox

Every incoming message is screened first: groups, blocked contacts and one's own messages are left
alone, and the block word blocks a contact. What passes starts a flow, or is answered with a reply.
-/
namespace ChatAutomation

/-- What the inbox remembers: its settings, the chats that have written, and who is blocked. -/
structure Inbox where
  settings : Settings
  seen : List String
  blocked : List String

/-- What became of a message. -/
inductive Handled where
  | flow
  | reply
  | ignored
  deriving DecidableEq, Repr

def Handled.name : Handled → String
  | flow => "flow"
  | reply => "ai"
  | ignored => "ignored"

namespace Inbox

def new (s : Settings) : Inbox := ⟨s, [], Contact.ofList s.blockedContacts⟩

/-- The groups that are answered, if there is a choice of them. -/
def allowedGroups (i : Inbox) : List String := Contact.ofList i.settings.allowedGroups

/-- The word by which a contact asks not to be answered. -/
def blockWord (i : Inbox) : String := Text.trim (Text.lower i.settings.blockWord)

def isBlocked (jid : String) (i : Inbox) : Bool := i.blocked.contains (Contact.normalize jid)

def block (jid : String) (i : Inbox) : Inbox :=
  if i.isBlocked jid then i else { i with blocked := Contact.normalize jid :: i.blocked }

def unblock (jid : String) (i : Inbox) : Inbox :=
  { i with blocked := i.blocked.filter fun c => c != Contact.normalize jid }

/-- Is a message from a group that is not answered? -/
def isForeignGroup (i : Inbox) (m : Inbound) : Bool :=
  (m.isGroup || Contact.isGroup m.jid) &&
    (!i.settings.respondGroups ||
      (!i.allowedGroups.isEmpty && !i.allowedGroups.contains (Contact.normalize m.jid)))

/-- Is a message left alone whatever it says? -/
def isIgnored (i : Inbox) (m : Inbound) : Bool :=
  m.jid.isEmpty || Contact.isIgnored m.jid || !i.settings.autoReply || i.isForeignGroup m ||
    i.isBlocked m.jid

/-- Does the text of a message block its chat? One's own has to be the block word alone. -/
def blocks (i : Inbox) (m : Inbound) : Bool :=
  let text := Text.trim (Text.lower m.body)
  !i.blockWord.isEmpty &&
    if m.fromMe then text == i.blockWord else Text.contains text i.blockWord

/-- Does a message pass? The block word may block its chat. -/
def screen (m : Inbound) (i : Inbox) : Bool × Inbox :=
  if i.isIgnored m then (false, i)
  else if i.blocks m then (false, i.block m.jid)
  else (!m.fromMe, i)

/-- Notes that a chat has written, and tells whether it had not before. -/
def meet (jid : String) (i : Inbox) : Bool × Inbox :=
  if i.seen.contains jid then (false, i) else (true, { i with seen := jid :: i.seen })

end Inbox

/-- The state that a message meets: the inbox, what is outside, and what was counted. -/
structure Desk (σ : Type) where
  inbox : Inbox
  outside : σ
  samples : List Sample

/-- How messages are handled: at what time, on which store, by whom flows are run and who replies
where none matches. -/
structure Handling (σ : Type) where
  now : Timestamp
  store : Store
  engine : Engine σ
  respond : String → String → σ → Except Fault Value × σ

namespace Handling
variable {σ : Type}

/-- Sends a reply. Where that fails, the message has been ignored. -/
def sendReply (h : Handling σ) (jid : String) (answer : Value) (d : Desk σ) : Handled × Desk σ :=
  match Engine.replyMessage answer with
  | .error _ => (.ignored, d)
  | .ok m =>
    let (outcome, outside) := h.engine.collaborators.send (.text jid) m d.outside
    (if outcome.isOk then .reply else .ignored, { d with outside })

/-- Answers a message that starts no flow. -/
def reply (h : Handling σ) (m : Inbound) (d : Desk σ) : Except Fault Handled × Desk σ :=
  if m.body.isEmpty then (.ok .ignored, d)
  else
    let (answer, outside) := h.respond d.inbox.settings.agentPrompt m.body d.outside
    let d := { d with outside }
    match answer with
    | .error f => (.error f, d)
    | .ok answer =>
      if answer.isGiven then
        let (outcome, d) := h.sendReply m.jid answer d
        (.ok outcome, d)
      else (.ok .ignored, d)

/-- Runs the flow that a message starts. -/
def run (h : Handling σ) (hit : TriggerMatch) (m : Inbound) (d : Desk σ) : Desk σ :=
  let (_, r) := Automation.execute h.now h.engine hit.flow (.text m.jid) (.text m.body)
    (some hit.node.id) [] d.outside
  { d with outside := r.outside, samples := d.samples ++ hit.sample :: r.samples }

/-- Handles a message. -/
def handle (h : Handling σ) (m : Inbound) (d : Desk σ) : Except Fault Handled × Desk σ :=
  let (passes, inbox) := d.inbox.screen m
  let d := { d with inbox }
  if !passes then (.ok .ignored, d)
  else
    let (isFirst, inbox) := d.inbox.meet m.jid
    let d := { d with inbox }
    match Automation.match? h.now ⟨m.body, isFirst, m.hasMedia⟩ h.store with
    | .error f => (.error f, d)
    | .ok (some hit) => (.ok .flow, h.run hit m d)
    | .ok none => h.reply m d

end Handling
end ChatAutomation
