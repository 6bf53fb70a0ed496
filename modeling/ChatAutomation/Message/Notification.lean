import ChatAutomation.Message
import ChatAutomation.Value.Lookup
import ChatAutomation.Value.Written

/-!
# Notifications

The server notifies the application of messages, each as an object whose form depends on its kind.
-/
namespace ChatAutomation.Notification

/-- The kinds of messages that carry a file. -/
def mediaKinds : List String := ["image", "video", "audio", "document", "sticker"]

def defaultKind : Value := .text "text"

/-- Is a kind one of those that carry a file? A list or an object cannot be one of anything. -/
def isMedia : Value → Except Fault Bool
  | .text s => .ok (mediaKinds.contains s)
  | .list _ => .error (.misused "list" .hashing)
  | .object _ => .error (.misused "dict" .hashing)
  | _ => .ok false

/-- An entry of a part of a message. -/
def partEntry (part k : String) (v : Value) : Except Fault Value := do
  (← v.inner part).entry k (.text "")

/-- The title of the button or the row that was tapped. -/
def tappedTitle (v : Value) : Except Fault Value := do
  let interactive ← v.inner "interactive"
  let button ← interactive.entry "button_reply" .null
  let reply ← if button.isGiven then pure button else interactive.inner "list_reply"
  reply.entry "title" (.text "")

/-- The text of a message of the given kind, and whether it carries a file. -/
def bodyOf (kind v : Value) : Except Fault (Value × Bool) :=
  match kind with
  | .text "text" => (partEntry "text" "body" v).map (·, false)
  | kind => do
    if ← isMedia kind then return (← partEntry kind.plain "caption" v, true)
    match kind with
    | .text "interactive" => return (← tappedTitle v, false)
    | .text "button" => return (← partEntry "button" "text" v, false)
    | _ => return (.text "", false)

/-- The message of a notification; there is none without a sender. -/
def message? (v : Value) : Except Fault (Option Inbound) := do
  let sender ← v.entry "from" .null
  if !sender.isGiven then return none
  let kind ← v.entry "type" defaultKind
  let (body, hasMedia) ← bodyOf kind v
  let id ← v.entry "id" .null
  let given : Entries Value :=
    [("jid", sender), ("body", if body.isGiven then body else .text ""),
      ("has_media", .bool hasMedia), ("message_id", id)]
  match Inbound.ofEntries given with
  | .ok m => return some m
  | .issues is => throw (.invalid Inbound.modelName is)

end ChatAutomation.Notification
