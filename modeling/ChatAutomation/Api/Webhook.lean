import ChatAutomation.Api.Call
import ChatAutomation.Message.Notification
import ChatAutomation.Settings

/-!
# The webhook

The server reports messages in bundles: entries with changes, whose values hold the messages and the
phone that they were sent to. Messages are gathered in order, up to the first part that does not
have the expected form.
-/
namespace ChatAutomation.Webhook

/-- The messages that were gathered, and what ended it early. -/
abbrev Gathered := List Inbound × Option Fault

/-- Gathers from each part after the other. -/
def gather (f : Value → Gathered) : List Value → Gathered
  | [] => ([], none)
  | v :: vs =>
    match f v with
    | (ms, some e) => (ms, some e)
    | (ms, none) =>
      let (later, e) := gather f vs
      (ms ++ later, e)

/-- Gathers from the items of an entry of a value. -/
def gatherEntry (k : String) (f : Value → Gathered) (v : Value) : Gathered :=
  match v.entry k (.list []) >>= Value.items with
  | .ok vs => gather f vs
  | .error e => ([], some e)

def ofMessage (v : Value) : Gathered :=
  match Notification.message? v with
  | .ok m => (m.toList, none)
  | .error e => ([], some e)

/-- Were the messages sent to another phone than the one given? -/
def isForeign (phoneId : Option String) (v : Value) : Except Fault Bool := do
  let incoming ← (← v.inner "metadata").entry "phone_number_id" .null
  if !incoming.isGiven || !Settings.isSet phoneId then return false
  match incoming with
  | .text s => return some s != phoneId
  | _ => return true

def ofValue (phoneId : Option String) (v : Value) : Gathered :=
  match isForeign phoneId v with
  | .ok true => ([], none)
  | .ok false => gatherEntry "messages" ofMessage v
  | .error e => ([], some e)

/-- A change of messages; there are others, which are passed over. -/
def ofChange (phoneId : Option String) (change : Value) : Gathered :=
  match change.entry "field" .null with
  | .ok (.text "messages") =>
    match change.entry "value" (.object []) with
    | .ok v => ofValue phoneId v
    | .error e => ([], some e)
  | .ok _ => ([], none)
  | .error e => ([], some e)

/-- The messages of a bundle for the given phone. -/
def messages (phoneId : Option String) : Value → Gathered :=
  gatherEntry "entry" (gatherEntry "changes" (ofChange phoneId))

/-- Does a call to verify the webhook know the token? -/
def verifies (token : Option String) (query : Entries String) : Bool :=
  query.get? "hub.mode" == some "subscribe" && Settings.isSet token &&
    query.get? "hub.verify_token" == token

end ChatAutomation.Webhook
