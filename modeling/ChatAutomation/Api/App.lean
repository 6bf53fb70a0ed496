import ChatAutomation.Api.Route
import ChatAutomation.Api.Webhook
import ChatAutomation.Delivery
import ChatAutomation.Inbox
import ChatAutomation.Responder
import ChatAutomation.Warning

/-!
# The application

The application keeps a store of flows, an inbox and a delivery service. Editors call it to list and
change flows; the server of the messenger calls it with messages, which are handled after the call
has been answered.
-/
namespace ChatAutomation

/-- How the application reaches other servers. -/
structure Network (σ : Type) where
  carrier : Carrier σ
  fetch : Request → σ → Except Fault Response × σ

structure App (σ : Type) where
  settings : Settings
  account : Account
  store : Store
  inbox : Inbox
  deliveries : Deliveries σ
  samples : List Sample

namespace App
variable {σ : Type}

def healthVersion : String := "1.0.0"

/-- Does something outside of the delivery service. -/
def outside {α : Type} (f : σ → α × σ) (d : Deliveries σ) : α × Deliveries σ :=
  let (a, outside) := f d.outside
  (a, { d with outside })

/-- The collaborators of flows: messages go through the delivery service, and there are no providers
of replies. -/
def collaborators (net : Network σ) (a : Account) (clock : Binary64) :
    Collaborators (Deliveries σ) where
  send jid m d :=
    let (outcome, d) := Delivery.send a net.carrier clock jid m d
    (outcome.map fun _ => (), d)
  respond prompt message d :=
    let (answer, s) := Responder.respond clock prompt message ⟨[], d, []⟩
    (.ok (.text answer), s.outside)
  fetch q := outside (net.fetch q)
  sleep v := outside (net.carrier.sleep v)

def defaultDelay : Value := .float (.ofDecimal false 1 0)

/-- An answer that wraps data. -/
def success (now : Timestamp) (message : String) (data : Option (Entries Value)) : Answer :=
  let e : Envelope := ⟨true, message, data, now, Route.apiVersion⟩
  .json 200 (.object e.fields)

def notFound : Answer := .refusal 404 "Flow not found"

/-- The answer to what may fail. -/
def orFailure {α : Type} (f : α → Answer) : Except Fault α → Answer
  | .ok a => f a
  | .error _ => .failure

def listFlows (now : Timestamp) (a : App σ) : Answer :=
  orFailure (fun fs => success now "Flows retrieved successfully"
    (some [("flows", .list (fs.map Flow.bodyValue))])) (a.store.list now)

def getFlow (now : Timestamp) (id : String) (a : App σ) : Answer :=
  orFailure (fun f => match f with
    | some f => success now "Flow retrieved successfully" (some [("flow", f.bodyValue)])
    | none => notFound) (a.store.get now id)

def warningValue (w : Warning) : Value :=
  .object [("is_valid", .bool false), ("error_code", .text w.code), ("message", .text w.message)]

/-- Saves a flow and tells what is wrong with it. -/
def saveFlow (now : Timestamp) (c : Call) (a : App σ) : Answer × App σ :=
  match c.read FlowUpdate.read with
  | .error answer => (answer, a)
  | .ok u =>
    match Automation.save now u a.store with
    | .error _ => (.failure, a)
    | .ok (none, store) => (notFound, { a with store })
    | .ok (some f, store) =>
      (orFailure (fun ws => success now "Flow saved successfully"
        (some [("flow", f.bodyValue), ("warnings", .list (ws.map warningValue))])) f.warnings,
        { a with store })

def deleteFlow (now : Timestamp) (id : String) (a : App σ) : Answer × App σ :=
  match a.store.delete id with
  | .error _ => (.failure, a)
  | .ok (found, store) =>
    (if found then success now "Flow deleted successfully" none else notFound, { a with store })

def toggleFlow (now : Timestamp) (id : String) (c : Call) (a : App σ) : Answer × App σ :=
  match c.read Toggle.read with
  | .error answer => (answer, a)
  | .ok t =>
    match a.store.setEnabled id t.enabled with
    | .error _ => (.failure, a)
    | .ok (found, store) =>
      (if found then
          success now (if t.enabled then "Flow enabled" else "Flow disabled")
            (some [("id", .text id), ("enabled", .bool t.enabled)])
        else notFound,
        { a with store })

def verifyWebhook (c : Call) (a : App σ) : Answer :=
  if Webhook.verifies a.settings.verifyToken c.query then
    .given 200 (.text ((c.query.get? "hub.challenge").getD ""))
  else .refusal 403 "Forbidden"

/-- Handles a message; what fails is not seen outside. -/
def handleMessage (net : Network σ) (now : Timestamp) (clock : Binary64) (m : Inbound) (a : App σ) :
    App σ :=
  let engine : Engine (Deliveries σ) := ⟨collaborators net a.account clock, defaultDelay⟩
  let h : Handling (Deliveries σ) := ⟨now, a.store, engine, engine.collaborators.respond⟩
  let (_, d) := h.handle m ⟨a.inbox, a.deliveries, []⟩
  { a with inbox := d.inbox, deliveries := d.outside, samples := a.samples ++ d.samples }

/-- Takes in a bundle of messages. They are handled in order, also those in front of a part that
does not have the expected form. -/
def receive (net : Network σ) (now : Timestamp) (clock : Binary64) (c : Call) (a : App σ) :
    Answer × App σ :=
  match c.anyDocument with
  | .error _ => (.failure, a)
  | .ok data =>
    let (messages, fault) := Webhook.messages a.settings.phoneId data
    let answer := match fault with
      | some _ => .failure
      | none => .json 200 (.object [("status", .text "success"), ("scheduled", .int messages.length)])
    (answer, messages.foldl (fun a m => a.handleMessage net now clock m) a)

def health : Answer :=
  .json 200 (.object [("status", .text "healthy"), ("version", .text healthVersion)])

/-- Answers a call on a route. -/
def serve (net : Network σ) (now : Timestamp) (clock : Binary64) (c : Call) (r : Route)
    (a : App σ) : Answer × App σ :=
  match r with
  | .health => (health, a)
  | .metrics | .manual => (.given 200 (.text ""), a)
  | .flows => if c.method = "POST" then a.saveFlow now c else (a.listFlows now, a)
  | .flow id => if c.method = "DELETE" then a.deleteFlow now id else (a.getFlow now id, a)
  | .toggle id => a.toggleFlow now id c
  | .webhook =>
    if c.method = "POST" then a.receive net now clock c else (a.verifyWebhook c, a)

/-- Answers a call; one that asks for the head of an answer gets no body. -/
def answer (net : Network σ) (now : Timestamp) (clock : Binary64) (c : Call) (a : App σ) :
    Answer × App σ :=
  let (answer, a) := match Route.ofCall c with
    | .ok r => a.serve net now clock c r
    | .error refused => (refused, a)
  (if c.method = "HEAD" then answer.headOnly else answer, a)

end App
end ChatAutomation
