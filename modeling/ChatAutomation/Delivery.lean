import ChatAutomation.Action
import ChatAutomation.Breaker
import ChatAutomation.Contact
import ChatAutomation.Delivery.Body
import ChatAutomation.Value.Lookup

/-!
# Delivery

Messages go out as requests to a server, behind a breaker. A request is repeated when the connection
fails, at most twice and after a pause each time; what the server answers is never repeated.
-/
namespace ChatAutomation

/-- A request that posts a JSON body. -/
structure Post where
  url : String
  body : Entries Value
  headers : Entries String
  deriving Repr

/-- How posts get to their server. -/
structure Carrier (σ : Type) where
  post : Post → σ → Except Fault Response × σ
  sleep : Value → σ → Except Fault Unit × σ

/-- The account on whose behalf messages are delivered. -/
structure Account where
  token : Option String
  phoneId : Option String
  baseUrl : String
  deriving DecidableEq, Repr

/-- The JSON value of a response. -/
def Response.json (r : Response) : Except Fault Value :=
  (Json.parseBody r.body).mapError fun (document, cause) => .malformedJson document cause

/-- The state of a delivery service. -/
structure Deliveries (σ : Type) where
  breaker : Breaker
  outside : σ
  samples : List Sample

namespace Delivery

def breaker : Breaker := .new { name := "whatsapp" }

/-- The seconds to wait before the second and the third attempt. -/
def pauses : List Nat := [2, 4]

/-- Posts once, if the breaker lets it through. The clock is part of what is outside: it moves while a
post is under way, and while a pause lasts. -/
def attempt {σ : Type} (c : Carrier σ) (clock : σ → Binary64) (p : Post) (d : Deliveries σ) :
    Except Fault Response × Deliveries σ :=
  let (outcome, breaker, outside) := d.breaker.callBy clock (c.post p) d.outside
  (outcome, { d with breaker, outside })

/-- Posts, and again after each pause while the connection fails. -/
def post {σ : Type} (c : Carrier σ) (clock : σ → Binary64) (p : Post) :
    List Nat → Deliveries σ → Except Fault Response × Deliveries σ
  | [], d => attempt c clock p d
  | seconds :: later, d =>
    match attempt c clock p d with
    | (.error (.connection _ _), d) =>
      match c.sleep (.float (.ofDecimal false seconds 0)) d.outside with
      | (.ok (), outside) => post c clock p later { d with outside }
      | (.error f, outside) => (.error f, { d with outside })
    | done => done

/-- The id that the server gave to a message. -/
def messageId (r : Response) : Except Fault Value := do
  let messages ← (← r.json).entry "messages" (.list [.object []])
  (← messages.first).entry "id" .null

def unknownError : Value := .text "Unknown error"

/-- Why the server refused a message, from the JSON of its answer. -/
def refusalOf (answer : Value) : Except Fault Value := do
  (← answer.inner "error").entry "message" unknownError

/-- Why the server refused a message. An answer that is no JSON is given as it is. -/
def refusal (r : Response) : Except Fault Value :=
  match r.json with
  | .ok answer => refusalOf answer
  | .error (.malformedJson document cause) =>
    if cause.isDeep then .error (.malformedJson document cause)
    else .ok (if r.body.isEmpty then unknownError else .text r.body)
  | .error f => .error f

/-- The status of a response that accepts a message. -/
def accepted : Int := 200

/-- What the answer of the server means, and whether the message counts as sent or as failed. -/
def conclude (phone : String) (r : Response) : Except Fault Value × Option Bool :=
  if r.status = accepted then
    match messageId r with
    | .ok id => (.ok id, some true)
    | .error f => (.error f, none)
  else
    match refusal r with
    | .ok detail => (.error (.sendRefused phone r.status detail.plain), some false)
    | .error f => (.error f, none)

/-- A credential, if it is there and not empty. -/
def credential (s : Option String) : Option String := s.filter fun s => !s.isEmpty

/-- The post of a body on behalf of an account. -/
def postOf (a : Account) (es : Entries Value) : Except Fault Post :=
  let recipient := (Entries.get? es "to").getD .null
  if !recipient.isGiven then .error (.sendRefused recipient.plain 0 "missing recipient")
  else
    match credential a.token, credential a.phoneId with
    | some token, some phoneId =>
      .ok {
        url := s!"{a.baseUrl}/{phoneId}/messages"
        body := es
        headers := [("Authorization", s!"Bearer {token}"), ("Content-Type", "application/json")] }
    | _, _ => .error (.sendRefused recipient.plain 0 "WhatsApp credentials are not configured")

/-- Delivers a body by a clock and gives the id of the message. -/
def deliverBy {σ : Type} (a : Account) (c : Carrier σ) (clock : σ → Binary64) (es : Entries Value)
    (d : Deliveries σ) : Except Fault Value × Deliveries σ :=
  match postOf a es with
  | .error f => (.error f, d)
  | .ok p =>
    match post c clock p pauses d with
    | (.error f, d) => (.error f, d)
    | (.ok r, d) =>
      let plainOf (k : String) := ((Entries.get? es k).getD .null).plain
      let (outcome, counted) := conclude (plainOf "to") r
      let samples := (counted.map fun sent => Sample.delivery (plainOf "type") sent).toList
      (outcome, { d with samples := d.samples ++ samples })

/-- Delivers a body while the clock stands still. -/
def deliver {σ : Type} (a : Account) (c : Carrier σ) (now : Binary64) (es : Entries Value)
    (d : Deliveries σ) : Except Fault Value × Deliveries σ :=
  deliverBy a c (fun _ => now) es d

/-- Sends a message to a chat. -/
def send {σ : Type} (a : Account) (c : Carrier σ) (now : Binary64) (jid : Value) (m : Message)
    (d : Deliveries σ) : Except Fault Value × Deliveries σ :=
  match jid.textFor "split" with
  | .ok jid => deliver a c now (body (Contact.phone jid) m) d
  | .error f => (.error f, d)

end Delivery
end ChatAutomation
