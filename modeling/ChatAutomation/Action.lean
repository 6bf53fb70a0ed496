import ChatAutomation.Condition
import ChatAutomation.Delay
import ChatAutomation.Headers
import ChatAutomation.Message
import ChatAutomation.Metric
import ChatAutomation.Options
import ChatAutomation.Payload
import ChatAutomation.Text.Case

/-!
# Actions

The effect of one node. What a node needs from outside goes through collaborators, which change a
state of their own; the node itself changes the variables of its run. Executing a node always gives
a result: a fault is part of it.
-/
namespace ChatAutomation

/-- A request to another server. -/
structure Request where
  url : String
  method : String
  headers : Entries String
  body : Option String
  deriving DecidableEq, Repr

structure Response where
  status : Int
  body : String
  deriving DecidableEq, Repr

/-- What actions need from outside, over the state `σ` of what is outside. -/
structure Collaborators (σ : Type) where
  send : Value → Message → σ → Except Fault Unit × σ
  respond : String → String → σ → Except Fault Value × σ
  fetch : Request → σ → Except Fault Response × σ
  sleep : Value → σ → Except Fault Unit × σ

namespace Variables

def jid : String := "_jid"
def message : String := "_message"
def timestamp : String := "_timestamp"
def conditionResult : String := "_conditionResult"
def aiResponse : String := "_aiResponse"
def httpResponse : String := "_httpResponse"
def httpStatus : String := "_httpStatus"

/-- The variables at the start of a run; the reserved ones win over those that were given. -/
def seed (jidValue body stamp : Value) (initial : Variables) : Variables :=
  (((Entries.ofList initial).put jid jidValue).put message body).put timestamp stamp

end Variables

/-- The state of a run: its variables, what is outside, and what was counted. -/
structure Run (σ : Type) where
  vars : Variables
  outside : σ
  samples : List Sample

namespace Run
variable {σ : Type}

def set (r : Run σ) (k : String) (v : Value) : Run σ := { r with vars := r.vars.put k v }

def count (r : Run σ) (s : Sample) : Run σ := { r with samples := r.samples ++ [s] }

/-- Asks a collaborator. -/
def ask {α : Type} (call : σ → Except Fault α × σ) (r : Run σ) : Except Fault α × Run σ :=
  let (answer, outside) := call r.outside
  (answer, { r with outside })

end Run

/-- How actions are carried out: by whom, and how long a delay takes that does not say so. -/
structure Engine (σ : Type) where
  collaborators : Collaborators σ
  defaultDelay : Value

/-- What became of a node. -/
structure NodeResult where
  id : String
  type : String
  error : Option String
  deriving DecidableEq, Repr

def NodeResult.ok (r : NodeResult) : Bool := r.error.isNone

namespace Engine
variable {σ : Type}

def defaultPrompt : String := "Responda à mensagem do usuário."

def defaultVariable : String := "var"

def orElse (s default : String) : String := if s.isEmpty then default else s

/-- Sends a message to the chat that the variables name. -/
def send (e : Engine σ) (m : Message) (r : Run σ) : Except Fault Unit × Run σ :=
  r.ask (e.collaborators.send ((r.vars.get? Variables.jid).getD (.text "")) m)

/-- The message that a payload sends, if it is of a kind that does. -/
def message? (vars : Variables) : Payload → Option Message
  | .sendText t => some (.text (Template.interpolateText t vars))
  | .sendImage u c =>
    some (.image (Template.interpolateText u vars) (Template.interpolateText c vars))
  | .sendAudio u voice =>
    some (.audio (Template.interpolateText u vars) Message.defaultMimetype voice)
  | .sendVideo u c =>
    some (.video (Template.interpolateText u vars) (Template.interpolateText c vars))
  | .sendPoll q options several =>
    some (.poll (Template.interpolateText q vars)
      ((Options.split options.value).map fun o => Template.interpolateText o vars)
      (if several then 0 else 1))
  | .sendButtons t labels =>
    let titles := (Options.split labels.value).map fun l => Template.interpolateText l vars
    some (.buttons (Template.interpolateText t vars)
      (titles.mapIdx fun i title => ⟨s!"btn_{i}", title⟩) Message.defaultFooter)
  | _ => none

/-- A reply as a message; only text can be sent. -/
def replyMessage : Value → Except Fault Message
  | .text s => .ok (.text s)
  | _ => .error (.invalid Message.Kind.text.modelName [⟨[.name "text"], .notText⟩])

/-- Asks for a reply, stores it and sends it. -/
def reply (e : Engine σ) (prompt : String) (r : Run σ) : Except Fault Unit × Run σ :=
  let prompt := Template.interpolateText (orElse prompt defaultPrompt) r.vars
  let said := (r.vars.get? Variables.message).getD .null
  match r.ask (e.collaborators.respond prompt (if said.isGiven then said.plain else "")) with
  | (.error f, r) => (.error f, r)
  | (.ok answer, r) =>
    let r := r.set Variables.aiResponse answer
    match replyMessage answer with
    | .ok m => e.send m r
    | .error f => (.error f, r)

/-- The request of a payload. -/
def request (url method : String) (headers : HeaderSource) (body : String) (vars : Variables) :
    Except Fault Request :=
  (Headers.build headers.value vars).map fun headers =>
    { url := Template.interpolateText url vars
      method := Text.upper (orElse method "GET")
      headers
      body := if body.isEmpty then none else some (Template.interpolateText body vars) }

def fetch (e : Engine σ) (q : Request) (r : Run σ) : Except Fault Unit × Run σ :=
  match r.ask (e.collaborators.fetch q) with
  | (.error f, r) => (.error f, r)
  | (.ok answer, r) =>
    (.ok (), (r.set Variables.httpResponse (.text answer.body)).set Variables.httpStatus
      (.int answer.status))

def wait (e : Engine σ) (seconds : Value) (r : Run σ) : Except Fault Unit × Run σ :=
  match Delay.seconds seconds e.defaultDelay with
  | .ok s => r.ask (e.collaborators.sleep s)
  | .error () => (.error .hugeDelay, r)

/-- Carries out a payload. -/
def perform (e : Engine σ) (p : Payload) (r : Run σ) : Except Fault Unit × Run σ :=
  match message? r.vars p with
  | some m => e.send m r
  | none =>
    match p with
    | .aiResponse prompt => e.reply prompt r
    | .delay seconds => e.wait seconds r
    | .condition left operator right =>
      let holds := compareTexts (Template.interpolateText left r.vars) (orElse operator "==")
        (Template.interpolateText right r.vars)
      (.ok (), r.set Variables.conditionResult (.bool holds))
    | .setVariable name value =>
      (.ok (), r.set (orElse name defaultVariable)
        (.text (Template.interpolateText value r.vars)))
    | .httpRequest url method headers body =>
      match request url method headers body r.vars with
      | .ok q => e.fetch q r
      | .error f => (.error f, r)
    | _ => (.ok (), r)

/-- Reads the payload of a node and carries it out. -/
def attempt (e : Engine σ) (kind : NodeKind) (n : Node) (r : Run σ) : Except Fault Unit × Run σ :=
  match Payload.ofNode kind n with
  | .ok p => e.perform p r
  | .error f => (.error f, r)

/-- Executes a node. A node of unknown kind is skipped. -/
def execute (e : Engine σ) (n : Node) (r : Run σ) : NodeResult × Run σ :=
  match n.kind? with
  | none => (⟨n.id, n.kindName, none⟩, r.count (.node "unknown" .skipped))
  | some kind =>
    match e.attempt kind n r with
    | (.ok (), r) => (⟨n.id, kind.name, none⟩, r.count (.node kind.name .success))
    | (.error f, r) => (⟨n.id, kind.name, some f.report⟩, r.count (.node kind.name .error))

end Engine
end ChatAutomation
