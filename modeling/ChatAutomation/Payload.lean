import ChatAutomation.Flow.Node
import ChatAutomation.Binary64.Written
import ChatAutomation.Fault

/-!
# Payloads

The payload of a node is its data read for the node's kind. A cleared input is null and means the
default, and a number typed where text is wanted means its written form.
-/
namespace ChatAutomation

/-- Options as an editor gives them: lines of text, or a list. -/
inductive Choices where
  | lines (s : String)
  | items (vs : List Value)
  deriving Repr

def Choices.value : Choices → Value
  | lines s => .text s
  | items vs => .list vs

/-- Headers as an editor gives them: a template, or an object of templates. -/
inductive HeaderSource where
  | template (s : String)
  | entries (es : Entries Value)
  deriving Repr

def HeaderSource.value : HeaderSource → Value
  | template s => .text s
  | entries es => .object es

inductive Payload where
  | trigger (type value : String)
  | sendText (text : String)
  | sendImage (url caption : String)
  | sendAudio (url : String) (voice : Bool)
  | sendVideo (url caption : String)
  | sendPoll (question : String) (options : Choices) (severalChoices : Bool)
  | sendButtons (text : String) (buttons : Choices)
  | aiResponse (prompt : String)
  | delay (seconds : Value)
  | condition (left operator right : String)
  | setVariable (name value : String)
  | httpRequest (url method : String) (headers : HeaderSource) (body : String)
  deriving Repr

namespace Payload

/-- The name of the model of a kind's payload. -/
def modelName : NodeKind → String
  | .trigger => "TriggerData"
  | .sendText => "SendTextData"
  | .sendImage => "SendImageData"
  | .sendAudio => "SendAudioData"
  | .sendVideo => "SendVideoData"
  | .sendPoll => "SendPollData"
  | .sendButtons => "SendButtonsData"
  | .aiResponse => "AiResponseData"
  | .delay => "DelayData"
  | .condition => "ConditionData"
  | .setVariable => "SetVariableData"
  | .httpRequest => "HttpRequestData"

/-- An input that may be left out or cleared. -/
def input {α : Type} (es : Entries Value) (k : String) (default : α) (read : Value → Checked α) :
    Checked α :=
  match es.get? k with
  | none | some .null => .ok default
  | some v => (read v).under (.name k)

/-- A text, or a number in its written form. -/
def typedText : Value → Checked String
  | .int n => .ok (toString n)
  | .float x => .ok x.text
  | v => Schema.text v

/-- A text input. -/
def textInput (es : Entries Value) (k : String) (default : String) : Checked String :=
  input es k default typedText

/-- The issues of a value that is neither of two kinds. -/
def neither (first : String) (a : Problem) (second : String) (b : Problem) : List Issue :=
  [⟨[.name first], a⟩, ⟨[.name second], b⟩]

def readChoices : Value → Checked Choices
  | .text s => .ok (.lines s)
  | .list vs => .ok (.items vs)
  | _ => .issues (neither "str" .notText "list[any]" .notList)

def readHeaders : Value → Checked HeaderSource
  | .text s => .ok (.template s)
  | .object es => .ok (.entries es)
  | _ => .issues (neither "str" .notText "dict[str,any]" .notObject)

/-- The payload of a kind from the data of a node. -/
def ofData (kind : NodeKind) (es : Entries Value) : Checked Payload :=
  match kind with
  | .trigger => trigger <$> textInput es "trigger_type" "" <*> textInput es "trigger_value" ""
  | .sendText => sendText <$> textInput es "text" ""
  | .sendImage => sendImage <$> textInput es "url" "" <*> textInput es "caption" ""
  | .sendAudio => sendAudio <$> textInput es "url" "" <*> input es "ptt" true Schema.switch
  | .sendVideo => sendVideo <$> textInput es "url" "" <*> textInput es "caption" ""
  | .sendPoll =>
    sendPoll <$> textInput es "question" "" <*> input es "options" (.lines "") readChoices
      <*> input es "multiSelect" false Schema.switch
  | .sendButtons =>
    sendButtons <$> textInput es "text" "" <*> input es "buttons" (.lines "") readChoices
  | .aiResponse => aiResponse <$> textInput es "prompt" ""
  | .delay => delay <$> input es "seconds" .null .ok
  | .condition =>
    condition <$> textInput es "left" "" <*> textInput es "operator" "==" <*> textInput es "right" ""
  | .setVariable => setVariable <$> textInput es "name" "" <*> textInput es "value" ""
  | .httpRequest =>
    httpRequest <$> textInput es "url" "" <*> textInput es "method" "GET"
      <*> input es "headers" (.template "") readHeaders <*> textInput es "body" ""

/-- The declared inputs and their values. -/
def fields : Payload → Entries Value
  | trigger t v => [("trigger_type", .text t), ("trigger_value", .text v)]
  | sendText t => [("text", .text t)]
  | sendImage u c | sendVideo u c => [("url", .text u), ("caption", .text c)]
  | sendAudio u v => [("url", .text u), ("ptt", .bool v)]
  | sendPoll q o s => [("question", .text q), ("options", o.value), ("multiSelect", .bool s)]
  | sendButtons t b => [("text", .text t), ("buttons", b.value)]
  | aiResponse p => [("prompt", .text p)]
  | delay s => [("seconds", s)]
  | condition l o r => [("left", .text l), ("operator", .text o), ("right", .text r)]
  | setVariable n v => [("name", .text n), ("value", .text v)]
  | httpRequest u m h b =>
    [("url", .text u), ("method", .text m), ("headers", h.value), ("body", .text b)]

/-- The inputs together with the keys of the data that are none. -/
def allFields (p : Payload) (data : Entries Value) : Entries Value :=
  p.fields ++ data.filter fun e => !(p.fields.has e.1)

/-- The payload of a node of the given kind. -/
def ofNode (kind : NodeKind) (n : Node) : Except Fault Payload :=
  match ofData kind n.data with
  | .ok p => .ok p
  | .issues is => .error (.invalid (modelName kind) is)

end Payload
end ChatAutomation
