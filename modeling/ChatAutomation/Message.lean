import ChatAutomation.Schema

/-!
# Messages

Messages that flows send, whatever carries them, and the inbound message reduced to what routing
needs.
-/
namespace ChatAutomation

structure Button where
  id : String
  title : String
  deriving DecidableEq, Repr

inductive Message where
  | text (text : String)
  | image (url caption : String)
  | audio (url mimetype : String) (voice : Bool)
  | video (url caption : String)
  /-- A count of zero allows any number of choices. -/
  | poll (name : String) (values : List String) (selectable : Int)
  | buttons (text : String) (buttons : List Button) (footer : String)
  deriving DecidableEq, Repr

namespace Button

def modelName : String := "Button"

def ofEntries (es : Entries Value) : Checked Button :=
  Button.mk <$> Schema.required es "button_id" Schema.text
    <*> Schema.required es "display_text" Schema.text

def read : Value → Checked Button := Schema.model modelName ofEntries

def fields (b : Button) : Entries Value :=
  [("button_id", .text b.id), ("display_text", .text b.title)]

end Button

namespace Message

/-- The kinds of messages. -/
inductive Kind where
  | text
  | image
  | audio
  | video
  | poll
  | buttons
  deriving DecidableEq, Repr

namespace Kind

def name : Kind → String
  | text => "text"
  | image => "image"
  | audio => "audio"
  | video => "video"
  | poll => "poll"
  | buttons => "buttons"

def ofName? (s : String) : Option Kind :=
  [text, image, audio, video, poll, buttons].find? fun k => k.name == s

def modelName : Kind → String
  | text => "TextMessage"
  | image => "ImageMessage"
  | audio => "AudioMessage"
  | video => "VideoMessage"
  | poll => "PollMessage"
  | buttons => "ButtonsMessage"

end Kind

def kind : Message → Kind
  | text _ => .text
  | image .. => .image
  | audio .. => .audio
  | video .. => .video
  | poll .. => .poll
  | buttons .. => .buttons

def defaultMimetype : String := "audio/mpeg"

def defaultFooter : String := "Bot Automation"

def withCaption (make : String → String → Message) (es : Entries Value) : Checked Message :=
  make <$> Schema.required es "url" Schema.text <*> Schema.optional es "caption" Schema.text ""

/-- A message of a kind from its fields; the kind itself may be among them. -/
def ofEntries (k : Kind) (es : Entries Value) : Checked Message :=
  (fun _ m => m) <$> Schema.constant es "kind" k.name <*>
    match k with
    | .text => text <$> Schema.required es "text" Schema.text
    | .image => withCaption image es
    | .audio =>
      audio <$> Schema.required es "url" Schema.text
        <*> Schema.optional es "mimetype" Schema.text defaultMimetype
        <*> Schema.optional es "ptt" Schema.switch true
    | .video => withCaption video es
    | .poll =>
      poll <$> Schema.required es "name" Schema.text
        <*> Schema.optional es "values" (Schema.listOf Schema.text) []
        <*> Schema.optional es "selectable_count" Schema.count 1
    | .buttons =>
      buttons <$> Schema.required es "text" Schema.text
        <*> Schema.optional es "buttons" (Schema.listOf Button.read) []
        <*> Schema.optional es "footer" Schema.text defaultFooter

def read (k : Kind) : Value → Checked Message := Schema.model k.modelName (ofEntries k)

def fields (m : Message) : Entries Value :=
  ("kind", .text m.kind.name) ::
    match m with
    | text t => [("text", .text t)]
    | image u c | video u c => [("url", .text u), ("caption", .text c)]
    | audio u mt v => [("url", .text u), ("mimetype", .text mt), ("ptt", .bool v)]
    | poll n vs c =>
      [("name", .text n), ("values", .list (vs.map .text)), ("selectable_count", .int c)]
    | buttons t bs f =>
      [("text", .text t), ("buttons", .list (bs.map fun b => .object b.fields)),
        ("footer", .text f)]

end Message

structure Inbound where
  jid : String
  body : String
  hasMedia : Bool
  fromMe : Bool
  isGroup : Bool
  messageId : Option String
  deriving DecidableEq, Repr

namespace Inbound

def modelName : String := "InboundMessage"

def ofEntries (es : Entries Value) : Checked Inbound :=
  Inbound.mk <$> Schema.required es "jid" Schema.text
    <*> Schema.optional es "body" Schema.text ""
    <*> Schema.optional es "has_media" Schema.switch false
    <*> Schema.optional es "from_me" Schema.switch false
    <*> Schema.optional es "is_group" Schema.switch false
    <*> Schema.optional es "message_id" (Schema.nullable Schema.text) none

def read : Value → Checked Inbound := Schema.model modelName ofEntries

def fields (m : Inbound) : Entries Value :=
  [("jid", .text m.jid), ("body", .text m.body), ("has_media", .bool m.hasMedia),
    ("from_me", .bool m.fromMe), ("is_group", .bool m.isGroup),
    ("message_id", match m.messageId with
      | some s => .text s
      | none => .null)]

end Inbound
end ChatAutomation
