import ChatAutomation.Flow

/-!
# Envelopes

The body in which an answer is given: whether it succeeded, a message, data and the time.
-/
namespace ChatAutomation

structure Envelope where
  success : Bool
  message : String
  data : Option (Entries Value)
  timestamp : Timestamp
  version : String
  deriving Repr, Inhabited

namespace Envelope

def modelName : String := "APIResponse"

def ofEntries (now : Timestamp) (es : Entries Value) : Checked Envelope :=
  Envelope.mk <$> Schema.required es "success" Schema.switch
    <*> Schema.required es "message" Schema.text
    <*> Schema.optional es "data" (Schema.nullable Schema.object) none
    <*> Schema.optional es "timestamp" Timestamp.read now
    <*> Schema.required es "version" Schema.text

def read (now : Timestamp) : Value → Checked Envelope := Schema.model modelName (ofEntries now)

end Envelope

/-- What switches a flow on or off. -/
structure Toggle where
  enabled : Bool
  deriving DecidableEq, Repr

namespace Toggle

def modelName : String := "ToggleRequest"

def ofEntries (es : Entries Value) : Checked Toggle :=
  Toggle.mk <$> Schema.required es "enabled" Schema.switch

def read : Value → Checked Toggle := Schema.model modelName ofEntries

end Toggle
end ChatAutomation
