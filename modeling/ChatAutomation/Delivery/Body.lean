import ChatAutomation.Message
import ChatAutomation.Text.Search

/-!
# Bodies of deliveries

A message as the body of a request to the server that delivers it. The server limits the length of
texts and the number of buttons. It knows no polls, so a poll is sent as a numbered text.
-/
namespace ChatAutomation.Delivery

def maxText : Nat := 4096

def maxCaption : Nat := 1024

def maxButtons : Nat := 3

def maxTitle : Nat := 20

/-- The lines of a poll, its name and the values numbered from one. -/
def pollLines (name : String) (values : List String) : List String :=
  name :: values.mapIdx fun i v => s!"{i + 1}. {v}"

def textBody (s : String) : Value := .object [("body", .text (Text.cut maxText s))]

/-- A link to a file, with a caption if there is one. -/
def linkBody (url caption : String) : Value :=
  .object (("link", .text url) ::
    if caption.isEmpty then [] else [("caption", .text (Text.cut maxCaption caption))])

/-- A text that must not be empty. -/
def nonEmpty (s : String) : String := if s.isEmpty then " " else s

theorem nonEmpty_ne_empty (s : String) : nonEmpty s ≠ "" := by
  unfold nonEmpty
  split
  · decide
  · rename_i h
    simpa using h

def buttonBody (b : Button) : Value :=
  .object [("type", .text "reply"),
    ("reply", .object [("id", .text b.id), ("title", .text (Text.cut maxTitle b.title))])]

def buttonsBody (text : String) (buttons : List Button) (footer : String) : Value :=
  .object [("type", .text "button"),
    ("body", .object [("text", .text (nonEmpty (Text.cut maxCaption text)))]),
    ("footer", .object [("text", .text footer)]),
    ("action", .object [("buttons", .list ((buttons.take maxButtons).map buttonBody))])]

/-- The name of a message's form and the part that has this form. -/
def content : Message → String × Value
  | .text s => ("text", textBody s)
  | .image url caption => ("image", linkBody url caption)
  | .audio url _ _ => ("audio", linkBody url "")
  | .video url caption => ("video", linkBody url caption)
  | .poll name values _ => ("text", textBody ("\n".intercalate (pollLines name values)))
  | .buttons text buttons footer => ("interactive", buttonsBody text buttons footer)

/-- The body that delivers a message to a phone number. -/
def body (phone : String) (m : Message) : Entries Value :=
  let (form, part) := content m
  [("messaging_product", .text "whatsapp"), ("recipient_type", .text "individual"),
    ("to", .text phone), ("type", .text form), (form, part)]

end ChatAutomation.Delivery
