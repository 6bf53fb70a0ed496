import ChatAutomation.Text.Blank
import ChatAutomation.Text.Case
import ChatAutomation.Text.Digit
import ChatAutomation.Text.Search

/-!
# Contacts

The id of a chat in its different spellings: the form under which contacts are compared, and the
phone number to which messages go.
-/
namespace ChatAutomation.Contact

def personalDomain : String := "@s.whatsapp.net"

def groupDomain : String := "@g.us"

/-- Newsletters and broadcasts, which are never answered. -/
def ignoredDomains : List String := ["@newsletter", "@broadcast"]

/-- Drops the domain of a personal id and what follows a colon in front of it. -/
def personalPart (jid : String) : String :=
  if Text.endsWith jid personalDomain then
    Text.before ':' (String.ofList (jid.toList.take (jid.length - personalDomain.length)))
  else jid

def dropPlus (s : String) : String := String.ofList (s.toList.dropWhile (· == '+'))

/-- The form under which the spellings of a contact are compared. -/
def normalize (jid : String) : String := dropPlus (personalPart (Text.lower (Text.trim jid)))

/-- The contacts of a list that is separated by commas. -/
def ofList (raw : String) : List String :=
  (((Text.splitAt ',' raw).filter fun part => !(Text.trim part).isEmpty).map normalize).eraseDups

def isGroup (jid : String) : Bool := Text.endsWith jid groupDomain

def isIgnored (jid : String) : Bool := ignoredDomains.any fun d => Text.endsWith jid d

/-- The digits of an id in front of its domain and device. -/
def digits (jid : String) : List Char :=
  (Text.before ':' (Text.before '@' jid)).toList.filter Text.isDecimal

/-- The phone number of an id, empty where it has no digits. -/
def phone (jid : String) : String :=
  let ds := digits jid
  if ds.isEmpty then "" else String.ofList ('+' :: ds)

theorem isDecimal_of_mem_digits {jid : String} {c : Char} (h : c ∈ digits jid) :
    Text.isDecimal c = true := (List.mem_filter.1 h).2

@[simp] theorem phone_eq_empty_iff {jid : String} : phone jid = "" ↔ digits jid = [] := by
  unfold phone
  cases h : digits jid with
  | nil => simp
  | cons c cs => simp [← String.toList_inj]

end ChatAutomation.Contact
