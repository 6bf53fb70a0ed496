import ChatAutomation.Entries
import ChatAutomation.Text.Search
import ChatAutomation.Text.Utf8

/-!
# Targets of calls

The target of a call is its path and, behind a question mark, its query. Both may hold bytes that
are written as a percent sign and two hexadecimal digits. Steps of a path to where it is and one step
up are resolved before that. A protocol and a server may stand in front of the path.
-/
namespace ChatAutomation.Target

def hexDigit? (c : Char) : Option Nat :=
  if c.isDigit then some (c.toNat - 48)
  else if 'a' ≤ c ∧ c ≤ 'f' then some (c.toNat - 87)
  else if 'A' ≤ c ∧ c ≤ 'F' then some (c.toNat - 55)
  else none

/-- The bytes that a text stands for. -/
def bytes : List Char → List UInt8
  | '%' :: h :: l :: cs =>
    match hexDigit? h, hexDigit? l with
    | some a, some b => UInt8.ofNat (16 * a + b) :: bytes cs
    | _, _ => (37 : UInt8) :: bytes (h :: l :: cs)
  | c :: cs => (String.singleton c).toUTF8.toList ++ bytes cs
  | [] => []

/-- The text that is meant. -/
def decode (s : String) : String := String.ofList (Text.decodeBytes (bytes s.toList))

/-- A target without its fragment. -/
def withoutFragment (target : String) : String := Text.before '#' target

/-- Can a character stand in the name of a protocol? -/
def isProtocolChar (c : Char) : Bool := c.isAlphanum || c == '+' || c == '-' || c == '.'

/-- A path without the name of a protocol in front of it, which begins with a letter. -/
def withoutProtocol (path : List Char) : List Char :=
  match path.takeWhile isProtocolChar, path.dropWhile isProtocolChar with
  | [], ':' :: cs => cs
  | c :: _, ':' :: cs => if c.isAlpha then cs else path
  | _, _ => path

/-- A path without the name of a server in front of it. -/
def withoutServer (path : List Char) : List Char :=
  match path with
  | '/' :: '/' :: cs => cs.dropWhile (· != '/')
  | cs => cs

/-- Takes one step of a path, from the steps so far, the last one first. The beginning of a path has
nothing above it. -/
def step (passed : List String) (s : String) : List String :=
  if s = "." then passed
  else if s = ".." then if passed = [] ∨ passed = [""] then passed else passed.tail
  else s :: passed

/-- The path of a target, from the top. -/
def path (target : String) : String :=
  let written := withoutServer (withoutProtocol (Text.before '?' (withoutFragment target)).toList)
  let steps := Text.splitAt '/' (String.ofList ('/' :: written.dropWhile (· == '/')))
  let path := "/".intercalate (steps.foldl step []).reverse
  if path.isEmpty then "/" else decode path

/-- A text in a query, where a plus sign stands for a space. -/
def decodeQuery (s : String) : String :=
  decode (String.ofList (s.toList.map fun c => if c = '+' then ' ' else c))

/-- The parameters of a query; of one that is repeated the last value counts. -/
def query (target : String) : Entries String :=
  let text := String.ofList (((withoutFragment target).toList.dropWhile (· != '?')).drop 1)
  let parts := (Text.splitAt '&' text).filter fun part => !part.isEmpty
  Entries.ofList (parts.map fun part =>
    let value := String.ofList ((part.toList.dropWhile (· != '=')).drop 1)
    (decodeQuery (Text.before '=' part), decodeQuery value))

end ChatAutomation.Target
