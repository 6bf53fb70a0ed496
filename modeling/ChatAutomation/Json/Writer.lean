import ChatAutomation.Value
import ChatAutomation.Binary64.Written
import ChatAutomation.Text.Quoted

/-!
# Writing JSON

Values as JSON without space between the parts; characters outside ASCII stand for themselves.
-/
namespace ChatAutomation.Json

def writeChar (c : Char) : String :=
  if c == '"' then "\\\""
  else if c == '\\' then "\\\\"
  else if c == '\n' then "\\n"
  else if c == '\r' then "\\r"
  else if c == '\t' then "\\t"
  else if c == '\x08' then "\\b"
  else if c == '\x0c' then "\\f"
  else if c.toNat < 32 then "\\u" ++ Text.hex 4 c.toNat
  else String.singleton c

def writeText (s : String) : String := "\"" ++ String.join (s.toList.map writeChar) ++ "\""

def writeNumber : Binary64 → String
  | .nan => "NaN"
  | .infinite negative => if negative then "-Infinity" else "Infinity"
  | x => x.text

mutual

def write : Value → String
  | .null => "null"
  | .bool b => if b then "true" else "false"
  | .int n => toString n
  | .float x => writeNumber x
  | .text s => writeText s
  | .list items => "[" ++ ",".intercalate (writeItems items) ++ "]"
  | .object entries => "\x7b" ++ ",".intercalate (writeEntries entries) ++ "\x7d"

def writeItems : List Value → List String
  | [] => []
  | v :: vs => write v :: writeItems vs

def writeEntries : List (String × Value) → List String
  | [] => []
  | (k, v) :: es => (writeText k ++ ":" ++ write v) :: writeEntries es

end

end ChatAutomation.Json
