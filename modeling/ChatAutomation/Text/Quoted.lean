import ChatAutomation.Text.Printable
import ChatAutomation.Text.Surrogate

/-!
# Quoted text

Text between single quotes, or between double quotes when it holds a single quote and no double
one. Characters that cannot be printed are written by their code.
-/
namespace ChatAutomation.Text

def hexDigit (n : Nat) : Char := "0123456789abcdef".toList.getD n '0'

/-- The last `width` hexadecimal digits of `n`. -/
def hex : Nat → Nat → String
  | 0, _ => ""
  | width + 1, n => (hex width (n / 16)).push (hexDigit (n % 16))

/-- The code of a character behind a backslash, in two, four or eight digits. -/
def codeEscape (c : Char) : String :=
  let n := code c
  if n < 0x100 then "\\x" ++ hex 2 n
  else if n < 0x10000 then "\\u" ++ hex 4 n
  else "\\U" ++ hex 8 n

def quoteChar (mark c : Char) : String :=
  if c == mark || c == '\\' then String.ofList ['\\', c]
  else if c == '\n' then "\\n"
  else if c == '\r' then "\\r"
  else if c == '\t' then "\\t"
  else if isPrintable c then String.singleton c
  else codeEscape c

/-- The mark that encloses a text. -/
def quoteMark (cs : List Char) : Char :=
  if cs.contains '\'' && !cs.contains '"' then '"' else '\''

def quote (s : String) : String :=
  let mark := quoteMark s.toList
  String.singleton mark ++ String.join (s.toList.map (quoteChar mark)) ++ String.singleton mark

end ChatAutomation.Text
