import ChatAutomation.Value
import ChatAutomation.Json.Encoding
import ChatAutomation.Numeral

/-!
# Reading JSON

`parse` reads one JSON value from a text, together with the words `NaN`, `Infinity` and
`-Infinity`. What is malformed is reported with the place of the first character that cannot go on.
-/
namespace ChatAutomation.Json

/-- Why a text is not JSON. -/
inductive Reason where
  | value
  | name
  | colon
  | comma
  | extraData
  | unterminatedText
  | controlCharacter
  | unknownEscape
  | codeEscape
  | byteOrderMark
  deriving DecidableEq, Repr

/-- What stops the reader: malformed text at a place, bytes that are no text, a whole number of too
many digits, or a list or an object inside too many others. -/
inductive Malformed where
  | at (reason : Reason) (position : Nat)
  | undecodable (cause : Undecodable)
  | hugeInteger (digits : Nat)
  | deepList
  | deepObject
  deriving DecidableEq, Repr

/-- Is the text at fault for its depth alone? -/
def Malformed.isDeep : Malformed → Bool
  | deepList | deepObject => true
  | _ => false

/-- What was read, the place after it, and the text that follows. -/
abbrev Found (α : Type) := α × Nat × List Char

def isSpace (c : Char) : Bool := c == ' ' || c == '\t' || c == '\n' || c == '\r'

def skipSpace (pos : Nat) : List Char → Nat × List Char
  | [] => (pos, [])
  | c :: cs => if isSpace c then skipSpace (pos + 1) cs else (pos, c :: cs)

def hexValue? (c : Char) : Option Nat :=
  if '0' ≤ c ∧ c ≤ '9' then some (c.toNat - 48)
  else if 'a' ≤ c ∧ c ≤ 'f' then some (c.toNat - 87)
  else if 'A' ≤ c ∧ c ≤ 'F' then some (c.toNat - 55)
  else none

/-- The code unit of four hexadecimal digits. -/
def codeUnit? (a b c d : Char) : Option Nat :=
  match hexValue? a, hexValue? b, hexValue? c, hexValue? d with
  | some a, some b, some c, some d => some (((a * 16 + b) * 16 + c) * 16 + d)
  | _, _, _, _ => none

/-- The character of a one letter escape. -/
def escaped? : Char → Option Char
  | '"' => some '"'
  | '\\' => some '\\'
  | '/' => some '/'
  | 'b' => some '\x08'
  | 'f' => some '\x0c'
  | 'n' => some '\n'
  | 'r' => some '\r'
  | 't' => some '\t'
  | _ => none

/-- The code units of a text up to its closing quote; `start` is the place of the opening one. -/
def readUnits (start : Nat) : Nat → List Nat → List Char → Except Malformed (Found (List Nat))
  | _, _, [] => .error (.at .unterminatedText start)
  | pos, acc, '"' :: cs => .ok (acc.reverse, pos + 1, cs)
  | _, _, ['\\'] => .error (.at .unterminatedText start)
  | pos, acc, '\\' :: 'u' :: a :: b :: c :: d :: e :: cs =>
    match codeUnit? a b c d with
    | some n => readUnits start (pos + 6) (n :: acc) (e :: cs)
    | none => .error (.at .codeEscape (pos + 1))
  | pos, acc, '\\' :: c :: cs =>
    match escaped? c with
    | some c => readUnits start (pos + 2) (c.toNat :: acc) cs
    | none => .error (if c = 'u' then .at .codeEscape (pos + 1) else .at .unknownEscape pos)
  | pos, acc, c :: cs =>
    if c.toNat < 32 then .error (.at .controlCharacter pos)
    else readUnits start (pos + 1) (c.toNat :: acc) cs

/-- A text whose opening quote has been passed. -/
def readText (start : Nat) (cs : List Char) : Except Malformed (Found String) :=
  (readUnits start (start + 1) [] cs).map fun (units, rest) =>
    (String.ofList (Text.joinUnits units), rest)

/-- The greatest number of digits of a whole number. -/
def maxDigits : Nat := 4300

def digitsOf (cs : List Char) : List Char := cs.takeWhile Char.isDigit

/-- The whole part of a number: zero alone, or digits that do not begin with zero. -/
def wholePart : List Char → List Char
  | '0' :: _ => ['0']
  | cs => digitsOf cs

/-- A fraction with its point, or nothing. -/
def fractionPart : List Char → List Char
  | '.' :: cs => if (digitsOf cs).isEmpty then [] else '.' :: digitsOf cs
  | _ => []

/-- An exponent with its mark and sign, or nothing. -/
def exponentPart : List Char → List Char
  | c :: cs =>
    if c = 'e' ∨ c = 'E' then
      let sign := match cs with
        | '+' :: _ => ['+']
        | '-' :: _ => ['-']
        | _ => []
      let ds := digitsOf (cs.drop sign.length)
      if ds.isEmpty then [] else c :: (sign ++ ds)
    else []
  | [] => []

/-- A number at `pos`. -/
def readNumber (pos : Nat) (cs : List Char) : Except Malformed (Found Value) :=
  let sign := if cs.head? = some '-' then ['-'] else []
  let afterSign := cs.drop sign.length
  let whole := wholePart afterSign
  let afterWhole := afterSign.drop whole.length
  let fraction := fractionPart afterWhole
  let exponent := exponentPart (afterWhole.drop fraction.length)
  let used := sign ++ whole ++ fraction ++ exponent
  if whole.isEmpty then .error (.at .value pos)
  else if fraction.isEmpty && exponent.isEmpty then
    if maxDigits < whole.length then .error (.hugeInteger whole.length)
    else
      let n : Int := Numeral.digitsValue whole
      .ok (.int (if sign.isEmpty then n else -n), pos + used.length, cs.drop used.length)
  else
    let x := match Numeral.scan used with
      | some (n, _) => n.value
      | none => .nan
    .ok (.float x, pos + used.length, cs.drop used.length)

/-- The words that stand for a value. -/
def words : List (List Char × Value) :=
  [("null".toList, .null), ("true".toList, .bool true), ("false".toList, .bool false),
    ("NaN".toList, .float .nan), ("Infinity".toList, .float (.infinite false)),
    ("-Infinity".toList, .float (.infinite true))]

/-- A word or a number. -/
def readScalar (pos : Nat) (cs : List Char) : Except Malformed (Found Value) :=
  match words.find? fun w => w.1.isPrefixOf cs with
  | some (w, v) => .ok (v, pos + w.length, cs.drop w.length)
  | none => readNumber pos cs

/-- The greatest number of lists and objects that stand inside each other. -/
def maxLevels : Nat := 975

mutual

/-- A value at `pos`, which may hold `levels` lists and objects inside each other. Every call takes
one unit of `fuel` and most take a character, so twice the length of the text is enough. -/
def readValue : Nat → Nat → Nat → List Char → Except Malformed (Found Value)
  | 0, _, pos, _ => .error (.at .value pos)
  | fuel + 1, levels, pos, cs =>
    match cs, levels with
    | '"' :: cs, _ => (readText pos cs).map fun (s, rest) => (.text s, rest)
    | '[' :: _, 0 => .error .deepList
    | '[' :: cs, levels + 1 =>
      match skipSpace (pos + 1) cs with
      | (pos, ']' :: cs) => .ok (.list [], pos + 1, cs)
      | (pos, cs) => (readItems fuel levels pos cs).map fun (vs, rest) => (.list vs, rest)
    | '\x7b' :: _, 0 => .error .deepObject
    | '\x7b' :: cs, levels + 1 =>
      match skipSpace (pos + 1) cs with
      | (pos, '\x7d' :: cs) => .ok (.object [], pos + 1, cs)
      | (pos, cs) =>
        (readMembers fuel levels pos cs).map fun (es, rest) => (.object (Entries.ofList es), rest)
    | cs, _ => readScalar pos cs

/-- The items of a list up to its closing bracket. -/
def readItems : Nat → Nat → Nat → List Char → Except Malformed (Found (List Value))
  | 0, _, pos, _ => .error (.at .value pos)
  | fuel + 1, levels, pos, cs => do
    let (v, pos, cs) ← readValue fuel levels pos cs
    match skipSpace pos cs with
    | (pos, ']' :: cs) => .ok ([v], pos + 1, cs)
    | (pos, ',' :: cs) =>
      let (pos, cs) := skipSpace (pos + 1) cs
      let (vs, rest) ← readItems fuel levels pos cs
      .ok (v :: vs, rest)
    | (pos, _) => .error (.at .comma pos)

/-- The members of an object up to its closing brace. -/
def readMembers : Nat → Nat → Nat → List Char → Except Malformed (Found (List (String × Value)))
  | 0, _, pos, _ => .error (.at .value pos)
  | fuel + 1, levels, pos, cs =>
    match cs with
    | '"' :: cs => do
      let (k, pos, cs) ← readText pos cs
      match skipSpace pos cs with
      | (pos, ':' :: cs) =>
        let (pos, cs) := skipSpace (pos + 1) cs
        let (v, pos, cs) ← readValue fuel levels pos cs
        match skipSpace pos cs with
        | (pos, '\x7d' :: cs) => .ok ([(k, v)], pos + 1, cs)
        | (pos, ',' :: cs) =>
          let (pos, cs) := skipSpace (pos + 1) cs
          let (es, rest) ← readMembers fuel levels pos cs
          .ok ((k, v) :: es, rest)
        | (pos, _) => .error (.at .comma pos)
      | (pos, _) => .error (.at .colon pos)
    | _ => .error (.at .name pos)

end

/-- Reads a text that holds one value and nothing else but space. -/
def parseValue (s : String) : Except Malformed Value :=
  let cs := s.toList
  let (pos, rest) := skipSpace 0 cs
  match readValue (2 * cs.length + 2) maxLevels pos rest with
  | .error e => .error e
  | .ok (v, pos, rest) =>
    match skipSpace pos rest with
    | (_, []) => .ok v
    | (pos, _) => .error (.at .extraData pos)

/-- Reads a text, in front of which a mark of the byte order is out of place. -/
def parse (s : String) : Except Malformed Value :=
  if s.toList.head? = some '\ufeff' then .error (.at .byteOrderMark 0) else parseValue s

/-- Reads a body, whose bytes tell how they are to be read. What is malformed comes with the text that
the bytes stand for. -/
def parseBody (s : String) : Except (String × Malformed) Value :=
  match Encoding.decode s with
  | .error cause => .error (s, .undecodable cause)
  | .ok document => (parseValue document).mapError fun cause => (document, cause)

def Reason.message : Reason → String
  | .value => "Expecting value"
  | .name => "Expecting property name enclosed in double quotes"
  | .colon => "Expecting ':' delimiter"
  | .comma => "Expecting ',' delimiter"
  | .extraData => "Extra data"
  | .unterminatedText => "Unterminated string starting at"
  | .controlCharacter => "Invalid control character at"
  | .unknownEscape => "Invalid \\escape"
  | .codeEscape => "Invalid \\uXXXX escape"
  | .byteOrderMark => "Unexpected UTF-8 BOM (decode using utf-8-sig)"

/-- Line and column of a place, both counted from one. -/
def lineColumn (s : String) (position : Nat) : Nat × Nat :=
  let passed := s.toList.take position
  (passed.count '\n' + 1, (passed.reverse.takeWhile (· != '\n')).length + 1)

def Malformed.message (s : String) : Malformed → String
  | .at reason position =>
    let (line, column) := lineColumn s position
    s!"{reason.message}: line {line} column {column} (char {position})"
  | .undecodable cause => cause.message
  | .hugeInteger digits =>
    s!"Exceeds the limit ({maxDigits} digits) for integer string conversion: value has {digits} " ++
      "digits; use sys.set_int_max_str_digits() to increase the limit"
  | .deepList =>
    "maximum recursion depth exceeded while decoding a JSON array from a unicode string"
  | .deepObject =>
    "maximum recursion depth exceeded while decoding a JSON object from a unicode string"

end ChatAutomation.Json
