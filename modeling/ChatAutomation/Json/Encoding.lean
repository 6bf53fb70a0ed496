import ChatAutomation.Text.Quoted
import ChatAutomation.Text.Surrogate

/-!
# Encodings of documents

A document comes as bytes. Its encoding shows in the first of them, since a document begins with ASCII:
where a zero stands among them, each character takes two or four bytes.
-/
namespace ChatAutomation.Json

inductive Encoding where
  | utf8
  | utf16 (bigEndian : Bool)
  | utf32 (bigEndian : Bool)
  deriving DecidableEq, Repr

/-- Bytes that stand for no character. -/
inductive EncodingReason where
  | truncated
  | outOfRange
  deriving DecidableEq, Repr

/-- Why bytes are no text in their encoding, and which ones from which position on. -/
structure Undecodable where
  encoding : Encoding
  position : Nat
  bytes : List UInt8
  reason : EncodingReason
  deriving DecidableEq, Repr

def EncodingReason.message : EncodingReason → String
  | truncated => "truncated data"
  | outOfRange => "code point not in range(0x110000)"

namespace Encoding

def name : Encoding → String
  | utf8 => "utf-8"
  | utf16 bigEndian => if bigEndian then "utf-16-be" else "utf-16-le"
  | utf32 bigEndian => if bigEndian then "utf-32-be" else "utf-32-le"

/-- The encoding of a document that begins with some bytes. -/
def ofBytes : List UInt8 → Encoding
  | 0 :: b :: _ :: _ :: _ => if b = 0 then utf32 true else utf16 true
  | _ :: 0 :: c :: d :: _ => if c = 0 ∧ d = 0 then utf32 false else utf16 false
  | [0, _] => utf16 true
  | [_, 0] => utf16 false
  | _ => utf8

/-- The number that some bytes write. -/
def number (bigEndian : Bool) (bs : List UInt8) : Nat :=
  (if bigEndian then bs else bs.reverse).foldl (fun n b => 256 * n + b.toNat) 0

/-- The code units of two bytes each. -/
def units16 (bigEndian : Bool) (position : Nat) : List UInt8 → Except Undecodable (List Nat)
  | [] => .ok []
  | [b] => .error ⟨utf16 bigEndian, position, [b], .truncated⟩
  | a :: b :: bs =>
    (units16 bigEndian (position + 2) bs).map (number bigEndian [a, b] :: ·)

/-- The codes of four bytes each. -/
def units32 (bigEndian : Bool) (position : Nat) : List UInt8 → Except Undecodable (List Nat)
  | [] => .ok []
  | a :: b :: c :: d :: bs =>
    let n := number bigEndian [a, b, c, d]
    if 0x110000 ≤ n then .error ⟨utf32 bigEndian, position, [a, b, c, d], .outOfRange⟩
    else (units32 bigEndian (position + 4) bs).map (n :: ·)
  | bs => .error ⟨utf32 bigEndian, position, bs, .truncated⟩

/-- The document that a text's bytes stand for. A mark in front of it does not count. -/
def decode (s : String) : Except Undecodable String :=
  match s.toList with
  | '\ufeff' :: cs => .ok (String.ofList cs)
  | _ =>
    let bs := s.toUTF8.toList
    match ofBytes bs with
    | utf8 => .ok s
    | utf16 big => (units16 big 0 bs).map fun ns => String.ofList (Text.joinUnits ns)
    | utf32 big => (units32 big 0 bs).map fun ns => String.ofList (ns.map Text.charOfCode)

end Encoding

def Undecodable.message (u : Undecodable) : String :=
  let what := match u.bytes with
    | [b] => s!"byte 0x{Text.hex 2 b.toNat} in position {u.position}"
    | bs => s!"bytes in position {u.position}-{u.position + bs.length - 1}"
  s!"'{u.encoding.name}' codec can't decode {what}: {u.reason.message}"

end ChatAutomation.Json
