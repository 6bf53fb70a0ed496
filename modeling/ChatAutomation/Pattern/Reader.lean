import ChatAutomation.Numeral
import ChatAutomation.Pattern.Error
import ChatAutomation.Text.Identifier

/-!
# Reading patterns

`parse` reads a text as a pattern. The text is a sequence of tokens, single characters and
characters behind a backslash; flags at the start hold for the whole, flags of a group for the
group. Every level of reading takes one unit of fuel and every second one a token, so the length of
the text bounds the recursion.
-/
namespace ChatAutomation.Pattern

/-- A character of a pattern, behind a backslash or not. -/
structure Token where
  escaped : Bool
  char : Char
  deriving DecidableEq, Repr

namespace Token

def text (t : Token) : String :=
  String.ofList (if t.escaped then ['\\', t.char] else [t.char])

def size (t : Token) : Nat := if t.escaped then 2 else 1

def isChar (t : Token) (c : Char) : Bool := !t.escaped && t.char == c

def isAmong (t : Token) (cs : List Char) : Bool := !t.escaped && cs.contains t.char

/-- The tokens of a text, and whether it ends in a lone backslash. -/
def ofText : List Char → List Token × Bool
  | [] => ([], false)
  | ['\\'] => ([], true)
  | '\\' :: c :: cs => let (ts, dangling) := ofText cs; (⟨true, c⟩ :: ts, dangling)
  | c :: cs => let (ts, dangling) := ofText cs; (⟨false, c⟩ :: ts, dangling)

end Token

structure Flags where
  ignoreCase : Bool := false
  multiline : Bool := false
  dotAll : Bool := false
  verbose : Bool := false
  ascii : Bool := false
  deriving DecidableEq, Repr

/-- Sets the flags with the given letters and clears others; letters for the kind of text set that
kind alone. -/
def Flags.change (f : Flags) (on off : List Char) : Flags :=
  let set (c : Char) (now : Bool) := (now || on.contains c) && !off.contains c
  { ignoreCase := set 'i' f.ignoreCase
    multiline := set 'm' f.multiline
    dotAll := set 's' f.dotAll
    verbose := set 'x' f.verbose
    ascii := if on.contains 'u' then false else set 'a' f.ascii }

/-- What has been read of a pattern. -/
structure Source where
  tokens : List Token
  /-- The place of the next token. -/
  pos : Nat
  dangling : Bool
  flags : Flags
  /-- Letters of the flags that hold for the whole pattern. -/
  globals : List Char := []
  /-- The widths of the groups; a group that is still open has none. -/
  groups : Array (Option Width) := #[]
  /-- The number of groups, counting the whole, where the outermost lookbehind began. -/
  lookbehind : Option Nat := none
  /-- Groups that conditions ask for, with the places. -/
  wanted : List (Nat × Nat) := []

abbrev Parse := StateT Source (Except Error)

namespace Parse

/-- An error some characters before the next token. -/
def fail {α : Type} (p : Problem) (back : Nat := 0) : Parse α := do
  throw (.malformed p (some ((← get).pos - back)))

/-- Takes the next token; it is an error if a lone backslash follows. -/
def next : Parse (Option Token) := do
  let s ← get
  match s.tokens with
  | [] => return none
  | t :: ts =>
    let pos := s.pos + t.size
    if ts.isEmpty && s.dangling then throw (.malformed .danglingEscape (some pos))
    set { s with tokens := ts, pos }
    return some t

def peek : Parse (Option Token) := return (← get).tokens.head?

/-- Takes the next token if it is the given character. -/
def accept (c : Char) : Parse Bool := do
  match ← peek with
  | some t => if t.isChar c then let _ ← next; return true else return false
  | none => return false

/-- Takes up to `n` characters that satisfy a test. -/
def takeUpTo (test : Char → Bool) : Nat → Parse (List Char)
  | 0 => return []
  | n + 1 => do
    match ← peek with
    | some t =>
      if !t.escaped && test t.char then
        let _ ← next
        return t.char :: (← takeUpTo test n)
      else return []
    | none => return []

/-- Takes all characters at the front that satisfy a test. -/
def takeAll (test : Char → Bool) : Parse (List Char) := do
  takeUpTo test (← get).tokens.length

def isHex (c : Char) : Bool := c.isDigit || ('a' ≤ c && c ≤ 'f') || ('A' ≤ c && c ≤ 'F')

def isOctal (c : Char) : Bool := '0' ≤ c && c ≤ '7'

def digitValue (c : Char) : Nat :=
  if c.isDigit then c.toNat - 48 else c.toLower.toNat - 87

def number (base : Nat) (cs : List Char) : Nat :=
  cs.foldl (fun n c => base * n + digitValue c) 0

/-- The number of groups, counting the whole pattern. -/
def groupCount : Parse Nat := return (← get).groups.size + 1

/-- The width of a group that has been closed. -/
def closedWidth (n : Nat) : Parse (Option Width) := return ((← get).groups[n - 1]?).join

/-- Inside a lookbehind only groups closed before it may be asked for. -/
def checkLookbehind (n : Nat) : Parse Unit := do
  match (← get).lookbehind with
  | none => return
  | some bound =>
    if n = 0 ∨ (← closedWidth n).isNone then fail .openGroup
    if bound ≤ n then fail .lookbehindGroup

/-! ## Escapes -/

/-- The escapes of control characters. -/
def controlEscape : Char → Option Nat
  | 'a' => some 7
  | 'b' => some 8
  | 'f' => some 12
  | 'n' => some 10
  | 'r' => some 13
  | 't' => some 9
  | 'v' => some 11
  | '\\' => some 92
  | _ => none

def categoryEscape : Char → Option SetItem
  | 'd' => some (.category .digit false)
  | 'D' => some (.category .digit true)
  | 's' => some (.category .space false)
  | 'S' => some (.category .space true)
  | 'w' => some (.category .word false)
  | 'W' => some (.category .word true)
  | _ => none

def anchorEscape (ascii : Bool) : Char → Option Anchor
  | 'A' => some .textStart
  | 'Z' => some .textEnd
  | 'b' => some (.boundary false ascii)
  | 'B' => some (.boundary true ascii)
  | _ => none

/-- The code that `width` hexadecimal digits behind the letter of an escape give. -/
def hexEscape (letter : Char) (width : Nat) : Parse Nat := do
  let ds ← takeUpTo isHex width
  let text := String.ofList ('\\' :: letter :: ds)
  if ds.length ≠ width then fail (.incompleteEscape text) text.length
  let n := number 16 ds
  if 0x110000 ≤ n then fail (.badEscape text) text.length
  return n

/-- An octal number that is no code of one byte. -/
def checkOctal (ds : List Char) : Parse Nat := do
  let n := number 8 ds
  if 0o377 < n then fail (.octalEscape (String.ofList ('\\' :: ds))) (ds.length + 1)
  return n

/-- The code of an escape that stands for one character, inside and outside of sets. -/
def plainEscape (c : Char) : Parse Nat := do
  if c = 'x' then hexEscape c 2
  else if c = 'u' then hexEscape c 4
  else if c = 'U' then hexEscape c 8
  else if c.isAlphanum then fail (.badEscape (String.ofList ['\\', c])) 2
  else return Text.code c

/-- An escape inside of a set. -/
def setEscape (c : Char) : Parse SetItem := do
  match controlEscape c, categoryEscape c with
  | some n, _ => return .one n
  | none, some item => return item
  | none, none =>
    if isOctal c then return .one (← checkOctal (c :: (← takeUpTo isOctal 2)))
    else return .one (← plainEscape c)

def letter (flags : Flags) (s : Symbol) : Re := .letter (.ofSymbol flags.ignoreCase flags.ascii s)

def oneOf (flags : Flags) (n : Nat) : Re := letter flags (.one false n)

/-- A reference to a group that was written as `text`. -/
def reference (flags : Flags) (n : Nat) (size : Nat) : Parse Re := do
  if n < (← groupCount) then
    match ← closedWidth n with
    | some w =>
      checkLookbehind n
      return .backref n w
        (if flags.ignoreCase then if flags.ascii then .ascii else .full else .exact)
    | none => fail .openGroup size
  else fail (.invalidGroup n) (size - 1)

/-- An escape that begins with a digit other than zero: a group, or three octal digits. -/
def digitEscape (flags : Flags) (d : Char) : Parse Re := do
  match ← takeUpTo Char.isDigit 1 with
  | [] => reference flags (digitValue d) 2
  | e :: _ =>
    if isOctal d && isOctal e then
      match ← takeUpTo isOctal 1 with
      | f :: _ => return oneOf flags (← checkOctal [d, e, f])
      | [] => reference flags (number 10 [d, e]) 3
    else reference flags (number 10 [d, e]) 3

/-- An escape outside of sets. -/
def escape (flags : Flags) (c : Char) : Parse Re := do
  match categoryEscape c, anchorEscape flags.ascii c, controlEscape c with
  | some item, _, _ => return letter flags (.among false [item])
  | none, some a, _ => return .anchor a
  | none, none, some n => return oneOf flags n
  | none, none, none =>
    if c = '0' then return oneOf flags (number 8 (← takeUpTo isOctal 2))
    else if c.isDigit then digitEscape flags c
    else return oneOf flags (← plainEscape c)

/-! ## Sets -/

def setToken (t : Token) : Parse SetItem :=
  if t.escaped then setEscape t.char else return .one (Text.code t.char)

/-- The end of a range that begins with `low`, written as the tokens `a` and `b`. -/
def range (a b : Token) (low high : SetItem) : Parse SetItem := do
  match low, high with
  | .one lo, .one hi =>
    if hi < lo then fail (.badRange a.text b.text) (a.size + 1 + b.size)
    return .span lo hi
  | _, _ => fail (.badRange a.text b.text) (a.size + 1 + b.size)

/-- The items of a set up to its closing bracket; `start` is the place of the opening one. -/
def setItems (start : Nat) : Nat → List SetItem → Parse (List SetItem)
  | 0, items => return items
  | fuel + 1, items => do
    match ← next with
    | none => throw (.malformed .unterminatedSet (some start))
    | some a =>
      if a.isChar ']' && !items.isEmpty then return items
      let low ← setToken a
      if ← accept '-' then
        match ← next with
        | none => throw (.malformed .unterminatedSet (some start))
        | some b =>
          if b.isChar ']' then return items ++ [low, .one '-'.toNat]
          let high ← setToken b
          setItems start fuel (items ++ [← range a b low high])
      else setItems start fuel (items ++ [low])

/-- A set whose opening bracket has been taken. -/
def set (flags : Flags) : Parse Re := do
  let start := (← get).pos - 1
  let negated ← accept '^'
  let items ← setItems start ((← get).tokens.length + 1) []
  return letter flags (.ofItems negated items)

/-! ## Repetition -/

/-- A written number of repetitions. -/
def repeatCount (ds : List Char) : Parse Nat := do
  if 4300 < ds.length then throw (.hugeNumber ds.length)
  let n := number 10 ds
  if widthLimit ≤ n then throw .hugeRepetition
  return n

/-- The bounds between braces behind an opening one, or nothing if there are none. -/
def bounds : Parse (Option (Nat × Option Nat)) := do
  let before ← get
  match before.tokens.head? with
  | some t =>
    if t.isChar '\x7d' then return none
    let lo ← takeAll Char.isDigit
    let hi ← if ← accept ',' then takeAll Char.isDigit else pure lo
    if ← accept '\x7d' then
      let least ← if lo.isEmpty then pure 0 else repeatCount lo
      if hi.isEmpty then return some (least, none)
      let most ← repeatCount hi
      if most < least then throw (.malformed .repeatOrder (some before.pos))
      return some (least, some most)
    else
      MonadState.set before
      return none
  | none => return none

def greed : Parse Greed := do
  if ← accept '?' then return .lazy
  else if ← accept '+' then return .possessive
  else return .greedy

/-- A part of a sequence: one item, or a group that only holds its items together. -/
inductive Piece where
  | item (r : Re)
  | group (rs : List Re)

namespace Piece

def items : Piece → List Re
  | item r => [r]
  | group rs => rs

def isAnchor : Piece → Bool
  | item r => r.isAnchor
  | group _ => false

def isLoop : Piece → Bool
  | item r => r.isLoop
  | group _ => false

end Piece

/-- Repeats the last piece; `place` is where the sign of repetition stands. -/
def repeatLast (place : Nat) (least : Nat) (most : Option Nat) (done : List Piece) :
    Parse (List Piece) := do
  match done with
  | [] => throw (.malformed .nothingToRepeat (some place))
  | p :: ps =>
    if p.isAnchor then throw (.malformed .nothingToRepeat (some place))
    if p.isLoop then throw (.malformed .multipleRepeat (some place))
    return .item (.loop (← greed) least most (.sequence p.items)) :: ps

/-! ## Flags -/

def flagLetters : List Char := ['i', 'L', 'm', 's', 'x', 'a', 't', 'u']

def typeLetters : List Char := ['a', 'L', 'u']

def badFlag {α : Type} (t : Token) (other : Problem) : Parse α :=
  fail (if !t.escaped && Text.isLetter t.char then .unknownFlag else other) t.size

/-- The flags to turn on, from the letter `c` on, and what ends them. -/
def flagsOn : Nat → Char → List Char → Parse (List Char × Char)
  | 0, c, on => return (on, c)
  | fuel + 1, c, on => do
    if c = 'L' then fail .localeFlag
    let on := on ++ [c]
    if typeLetters.contains c && typeLetters.any (fun d => d ≠ c && on.contains d) then
      fail .incompatibleFlags
    match ← next with
    | none => fail .missingFlagEnd
    | some t =>
      if t.isAmong [')', '-', ':'] then return (on, t.char)
      if t.isAmong flagLetters then flagsOn fuel t.char on
      else badFlag t .missingFlagEnd

/-- The flags to turn off, from the letter `c` on, up to a colon. -/
def flagsOff : Nat → Char → List Char → Parse (List Char)
  | 0, _, off => return off
  | fuel + 1, c, off => do
    if typeLetters.contains c then fail .typeFlagOff
    let off := off ++ [c]
    match ← next with
    | none => fail .missingColon
    | some t =>
      if t.isChar ':' then return off
      if t.isAmong flagLetters then flagsOff fuel t.char off
      else badFlag t .missingColon

/-- The flags of a group, to turn on and off; nothing if they are for the whole pattern. -/
def groupFlags (c : Char) : Parse (Option (List Char × List Char)) := do
  let fuel := (← get).tokens.length + 1
  let (on, stop) ← if c = '-' then pure ([], '-') else flagsOn fuel c []
  if stop = ')' then
    modify fun s => { s with globals := s.globals ++ on, flags := s.flags.change on [] }
    return none
  if on.contains 't' then fail .globalFlagOn 1
  let off ← if stop = '-' then
      match ← next with
      | none => fail .missingFlag
      | some t =>
        if t.isAmong flagLetters then flagsOff fuel t.char [] else badFlag t .missingFlag
    else pure []
  if off.contains 't' then fail .globalFlagOff 1
  if on.any off.contains then fail .flagOnAndOff 1
  return some (on, off)

/-! ## Names of groups -/

/-- The text up to a closing parenthesis. -/
def nameText : Nat → String → Parse String
  | 0, acc => return acc
  | fuel + 1, acc => do
    match ← next with
    | none => if acc.isEmpty then fail .missingName else fail .unterminatedName acc.length
    | some t =>
      if t.isChar ')' then if acc.isEmpty then fail .missingName 1 else return acc
      else nameText fuel (acc ++ t.text)

/-- A number as names of groups write it: blanks around it, a sign, underscores between digits. -/
def nameNumber? (s : String) : Option Int :=
  let (negative, ds) := Numeral.scanSign (Text.trimList s.toList)
  match dropUnderscores none ds with
  | some ds =>
    if ds.isEmpty || !ds.all Text.isDecimal || 4300 < ds.length then none
    else
      let n : Int := Numeral.digitsValue ds
      some (if negative then -n else n)
  | none => none

/-- The greatest number of groups. -/
def maxGroups : Nat := 1073741823

/-- The group that a condition asks for. -/
def conditionGroup : Parse Nat := do
  let name ← nameText ((← get).tokens.length + 1) ""
  let back := name.length + 1
  if Text.isIdentifier name then fail (.unknownName name) back
  match nameNumber? name with
  | none => fail (.badName name) back
  | some n =>
    if n < 0 then fail (.badName name) back
    if n = 0 then fail .zeroGroup back
    let n := n.toNat
    if maxGroups ≤ n then fail (.invalidGroup n) back
    modify fun s =>
      if s.wanted.any (·.1 == n) then s else { s with wanted := s.wanted ++ [(n, s.pos - back)] }
    checkLookbehind n
    return n

/-! ## The pattern -/

/-- Skips a comment between parentheses; `start` is the place of the opening one. -/
def comment (start : Nat) : Nat → Parse Unit
  | 0 => return
  | fuel + 1 => do
    match ← next with
    | none => throw (.malformed .unterminatedComment (some start))
    | some t => unless t.isChar ')' do comment start fuel

/-- Skips to the end of the line. -/
def lineComment : Nat → Parse Unit
  | 0 => return
  | fuel + 1 => do
    match ← next with
    | none => return
    | some t => unless t.isChar '\n' do lineComment fuel

/-- The closing parenthesis of a group that began at `start`. -/
def close (start : Nat) : Parse Unit := do
  unless ← accept ')' do throw (.malformed .unterminatedGroup (some start))

def verboseSpace : List Char := [' ', '\t', '\n', '\r', '\x0b', '\x0c']

/-- The simple signs of repetition. -/
def repeatSign : Char → Option (Nat × Option Nat)
  | '?' => some (0, some 1)
  | '*' => some (0, none)
  | '+' => some (1, none)
  | _ => none

def wildcard (flags : Flags) : Re := letter flags (.any flags.dotAll)

def startAnchor (flags : Flags) : Anchor := if flags.multiline then .lineStart else .textStart

def endAnchor (flags : Flags) : Anchor := if flags.multiline then .lineEnd else .lastLineEnd

/-- The parts of some alternatives: first what all begin with, then one set if nothing but sets
remain, and else the choice between the rest of them. -/
def joinArms (flags : Flags) : List (List Re) → List Re
  | [] => []
  | [arm] => arm
  | arm :: others =>
    let (shared, first, others) := Re.commonStart others arm
    let arms := first :: others
    shared ++ [match Re.joinedParts? arms with
      | some parts => letter flags (.among false parts.eraseDups)
      | none => Re.choices arms]

mutual

/-- The parts of alternatives. At the top of the pattern the flags of the whole are those found so
far. -/
def alternatives : Nat → (top : Bool) → Flags → Parse (List Re)
  | 0, _, _ => fail .unexpectedEnd
  | fuel + 1, top, flags => do
    let first ← items fuel top top flags []
    let found := (← get).flags
    let flags := if top then found else flags
    return joinArms flags (first :: (← furtherArms fuel top flags))

/-- The alternatives behind the first one. -/
def furtherArms : Nat → (top : Bool) → Flags → Parse (List (List Re))
  | 0, _, _ => fail .unexpectedEnd
  | fuel + 1, top, flags => do
    if ← accept '|' then
      let arm ← items fuel top false flags []
      return arm :: (← furtherArms fuel top flags)
    else return []

/-- A sequence of items, with the pieces read so far, the last one first. -/
def items : Nat → (top first : Bool) → Flags → List Piece → Parse (List Re)
  | 0, _, _, _, _ => fail .unexpectedEnd
  | fuel + 1, top, first, flags, done => do
    match ← peek with
    | none => return done.reverse.flatMap Piece.items
    | some t =>
      if t.isAmong ['|', ')'] then return done.reverse.flatMap Piece.items
      let place := (← get).pos
      let _ ← next
      let continueWith (r : Re) := items fuel top first flags (.item r :: done)
      if flags.verbose && t.isAmong verboseSpace then items fuel top first flags done
      else if flags.verbose && t.isChar '#' then
        lineComment ((← get).tokens.length + 1)
        items fuel top first flags done
      else if t.escaped then continueWith (← escape flags t.char)
      else if t.char = '[' then continueWith (← set flags)
      else if t.char = '.' then continueWith (wildcard flags)
      else if t.char = '^' then continueWith (.anchor (startAnchor flags))
      else if t.char = '$' then continueWith (.anchor (endAnchor flags))
      else if t.char = '\x7b' then
        match ← bounds with
        | some (least, most) => items fuel top first flags (← repeatLast place least most done)
        | none => continueWith (oneOf flags t.char.toNat)
      else if t.char = '(' then
        match ← parenthesis fuel place (first && done.isEmpty) flags with
        | some p => items fuel top first flags (p :: done)
        | none =>
          let found := (← get).flags
          items fuel top first (if top then found else flags) done
      else
        match repeatSign t.char with
        | some (least, most) => items fuel top first flags (← repeatLast place least most done)
        | none => continueWith (oneOf flags (Text.code t.char))

/-- What an opening parenthesis at `start` begins; nothing for comments and flags of the whole,
which may stand only where `atStart` says so. -/
def parenthesis : Nat → (start : Nat) → (atStart : Bool) → Flags → Parse (Option Piece)
  | 0, _, _, _ => fail .unexpectedEnd
  | fuel + 1, start, atStart, flags => do
    unless ← accept '?' do return some (.item (← capture fuel start flags))
    match ← next with
    | none => fail .unexpectedEnd
    | some t =>
      if t.isChar ':' then return some (.group (← inner fuel start flags))
      else if t.isChar '>' then
        return some (.item (.atomic (.sequence (← inner fuel start flags))))
      else if t.isChar '#' then
        comment start ((← get).tokens.length + 1)
        return none
      else if t.isChar '=' then
        return some (.item (.ahead false (.sequence (← inner fuel start flags))))
      else if t.isChar '!' then
        let rs ← inner fuel start flags
        return some (.item (if rs.isEmpty then .never else .ahead true (.sequence rs)))
      else if t.isChar '<' then
        match ← next with
        | none => fail .unexpectedEnd
        | some t =>
          if t.isChar '=' then return some (.item (← lookbehind fuel start false flags))
          else if t.isChar '!' then return some (.item (← lookbehind fuel start true flags))
          else fail (.unknownExtension ("?<" ++ t.text)) (t.size + 2)
      else if t.isChar '(' then return some (.item (← condition fuel start flags))
      else if t.isAmong ('-' :: flagLetters) then
        match ← groupFlags t.char with
        | none =>
          unless atStart do throw (.malformed .lateFlags (some start))
          return none
        | some (on, off) =>
          return some (.item (.plain (.sequence (← inner fuel start (flags.change on off)))))
      else fail (.unknownExtension ("?" ++ t.text)) (t.size + 1)

/-- Alternatives up to the closing parenthesis. -/
def inner : Nat → (start : Nat) → Flags → Parse (List Re)
  | 0, _, _ => fail .unexpectedEnd
  | fuel + 1, start, flags => do
    let rs ← alternatives fuel false flags
    close start
    return rs

/-- A group that remembers what it matched. -/
def capture : Nat → (start : Nat) → Flags → Parse Re
  | 0, _, _ => fail .unexpectedEnd
  | fuel + 1, start, flags => do
    let n ← groupCount
    modify fun s => { s with groups := s.groups.push none }
    let r := Re.sequence (← inner fuel start flags)
    modify fun s => { s with groups := s.groups.setIfInBounds (n - 1) (some r.width) }
    return .group n r

/-- A test of what stands before. One that nothing may stand before fails everywhere. -/
def lookbehind : Nat → (start : Nat) → (negated : Bool) → Flags → Parse Re
  | 0, _, _, _ => fail .unexpectedEnd
  | fuel + 1, start, negated, flags => do
    let outer := (← get).lookbehind
    let count ← groupCount
    if outer.isNone then modify fun s => { s with lookbehind := some count }
    let rs ← alternatives fuel false flags
    if outer.isNone then modify fun s => { s with lookbehind := none }
    close start
    if negated && rs.isEmpty then return .never
    let r := Re.sequence rs
    return .behind negated r.width r

/-- A choice between two sequences by whether a group has matched. -/
def condition : Nat → (start : Nat) → Flags → Parse Re
  | 0, _, _ => fail .unexpectedEnd
  | fuel + 1, start, flags => do
    let n ← conditionGroup
    let yes ← items fuel false false flags []
    let no ← if ← accept '|' then
        let no ← items fuel false false flags []
        if let some t ← peek then if t.isChar '|' then fail .thirdBranch
        pure no
      else pure []
    close start
    return .choice n (.sequence yes) (.sequence no)

end

/-! ## What only the whole pattern shows -/

/-- The first part that cannot be carried out: a lookbehind without a fixed width or, where the flag
for templates is set, any repetition. -/
def defect (template : Bool) : Re → Option Problem
  | .empty | .never | .letter _ | .anchor _ | .backref .. => none
  | .cat a b | .alt a b => (defect template a).or (defect template b)
  | .choice _ a b => (defect template a).or (defect template b)
  | .group _ r | .plain r | .atomic r | .ahead _ r => defect template r
  | .behind _ w r => if w.least ≠ w.most then some .lookbehindWidth else defect template r
  | .loop greed _ _ r => if template then some (.templateLoop greed) else defect template r

/-- The width from which on a lookbehind is refused. -/
def lookbehindLimit : Nat := 2147483648

/-- Does a lookbehind reach too far back? -/
def reachesTooFar : Re → Bool
  | .empty | .never | .letter _ | .anchor _ | .backref .. => false
  | .cat a b | .alt a b | .choice _ a b => reachesTooFar a || reachesTooFar b
  | .group _ r | .plain r | .atomic r | .ahead _ r | .loop _ _ _ r => reachesTooFar r
  | .behind _ w r => lookbehindLimit ≤ w.least || reachesTooFar r

end Parse

/-- A pattern that can be searched for, with the number of its groups. -/
structure Compiled where
  re : Re
  groups : Nat
  deriving DecidableEq, Repr

/-- Reads a pattern; case does not count in it if `ignoreCase` says so. -/
def compile (ignoreCase : Bool) (pattern : String) : Except Error Compiled := do
  let cs := pattern.toList
  let (tokens, dangling) := Token.ofText cs
  if tokens.isEmpty && dangling then throw (.malformed .danglingEscape (some 0))
  let flags : Flags := { ignoreCase }
  let source : Source := { tokens, pos := 0, dangling, flags }
  let (rs, s) ← (Parse.alternatives (6 * cs.length + 8) true flags).run source
  if s.globals.contains 'a' && s.globals.contains 'u' then throw .clashingFlags
  unless s.tokens.isEmpty do throw (.malformed .unbalanced (some s.pos))
  match s.wanted.find? fun (n, _) => s.groups.size < n with
  | some (n, place) => throw (.malformed (.invalidGroup n) (some place))
  | none => pure ()
  let re := Re.sequence rs
  match Parse.defect (s.globals.contains 't') re with
  | some p => throw (.malformed p none)
  | none => if Parse.reachesTooFar re then throw .invalidCode else return { re, groups := s.groups.size }

end ChatAutomation.Pattern
