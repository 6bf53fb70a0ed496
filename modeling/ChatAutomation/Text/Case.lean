import ChatAutomation.Text.Boundary
import ChatAutomation.Text.Cased
import ChatAutomation.Text.CaseTable

/-!
# Lower and upper case

Full case conversion: one character may become several, and a capital sigma at the end of a word
becomes the final form of the small letter.
-/
namespace ChatAutomation.Text

/-- The image of a character under the runs, itself where none covers it. -/
def mapRuns (runs : Array CaseRun) (c : Char) : Char :=
  let n := c.toNat
  let i := searchAbove (fun i => (runs[i]?.map CaseRun.first).getD 0) n 0 runs.size
  match runs[i - 1]? with
  | some r =>
    if r.first ≤ n ∧ n ≤ r.last ∧ (n - r.first) % r.step = 0 then Char.ofNat (r.image + (n - r.first))
    else c
  | none => c

/-- The first character of the lower case form. -/
def simpleLower (c : Char) : Char :=
  if c.toNat < 128 then c.toLower
  else if c.toNat = 0x130 then 'i'
  else mapRuns lowerRuns c

/-- The lower case form of one character on its own. -/
def lowerChar (c : Char) : List Char :=
  if c.toNat = 0x130 then ['i', Char.ofNat 0x307] else [simpleLower c]

def upperChar (c : Char) : List Char :=
  if c.toNat < 128 then [c.toUpper]
  else
    match longUpper.lookup c.toNat with
    | some cs => cs.map Char.ofNat
    | none => [mapRuns upperRuns c]

/-- The first character of the upper case form. -/
def simpleUpper (c : Char) : Char := (upperChar c).headD c

/-- Does a letter with case come first, once marks are skipped? -/
def leadsCased (cs : List Char) : Bool :=
  ((cs.dropWhile isCaseIgnorable).head?.map isCased).getD false

/-- The small sigma between the characters `before`, nearest first, and those after it. -/
def lowerSigma (before after : List Char) : Char :=
  if leadsCased before && !leadsCased after then 'ς' else 'σ'

/-- Lower case of a text, with the characters already passed, nearest first. -/
def lowerAfter (before : List Char) : List Char → List Char
  | [] => []
  | c :: cs =>
    (if c == 'Σ' then [lowerSigma before cs] else lowerChar c) ++ lowerAfter (c :: before) cs

def lowerList (cs : List Char) : List Char := lowerAfter [] cs

def lower (s : String) : String := String.ofList (lowerList s.toList)

def upper (s : String) : String := String.ofList (s.toList.flatMap upperChar)

end ChatAutomation.Text
