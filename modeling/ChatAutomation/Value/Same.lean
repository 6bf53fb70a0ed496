import ChatAutomation.Value

/-!
# Sameness of values

Two values are the same if they stand for the same thing, however it is written: numbers and switches
are compared by the number that they stand for, and the order of an object's entries does not count.
-/
namespace ChatAutomation.Value

/-- The whole number that a value stands for. -/
def whole? : Value → Option Int
  | bool b => some (if b then 1 else 0)
  | int n => some n
  | _ => none

/-- Do two values stand for the same number? What is not a number is not the same as itself. -/
def sameNumber : Value → Value → Bool
  | float x, float y => x.eq y
  | float x, v | v, float x =>
    match v.whole?, x.multiple with
    | some n, some m => m == n * Nat.pow 2 1074
    | _, _ => false
  | v, w =>
    match v.whole?, w.whole? with
    | some m, some n => m == n
    | _, _ => false

mutual

def same : Value → Value → Bool
  | null, null => true
  | text s, text t => s == t
  | list vs, list ws => sameItems vs ws
  | object es, object fs => es.length == fs.length && sameEntries es fs
  | v, w => sameNumber v w

def sameItems : List Value → List Value → Bool
  | [], [] => true
  | v :: vs, w :: ws => same v w && sameItems vs ws
  | _, _ => false

/-- Are all entries among others? -/
def sameEntries : List (String × Value) → Entries Value → Bool
  | [], _ => true
  | (k, v) :: es, fs =>
    (match fs.get? k with
      | some w => same v w
      | none => false) && sameEntries es fs

end

end ChatAutomation.Value
