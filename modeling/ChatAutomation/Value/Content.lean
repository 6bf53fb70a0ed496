import ChatAutomation.Schema
import ChatAutomation.Text.Surrogate

/-!
# Contents of values

What holds of all texts and numbers inside a value, the keys of objects among the texts.
-/
namespace ChatAutomation.Value

mutual

/-- Do all texts and all floating point numbers of a value pass a test? -/
def contents (text : String → Bool) (number : Binary64 → Bool) : Value → Bool
  | .float x => number x
  | .text s => text s
  | .list vs => itemContents text number vs
  | .object es => entryContents text number es
  | _ => true

def itemContents (text : String → Bool) (number : Binary64 → Bool) : List Value → Bool
  | [] => true
  | v :: vs => contents text number v && itemContents text number vs

def entryContents (text : String → Bool) (number : Binary64 → Bool) :
    List (String × Value) → Bool
  | [] => true
  | (k, v) :: es => text k && contents text number v && entryContents text number es

end

/-- Do the texts of the value hold nothing but characters? -/
def isWhole (v : Value) : Bool := v.contents Text.isWhole fun _ => true

/-- Can the value be written as JSON as it is? -/
def isWritable (v : Value) : Bool := v.contents Text.isWhole Binary64.isFinite

/-- The part of a value at the end of a path. A step that leads nowhere is passed over. -/
def partAt (v : Value) : List Step → Value
  | [] => v
  | s :: path => ((part? v s).getD v).partAt path
where
  part? : Value → Step → Option Value
    | .object es, .name k => Entries.get? es k
    | .list vs, .index n => vs[n]?
    | _, _ => none

end ChatAutomation.Value
