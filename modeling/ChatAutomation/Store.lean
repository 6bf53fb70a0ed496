import ChatAutomation.Fault
import ChatAutomation.Flow
import ChatAutomation.Value.Same

/-!
# The store of flows

Flows are kept as documents, in the order in which they were put in, and listed newest first. A
document that is no flow stays where it is and is passed over. Every operation fails while the
store is out of reach, and leaves it as it was.
-/
namespace ChatAutomation

structure Store where
  documents : List Document
  /-- What operations fail with while the store is out of reach. -/
  failure : Option Fault := none
  /-- Do updates miss their document, as when it is removed at the same time? -/
  updatesMiss : Bool := false
  deriving Inhabited

/-- An index of the store: its keys, which may each be descending, and whether it is unique. -/
structure Index where
  keys : List (String × Bool)
  unique : Bool
  deriving DecidableEq, Repr

namespace Document

def id? (d : Document) : Option Value :=
  match d.get? "id" with
  | some (.plain v) => some v
  | _ => none

def hasId (id : String) (d : Document) : Bool :=
  match d.id? with
  | some (.text s) => s == id
  | _ => false

/-- Do two documents have the same id? -/
def sharesId (d e : Document) : Bool :=
  match d.id?, e.id? with
  | some v, some w => v.same w
  | _, _ => false

/-- Is the flow switched on? The number one counts as on, too. -/
def isEnabled (d : Document) : Bool :=
  match d.get? "enabled" with
  | some (.plain v) => v.same (.bool true)
  | _ => false

/-- How well the time is known at which a document was made: not at all, in some written form, or as a
timestamp. -/
def dateRank : Option Field → Nat
  | none | some (.plain .null) => 0
  | some (.plain _) => 1
  | some (.moment _) => 2

/-- Was the first document made before the second? One without a date comes before all others, and
dates that are no timestamps are compared as they are written. -/
def olderThan (a b : Document) : Bool :=
  match a.get? "created_at", b.get? "created_at" with
  | some (.moment s), some (.moment t) => s.instant < t.instant
  | some (.plain (.text s)), some (.plain (.text t)) => s < t
  | some (.plain (.int m)), some (.plain (.int n)) => m < n
  | s, t => dateRank s < dateRank t

/-- The flow that a document holds. -/
def flow? (now : Timestamp) (d : Document) : Option Flow :=
  if d.isEmpty then none
  else
    match Flow.ofDocument now d with
    | .ok f => some f
    | .issues _ => none

end Document

namespace Store

/-- The greatest number of documents that are listed. -/
def listLimit : Nat := 500

/-- The indexes for looking up and listing flows. -/
def indexes : List Index :=
  [⟨[("id", false)], true⟩, ⟨[("enabled", false), ("created_at", true)], false⟩]

/-- Does an operation on the store, if it is within reach. -/
def within {α : Type} (s : Store) (a : α) : Except Fault α :=
  match s.failure with
  | some f => .error f
  | none => .ok a

/-- Documents newest first; those of the same age stay in their order. -/
def newestFirst (ds : List Document) : List Document :=
  ds.mergeSort fun a b => !a.olderThan b

/-- The flows among the documents that satisfy a condition. -/
def flows (now : Timestamp) (p : Document → Bool) (s : Store) : List Flow :=
  ((newestFirst (s.documents.filter p)).take listLimit).filterMap (Document.flow? now)

def list (now : Timestamp) (s : Store) : Except Fault (List Flow) :=
  s.within (s.flows now fun _ => true)

def listEnabled (now : Timestamp) (s : Store) : Except Fault (List Flow) :=
  s.within (s.flows now Document.isEnabled)

def document? (s : Store) (id : String) : Option Document := s.documents.find? (Document.hasId id)

def get (now : Timestamp) (id : String) (s : Store) : Except Fault (Option Flow) :=
  s.within ((s.document? id).bind (Document.flow? now))

/-- Puts a document behind the others; no id is taken twice. -/
def insertDocument (d : Document) (s : Store) : Except Fault Store :=
  match s.failure with
  | some f => .error f
  | none =>
    if s.documents.any (·.sharesId d) then .error .duplicateKey
    else .ok { s with documents := s.documents ++ [d] }

def insert (f : Flow) (s : Store) : Except Fault (Flow × Store) :=
  (s.insertDocument f.document).map fun s => (f, s)

/-- Applies a change to the first of some documents that has an id. -/
def updateFirst (id : String) (change : Document → Document) : List Document → List Document
  | [] => []
  | d :: ds => if d.hasId id then change d :: ds else d :: updateFirst id change ds

/-- Drops the first of some documents that has an id. -/
def removeFirst (id : String) : List Document → List Document
  | [] => []
  | d :: ds => if d.hasId id then ds else d :: removeFirst id ds

theorem length_updateFirst (id : String) (change : Document → Document) (ds : List Document) :
    (updateFirst id change ds).length = ds.length := by
  induction ds with
  | nil => rfl
  | cons d ds ih => by_cases h : d.hasId id = true <;> simp [updateFirst, h, ih]

theorem updateFirst_of_none {id : String} {ds : List Document} (change : Document → Document)
    (h : ds.find? (Document.hasId id) = none) : updateFirst id change ds = ds := by
  induction ds with
  | nil => rfl
  | cons d ds ih =>
    by_cases hd : d.hasId id = true
    · simp [hd] at h
    · rw [updateFirst, if_neg hd, ih (by simpa [List.find?_cons, hd] using h)]

theorem removeFirst_sublist (id : String) (ds : List Document) :
    (removeFirst id ds).Sublist ds := by
  induction ds with
  | nil => exact .slnil
  | cons d ds ih =>
    by_cases h : d.hasId id = true
    · simp [removeFirst, h]
    · simpa [removeFirst, h] using ih

/-- Writes fields of a flow, notes the time, and gives the flow as it is then. -/
def update (now : Timestamp) (id : String) (changes : Document) (s : Store) :
    Except Fault (Option Flow × Store) :=
  let change (d : Document) := (d.putAll changes).put "updated_at" (.moment now)
  s.within <|
    if s.updatesMiss then (none, s)
    else
      (((s.document? id).map change).bind (Document.flow? now),
        { s with documents := updateFirst id change s.documents })

/-- Removes a flow and tells whether it was there. -/
def delete (id : String) (s : Store) : Except Fault (Bool × Store) :=
  s.within ((s.document? id).isSome, { s with documents := removeFirst id s.documents })

/-- Switches a flow on or off and tells whether it was there. -/
def setEnabled (id : String) (enabled : Bool) (s : Store) : Except Fault (Bool × Store) :=
  let change (d : Document) : Document := d.put "enabled" (.plain (.bool enabled))
  s.within ((s.document? id).isSome,
    { s with documents := updateFirst id change s.documents })

end Store
end ChatAutomation
