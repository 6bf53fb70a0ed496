import ChatAutomation.Text.Case
import ChatAutomation.Text.Search
import ChatAutomation.Value.Written

/-!
# The log

Every record has a level, and is written if the level of its logger lets it pass. Loggers form a
hierarchy by the points in their names; a logger without a level of its own has that of the nearest
one above it. Setting up the log gives the root its level, and some noisy libraries a level of their
own.
-/
namespace ChatAutomation.Log

def info : Nat := 20

def warning : Nat := 30

def critical : Nat := 50

/-- The levels by name. -/
def levels : Entries Nat :=
  [("CRITICAL", critical), ("FATAL", critical), ("ERROR", 40), ("WARN", warning),
    ("WARNING", warning), ("INFO", info), ("DEBUG", 10), ("NOTSET", 0)]

/-- The level that is asked for; what names no level means the one for information. -/
def resolveLevel (asked : Value) : Nat :=
  let name := if asked.isGiven then asked.plain else "INFO"
  (levels.get? (Text.upper name)).getD info

/-- The level for a name that is asked for, or else that of the settings. -/
def chosenLevel (asked settings : Value) : Nat :=
  resolveLevel (if asked.isGiven then asked else settings)

/-- The written name of a level. -/
def levelName (n : Int) : String :=
  if n = 50 then "critical" else if n = 40 then "error" else if n = 30 then "warning"
  else if n = 20 then "info" else if n = 10 then "debug" else if n = 0 then "notset"
  else s!"level {n}"

def noisyLoggers : List String := ["uvicorn.access", "httpx", "pymongo", "google_genai", "openai"]

def rootName : String := "root"

structure Record where
  logger : String
  level : Int
  message : String
  deriving DecidableEq, Repr

def serviceName : String := "flowbot"

/-- Adds to an event where it comes from, unless it says so itself. -/
def addContext (environment : String) (event : Entries Value) : Entries Value :=
  let event := if event.has "service" then event else event.put "service" (.text serviceName)
  if event.has "environment" then event else event.put "environment" (.text environment)

/-- A record as it is written. -/
def Record.entries (environment : String) (r : Record) : Entries Value :=
  addContext environment
    [("event", .text r.message), ("level", .text (levelName r.level)),
      ("logger", .text (if r.logger.isEmpty then rootName else r.logger))]

/-- Who writes down the records that pass: the application, or somebody else. -/
inductive Handler where
  | application
  | other
  deriving DecidableEq, Repr

/-- The loggers: the level of the root, the levels that others have of their own, and the
handlers. -/
structure Loggers where
  rootLevel : Nat
  ownLevels : Entries Nat
  handlers : List Handler
  deriving DecidableEq, Repr

namespace Loggers

/-- The loggers before the log is set up. -/
def fresh : Loggers := ⟨warning, [], []⟩

/-- Sets the levels, and puts a handler of the application in the place of earlier ones. -/
def setUp (level : Nat) (l : Loggers) : Loggers where
  rootLevel := level
  ownLevels := noisyLoggers.foldl (fun levels name => levels.put name warning) l.ownLevels
  handlers := l.handlers.filter (· != .application) ++ [.application]

/-- However often the log is set up, the application has one handler. -/
@[simp] theorem count_handlers_setUp (level : Nat) (l : Loggers) :
    (l.setUp level).handlers.count .application = 1 := by
  have h : (l.handlers.filter (· != Handler.application)).count .application = 0 := by
    rw [List.count_eq_zero]
    simp
  simp [setUp, List.count_append, h]

/-- The names above a name, the nearest first, all of them by their parts in reverse. Where a name
ends in a point, the name without it is passed over. -/
def partsAbove : List String → List (List String)
  | "" :: _ :: parts => parts :: partsAbove parts
  | _ :: parts => parts :: partsAbove parts
  | [] => []

/-- A logger and those above it, the nearest first. -/
def ancestors (name : String) : List String :=
  let parent := (Text.splitAt '.' name).reverse.tail
  name :: ((parent :: partsAbove parent).filter fun parts => !parts.isEmpty).map fun parts =>
    ".".intercalate parts.reverse

/-- The level that counts for a logger; zero is no level of its own. -/
def levelOf (name : String) (l : Loggers) : Nat :=
  ((ancestors name).findSome? fun a => (l.ownLevels.get? a).filter (0 < ·)).getD l.rootLevel

/-- Does a record pass? One of level zero or below never does. -/
def passes (l : Loggers) (r : Record) : Bool := 0 < r.level && (l.levelOf r.logger : Int) ≤ r.level

/-- What a record leaves in the log: one line for each handler of the application. -/
def lines (environment : String) (l : Loggers) (r : Record) : List (Entries Value) :=
  if l.passes r then List.replicate (l.handlers.count .application) (r.entries environment) else []

/-- What some records leave in the log. -/
def written (environment : String) (l : Loggers) (records : List Record) : List (Entries Value) :=
  records.flatMap (l.lines environment)

end Loggers
end ChatAutomation.Log
