import ChatAutomation.Api.Call
import ChatAutomation.Text.Search

/-!
# Routes

Which paths the application knows, and which methods each of them takes. A path may end in a line
break. One that is known but for slashes at its end is redirected.
-/
namespace ChatAutomation

inductive Route where
  | health
  | metrics
  | manual
  | flows
  | flow (id : String)
  | toggle (id : String)
  | webhook
  deriving DecidableEq, Repr

namespace Route

/-- The version of the interface, which is part of every path. -/
def apiVersion : String := "v1"

def ofSegments : List String → Option Route
  | ["", "health"] => some health
  | ["", "metrics"] => some metrics
  | ["", "docs", "oauth2-redirect"] => some manual
  | "" :: "api" :: version :: rest =>
    if version = apiVersion then
      match rest with
      | ["docs"] | ["openapi.json"] => some manual
      | ["automation"] => some flows
      | ["automation", id] => if id.isEmpty then none else some (flow id)
      | ["automation", id, "toggle"] => if id.isEmpty then none else some (toggle id)
      | ["webhooks", "whatsapp"] => some webhook
      | _ => none
    else none
  | _ => none

/-- A path without a line break at its end. -/
def withoutBreak (path : String) : String :=
  if Text.endsWith path "\n" then String.ofList path.toList.dropLast else path

/-- The route of a path. An id at the end of a path takes a line break in. -/
def ofPath? (path : String) : Option Route :=
  (ofSegments (Text.splitAt '/' path)).or (ofSegments (Text.splitAt '/' (withoutBreak path)))

def methods : Route → List String
  | health | metrics => ["GET"]
  | manual => ["GET", "HEAD"]
  | flows | webhook => ["GET", "POST"]
  | flow _ => ["GET", "DELETE"]
  | toggle _ => ["PATCH"]

/-- A path without the slashes at its end. -/
def withoutSlashes (path : String) : String :=
  String.ofList ((path.toList.reverse.dropWhile (· == '/')).reverse)

/-- The route of a call, or the answer to a call that has none. -/
def ofCall (c : Call) : Except Answer Route :=
  match ofPath? c.path with
  | some r => if r.methods.contains c.method then .ok r else .error (.refusal 405 "Method Not Allowed")
  | none =>
    if Text.endsWith c.path "/" && (ofPath? (withoutSlashes c.path)).isSome then
      .error (.given 307 (.text ""))
    else .error (.refusal 404 "Not Found")

end Route
end ChatAutomation
