import ChatAutomation.Breaker
import ChatAutomation.Metric
import ChatAutomation.Text.Blank
import ChatAutomation.Value.Lookup

/-!
# Replies by language models

A reply is asked of the first provider, then of the second, each behind its breaker. When none gives
one, an apology takes its place, so there always is a reply.
-/
namespace ChatAutomation

/-- A question to a provider of replies. -/
structure Question where
  model : String
  prompt : String
  message : String
  deriving DecidableEq, Repr

/-- A provider: its model, its breaker, how it wants an empty message, and how it is asked. The
answer may be of any kind. -/
structure Provider (σ : Type) where
  label : String
  model : String
  breaker : Breaker
  emptyMessage : String
  ask : Question → σ → Except Fault Value × σ

namespace Responder

def apology : String :=
  "Desculpe, estou com dificuldades para responder agora. Pode tentar novamente em instantes?"

def geminiLabel : String := "gemini"

def openaiLabel : String := "openai"

def breaker (label : String) : Breaker := .new { name := label }

/-- The provider that is asked first; it wants no empty message. -/
def gemini {σ : Type} (model : String) (ask : Question → σ → Except Fault Value × σ) :
    Provider σ :=
  ⟨geminiLabel, model, breaker geminiLabel, " ", ask⟩

def openai {σ : Type} (model : String) (ask : Question → σ → Except Fault Value × σ) :
    Provider σ :=
  ⟨openaiLabel, model, breaker openaiLabel, "", ask⟩

/-- How freely the models answer. -/
def temperature : Binary64 := .ofDecimal false 7 (-1)

/-- The text of an answer, without the blanks around it. -/
def reply (answer : Value) : Except Fault String := (answer.textFor "strip").map Text.trim

/-- Asks, and takes an answer that is no text for a failure. -/
def asked {σ : Type} (p : Provider σ) (prompt message : String) (outside : σ) :
    Except Fault String × σ :=
  let message := if message.isEmpty then p.emptyMessage else message
  let (answer, outside) := p.ask ⟨p.model, prompt, message⟩ outside
  (answer.bind reply, outside)

/-- The state of the replies: the providers in the order in which they are asked. -/
structure State (σ : Type) where
  providers : List (Provider σ)
  outside : σ
  samples : List Sample

/-- What a provider's turn counts: nothing for an empty reply. -/
def samplesOf (label : String) : Except Fault String → List Sample
  | .ok s => if s.isEmpty then [] else [.reply label true]
  | .error _ => [.reply label false]

/-- The reply that a provider's turn gives, empty where it gives none. -/
def given : Except Fault String → String
  | .ok s => s
  | .error _ => ""

/-- The reply of the first of some providers that gives one, with the providers as they are
afterwards. The clock is part of what is outside: it moves while a provider thinks. -/
def firstReply {σ : Type} (clock : σ → Binary64) (prompt message : String) :
    List (Provider σ) → σ → String × State σ
  | [], outside => (apology, ⟨[], outside, []⟩)
  | p :: ps, outside =>
    let (outcome, breaker, outside) := p.breaker.callBy clock (asked p prompt message) outside
    let p := { p with breaker }
    let samples := samplesOf p.label outcome
    if (given outcome).isEmpty then
      let (answer, s) := firstReply clock prompt message ps outside
      (answer, ⟨p :: s.providers, s.outside, samples ++ s.samples⟩)
    else (given outcome, ⟨p :: ps, outside, samples⟩)

/-- A reply to a message, by a clock. -/
def respondBy {σ : Type} (clock : σ → Binary64) (prompt message : String) (s : State σ) :
    String × State σ :=
  let (answer, t) := firstReply clock prompt message s.providers s.outside
  (answer, { t with samples := s.samples ++ t.samples })

/-- A reply to a message while the clock stands still. -/
def respond {σ : Type} (now : Binary64) (prompt message : String) (s : State σ) :
    String × State σ :=
  respondBy (fun _ => now) prompt message s

end Responder
end ChatAutomation
