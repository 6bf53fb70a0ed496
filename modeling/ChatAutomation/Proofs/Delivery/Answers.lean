import ChatAutomation.Proofs.Delivery.Attempts
import ChatAutomation.Proofs.Json.Encoding
import ChatAutomation.Proofs.Value.Lookup
import Mathlib

/-!
# What an answer means

A delivery that is answered should end well for every status of success, and for any other status with a
refusal that carries it; one sample should tell which: `Classified`. But the status alone does not decide.
Only one status of success is taken for one, and the answer is looked into, which fails where it does not
have the expected form. `deliverBy_classifies_iff` says for which answers a delivery is classified, and what
becomes of the others.
-/
namespace ChatAutomation

namespace Value

/-- Is the value a list with an object in front? -/
def beginsWithObject : Value → Bool
  | list (u :: _) => u.isObject
  | _ => false

/-- An entry of what comes first can be read if that is an object in front of a list. -/
theorem first_entry_cases (v : Value) (k : String) (default : Value) :
    v.beginsWithObject = true ∧ (∃ x, (v.first >>= fun u => u.entry k default) = .ok x) ∨
      v.beginsWithObject = false ∧ ∃ e, (v.first >>= fun u => u.entry k default) = .error e := by
  cases v with
  | list vs =>
    cases vs with
    | nil => exact .inr ⟨rfl, _, rfl⟩
    | cons u us =>
      cases hu : u.isObject with
      | true => exact .inl ⟨hu, _, entry_eq hu default⟩
      | false => exact .inr ⟨hu, entry_eq_error hu default⟩
  | text s =>
    refine .inr ⟨rfl, ?_⟩
    -- a character is a text again, in which there are no entries
    rw [first]
    cases s.toList <;> exact ⟨_, rfl⟩
  | _ => exact .inr ⟨rfl, _, rfl⟩

end Value

namespace Response

/-- Is the status one of success? -/
def isSuccess (r : Response) : Bool := decide (200 ≤ r.status) && decide (r.status < 300)

/-- Can the id of a message be looked up? No list of messages is needed for it, but an empty one is in
the way. -/
def Names (r : Response) : Prop :=
  ∃ v, r.json = .ok v ∧ v.isObject = true ∧ (v.at? "messages").all Value.beginsWithObject = true

/-- Can the reason of a refusal be looked up? The answer need not be JSON, unless its depth alone is at
fault. -/
def Explains (r : Response) : Prop :=
  (∃ v, r.json = .ok v ∧ v.isObject = true ∧ v.holdsObject "error" = true) ∨
    ∃ document cause, r.json = .error (.malformedJson document cause) ∧ cause.isDeep = false

/-- An answer is a value, or it is malformed. -/
theorem json_cases (r : Response) :
    (∃ v, r.json = .ok v) ∨ ∃ document cause, r.json = .error (.malformedJson document cause) := by
  unfold json
  cases Json.parseBody r.body with
  | ok v => exact .inl ⟨v, rfl⟩
  | error e => exact .inr ⟨e.1, e.2, rfl⟩

theorem names_iff {r : Response} {v : Value} (hv : r.json = .ok v) :
    r.Names ↔ v.isObject = true ∧ (v.at? "messages").all Value.beginsWithObject = true := by
  simp [Names, hv]

theorem explains_iff {r : Response} {v : Value} (hv : r.json = .ok v) :
    r.Explains ↔ v.isObject = true ∧ v.holdsObject "error" = true := by
  simp [Explains, hv]

end Response

namespace Delivery

/-! ## One answer -/

/-- The messages of an answer that names none: one without an id. -/
def unnamed : Value := .list [.object []]

theorem messageId_of_json {r : Response} {v : Value} (h : r.json = .ok v) :
    messageId r = v.entry "messages" unnamed >>= fun messages =>
      messages.first >>= fun u => u.entry "id" .null := by
  rw [messageId, h]
  rfl

/-- The id of a message is found, or looking it up fails. -/
theorem messageId_cases (r : Response) :
    r.Names ∧ (∃ id, messageId r = .ok id) ∨ ¬ r.Names ∧ ∃ f, messageId r = .error f := by
  rcases r.json_cases with ⟨v, hv⟩ | ⟨document, cause, hv⟩
  · rw [Response.names_iff hv, messageId_of_json hv]
    cases hobject : v.isObject with
    | false =>
      obtain ⟨e, he⟩ := Value.entry_eq_error (k := "messages") hobject unnamed
      rw [he]
      exact .inr ⟨by simp, e, rfl⟩
    | true =>
      rw [Value.entry_eq hobject]
      have hbegins : (v.at? "messages").all Value.beginsWithObject =
          ((v.at? "messages").getD unnamed).beginsWithObject := by
        cases v.at? "messages" <;> rfl
      rw [hbegins]
      rcases Value.first_entry_cases ((v.at? "messages").getD unnamed) "id" .null with
        ⟨h, hid⟩ | ⟨h, hfault⟩
      · exact .inl ⟨⟨rfl, h⟩, hid⟩
      · exact .inr ⟨by simp [h], hfault⟩
  · exact .inr ⟨by simp [Response.Names, hv], .malformedJson document cause, by rw [messageId, hv]; rfl⟩

/-- The reason of a refusal is found, or looking it up fails. -/
theorem refusal_cases (r : Response) :
    r.Explains ∧ (∃ detail, refusal r = .ok detail) ∨ ¬ r.Explains ∧ ∃ f, refusal r = .error f := by
  unfold refusal
  rcases r.json_cases with ⟨v, hv⟩ | ⟨document, cause, hv⟩
  · rw [Response.explains_iff hv, hv]
    rcases Value.inner_entry_cases v "error" "message" unknownError with ⟨h, hdetail⟩ | ⟨h, hfault⟩
    · exact .inl ⟨Bool.and_eq_true_iff.1 h, _, hdetail⟩
    · refine .inr ⟨?_, hfault⟩
      rw [← Bool.and_eq_true_iff, h]
      exact Bool.false_ne_true
  · rw [hv]
    cases hdeep : cause.isDeep with
    | false => exact .inl ⟨.inr ⟨document, cause, hv, hdeep⟩, by simp [hdeep]⟩
    | true => exact .inr ⟨by simp [Response.Explains, hv, hdeep], by simp [hdeep]⟩

/-- The meaning that an answer should have: a status of success lets the delivery end well, any other one
makes it fail with a refusal of that status, and one sample tells which. -/
structure Classified (phone type : String) (r : Response) (outcome : Except Fault Value)
    (counted : List Sample) : Prop where
  sent : r.isSuccess = true → (∃ id, outcome = .ok id) ∧ counted = [.delivery type true]
  refused : r.isSuccess = false →
    (∃ detail, outcome = .error (.sendRefused phone r.status detail)) ∧
      counted = [.delivery type false]

/-- The meaning that an answer has, with what is counted. -/
inductive Concluded (phone type : String) (r : Response) : Except Fault Value → List Sample → Prop
  | sent {id : Value} (hstatus : r.status = accepted) (hnames : r.Names) :
      Concluded phone type r (.ok id) [.delivery type true]
  | refused {detail : String} (hstatus : r.status ≠ accepted) (hexplains : r.Explains) :
      Concluded phone type r (.error (.sendRefused phone r.status detail)) [.delivery type false]
  /-- The answer is looked into in vain, and nothing is counted. -/
  | unreadable {f : Fault} (h : if r.status = accepted then ¬ r.Names else ¬ r.Explains) :
      Concluded phone type r (.error f) []

section
variable {phone type : String} {r : Response} {outcome : Except Fault Value} {counted : List Sample}

theorem concluded_conclude (phone type : String) (r : Response) :
    Concluded phone type r (conclude phone r).1
      ((conclude phone r).2.map fun sent => Sample.delivery type sent).toList := by
  unfold conclude
  by_cases hstatus : r.status = accepted
  · rw [if_pos hstatus]
    rcases messageId_cases r with ⟨hnames, id, hid⟩ | ⟨hnames, f, hid⟩
    · rw [hid]
      exact .sent hstatus hnames
    · rw [hid]
      exact .unreadable (by rwa [if_pos hstatus])
  · rw [if_neg hstatus]
    rcases refusal_cases r with ⟨hexplains, detail, hdetail⟩ | ⟨hexplains, f, hdetail⟩
    · rw [hdetail]
      exact .refused hstatus hexplains
    · rw [hdetail]
      exact .unreadable (by rwa [if_neg hstatus])

theorem isSuccess_of_accepted (h : r.status = accepted) : r.isSuccess = true := by
  rw [Response.isSuccess, h]
  rfl

/-- An answer means what it should if it has the one status of success and names its message, or a status
of failure and a reason. -/
theorem Concluded.classified_iff (h : Concluded phone type r outcome counted) :
    Classified phone type r outcome counted ↔
      if r.isSuccess then r.status = accepted ∧ r.Names else r.Explains := by
  cases h with
  | sent hstatus hnames =>
    have hsuccess := isSuccess_of_accepted hstatus
    rw [if_pos hsuccess]
    exact iff_of_true ⟨fun _ => ⟨⟨_, rfl⟩, rfl⟩, fun h => by simp [hsuccess] at h⟩ ⟨hstatus, hnames⟩
  | refused hstatus hexplains =>
    cases hsuccess : r.isSuccess with
    | true => exact iff_of_false (fun h => by simpa using (h.sent hsuccess).1) (fun h => hstatus h.1)
    | false => exact iff_of_true ⟨fun h => by simp [hsuccess] at h, fun _ => ⟨⟨_, rfl⟩, rfl⟩⟩ hexplains
  | unreadable h =>
    cases hsuccess : r.isSuccess with
    | true =>
      refine iff_of_false (fun h => by simpa using (h.sent hsuccess).2) (fun hnamed => ?_)
      rw [if_pos hnamed.1] at h
      exact h hnamed.2
    | false =>
      have hstatus : r.status ≠ accepted := fun h => by simp [isSuccess_of_accepted h] at hsuccess
      rw [if_neg hstatus] at h
      exact iff_of_false (fun h => by simpa using (h.refused hsuccess).2) h

end

/-! ## The delivery behind an answer -/

variable {σ : Type} (c : Carrier σ) (clock : σ → Binary64)

theorem samples_attempt (p : Post) (d : Deliveries σ) : (attempt c clock p d).2.samples = d.samples := rfl

/-- Posts are not counted, only what comes of them. -/
theorem samples_post (p : Post) (seconds : List Nat) (d : Deliveries σ) :
    (post c clock p seconds d).2.samples = d.samples := by
  induction seconds generalizing d with
  | nil => rfl
  | cons pause later ih =>
    unfold post
    split
    · rename_i d₁ hlost
      have hsamples : d₁.samples = d.samples := by
        rw [← samples_attempt c clock p d, hlost]
      split
      · rw [ih]
        exact hsamples
      · exact hsamples
    · rfl

/-- The recipient of a body. -/
def phoneOf (es : Entries Value) : String := ((Entries.get? es "to").getD .null).plain

/-- The form of the message in a body. -/
def typeOf (es : Entries Value) : String := ((Entries.get? es "type").getD .null).plain

theorem deliverBy_of_answer {a : Account} {es : Entries Value} {p : Post} (hp : postOf a es = .ok p)
    {d d₁ : Deliveries σ} {r : Response} (h : post c clock p pauses d = (.ok r, d₁)) :
    deliverBy a c clock es d =
      ((conclude (phoneOf es) r).1,
        { d₁ with
          samples := d.samples ++ ((conclude (phoneOf es) r).2.map fun sent =>
            Sample.delivery (typeOf es) sent).toList }) := by
  have hsamples : d₁.samples = d.samples := by
    rw [← samples_post c clock p pauses d, h]
  rw [deliverBy, hp]
  dsimp only
  rw [h, ← hsamples]
  rfl

/-- A delivery on behalf of an account with credentials, to a recipient, is classified by its answer as it
should, just if the answer has the one status of success that is known and names its message, or has a status
of failure and a reason that can be looked up. The other answers of success are taken for refusals, and what
cannot be looked into makes the delivery fail with the fault of the look-up. -/
theorem deliverBy_classifies_iff {a : Account} {es : Entries Value}
    (htoken : (credential a.token).isSome) (hphone : (credential a.phoneId).isSome)
    (hto : ((Entries.get? es "to").getD .null).isGiven = true) (d : Deliveries σ) :
    ∃ p, postOf a es = .ok p ∧ ∀ r d₁, post c clock p pauses d = (.ok r, d₁) →
      let result := deliverBy a c clock es d
      ∃ counted, result.2 = { d₁ with samples := d.samples ++ counted } ∧
        Concluded (phoneOf es) (typeOf es) r result.1 counted ∧
        (Classified (phoneOf es) (typeOf es) r result.1 counted ↔
          if r.isSuccess then r.status = accepted ∧ r.Names else r.Explains) := by
  obtain ⟨token, htoken⟩ := Option.isSome_iff_exists.1 htoken
  obtain ⟨phone, hphone⟩ := Option.isSome_iff_exists.1 hphone
  obtain ⟨p, hp⟩ : ∃ p, postOf a es = .ok p := by
    simp [postOf, hto, htoken, hphone]
  refine ⟨p, hp, fun r d₁ h => ?_⟩
  rw [deliverBy_of_answer c clock hp h]
  have hconcluded := concluded_conclude (phoneOf es) (typeOf es) r
  exact ⟨_, rfl, hconcluded, hconcluded.classified_iff⟩

/-- The body of a text. -/
def texted : Entries Value := [("to", .text "5511"), ("type", .text "text")]

def account : Account := ⟨some "token", some "123", "https://graph.test"⟩

/-- A service whose next post is answered. -/
def answering (r : Response) : Deliveries (List (Except Fault Response)) := ⟨breaker, [.ok r], []⟩

/-- The post is answered at once. -/
theorem post_answering (p : Post) (r : Response) :
    ∃ d₁, post scripted (fun _ => .zero) p pauses (answering r) = (.ok r, d₁) := ⟨_, rfl⟩

theorem json_of_parseValue {s : String} {v : Value} (hs : ∃ cs, s.toList = '\x7b' :: '"' :: cs)
    (h : Json.parseValue s = .ok v) (status : Int) : Response.json ⟨status, s⟩ = .ok v := by
  rw [Response.json, Json.parseBody_of_parseValue hs h]
  rfl

/-- What a server says to a message that it accepts. -/
def named : String := "\x7b\"messages\": [\x7b\"id\": \"wamid.X\"\x7d]\x7d"

theorem json_named (status : Int) : Response.json ⟨status, named⟩ =
    .ok (.object [("messages", .list [.object [("id", .text "wamid.X")]])]) :=
  json_of_parseValue (s := named) ⟨_, rfl⟩ (by cbv) status

/-- A message that is accepted is delivered, and counted as sent. -/
theorem deliverBy_classifies_named :
    (credential account.token).isSome ∧ (credential account.phoneId).isSome ∧
    ((Entries.get? texted "to").getD .null).isGiven = true ∧
    let result := deliverBy account scripted (fun _ => .zero) texted (answering ⟨200, named⟩)
    Classified "5511" "text" ⟨200, named⟩ result.1 result.2.samples := by
  have htoken : (credential account.token).isSome := by decide
  have hphone : (credential account.phoneId).isSome := by decide
  have hto : ((Entries.get? texted "to").getD .null).isGiven = true := by decide
  refine ⟨htoken, hphone, hto, ?_⟩
  obtain ⟨p, -, hclassifies⟩ :=
    deliverBy_classifies_iff scripted (fun _ => .zero) htoken hphone hto (answering ⟨200, named⟩)
  obtain ⟨d₁, hpost⟩ := post_answering p ⟨200, named⟩
  obtain ⟨counted, hbehind, -, hiff⟩ := hclassifies _ d₁ hpost
  have hnames : Response.Names ⟨200, named⟩ :=
    (Response.names_iff (json_named 200)).2 ⟨rfl, rfl⟩
  have hclassified := hiff.2 ⟨rfl, hnames⟩
  dsimp only
  rw [hbehind]
  exact hclassified

def unnamedList : String := "\x7b\"messages\": []\x7d"

def errorText : String := "\x7b\"error\": \"boom\"\x7d"

/-- The outcome of a delivery that is answered at once, and what is counted. -/
theorem deliverBy_answering (r : Response) :
    let result := deliverBy account scripted (fun _ => .zero) texted (answering r)
    result.1 = (conclude "5511" r).1 ∧
      result.2.samples = ((conclude "5511" r).2.map fun sent => Sample.delivery "text" sent).toList := by
  obtain ⟨p, hp⟩ : ∃ p, postOf account texted = .ok p := ⟨_, rfl⟩
  obtain ⟨d₁, hpost⟩ := post_answering p r
  dsimp only
  rw [deliverBy_of_answer scripted _ hp hpost]
  exact ⟨rfl, rfl⟩

theorem conclude_201 : conclude "5511" ⟨201, named⟩ =
    (.error (.sendRefused "5511" 201 "Unknown error"), some false) := by
  have hrefusal : refusal ⟨201, named⟩ = .ok unknownError := by
    rw [refusal, json_named]
    rfl
  rw [conclude, hrefusal]
  rfl

theorem conclude_unnamedList : conclude "5511" ⟨200, unnamedList⟩ =
    (.error (.emptySequence "list"), none) := by
  have hid : messageId ⟨200, unnamedList⟩ = .error (.emptySequence "list") := by
    rw [messageId_of_json (json_of_parseValue (s := unnamedList) ⟨_, rfl⟩ (by cbv) 200)]
    rfl
  rw [conclude, hid]
  rfl

theorem conclude_errorText : conclude "5511" ⟨400, errorText⟩ =
    (.error (.misused "str" (.method "get")), none) := by
  have hrefusal : refusal ⟨400, errorText⟩ = .error (.misused "str" (.method "get")) := by
    rw [refusal, json_of_parseValue (s := errorText) ⟨_, rfl⟩
      (v := .object [("error", .text "boom")]) (by cbv) 400]
    rfl
  rw [conclude, hrefusal]
  rfl

/-- Another status of success counts as a failure; an empty list of messages makes a message fail that was
delivered; and a reason that is given as a text hides the refusal. -/
theorem answers_misclassified :
    let deliver (r : Response) := deliverBy account scripted (fun _ => .zero) texted (answering r)
    ((deliver ⟨201, named⟩).1 = .error (.sendRefused "5511" 201 "Unknown error") ∧
      (deliver ⟨201, named⟩).2.samples = [.delivery "text" false]) ∧
    ((deliver ⟨200, unnamedList⟩).1 = .error (.emptySequence "list") ∧
      (deliver ⟨200, unnamedList⟩).2.samples = []) ∧
    ((deliver ⟨400, errorText⟩).1 = .error (.misused "str" (.method "get")) ∧
      (deliver ⟨400, errorText⟩).2.samples = []) ∧
    ∀ r ∈ [⟨201, named⟩, ⟨200, unnamedList⟩, ⟨400, errorText⟩],
      ¬ Classified "5511" "text" r (deliver r).1 (deliver r).2.samples := by
  intro deliver
  have hmoved := deliverBy_answering ⟨201, named⟩
  rw [conclude_201] at hmoved
  have hempty := deliverBy_answering ⟨200, unnamedList⟩
  rw [conclude_unnamedList] at hempty
  have hplain := deliverBy_answering ⟨400, errorText⟩
  rw [conclude_errorText] at hplain
  refine ⟨hmoved, hempty, hplain, ?_⟩
  intro r hr hclassified
  simp only [List.mem_cons, List.not_mem_nil, or_false] at hr
  rcases hr with rfl | rfl | rfl
  · obtain ⟨-, hcounted⟩ := hclassified.sent rfl
    cases hmoved.2.symm.trans hcounted
  · obtain ⟨-, hcounted⟩ := hclassified.sent rfl
    cases hempty.2.symm.trans hcounted
  · obtain ⟨-, hcounted⟩ := hclassified.refused rfl
    cases hplain.2.symm.trans hcounted

end Delivery
end ChatAutomation
