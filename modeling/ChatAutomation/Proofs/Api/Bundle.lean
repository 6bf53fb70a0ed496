import ChatAutomation.Api.App
import ChatAutomation.Proofs.Inbox.History
import ChatAutomation.Proofs.Json.Encoding
import ChatAutomation.Proofs.Value.Lookup
import Mathlib

/-!
# Bundles of messages

A bundle is read part by part: the head of each change of messages, and then the messages that were sent to
this phone. One part after the other is taken in until one does not have the expected form: `messages_eq`.
`schedules_all_iff` says that a bundle is answered with the number of its messages, and all of them are
handled, just in case no part is malformed; all that stands behind a malformed part is lost.
-/
namespace ChatAutomation

namespace Webhook

/-- The value of a change, which is empty where it is missing. -/
def valueOf (change : Value) : Value := (change.at? "value").getD (.object [])

/-- The number of the phone that the messages of a change were sent to. -/
def sentTo (change : Value) : Value :=
  (((valueOf change).at? "metadata").bind (Value.at? "phone_number_id")).getD .null

/-- Was a change sent to the given phone, or to none that is known? -/
def isAddressed (phoneId : Option String) (change : Value) : Bool :=
  !(sentTo change).isGiven || !Settings.isSet phoneId ||
    match sentTo change with
    | .text s => some s == phoneId
    | _ => false

def isMessages (change : Value) : Bool :=
  match change.at? "field" with
  | some (.text s) => s == "messages"
  | _ => false

/-- The changes of messages of a bundle. -/
def changes (data : Value) : List Value :=
  (data.listed "entry").flatMap fun e => (e.listed "changes").filter isMessages

def messagesOf (change : Value) : List Value := (valueOf change).listed "messages"

/-- The messages of a bundle that were sent to the given phone. -/
def addressed (phoneId : Option String) (data : Value) : List Value :=
  ((changes data).filter (isAddressed phoneId)).flatMap messagesOf

/-- The message of a notification, if it can be read and has a sender. -/
def inbound? (v : Value) : Option Inbound :=
  match Notification.message? v with
  | .ok m => m
  | .error _ => none

/-- A bundle in which lists of objects stand where they are expected. What the objects hold is free, and so is
what stands in the place of the value of a change. -/
structure IsBundle (data : Value) : Prop where
  isObject : data.isObject = true
  entries : data.listsObjects "entry" = true
  changeLists : ∀ e ∈ data.listed "entry", e.listsObjects "changes" = true
  messageLists : ∀ c ∈ changes data, (valueOf c).listsObjects "messages" = true

instance (data : Value) : Decidable (IsBundle data) :=
  decidable_of_iff
    (data.isObject = true ∧ data.listsObjects "entry" = true ∧
      (∀ e ∈ data.listed "entry", e.listsObjects "changes" = true) ∧
      ∀ c ∈ changes data, (valueOf c).listsObjects "messages" = true)
    ⟨fun ⟨h, entries, changes, messages⟩ => ⟨h, entries, changes, messages⟩,
      fun ⟨h, entries, changes, messages⟩ => ⟨h, entries, changes, messages⟩⟩

/-- What is looked at in a bundle. -/
inductive Part where
  /-- The phone that the messages of a change were sent to. -/
  | head (change : Value)
  | message (v : Value)

namespace Part

/-- Does a part have the expected form? A message without a sender does. -/
def isSound : Part → Bool
  | head change => (valueOf change).isObject && (valueOf change).holdsObject "metadata"
  | message v => (Notification.message? v).isOk

def inbound? : Part → Option Inbound
  | head _ => none
  | message v => Webhook.inbound? v

/-- What is read in a part. -/
def read : Part → Except Fault (Option Inbound)
  | head change => do
    let _ ← (← (valueOf change).inner "metadata").entry "phone_number_id" .null
    return none
  | message v => Notification.message? v

end Part

/-- The parts of a change, whose messages are looked at if they were sent to the given phone. -/
def partsOf (phoneId : Option String) (change : Value) : List Part :=
  .head change :: if isAddressed phoneId change then (messagesOf change).map .message else []

/-- All that is looked at in a bundle, in order. -/
def parts (phoneId : Option String) (data : Value) : List Part :=
  (changes data).flatMap (partsOf phoneId)

/-- What is gathered after something, unless that has ended it. -/
def Gathered.followedBy : Gathered → Gathered → Gathered
  | (ms, some e), _ => (ms, some e)
  | (ms, none), (later, e) => (ms ++ later, e)

/-- What is taken in of some parts, one after the other. -/
def takeIn : List Part → Gathered
  | [] => ([], none)
  | p :: ps =>
    match p.read with
    | .ok m => Gathered.followedBy (m.toList, none) (takeIn ps)
    | .error e => ([], some e)

variable {phoneId : Option String} {change data v : Value} {p : Part} {ps : List Part}

theorem Gathered.nil_followedBy (g : Gathered) : Gathered.followedBy ([], none) g = g := rfl

theorem Gathered.followedBy_assoc (g h i : Gathered) :
    (g.followedBy h).followedBy i = g.followedBy (h.followedBy i) := by
  obtain ⟨ms, _ | e⟩ := g
  · obtain ⟨ns, _ | e⟩ := h
    · simp [followedBy]
    · rfl
  · rfl

theorem takeIn_append (ps qs : List Part) :
    takeIn (ps ++ qs) = (takeIn ps).followedBy (takeIn qs) := by
  induction ps with
  | nil => rfl
  | cons p ps ih =>
    simp only [List.cons_append, takeIn]
    cases p.read with
    | ok m => rw [ih, Gathered.followedBy_assoc]
    | error e => rfl

theorem gather_cons (f : Value → Gathered) (v : Value) (vs : List Value) :
    gather f (v :: vs) = (f v).followedBy (gather f vs) := by
  rw [gather]
  obtain ⟨ms, _ | e⟩ := f v <;> rfl

/-- What is gathered from values that are read as parts is taken in of all the parts. -/
theorem gather_eq_takeIn {f : Value → Gathered} {g : Value → List Part} {vs : List Value}
    (h : ∀ v ∈ vs, f v = takeIn (g v)) : gather f vs = takeIn (vs.flatMap g) := by
  induction vs with
  | nil => rfl
  | cons v vs ih =>
    obtain ⟨hv, hvs⟩ := List.forall_mem_cons.1 h
    rw [gather_cons, hv, ih hvs, List.flatMap_cons, takeIn_append]

theorem gatherEntry_eq {k : String} (f : Value → Gathered) (hv : v.isObject = true)
    (hlists : v.listsObjects k = true) : gatherEntry k f v = gather f (v.listed k) := by
  rw [gatherEntry, Value.items_eq hv hlists]

theorem ofMessage_eq (v : Value) : ofMessage v = takeIn [.message v] := by
  rw [ofMessage, takeIn, Part.read]
  cases Notification.message? v with
  | ok m => simp [takeIn, Gathered.followedBy]
  | error e => rfl

/-- The head of a change is read, or it is malformed. -/
theorem isForeign_cases (phoneId : Option String) (change : Value) :
    (Part.head change).isSound = true ∧ (Part.head change).read = .ok none ∧
        isForeign phoneId (valueOf change) = .ok (!isAddressed phoneId change) ∨
      (Part.head change).isSound = false ∧ ∃ e, (Part.head change).read = .error e ∧
        isForeign phoneId (valueOf change) = .error e := by
  obtain ⟨hsound, hphone⟩ | ⟨hmalformed, e, hphone⟩ :=
    Value.inner_entry_cases (valueOf change) "metadata" "phone_number_id" .null
  · refine .inl ⟨hsound, ?_, ?_⟩
    · simp only [Part.read, ← bind_assoc, hphone]
      rfl
    · simp only [isForeign, ← bind_assoc, hphone]
      change (if _ then _ else _) = _
      rw [isAddressed, sentTo]
      -- the numbers are compared where both are known; one that is no text is another phone's
      generalize ((Value.at? "metadata" (valueOf change)).bind
        (Value.at? "phone_number_id")).getD .null = number
      cases (!number.isGiven || !Settings.isSet phoneId) with
      | true => rfl
      | false => cases number <;> rfl
  · refine .inr ⟨hmalformed, e, ?_, ?_⟩
    · simp only [Part.read, ← bind_assoc, hphone]
      rfl
    · simp only [isForeign, ← bind_assoc, hphone]
      rfl

theorem isMessages_iff : isMessages change = true ↔ change.at? "field" = some (.text "messages") := by
  unfold isMessages
  split
  · rename_i s hat
    rw [hat]
    simp
  · rename_i hother
    simp only [Bool.false_eq_true, false_iff]
    exact hother "messages"

/-- Changes of another kind are passed over. -/
theorem ofChange_of_not_isMessages (hchange : change.isObject = true) (hkind : isMessages change = false) :
    ofChange phoneId change = ([], none) := by
  have hfield : change.at? "field" ≠ some (.text "messages") := fun h => by
    rw [isMessages_iff.2 h] at hkind
    cases hkind
  rw [ofChange, Value.entry_eq hchange]
  split
  · rename_i heq
    cases hat : change.at? "field" with
    | none => simp [hat] at heq
    | some x => exact absurd (hat.trans (by simpa [hat] using heq)) hfield
  · rfl
  · rename_i heq
    cases heq

theorem ofChange_of_isMessages (hchange : change.isObject = true) (hkind : isMessages change = true)
    (hlists : (valueOf change).listsObjects "messages" = true) :
    ofChange phoneId change = takeIn (partsOf phoneId change) := by
  have hgathers : ofChange phoneId change = ofValue phoneId (valueOf change) := by
    rw [ofChange, Value.entry_eq hchange, isMessages_iff.1 hkind, Value.entry_eq hchange]
    rfl
  rw [hgathers, ofValue, partsOf, takeIn]
  obtain ⟨hsound, hread, hforeign⟩ | ⟨-, e, hread, hforeign⟩ := isForeign_cases phoneId change
  · rw [hread, hforeign]
    cases isAddressed phoneId change with
    | false => rfl
    | true =>
      have hmessages : gather ofMessage (messagesOf change) = takeIn ((messagesOf change).map .message) := by
        rw [gather_eq_takeIn (fun v _ => ofMessage_eq v), List.map_eq_flatMap]
      have hvalue : (valueOf change).isObject = true := (Bool.and_eq_true_iff.1 hsound).1
      exact (gatherEntry_eq _ hvalue hlists).trans hmessages
  · rw [hread, hforeign]

theorem gather_ofChange {cs : List Value} (hobjects : ∀ c ∈ cs, c.isObject = true)
    (hlists : ∀ c ∈ cs.filter isMessages, (valueOf c).listsObjects "messages" = true) :
    gather (ofChange phoneId) cs = takeIn ((cs.filter isMessages).flatMap (partsOf phoneId)) := by
  induction cs with
  | nil => rfl
  | cons c cs ih =>
    obtain ⟨hc, hcs⟩ := List.forall_mem_cons.1 hobjects
    cases hkind : isMessages c with
    | false =>
      rw [List.filter_cons_of_neg (by simp [hkind])] at hlists ⊢
      rw [gather_cons, ofChange_of_not_isMessages hc hkind, Gathered.nil_followedBy, ih hcs hlists]
    | true =>
      rw [List.filter_cons_of_pos hkind] at hlists ⊢
      obtain ⟨hc', hcs'⟩ := List.forall_mem_cons.1 hlists
      rw [gather_cons, ofChange_of_isMessages hc hkind hc', ih hcs hcs', List.flatMap_cons, takeIn_append]

/-- A bundle is taken in part by part. -/
theorem messages_eq (h : IsBundle data) : messages phoneId data = takeIn (parts phoneId data) := by
  have hentry : ∀ e ∈ data.listed "entry", gatherEntry "changes" (ofChange phoneId) e =
      takeIn (((e.listed "changes").filter isMessages).flatMap (partsOf phoneId)) := by
    intro e he
    rw [gatherEntry_eq _ (Value.isObject_of_mem_listed h.entries he) (h.changeLists e he)]
    apply gather_ofChange
    · exact fun c hc => Value.isObject_of_mem_listed (h.changeLists e he) hc
    · exact fun c hc => h.messageLists c (List.mem_flatMap.2 ⟨e, he, hc⟩)
  rw [messages, gatherEntry_eq _ h.isObject h.entries, gather_eq_takeIn hentry, parts, changes,
    List.flatMap_assoc]

namespace Part

theorem read_of_isSound (h : p.isSound = true) : p.read = .ok p.inbound? := by
  cases p with
  | head change =>
    obtain ⟨-, hread, -⟩ | ⟨hmalformed, -⟩ := isForeign_cases none change
    · exact hread
    · rw [hmalformed] at h
      cases h
  | message v =>
    rw [read, inbound?, Webhook.inbound?]
    rw [isSound] at h
    cases hv : Notification.message? v with
    | ok m => rfl
    | error e => simp [hv, Except.isOk, Except.toBool] at h

theorem read_of_not_isSound (h : p.isSound = false) : ∃ e, p.read = .error e := by
  cases p with
  | head change =>
    obtain ⟨hsound, -⟩ | ⟨-, e, hread, -⟩ := isForeign_cases none change
    · rw [hsound] at h
      cases h
    · exact ⟨e, hread⟩
  | message v =>
    rw [isSound] at h
    cases hv : Notification.message? v with
    | ok m => simp [hv, Except.isOk, Except.toBool] at h
    | error e => exact ⟨e, hv⟩

end Part

theorem takeIn_of_isSound (h : ∀ p ∈ ps, p.isSound = true) :
    takeIn ps = (ps.filterMap Part.inbound?, none) := by
  induction ps with
  | nil => rfl
  | cons p ps ih =>
    obtain ⟨hp, hps⟩ := List.forall_mem_cons.1 h
    rw [takeIn, Part.read_of_isSound hp, ih hps, List.filterMap_cons]
    cases p.inbound? <;> rfl

/-- Nothing behind a malformed part is taken in. -/
theorem takeIn_of_not_isSound {before : List Part} (h : ∀ q ∈ before, q.isSound = true)
    (hp : p.isSound = false) (after : List Part) :
    ∃ e, takeIn (before ++ p :: after) = (before.filterMap Part.inbound?, some e) := by
  obtain ⟨e, hread⟩ := Part.read_of_not_isSound hp
  refine ⟨e, ?_⟩
  rw [takeIn_append, takeIn_of_isSound h, takeIn, hread]
  simp [Gathered.followedBy]

theorem takeIn_snd_eq_none_iff : (takeIn ps).2 = none ↔ ∀ p ∈ ps, p.isSound = true := by
  constructor
  · intro h
    induction ps with
    | nil => exact List.forall_mem_nil _
    | cons p ps ih =>
      rw [takeIn] at h
      cases hp : p.isSound with
      | true =>
        rw [Part.read_of_isSound hp] at h
        exact List.forall_mem_cons.2 ⟨hp, ih h⟩
      | false =>
        obtain ⟨e, hread⟩ := Part.read_of_not_isSound hp
        rw [hread] at h
        cases h
  · intro h
    rw [takeIn_of_isSound h]

theorem filterMap_parts (phoneId : Option String) (data : Value) :
    (parts phoneId data).filterMap Part.inbound? = (addressed phoneId data).filterMap inbound? := by
  rw [parts, addressed]
  induction changes data with
  | nil => rfl
  | cons c cs ih =>
    rw [List.flatMap_cons, List.filterMap_append, ih, partsOf, List.filterMap_cons_none rfl]
    cases haddressed : isAddressed phoneId c with
    | false => simp [haddressed]
    | true =>
      rw [if_pos rfl, List.filterMap_map, List.filter_cons_of_pos haddressed, List.flatMap_cons,
        List.filterMap_append]
      rfl

end Webhook

namespace App
variable {σ : Type}

/-- The answer to a bundle of which so many messages are handled. -/
def scheduled (n : Nat) : Answer :=
  .given 200 (.json (.object [("status", .text "success"), ("scheduled", .int n)]))

/-- Handles messages, one after the other. -/
def handleAll (net : Network σ) (now : Timestamp) (clock : Binary64) (ms : List Inbound) (a : App σ) :
    App σ :=
  ms.foldl (fun a m => a.handleMessage net now clock m) a

theorem receive_eq (net : Network σ) (now : Timestamp) (clock : Binary64) {c : Call} {data : Value}
    (hread : c.anyDocument = .ok data) (a : App σ) :
    a.receive net now clock c =
      let (ms, fault) := Webhook.messages a.settings.phoneId data
      (if fault.isSome then .failure else scheduled ms.length, a.handleAll net now clock ms) := by
  rw [receive, hread]
  dsimp only
  obtain ⟨ms, _ | e⟩ := Webhook.messages a.settings.phoneId data <;> rfl

theorem answer_eq_receive (net : Network σ) (now : Timestamp) (clock : Binary64) {c : Call} (a : App σ)
    (hpost : c.method = "POST") (hpath : Route.ofPath? c.path = some .webhook) :
    a.answer net now clock c = a.receive net now clock c := by
  have hroute : Route.ofCall c = .ok .webhook := by
    rw [Route.ofCall, hpath, hpost]
    rfl
  rw [answer, hroute, hpost]
  simp [serve, hpost]

/-- A bundle is answered with the number of its messages that were sent to this phone, can be read and have a
sender, and these are handled, each once and in order, just in case no part of it is malformed. Otherwise the
answer is a failure, and those in front of the first malformed part are handled alone. -/
theorem schedules_all_iff (net : Network σ) (now : Timestamp) (clock : Binary64) (a : App σ) (c : Call)
    (data : Value) (hpost : c.method = "POST") (hpath : Route.ofPath? c.path = some .webhook)
    (hread : c.anyDocument = .ok data) (hdata : Webhook.IsBundle data) :
    let parts := Webhook.parts a.settings.phoneId data
    let messages := (Webhook.addressed a.settings.phoneId data).filterMap Webhook.inbound?
    (a.answer net now clock c = (scheduled messages.length, a.handleAll net now clock messages) ↔
      ∀ p ∈ parts, p.isSound = true) ∧
    ∀ before p after, parts = before ++ p :: after → (∀ q ∈ before, q.isSound = true) →
      p.isSound = false →
      a.answer net now clock c =
        (.failure, a.handleAll net now clock (before.filterMap Webhook.Part.inbound?)) := by
  intro parts messages
  have hanswer : a.answer net now clock c =
      let (ms, fault) := Webhook.takeIn parts
      (if fault.isSome then .failure else scheduled ms.length, a.handleAll net now clock ms) := by
    rw [answer_eq_receive net now clock a hpost hpath, receive_eq net now clock hread,
      Webhook.messages_eq hdata]
  refine ⟨⟨fun hall => ?_, fun hsound => ?_⟩, fun before p after hparts hsound hp => ?_⟩
  · apply Webhook.takeIn_snd_eq_none_iff.1
    rw [hanswer] at hall
    generalize Webhook.takeIn parts = taken at hall ⊢
    obtain ⟨ms, _ | e⟩ := taken
    · rfl
    · cases congrArg Prod.fst hall
  · rw [hanswer, Webhook.takeIn_of_isSound hsound, Webhook.filterMap_parts]
    rfl
  · obtain ⟨e, htaken⟩ := Webhook.takeIn_of_not_isSound hsound hp after
    rw [hanswer, hparts, htaken]
    rfl

/-- A network on which all that is sent arrives. -/
def reliable : Network Unit where
  carrier := ⟨fun _ s => (.ok ⟨200, ""⟩, s), fun _ s => (.ok (), s)⟩
  fetch := fun _ s => (.ok ⟨200, ""⟩, s)

/-- An application that nothing has happened to. -/
def fresh : App Unit := ⟨.usual, ⟨none, none, ""⟩, default, .new .usual, ⟨Delivery.breaker, (), []⟩, []⟩

/-- A bundle with some messages in one change. -/
def bundle (messages : List Value) : Value :=
  .object [("entry", .list [.object [("changes", .list [.object [("field", .text "messages"),
    ("value", .object [("messages", .list messages)])]])]])]

/-- The text of a bundle, whose messages are given as they are written. -/
def written (messages : String) : String :=
  "\x7b\"" ++ ("entry\":[\x7b\"changes\":[\x7b\"field\":\"messages\",\"value\":\x7b\"messages\":" ++ messages ++
    "\x7d\x7d]\x7d]\x7d")

def posted (messages : String) : Call :=
  ⟨"POST", "/api/v1/webhooks/whatsapp", [], some (written messages)⟩

theorem anyDocument_posted {messages : String} {data : Value}
    (h : Json.parseValue (written messages) = .ok data) : (posted messages).anyDocument = .ok data := by
  have htext : ∃ cs, (written messages).toList = '\x7b' :: '"' :: cs := by
    simp [written]
  rw [Call.anyDocument, posted, Option.getD_some, Json.parseBody_of_parseValue htext h]
  rfl

/-- Two messages, of which one has no sender. -/
def oneNamed : String := "[\x7b\x7d,\x7b\"from\":\"3\"\x7d]"

theorem parseValue_oneNamed : Json.parseValue (written oneNamed) =
    .ok (bundle [.object [], .object [("from", .text "3")]]) := by
  cbv

/-- The message with a sender is handled, the other one is passed over. -/
theorem schedules_with_sender :
    fresh.answer reliable default .zero (posted oneNamed) =
      (scheduled 1, fresh.handleAll reliable default .zero [⟨"3", "", false, false, false, none⟩]) := by
  obtain ⟨hall, -⟩ := schedules_all_iff reliable default .zero fresh (posted oneNamed) _ rfl
    (by decide +kernel) (anyDocument_posted parseValue_oneNamed) (by decide +kernel)
  exact hall.2 (by decide +kernel)

/-- Three messages; the text of the second one has no body. -/
def oneMalformed : String :=
  "[\x7b\"from\":\"1\"\x7d,\x7b\"from\":\"2\",\"text\":\"oi\"\x7d,\x7b\"from\":\"3\"\x7d]"

theorem parseValue_oneMalformed : Json.parseValue (written oneMalformed) =
    .ok (bundle [.object [("from", .text "1")], .object [("from", .text "2"), ("text", .text "oi")],
      .object [("from", .text "3")]]) := by
  cbv

/-- The call fails at the second message, and nobody hears of the third one. -/
theorem lost_behind_malformed :
    let data := bundle [.object [("from", .text "1")],
      .object [("from", .text "2"), ("text", .text "oi")], .object [("from", .text "3")]]
    (posted oneMalformed).anyDocument = .ok data ∧ Webhook.IsBundle data ∧
      ((Webhook.addressed fresh.settings.phoneId data).filterMap Webhook.inbound?).map Inbound.jid =
        ["1", "3"] ∧
      (fresh.answer reliable default .zero (posted oneMalformed)).1.status = 500 ∧
      (fresh.answer reliable default .zero (posted oneMalformed)).2.inbox.seen = ["1"] := by
  have hread := anyDocument_posted parseValue_oneMalformed
  have hanswer := (answer_eq_receive reliable default .zero fresh (c := posted oneMalformed) rfl
    (by decide +kernel)).trans (receive_eq reliable default .zero hread fresh)
  refine ⟨hread, by decide +kernel, by decide +kernel, ?_, ?_⟩
  · rw [hanswer]
    decide +kernel
  · rw [hanswer]
    decide +kernel

end App
end ChatAutomation
