import ChatAutomation.Proofs.Inbox.History
import ChatAutomation.Proofs.Trigger.Matching
import Mathlib.Data.Finset.Card
import Mathlib.Data.Finset.Dedup

/-!
# First messages

A message counts as the first one of its chat if no message that passed had the same id. Ids are compared
as they are written, so a contact is greeted once for each spelling of its id, and not once: `greets_once_iff`.
-/
namespace ChatAutomation

/-- The trigger of a match holds. -/
theorem Automation.holds_of_match {now : Timestamp} {x : Incoming} {s : Store} {hit : TriggerMatch}
    (h : Automation.match? now x s = .ok (some hit)) : hit.trigger.holds x = .ok true := by
  unfold match? at h
  split at h
  · exact (Flow.mem_candidates_of_firstMatch h).2
  · cases h

namespace Desk
variable {σ : Type}

/-- A message that passed the screens, as triggers looked at it, and the flow that it started. -/
structure Arrival where
  message : Inbound
  incoming : Incoming
  hit : Option TriggerMatch

namespace Arrival

def jid (a : Arrival) : String := a.message.jid

def isFirst (a : Arrival) : Bool := a.incoming.isFirst

/-- Did the message start a flow for first messages? -/
def isGreeted (a : Arrival) : Bool :=
  a.hit.any fun hit => hit.trigger.kind? == some .firstMessage

end Arrival

/-- The message of a turn, if it passes the screens. -/
def Turn.arrival? (d : Desk σ) : Turn σ → Option Arrival
  | .handle h m =>
    (d.incoming? m).map fun x => ⟨m, x, (Automation.match? h.now x h.store).toOption.join⟩
  | _ => none

/-- The messages that pass the screens in some turns. -/
def arrivals (d : Desk σ) : List (Turn σ) → List Arrival
  | [] => []
  | t :: turns => (t.arrival? d).toList ++ (d.step t).arrivals turns

/-- All that a turn does to the ids that are known. -/
theorem arrival_cases (d : Desk σ) (t : Turn σ) :
    t.arrival? d = none ∧ (d.step t).inbox.seen = d.inbox.seen ∨
      ∃ a, t.arrival? d = some a ∧ (a.isFirst = true ↔ a.jid ∉ d.inbox.seen) ∧
        ∀ x, x ∈ (d.step t).inbox.seen ↔ x = a.jid ∨ x ∈ d.inbox.seen := by
  cases t with
  | handle h m =>
    rw [step, Handling.inbox_handle, Turn.arrival?, incoming?]
    obtain ⟨-, hscreen, htaken⟩ | ⟨-, hscreen, htaken⟩ | ⟨-, hscreen, htaken⟩ :=
      d.inbox.receive_cases m
    · rw [hscreen, htaken]
      exact .inl ⟨rfl, rfl⟩
    · rw [hscreen, htaken]
      exact .inl ⟨rfl, Inbox.seen_block m.jid d.inbox⟩
    · rw [hscreen, htaken]
      refine .inr ⟨_, rfl, ?_, fun x => Inbox.mem_seen_meet⟩
      simp [Arrival.isFirst, Arrival.jid]
  | block jid => exact .inl ⟨rfl, Inbox.seen_block jid d.inbox⟩
  | unblock jid => exact .inl ⟨rfl, rfl⟩

/-- The ids of the messages that count as a first one. -/
def firstIds (d : Desk σ) (turns : List (Turn σ)) : List String :=
  ((d.arrivals turns).filter Arrival.isFirst).map Arrival.jid

theorem firstIds_cons (d : Desk σ) (t : Turn σ) (turns : List (Turn σ)) :
    d.firstIds (t :: turns) =
      (((t.arrival? d).toList.filter Arrival.isFirst).map Arrival.jid) ++ (d.step t).firstIds turns := by
  rw [firstIds, arrivals, List.filter_append, List.map_append, firstIds]

/-- An id is that of a first message if it is that of any and was not known before. -/
theorem mem_firstIds_iff {d : Desk σ} {turns : List (Turn σ)} {x : String} :
    x ∈ d.firstIds turns ↔ x ∈ (d.arrivals turns).map Arrival.jid ∧ x ∉ d.inbox.seen := by
  induction turns generalizing d with
  | nil => simp [firstIds, arrivals]
  | cons t turns ih =>
    rw [firstIds_cons, List.mem_append, ih, arrivals, List.map_append, List.mem_append]
    obtain ⟨hnone, hseen⟩ | ⟨a, ha, hfirst, hseen⟩ := d.arrival_cases t
    · simp [hnone, hseen]
    · have hhead : x ∈ ([a].filter Arrival.isFirst).map Arrival.jid ↔
          x = a.jid ∧ x ∉ d.inbox.seen := by
        by_cases hnew : a.isFirst = true
        · simpa [hnew] using fun hx : x = a.jid => hx ▸ hfirst.1 hnew
        · have hknown : a.jid ∈ d.inbox.seen := by simpa [hnew] using hfirst
          simpa [hnew] using fun hx : x = a.jid => hx ▸ hknown
      rw [hseen, ha, Option.toList_some, hhead, List.map_singleton, List.mem_singleton]
      grind

/-- No id has two first messages. -/
theorem nodup_firstIds (d : Desk σ) (turns : List (Turn σ)) : (d.firstIds turns).Nodup := by
  induction turns generalizing d with
  | nil => exact List.nodup_nil
  | cons t turns ih =>
    rw [firstIds_cons]
    obtain ⟨hnone, -⟩ | ⟨a, ha, -, hseen⟩ := d.arrival_cases t
    · rw [hnone]
      exact ih (d.step t)
    · have hknown : a.jid ∉ (d.step t).firstIds turns := fun h =>
        (mem_firstIds_iff.1 h).2 ((hseen a.jid).2 (.inl rfl))
      rw [ha, Option.toList_some]
      by_cases hnew : a.isFirst = true
      · simpa [hnew] using ⟨hknown, ih (d.step t)⟩
      · simpa [hnew] using ih (d.step t)

/-- A flow for first messages is started by first messages alone. -/
theorem isFirst_of_isGreeted {d : Desk σ} {turns : List (Turn σ)} {a : Arrival}
    (ha : a ∈ d.arrivals turns) (hgreeted : a.isGreeted = true) : a.isFirst = true := by
  induction turns generalizing d with
  | nil => cases ha
  | cons t turns ih =>
    rw [arrivals] at ha
    rcases List.mem_append.1 ha with ha | ha
    · cases t with
      | handle h m =>
        obtain ⟨x, -, rfl⟩ := Option.map_eq_some_iff.1 (Option.mem_toList.1 ha)
        obtain ⟨hit, hhit, hkind⟩ := (Option.any_eq_true _ _).1 hgreeted
        have hmatch : Automation.match? h.now x h.store = .ok (some hit) := by
          cases hr : Automation.match? h.now x h.store with
          | ok found =>
            simpa [hr, Except.toOption] using hhit
          | error f => simp [hr, Except.toOption] at hhit
        have hholds := Automation.holds_of_match hmatch
        simpa [Trigger.holds, eq_of_beq hkind, Arrival.isFirst] using hholds
      | _ => cases ha
    · exact ih ha

/-- The messages of a contact, in whatever spelling, that pass the screens in some turns. -/
def arrivalsOf (c : String) (d : Desk σ) (turns : List (Turn σ)) : List Arrival :=
  (d.arrivals turns).filter fun a => Contact.normalize a.jid == c

theorem firstIds_filter (c : String) (d : Desk σ) (turns : List (Turn σ)) :
    ((d.arrivalsOf c turns).filter Arrival.isFirst).map Arrival.jid =
      (d.firstIds turns).filter fun x => Contact.normalize x == c := by
  rw [arrivalsOf, firstIds, List.filter_map, List.filter_filter, List.filter_filter]
  exact congrArg _ (List.filter_congr fun a _ => Bool.and_comm _ _)

/-- A contact has as many first messages as there are spellings of its id among its messages, and so one at
most just if it is always spelled the same. No other messages start flows for first messages. -/
theorem greets_once_iff (s : Settings) (outside : σ) (turns : List (Turn σ)) (c : String) :
    let as := (Desk.new s outside).arrivalsOf c turns
    as.countP Arrival.isFirst = (as.map Arrival.jid).dedup.length ∧
      (as.countP Arrival.isFirst ≤ 1 ↔ ∀ a ∈ as, ∀ b ∈ as, a.jid = b.jid) ∧
      as.countP Arrival.isGreeted ≤ as.countP Arrival.isFirst := by
  intro as
  have hids : ((as.filter Arrival.isFirst).map Arrival.jid).Perm (as.map Arrival.jid).dedup := by
    rw [firstIds_filter]
    refine (List.perm_ext_iff_of_nodup ((nodup_firstIds _ turns).filter _) (List.nodup_dedup _)).2 ?_
    intro x
    have hunknown : x ∉ (Desk.new s outside).inbox.seen := List.not_mem_nil
    rw [List.mem_filter, mem_firstIds_iff, List.mem_dedup, and_iff_left hunknown]
    simp only [as, arrivalsOf, List.mem_map, List.mem_filter]
    constructor
    · rintro ⟨⟨a, ha, rfl⟩, hc⟩
      exact ⟨a, ⟨ha, hc⟩, rfl⟩
    · rintro ⟨a, ⟨ha, hc⟩, rfl⟩
      exact ⟨⟨a, ha, rfl⟩, hc⟩
  have hcount : as.countP Arrival.isFirst = (as.map Arrival.jid).dedup.length := by
    rw [List.countP_eq_length_filter, ← hids.length_eq, List.length_map]
  refine ⟨hcount, ?_, ?_⟩
  · rw [hcount, ← List.card_toFinset, Finset.card_le_one]
    simp
  · refine List.countP_mono_left fun a ha => ?_
    exact isFirst_of_isGreeted (List.mem_of_mem_filter ha)

/-- A flow that greets who writes for the first time. -/
def greeting : Flow :=
  { (default : Flow) with
    id := "f1"
    nodes := [⟨"t", "trigger", some [("trigger_type", .text "first_message")], none, []⟩,
      ⟨"s", "send_text", some [("text", .text "Bem-vindo!")], none, []⟩]
    edges := [⟨"e0", "t", "s", none, none, []⟩]
    enabled := true }

/-- Two messages of one contact, in two spellings of its id. -/
def spelledTwice : List (Turn Unit) :=
  let h : Handling Unit := .over ⟨[greeting.document], none, false⟩
  [.handle h ⟨"5511@s.whatsapp.net", "oi", false, false, false, none⟩,
    .handle h ⟨"+5511", "oi", false, false, false, none⟩]

/-- A contact that is spelled in two ways has two first messages, and is greeted twice. -/
theorem greeted_twice :
    let as := (Desk.new .usual ()).arrivalsOf "5511" spelledTwice
    as.map Arrival.jid = ["5511@s.whatsapp.net", "+5511"] ∧ as.countP Arrival.isFirst = 2 ∧
      as.countP Arrival.isGreeted = 2 := by
  decide +kernel

end Desk
end ChatAutomation
