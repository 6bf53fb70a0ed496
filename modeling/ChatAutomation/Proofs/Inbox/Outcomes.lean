import ChatAutomation.Proofs.Inbox.History
import ChatAutomation.Proofs.Trigger.Matching
import ChatAutomation.Proofs.Walk.Course

/-!
# What becomes of a message

A message that passes the screens starts a flow, or else is answered with a reply, or else is ignored.
`handle_concluded` says when it is which, who was asked for it, and what is remembered.

What is outside changes by calls alone, and it can be of any type, such as that of a log: to say that what
is outside is what it was after some calls is to say that there were those calls and no others.
-/
namespace ChatAutomation

namespace Inbox

/-- A message that no screen stops. -/
structure Passes (i : Inbox) (m : Inbound) : Prop where
  heard : i.Hears m
  free : Contact.normalize m.jid ∉ i.blocked
  foreign : m.fromMe = false
  unblocking : i.blockWord = "" ∨ ¬ i.blockWord.toList <:+: (said m).toList

variable {i : Inbox} {m : Inbound}

theorem screen_fst_iff : (i.screen m).1 = true ↔ i.Passes m := by
  have hblocked : i.isBlocked m.jid = false ↔ Contact.normalize m.jid ∉ i.blocked := by
    rw [← isBlocked_iff, Bool.not_eq_true]
  have hblocks : m.fromMe = false →
      (i.blocks m = false ↔ i.blockWord = "" ∨ ¬ i.blockWord.toList <:+: (said m).toList) := by
    intro hforeign
    rw [← Bool.not_eq_true, blocks_iff]
    simp [hforeign, imp_iff_not_or]
  constructor
  · intro hscreen
    obtain ⟨-, hpasses, -⟩ | ⟨-, hpasses, -⟩ | ⟨⟨hignored, hkeeps, hforeign⟩, -, -⟩ :=
      i.receive_cases m
    · rw [hpasses] at hscreen
      cases hscreen
    · rw [hpasses] at hscreen
      cases hscreen
    · obtain ⟨hheard, hfree⟩ := isIgnored_eq_false_iff.1 hignored
      exact ⟨hheard, hblocked.1 hfree, hforeign, (hblocks hforeign).1 hkeeps⟩
  · rintro ⟨hheard, hfree, hforeign, hkeeps⟩
    have hignored := isIgnored_eq_false_iff.2 ⟨hheard, hblocked.2 hfree⟩
    rw [screen, hignored, (hblocks hforeign).2 hkeeps, hforeign]
    rfl

/-- A message that is stopped leaves its contact on the blocklist at most. -/
theorem receive_of_not_passes (h : ¬ i.Passes m) :
    (i.receive m).seen = i.seen ∧ ((i.receive m).blocked = i.blocked ∨
      (i.receive m).blocked = Contact.normalize m.jid :: i.blocked) := by
  obtain ⟨-, -, htaken⟩ | ⟨-, -, htaken⟩ | ⟨-, hscreen, -⟩ := i.receive_cases m
  · rw [htaken]
    exact ⟨rfl, .inl rfl⟩
  · rw [htaken, seen_block]
    refine ⟨rfl, ?_⟩
    unfold block
    split
    · exact .inl rfl
    · exact .inr rfl
  · exact absurd (screen_fst_iff.1 (by rw [hscreen])) h

/-- Without a block word the blocklist stays as it is. -/
theorem blocked_receive_of_no_word (h : i.blockWord = "") : (i.receive m).blocked = i.blocked := by
  obtain ⟨-, -, htaken⟩ | ⟨⟨-, hblocks⟩, -, -⟩ | ⟨-, -, htaken⟩ := i.receive_cases m
  · rw [htaken]
  · exact absurd h (blocks_iff.1 hblocks).1
  · rw [htaken, blocked_meet]

end Inbox

/-- The node of a match is a trigger of its flow. -/
theorem Automation.mem_triggers_of_match {now : Timestamp} {x : Incoming} {s : Store}
    {hit : TriggerMatch} (h : match? now x s = .ok (some hit)) : hit.node ∈ hit.flow.triggers := by
  unfold match? at h
  split at h
  · exact (Flow.mem_candidates_iff.1 (Flow.mem_candidates_of_firstMatch h).1).2.2
  · cases h

namespace Handling
variable {σ : Type} (h : Handling σ) (m : Inbound) (d : Desk σ)

/-! ## The conditions -/

/-- What the stored flows make of a message. -/
def found : Except Fault (Option TriggerMatch) :=
  Automation.match? h.now ⟨m.body, !d.inbox.seen.contains m.jid, m.hasMedia⟩ h.store

/-- What is replied to a message, and what is outside after it. -/
def answer : Except Fault Value × σ := h.respond d.inbox.settings.agentPrompt m.body d.outside

/-- The message starts a flow. -/
structure Starts (hit : TriggerMatch) : Prop where
  passes : d.inbox.Passes m
  found : h.found m d = .ok (some hit)

/-- The message starts no flow and says something, so that a reply is asked for. -/
structure Asks : Prop where
  passes : d.inbox.Passes m
  found : h.found m d = .ok none
  body : m.body ≠ ""

/-- There is a text to reply with. -/
structure Replies (text : String) (outside : σ) : Prop extends h.Asks m d where
  answer : h.answer m d = (.ok (.text text), outside)
  text : text ≠ ""

/-- Sends a reply to where the message came from. -/
def deliver (text : String) : σ → Except Fault Unit × σ :=
  h.engine.collaborators.send (.text m.jid) (.text text)

/-- A reply was asked for, and nothing came of it: there was none, it was no text, or it was refused. -/
inductive Fruitless (after : σ) : Prop
  | blank {answer : Value} (hasks : h.Asks m d) (hanswer : h.answer m d = (.ok answer, after))
      (hblank : answer.isGiven = false)
  | unreadable {answer : Value} {x : Fault} (hasks : h.Asks m d)
      (hanswer : h.answer m d = (.ok answer, after)) (hmessage : Engine.replyMessage answer = .error x)
  | refused {text : String} {outside : σ} {x : Fault} (hreplies : h.Replies m d text outside)
      (hsend : h.deliver m text outside = (.error x, after))

/-! ## The course -/

/-- What has been remembered of the message when it is matched. -/
def taken (outside : σ) : Desk σ := { d with inbox := d.inbox.receive m, outside }

/-- All that can become of a message. -/
inductive Course : Except Fault Handled × Desk σ → Prop
  | screened (hstopped : ¬ d.inbox.Passes m) : Course (.ok .ignored, taken m d d.outside)
  | unmatched {x : Fault} (hpasses : d.inbox.Passes m) (hfound : h.found m d = .error x) :
      Course (.error x, taken m d d.outside)
  | started {hit : TriggerMatch} (hstarts : h.Starts m d hit) :
      Course (.ok .flow, h.run hit m (taken m d d.outside))
  | wordless (hpasses : d.inbox.Passes m) (hfound : h.found m d = .ok none) (hbody : m.body = "") :
      Course (.ok .ignored, taken m d d.outside)
  | unanswered {x : Fault} {outside : σ} (hasks : h.Asks m d)
      (hanswer : h.answer m d = (.error x, outside)) : Course (.error x, taken m d outside)
  | fruitless {outside : σ} (hfruitless : h.Fruitless m d outside) :
      Course (.ok .ignored, taken m d outside)
  | answered {text : String} {outside outside' : σ} (hreplies : h.Replies m d text outside)
      (hsend : h.deliver m text outside = (.ok (), outside')) : Course (.ok .reply, taken m d outside')

variable {h m d}

theorem handle_of_stopped (hstopped : ¬ d.inbox.Passes m) :
    h.handle m d = (.ok .ignored, taken m d d.outside) := by
  rw [handle_eq, Desk.incoming?, if_neg fun hscreen => hstopped (Inbox.screen_fst_iff.1 hscreen)]
  rfl

theorem handle_of_passes (hpasses : d.inbox.Passes m) : h.handle m d =
    match h.found m d with
    | .error x => (.error x, taken m d d.outside)
    | .ok (some hit) => (.ok .flow, h.run hit m (taken m d d.outside))
    | .ok none => h.reply m (taken m d d.outside) := by
  rw [handle_eq, Desk.incoming?, if_pos (Inbox.screen_fst_iff.2 hpasses)]
  rfl

theorem handle_of_starts {hit : TriggerMatch} (hstarts : h.Starts m d hit) :
    h.handle m d = (.ok .flow, h.run hit m (taken m d d.outside)) := by
  rw [handle_of_passes hstarts.passes, hstarts.found]

theorem handle_of_asks (hasks : h.Asks m d) : h.handle m d =
    match h.answer m d with
    | (.error x, outside) => (.error x, taken m d outside)
    | (.ok answer, outside) =>
      if answer.isGiven then
        let (outcome, after) := h.sendReply m.jid answer (taken m d outside)
        (.ok outcome, after)
      else (.ok .ignored, taken m d outside) := by
  have hbody : ¬ m.body.isEmpty = true := fun hempty => hasks.body (String.isEmpty_iff.1 hempty)
  have hcall : h.respond (taken m d d.outside).inbox.settings.agentPrompt m.body
      (taken m d d.outside).outside = h.answer m d := by
    rw [taken, Inbox.settings_receive, answer]
  rw [handle_of_passes hasks.passes, hasks.found]
  dsimp only
  rw [reply, if_neg hbody, hcall]
  rcases h.answer m d with ⟨_ | _, _⟩ <;> rfl

theorem handle_of_replies {text : String} {outside : σ} (hreplies : h.Replies m d text outside) :
    h.handle m d = (.ok (if (h.deliver m text outside).1.isOk then .reply else .ignored),
      taken m d (h.deliver m text outside).2) := by
  have hgiven : (Value.text text).isGiven = true := by simp [Value.isGiven, hreplies.text]
  rw [handle_of_asks hreplies.toAsks, hreplies.answer]
  dsimp only
  rw [if_pos hgiven]
  rfl

theorem course_of_asks (hasks : h.Asks m d) : h.Course m d (h.handle m d) := by
  rcases hanswer : h.answer m d with ⟨x | answer, outside⟩
  · rw [handle_of_asks hasks, hanswer]
    exact .unanswered hasks hanswer
  · cases hgiven : answer.isGiven with
    | false =>
      rw [handle_of_asks hasks, hanswer]
      dsimp only
      rw [hgiven]
      exact .fruitless (.blank hasks hanswer hgiven)
    | true =>
      cases hmessage : Engine.replyMessage answer with
      | error x =>
        rw [handle_of_asks hasks, hanswer]
        dsimp only
        rw [if_pos hgiven, sendReply, hmessage]
        exact .fruitless (.unreadable hasks hanswer hmessage)
      | ok reply =>
        obtain ⟨text, rfl⟩ : ∃ text, answer = .text text := by
          cases answer <;> cases hmessage
          exact ⟨_, rfl⟩
        have hreplies : h.Replies m d text outside :=
          ⟨hasks, hanswer, by simpa [Value.isGiven] using hgiven⟩
        rw [handle_of_replies hreplies]
        rcases hsend : h.deliver m text outside with ⟨x | _, outside'⟩
        · exact .fruitless (.refused hreplies hsend)
        · exact .answered hreplies hsend

theorem course_handle (h : Handling σ) (m : Inbound) (d : Desk σ) : h.Course m d (h.handle m d) := by
  by_cases hpasses : d.inbox.Passes m
  · rcases hfound : h.found m d with x | _ | hit
    · rw [handle_of_passes hpasses, hfound]
      exact .unmatched hpasses hfound
    · by_cases hbody : m.body = ""
      · rw [handle_of_passes hpasses, hfound]
        dsimp only
        rw [reply, if_pos (String.isEmpty_iff.2 hbody)]
        exact .wordless hpasses hfound hbody
      · exact course_of_asks ⟨hpasses, hfound, hbody⟩
    · rw [handle_of_starts ⟨hpasses, hfound⟩]
      exact .started ⟨hpasses, hfound⟩
  · rw [handle_of_stopped hpasses]
    exact .screened hpasses

/-! ## The outcomes -/

/-- What a message comes to, and what it leaves behind. -/
structure Concluded (h : Handling σ) (m : Inbound) (d : Desk σ) (result : Except Fault Handled)
    (after : Desk σ) : Prop where
  /-- A message that passes starts the flow that it matches. -/
  flow_iff : result = .ok .flow ↔ ∃ hit, h.Starts m d hit
  /-- The flow is run once with the id of the matched node, and nobody else is asked. The run begins at the
  matched node just if that is where the id leads. -/
  flow_run : ∀ hit, h.Starts m d hit →
    let run := Automation.execute h.now h.engine hit.flow (.text m.jid) (.text m.body)
      (some hit.node.id) [] d.outside
    after.outside = run.2.outside ∧ after.samples = d.samples ++ hit.sample :: run.2.samples ∧
      ((run.1.nodes hit.flow).head? = some hit.node ↔
        hit.flow.entry? (some hit.node.id) = some hit.node.id ∧
          hit.flow.node? hit.node.id = some hit.node)
  /-- A message that starts no flow and says something is answered if there is a text to reply with and
  it can be sent. -/
  reply_iff : result = .ok .reply ↔
    ∃ text outside, h.Replies m d text outside ∧ (h.deliver m text outside).1 = .ok ()
  /-- The reply is all that is sent. -/
  reply_sent : ∀ text outside, h.Replies m d text outside →
    after.outside = (h.deliver m text outside).2 ∧ after.samples = d.samples
  /-- For any other message nothing is sent, unless a reply that is refused. -/
  ignored : result = .ok .ignored →
    (after.outside = d.outside ∨ h.Fruitless m d after.outside) ∧ after.samples = d.samples
  /-- Only matching and the one who replies can fail. -/
  error_iff : (∃ x, result = .error x) ↔
    d.inbox.Passes m ∧ (∃ x, h.found m d = .error x) ∨ h.Asks m d ∧ ∃ x, (h.answer m d).1 = .error x
  /-- A message that a screen stops asks nobody, and adds its contact to the blocklist at most. -/
  stopped : ¬ d.inbox.Passes m → result = .ok .ignored ∧ after.outside = d.outside ∧
    after.samples = d.samples ∧ after.inbox.seen = d.inbox.seen ∧
    (after.inbox.blocked = d.inbox.blocked ∨
      after.inbox.blocked = Contact.normalize m.jid :: d.inbox.blocked)
  own : m.fromMe = true → result = .ok .ignored
  without_word : d.inbox.blockWord = "" → after.inbox.blocked = d.inbox.blocked

/-- A message with a given outcome has taken one of the ways to it. -/
theorem exists_course {result : Except Fault Handled} (hresult : (h.handle m d).1 = result) :
    ∃ after, h.handle m d = (result, after) ∧ h.Course m d (result, after) := by
  have heq : h.handle m d = (result, (h.handle m d).2) := by rw [← hresult]
  exact ⟨_, heq, heq ▸ course_handle h m d⟩

theorem handle_eq_flow_iff : (h.handle m d).1 = .ok .flow ↔ ∃ hit, h.Starts m d hit := by
  constructor
  · intro hflow
    obtain ⟨after, -, hcourse⟩ := exists_course hflow
    cases hcourse with
    | started hstarts => exact ⟨_, hstarts⟩
  · rintro ⟨hit, hstarts⟩
    rw [handle_of_starts hstarts]

theorem handle_eq_reply_iff : (h.handle m d).1 = .ok .reply ↔
    ∃ text outside, h.Replies m d text outside ∧ (h.deliver m text outside).1 = .ok () := by
  constructor
  · intro hreply
    obtain ⟨after, -, hcourse⟩ := exists_course hreply
    cases hcourse with
    | answered hreplies hsend => exact ⟨_, _, hreplies, by rw [hsend]⟩
  · rintro ⟨text, outside, hreplies, hsend⟩
    rw [handle_of_replies hreplies, hsend]
    rfl

theorem handle_eq_error_iff : (∃ x, (h.handle m d).1 = .error x) ↔
    d.inbox.Passes m ∧ (∃ x, h.found m d = .error x) ∨
      h.Asks m d ∧ ∃ x, (h.answer m d).1 = .error x := by
  constructor
  · rintro ⟨x, hx⟩
    obtain ⟨after, -, hcourse⟩ := exists_course hx
    cases hcourse with
    | unmatched hpasses hfound => exact .inl ⟨hpasses, x, hfound⟩
    | unanswered hasks hanswer => exact .inr ⟨hasks, x, by rw [hanswer]⟩
  · rintro (⟨hpasses, x, hfound⟩ | ⟨hasks, x, hx⟩)
    · exact ⟨x, by rw [handle_of_passes hpasses, hfound]⟩
    · refine ⟨x, ?_⟩
      rcases hanswer : h.answer m d with ⟨answer, outside⟩
      rw [hanswer] at hx
      cases hx
      rw [handle_of_asks hasks, hanswer]

/-- A message that is ignored asks for a reply at most, and has none that is sent. -/
theorem of_handle_eq_ignored (hignored : (h.handle m d).1 = .ok .ignored) :
    ((h.handle m d).2.outside = d.outside ∨ h.Fruitless m d (h.handle m d).2.outside) ∧
      (h.handle m d).2.samples = d.samples := by
  obtain ⟨after, heq, hcourse⟩ := exists_course hignored
  rw [heq]
  cases hcourse with
  | screened _ => exact ⟨.inl rfl, rfl⟩
  | wordless _ _ _ => exact ⟨.inl rfl, rfl⟩
  | fruitless hfruitless => exact ⟨.inr hfruitless, rfl⟩

/-- A message that passes starts a flow that it matches, which is run once; else, if it says something, it
is answered with the one who replies, whose text is all that is sent. In all other cases it is ignored and
nothing that was sent arrived. -/
theorem handle_concluded (h : Handling σ) (m : Inbound) (d : Desk σ) :
    h.Concluded m d (h.handle m d).1 (h.handle m d).2 where
  flow_iff := handle_eq_flow_iff
  flow_run := by
    intro hit hstarts
    have hnode := Automation.mem_triggers_of_match hstarts.found
    rw [handle_of_starts hstarts]
    exact ⟨rfl, rfl, h.engine.head?_executed_eq_iff hnode _⟩
  reply_iff := handle_eq_reply_iff
  reply_sent := by
    intro text outside hreplies
    rw [handle_of_replies hreplies]
    exact ⟨rfl, rfl⟩
  ignored := of_handle_eq_ignored
  error_iff := handle_eq_error_iff
  stopped := by
    intro hstopped
    obtain ⟨hseen, hblocked⟩ := Inbox.receive_of_not_passes hstopped
    rw [handle_of_stopped hstopped]
    exact ⟨rfl, rfl, rfl, hseen, hblocked⟩
  own := by
    intro hown
    have hstopped : ¬ d.inbox.Passes m := fun hpasses => by simp [hpasses.foreign] at hown
    rw [handle_of_stopped hstopped]
  without_word := by
    intro hword
    rw [inbox_handle, Inbox.blocked_receive_of_no_word hword]

/-- Two triggers, each with a text behind it; the second one has an empty id. -/
def lobby : Flow :=
  { (default : Flow) with
    id := "f1"
    nodes := [⟨"t", "trigger", some [("trigger_type", .text "media")], none, []⟩,
      ⟨"", "trigger", some [("trigger_type", .text "any_message")], none, []⟩,
      ⟨"a", "send_text", some [("text", .text "Recebi")], none, []⟩,
      ⟨"b", "send_text", some [("text", .text "Oi")], none, []⟩]
    edges := [⟨"e0", "t", "a", none, none, []⟩, ⟨"e1", "", "b", none, none, []⟩]
    enabled := true }

/-- All that is sent arrives and is kept. -/
def keeping (store : Store) : Handling (List Message) where
  now := ⟨0, none⟩
  store := store
  engine :=
    { collaborators :=
        { send := fun _ m sent => (.ok (), sent ++ [m])
          respond := fun _ _ sent => (.ok (.text "Oi"), sent)
          fetch := fun _ sent => (.ok ⟨200, ""⟩, sent)
          sleep := fun _ sent => (.ok (), sent) }
      defaultDelay := .int 1 }
  respond := fun _ _ sent => (.ok (.text "Oi"), sent)

/-- A message satisfies the second trigger, and is sent what stands behind the first one. -/
theorem handled_from_other_trigger :
    let h := keeping ⟨[lobby.document], none, false⟩
    let m : Inbound := ⟨"5511@s.whatsapp.net", "oi", false, false, false, none⟩
    let d := Desk.new .usual []
    (lobby.nodes.map Node.id).Nodup ∧
    (h.found m d).map (Option.map fun hit => hit.node.id) = .ok (some "") ∧
    (h.handle m d).1 = .ok .flow ∧
    (h.handle m d).2.outside = [.text "Recebi"] ∧
    (Walk.fromId h.engine lobby "" ⟨[], [], []⟩).run.outside = [.text "Oi"] := by
  decide +kernel

end Handling
end ChatAutomation
