import ChatAutomation.Proofs.Contact.Phone
import ChatAutomation.Proofs.Delivery.Answers

/-!
# To whom a message goes

What is posted for a chat goes to the phone number behind its id, as often as it is posted: `mem_recipients_iff`.
The id of a group has digits as well, and these are not told from a phone number. So a message to a group goes
to the person who has the digits of its name for a number: `group_reaches_person_iff`.
-/
namespace ChatAutomation.Delivery

variable {σ τ : Type}

/-- The recipients of all that is posted when a message is sent to a chat. -/
def recipients (a : Account) (c : Carrier σ) (now : Binary64) (jid : String) (m : Message)
    (d : Deliveries σ) : List String :=
  let (_, d') := send a (c.recorded fun _ => now) now (.text jid) m d.unrecorded
  (d'.outside.2.filterMap Act.post?).map fun p => phoneOf p.body

/-- The account has credentials, and the breaker lets a post through. -/
structure CanPost (a : Account) (now : Binary64) (d : Deliveries σ) : Prop where
  token : (credential a.token).isSome = true
  phoneId : (credential a.phoneId).isSome = true
  enters : ∃ b, d.breaker.enter now = .ok b

theorem phoneOf_body (phone : String) (m : Message) : phoneOf (body phone m) = phone := rfl

/-- A body with a recipient is posted on behalf of an account with credentials, and no other one is. -/
theorem postOf_body_cases (a : Account) (phone : String) (m : Message) :
    (phone ≠ "" ∧ (credential a.token).isSome = true ∧ (credential a.phoneId).isSome = true) ∧
        (∃ p, postOf a (body phone m) = .ok p ∧ p.body = body phone m) ∨
      ¬ (phone ≠ "" ∧ (credential a.token).isSome = true ∧ (credential a.phoneId).isSome = true) ∧
        ∃ f, postOf a (body phone m) = .error f := by
  have hto : (Entries.get? (body phone m) "to").getD .null = .text phone := rfl
  unfold postOf
  rw [hto]
  by_cases hnobody : phone = ""
  · exact .inr ⟨by simp [hnobody], by simp [hnobody, Value.isGiven]⟩
  · cases credential a.token <;> cases credential a.phoneId <;> simp [hnobody, Value.isGiven]

/-! ## The posts of a delivery -/

section
variable {p : Post} {seconds : List Nat} {b b₁ b' : Breaker} {acts : List Act}
  {result : Except Fault Response} {now : Binary64}

/-- With nothing on record the breaker has refused the first post. -/
theorem Ending.refused_of_nil {retries : Nat} (h : Ending retries b now acts result) (hacts : acts = []) :
    b.enter now = .error (.circuitOpen b.limits.name) := by
  cases h with
  | concluded before => simp at hacts
  | refused h => exact h
  | broken before => simp at hacts

theorem schedule_eq_cons (seconds : List Nat) : ∃ later, schedule seconds = none :: later := by
  cases seconds <;> exact ⟨_, rfl⟩

theorem Attempted.posts_ne_nil (h : Attempted p seconds b acts result b' now)
    (hb : b.enter now = .ok b₁) : acts.filterMap Act.post? ≠ [] := by
  cases acts with
  | nil =>
    -- without a turn at it the breaker is still as it was
    have hsame : b = b' := (h.noted ⟨b, [], []⟩ rfl rfl).1
    have hrefused := h.ending.refused_of_nil rfl
    rw [← hsame, hb] at hrefused
    cases hrefused
  | cons act acts =>
    obtain ⟨later, hlater⟩ := schedule_eq_cons seconds
    have horder := h.order
    rw [hlater, List.map_cons, List.cons_prefix_cons] at horder
    cases act with
    | posted q => simp
    | paused => cases horder.1

/-- A breaker that lets posts through lets the first one through, and the later ones repeat it. -/
theorem posts_entered (c : Carrier σ) (p : Post) {d : Deliveries σ} (hb : d.breaker.enter now = .ok b) :
    ∃ k, (post (c.recorded fun _ => now) (fun _ => now) p pauses d.unrecorded).2.outside.2.filterMap
      Act.post? = List.replicate (k + 1) p := by
  obtain ⟨acts, hacts, hattempted⟩ := attempted_post c (fun _ => now) p pauses d.unrecorded
  have hposts := List.eq_replicate_of_mem hattempted.same
  have hsome := List.length_pos_iff.2 (hattempted.posts_ne_nil hb)
  refine ⟨(acts.filterMap Act.post?).length - 1, ?_⟩
  rw [Nat.sub_add_cancel hsome, ← hposts]
  exact congrArg (List.filterMap Act.post?) hacts

theorem posts_refused (c : Carrier σ) (p : Post) {d : Deliveries σ} {f : Fault}
    (hf : d.breaker.enter now = .error f) :
    (post (c.recorded fun _ => now) (fun _ => now) p pauses d.unrecorded).2.outside.2 = [] := by
  cases Breaker.fault_of_enter hf
  have hattempt := attempt_refused (c := c.recorded fun _ => now) (p := p) (d := d.unrecorded)
    (fun _ => now) hf
  rw [pauses, post_of_done hattempt nofun]
  rfl

end

/-! ## The recipients of a message -/

section
variable {a : Account} {now now' : Binary64} {d : Deliveries σ} {d' : Deliveries τ} {jid r : String}

/-- A message goes to the phone number behind the id of its chat, once or more often, or to nobody. -/
theorem recipients_cases (a : Account) (c : Carrier σ) (now : Binary64) (jid : String) (m : Message)
    (d : Deliveries σ) :
    (CanPost a now d ∧ Contact.phone jid ≠ "") ∧
        (∃ k, recipients a c now jid m d = List.replicate (k + 1) (Contact.phone jid)) ∨
      ¬ (CanPost a now d ∧ Contact.phone jid ≠ "") ∧ recipients a c now jid m d = [] := by
  have hsend : send a (c.recorded fun _ => now) now (.text jid) m d.unrecorded =
      deliverBy a (c.recorded fun _ => now) (fun _ => now) (body (Contact.phone jid) m) d.unrecorded := rfl
  rw [recipients, hsend]
  obtain ⟨⟨hgiven, htoken, hphoneId⟩, p, hp, hbody⟩ | ⟨hnot, f, hf⟩ :=
    postOf_body_cases a (Contact.phone jid) m
  · obtain ⟨-, -, houtside⟩ :=
      deliverBy_of_postOf hp (c.recorded fun _ => now) (fun _ => now) d.unrecorded
    dsimp only
    rw [houtside]
    cases hb : d.breaker.enter now with
    | ok b =>
      obtain ⟨k, hk⟩ := posts_entered c p hb
      exact .inl ⟨⟨⟨htoken, hphoneId, b, hb⟩, hgiven⟩, k, by
        rw [hk, List.map_replicate, hbody, phoneOf_body]⟩
    | error f =>
      refine .inr ⟨fun ⟨⟨_, _, b, hb'⟩, _⟩ => ?_, by rw [posts_refused c p hb]; rfl⟩
      rw [hb] at hb'
      cases hb'
  · refine .inr ⟨fun ⟨h, hgiven⟩ => hnot ⟨hgiven, h.token, h.phoneId⟩, ?_⟩
    rw [deliverBy, hf]
    rfl

theorem mem_recipients_iff (c : Carrier σ) (m : Message) : r ∈ recipients a c now jid m d ↔
    CanPost a now d ∧ Contact.phone jid ≠ "" ∧ r = Contact.phone jid := by
  rw [← and_assoc]
  obtain ⟨hcan, k, heq⟩ | ⟨hcannot, heq⟩ := recipients_cases a c now jid m d
  · rw [heq, List.mem_replicate, and_iff_right hcan, and_iff_right (Nat.succ_ne_zero k)]
  · rw [heq]
    exact iff_of_false List.not_mem_nil fun h => hcannot h.1

/-- Two chats share a recipient just if they have the digits of one phone number. -/
theorem exists_mem_recipients_iff (c : Carrier σ) (c' : Carrier τ) (m m' : Message) (jid jid' : String) :
    (∃ r, r ∈ recipients a c now jid m d ∧ r ∈ recipients a c' now' jid' m' d') ↔
      (CanPost a now d ∧ CanPost a now' d') ∧ Contact.digits jid ≠ [] ∧
        Contact.digits jid = Contact.digits jid' := by
  simp only [mem_recipients_iff, ne_eq, Contact.phone_eq_empty_iff]
  constructor
  · rintro ⟨r, ⟨hcan, hgiven, hr⟩, hcan', -, hr'⟩
    exact ⟨⟨hcan, hcan'⟩, hgiven, Contact.phone_eq_iff.1 (hr.symm.trans hr')⟩
  · rintro ⟨⟨hcan, hcan'⟩, hgiven, hsame⟩
    exact ⟨_, ⟨hcan, hgiven, rfl⟩, hcan', hsame ▸ hgiven, Contact.phone_eq_iff.2 hsame⟩

end

/-- The digits of the id of a group are those of its name. -/
theorem digits_group (name : String) : Contact.digits (name ++ Contact.groupDomain) = Contact.digits name := by
  have hdomain : Contact.groupDomain.toList = '@' :: Contact.groupDomain.toList.tail := by decide +kernel
  rw [Contact.digits_eq_digitList, Contact.digits_eq_digitList, String.toList_append, hdomain,
    Contact.digitList_append_cut (.inl rfl)]

/-- Whatever is sent to a group, and whatever to a person, once both can be posted: they go to the same
recipient just if the digits of the group's name are the number of the person. So a message to a group reaches
some person, unless its name has no digits. -/
theorem group_reaches_person_iff (a : Account) (c : Carrier σ) (c' : Carrier τ) (now now' : Binary64)
    (m m' : Message) (d : Deliveries σ) (d' : Deliveries τ) (name : String) :
    let reaches (person : String) := ∃ r, r ∈ recipients a c now (name ++ Contact.groupDomain) m d ∧
      r ∈ recipients a c' now' person m' d'
    (∀ number person, Contact.IsNumber number → Contact.Spells number person.toList →
      (reaches person ↔ (CanPost a now d ∧ CanPost a now' d') ∧ Contact.digits name = number)) ∧
    ((∃ number person, Contact.IsNumber number ∧ Contact.Spells number person.toList ∧ reaches person) ↔
      (CanPost a now d ∧ CanPost a now' d') ∧ Contact.digits name ≠ []) := by
  intro reaches
  have hreaches (person : String) : reaches person ↔ (CanPost a now d ∧ CanPost a now' d') ∧
      Contact.digits name ≠ [] ∧ Contact.digits name = Contact.digits person := by
    rw [← digits_group]
    exact exists_mem_recipients_iff c c' m m' _ person
  refine ⟨fun number person hnumber hspelled => ?_, ?_, fun ⟨hcan, hne⟩ => ?_⟩
  · rw [hreaches, Contact.digits_of_spells hnumber hspelled]
    exact and_congr_right fun _ => and_iff_right_of_imp fun hsame => hsame ▸ hnumber.ne_nil
  · rintro ⟨number, person, -, -, hreached⟩
    obtain ⟨hcan, hne, -⟩ := (hreaches person).1 hreached
    exact ⟨hcan, hne⟩
  · -- the person whose id is nothing but the digits of the name
    let person := String.ofList (Contact.digits name)
    have hnumber : Contact.IsNumber (Contact.digits name) := Contact.isNumber_digits hne
    have hspelled : Contact.Spells (Contact.digits name) person.toList := by
      rw [String.toList_ofList]
      exact Contact.spells_self _
    exact ⟨_, person, hnumber, hspelled,
      (hreaches person).2 ⟨hcan, hne, (Contact.digits_of_spells hnumber hspelled).symm⟩⟩

/-- A group whose name is a number, and the person who has it. -/
theorem group_reaches_person_named :
    let d := answering ⟨200, named⟩
    ∃ r, r ∈ recipients account scripted .zero ("1203" ++ Contact.groupDomain) (.text "oi") d ∧
      r ∈ recipients account scripted .zero "1203@S.WhatsApp.net" (.text "Bom dia") d := by
  intro d
  have hd : CanPost account .zero d :=
    ⟨by decide, by decide, _, Breaker.enter_of_ne_opened (by decide)⟩
  have hnumber : Contact.IsNumber ['1', '2', '0', '3'] :=
    ⟨by simp, List.all_eq_true.1 (by decide +kernel)⟩
  have hspelled : Contact.Spells ['1', '2', '0', '3'] "1203@S.WhatsApp.net".toList :=
    (Contact.normalize_eq_iff_spells hnumber).1 (by decide +kernel)
  obtain ⟨hreaches, -⟩ := group_reaches_person_iff account scripted scripted .zero .zero (.text "oi")
    (.text "Bom dia") d d "1203"
  exact (hreaches _ _ hnumber hspelled).2 ⟨⟨hd, hd⟩, by decide +kernel⟩

/-- A reply to a group, and one to a person, with and without the domain: all of them go to the person. -/
theorem group_not_told_apart :
    let recipientsOf (jid : String) :=
      recipients account scripted .zero jid (.text "oi") (answering ⟨200, named⟩)
    Contact.isGroup "1203@g.us" = true ∧ recipientsOf "1203@g.us" = ["+1203"] ∧
      recipientsOf "1203" = ["+1203"] ∧ recipientsOf "1203@s.whatsapp.net" = ["+1203"] := by
  decide +kernel

end ChatAutomation.Delivery
