import ChatAutomation.Delivery.Body
import Mathlib.Data.List.Forall2

/-!
# Within the limits of the server

The server takes texts up to a length and buttons up to a number. `Sends` says what the body of a request must
be for it to respect these limits and otherwise carry the message as it is: what has a limit is sent up to the
limit, and no further part of it is left out. There is one such body for each message, and it is the one that
is sent: `sends_iff`.
-/
namespace ChatAutomation.Delivery

/-- The longest part at the front that is within a limit. -/
structure IsLongestWithin {α : Type} (limit : Nat) (source sent : List α) : Prop where
  isPrefix : sent <+: source
  length_le : sent.length ≤ limit
  longest {part : List α} (hfront : part <+: source) (hlength : part.length ≤ limit) :
    part.length ≤ sent.length

theorem isLongestWithin_take {α : Type} (limit : Nat) (source : List α) :
    IsLongestWithin limit source (source.take limit) where
  isPrefix := List.take_prefix limit source
  length_le := List.length_take_le limit source
  longest hfront hlength := by
    rw [List.length_take]
    exact Nat.le_min.2 ⟨hlength, hfront.length_le⟩

/-- There is just one. -/
theorem isLongestWithin_iff {α : Type} {limit : Nat} {source sent : List α} :
    IsLongestWithin limit source sent ↔ sent = source.take limit := by
  refine ⟨fun h => ?_, fun h => h ▸ isLongestWithin_take limit source⟩
  have htake := isLongestWithin_take limit source
  have hfront : sent <+: source.take limit :=
    List.prefix_of_prefix_length_le h.isPrefix htake.isPrefix (htake.longest h.isPrefix h.length_le)
  exact hfront.eq_of_length_le (h.longest htake.isPrefix htake.length_le)

/-- The same for texts. -/
def IsCut (limit : Nat) (source sent : String) : Prop :=
  IsLongestWithin limit source.toList sent.toList

theorem isCut_iff {limit : Nat} {source sent : String} :
    IsCut limit source sent ↔ sent = Text.cut limit source := by
  rw [IsCut, isLongestWithin_iff, Text.cut, ← String.toList_inj, String.toList_ofList]

/-! ## What is to be sent -/

/-- The values of a poll, each on a line of its own and with its number, the first being `n`. -/
def numbered (n : Nat) : List String → String
  | [] => ""
  | value :: values => "\n" ++ toString n ++ ". " ++ value ++ numbered (n + 1) values

/-- A caption is sent if there is one. -/
inductive SendsCaption : String → Entries Value → Prop
  | empty : SendsCaption "" []
  | given {caption sent : String} (hgiven : caption ≠ "") (hcut : IsCut 1024 caption sent) :
      SendsCaption caption [("caption", .text sent)]

/-- The text above buttons, which must not be empty. -/
inductive SendsAbove : String → String → Prop
  | empty : SendsAbove "" " "
  | given {text sent : String} (hgiven : text ≠ "") (hcut : IsCut 1024 text sent) : SendsAbove text sent

inductive SendsButton (b : Button) : Value → Prop
  | reply {title : String} (hcut : IsCut 20 b.title title) :
      SendsButton b (.object [("type", .text "reply"),
        ("reply", .object [("id", .text b.id), ("title", .text title)])])

/-- The form of a message and the part that has this form. No form has a place for the number of choices in a
poll and for the type of an audio file. -/
inductive SendsContent : Message → String → Value → Prop
  | text {text sent : String} (hcut : IsCut 4096 text sent) :
      SendsContent (.text text) "text" (.object [("body", .text sent)])
  | image {url caption : String} {entries : Entries Value} (hcaption : SendsCaption caption entries) :
      SendsContent (.image url caption) "image" (.object (("link", .text url) :: entries))
  | audio {url mimetype : String} {voice : Bool} :
      SendsContent (.audio url mimetype voice) "audio" (.object [("link", .text url)])
  | video {url caption : String} {entries : Entries Value} (hcaption : SendsCaption caption entries) :
      SendsContent (.video url caption) "video" (.object (("link", .text url) :: entries))
  | poll {name sent : String} {values : List String} {selectable : Int}
      (hcut : IsCut 4096 (name ++ numbered 1 values) sent) :
      SendsContent (.poll name values selectable) "text" (.object [("body", .text sent)])
  | buttons {text footer sent : String} {buttons kept : List Button} {replies : List Value}
      (habove : SendsAbove text sent) (hkept : IsLongestWithin 3 buttons kept)
      (hreplies : List.Forall₂ SendsButton kept replies) :
      SendsContent (.buttons text buttons footer) "interactive"
        (.object [("type", .text "button"), ("body", .object [("text", .text sent)]),
          ("footer", .object [("text", .text footer)]),
          ("action", .object [("buttons", .list replies)])])

/-- The body of a request that sends a message to a phone number. -/
inductive Sends (phone : String) (m : Message) : Entries Value → Prop
  | individual {form : String} {part : Value} (hcontent : SendsContent m form part) :
      Sends phone m [("messaging_product", .text "whatsapp"), ("recipient_type", .text "individual"),
        ("to", .text phone), ("type", .text form), (form, part)]

/-! ## What is sent -/

/-- The lines of a poll, joined, are its name with the numbered values after it. -/
theorem intercalate_pollLines (name : String) (values : List String) :
    "\n".intercalate (pollLines name values) = name ++ numbered 1 values := by
  have hfrom (n : Nat) : "\n".intercalate (name :: values.mapIdx fun i v => s!"{i + n}. {v}") =
      name ++ numbered n values := by
    induction values generalizing name n with
    | nil => simp [numbered]
    | cons value values ih =>
      have hnumber : (fun (i : Nat) (v : String) => s!"{i + 1 + n}. {v}") =
          fun i v => s!"{i + (n + 1)}. {v}" := by
        funext i v
        rw [Nat.add_right_comm, Nat.add_assoc]
      rw [List.mapIdx_cons, String.intercalate_cons_cons, hnumber, ih]
      simp only [numbered, Nat.zero_add, String.append_assoc]
      rfl
  exact hfrom 1

theorem sendsCaption_iff {caption : String} {entries : Entries Value} :
    SendsCaption caption entries ↔
      entries = if caption.isEmpty then [] else [("caption", .text (Text.cut maxCaption caption))] := by
  constructor
  · rintro (_ | ⟨hgiven, hcut⟩)
    · rfl
    · rw [if_neg (by simpa using hgiven), isCut_iff.1 hcut]
      rfl
  · rintro rfl
    split
    · obtain rfl : caption = "" := by simpa using ‹caption.isEmpty = true›
      exact .empty
    · exact .given (by simpa using ‹¬ caption.isEmpty = true›) (isCut_iff.2 rfl)

theorem sendsAbove_iff {text sent : String} :
    SendsAbove text sent ↔ sent = nonEmpty (Text.cut maxCaption text) := by
  by_cases htext : text = ""
  · subst htext
    exact ⟨fun h => by cases h <;> trivial, fun h => h ▸ .empty⟩
  · have hcut : nonEmpty (Text.cut maxCaption text) = Text.cut maxCaption text := by
      rw [nonEmpty, if_neg]
      simpa [Text.cut, maxCaption] using htext
    rw [hcut]
    exact ⟨fun h => by cases h with
      | empty => exact absurd rfl htext
      | given _ hcut => exact isCut_iff.1 hcut, fun h => .given htext (isCut_iff.2 h)⟩

theorem sendsButton_iff {b : Button} {v : Value} : SendsButton b v ↔ buttonBody b = v := by
  constructor
  · rintro ⟨hcut⟩
    rw [isCut_iff.1 hcut]
    rfl
  · rintro rfl
    exact .reply (isCut_iff.2 rfl)

theorem forall₂_sendsButton_iff {buttons : List Button} {replies : List Value} :
    List.Forall₂ SendsButton buttons replies ↔ replies = buttons.map buttonBody := by
  have hsends : SendsButton = fun b v => buttonBody b = v := by
    funext b v
    exact propext sendsButton_iff
  rw [hsends, ← List.forall₂_map_left_iff, List.forall₂_eq_eq_eq]
  exact eq_comm

theorem sendsContent_iff {m : Message} {form : String} {part : Value} :
    SendsContent m form part ↔ content m = (form, part) := by
  constructor
  · intro h
    cases h with
    | text hcut => rw [isCut_iff.1 hcut]; rfl
    | image hcaption => rw [sendsCaption_iff.1 hcaption]; rfl
    | audio => rfl
    | video hcaption => rw [sendsCaption_iff.1 hcaption]; rfl
    | poll hcut => rw [isCut_iff.1 hcut, ← intercalate_pollLines]; rfl
    | buttons habove hkept hreplies =>
      rw [forall₂_sendsButton_iff.1 hreplies, isLongestWithin_iff.1 hkept, sendsAbove_iff.1 habove]
      rfl
  · intro h
    obtain ⟨rfl, rfl⟩ := Prod.mk.inj h
    cases m with
    | text => exact .text (isCut_iff.2 rfl)
    | image => exact .image (sendsCaption_iff.2 rfl)
    | audio => exact .audio
    | video => exact .video (sendsCaption_iff.2 rfl)
    | poll name values => exact .poll (isCut_iff.2 (by rw [intercalate_pollLines]; rfl))
    | buttons text buttons =>
      exact .buttons (sendsAbove_iff.2 rfl) (isLongestWithin_iff.2 rfl) (forall₂_sendsButton_iff.2 rfl)

/-- The body that is sent is within the limits, loses nothing else, and is the only one of that kind. -/
theorem sends_iff (phone : String) (m : Message) (es : Entries Value) :
    Sends phone m es ↔ es = body phone m := by
  constructor
  · rintro ⟨hcontent⟩
    rw [body, sendsContent_iff.1 hcontent]
  · rintro rfl
    exact .individual (sendsContent_iff.2 rfl)

end ChatAutomation.Delivery
