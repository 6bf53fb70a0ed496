import ChatAutomation.Proofs.Contact.Spelling

/-!
# The phone number behind an id

The digits of an id up to its domain and device are its phone number, and whatever else stands between them is
passed over. Nothing that the form under which contacts are compared drops or changes is such a digit or ends
them, so an id and its form have the same phone number: `digits_normalize`. The converse holds for the ids that
are understood: `normalize_eq_iff_of_understood`.
-/
namespace ChatAutomation.Contact

open Text

def digitList (cs : List Char) : List Char :=
  ((cs.takeWhile (· != '@')).takeWhile (· != ':')).filter isDecimal

theorem digits_eq_digitList (jid : String) : digits jid = digitList jid.toList := by
  simp [digits, digitList, before]

/-- The character is no digit of a phone number, nor does it end one. -/
def Silent (c : Char) : Prop := c ≠ '@' ∧ c ≠ ':' ∧ isDecimal c = false

section
variable {c : Char} {cs front back number : List Char}

theorem digitList_cons_silent (hc : Silent c) (cs : List Char) : digitList (c :: cs) = digitList cs := by
  obtain ⟨hat, hcolon, hdecimal⟩ := hc
  simp [digitList, hat, hcolon, hdecimal]

theorem digitList_cons_decimal (hc : isDecimal c = true) (cs : List Char) :
    digitList (c :: cs) = c :: digitList cs := by
  obtain ⟨hat, hcolon⟩ := IsSpelled.ne_cut (.inr hc)
  simp [digitList, hat, hcolon, hc]

theorem digitList_cons_cut (hc : c = '@' ∨ c = ':') (cs : List Char) : digitList (c :: cs) = [] := by
  rcases hc with rfl | rfl <;> simp [digitList]

/-- What a character is to a phone number: nothing, a digit, or the end. -/
theorem silent_or (c : Char) : Silent c ∨ isDecimal c = true ∨ c = '@' ∨ c = ':' := by
  unfold Silent
  by_cases hat : c = '@' <;> by_cases hcolon : c = ':' <;> cases isDecimal c <;> simp [hat, hcolon]

theorem caseless_of_not_silent (h : ¬ Silent c) : Caseless c := by
  rcases (silent_or c).resolve_left h with hc | rfl | rfl
  · exact caseless_of_isDecimal hc
  · exact caseless_of_mem_marks (by decide)
  · exact caseless_of_mem_marks (by decide)

theorem silent_of_isBlank (h : isBlank c = true) : Silent c := by
  obtain ⟨hdecimal, hmark, -⟩ := foreign_of_isBlank h
  refine ⟨?_, ?_, hdecimal⟩ <;> rintro rfl <;> exact hmark (by decide)

theorem silent_plus : Silent '+' := ⟨by decide, by decide, (marks_plain '+' (by decide)).2⟩

theorem digitList_silent_append (h : ∀ c ∈ front, Silent c) (cs : List Char) :
    digitList (front ++ cs) = digitList cs := by
  induction front with
  | nil => rfl
  | cons c front ih =>
    obtain ⟨hc, hfront⟩ := List.forall_mem_cons.1 h
    rw [List.cons_append, digitList_cons_silent hc, ih hfront]

/-- Two texts with the same phone number have it behind any first character as well. -/
theorem digitList_cons_congr {ds : List Char} (c : Char) (h : digitList cs = digitList ds) :
    digitList (c :: cs) = digitList (c :: ds) := by
  rcases silent_or c with hc | hc | hc
  · rw [digitList_cons_silent hc, digitList_cons_silent hc, h]
  · rw [digitList_cons_decimal hc, digitList_cons_decimal hc, h]
  · rw [digitList_cons_cut hc, digitList_cons_cut hc]

theorem digitList_append_silent (h : ∀ c ∈ back, Silent c) (cs : List Char) :
    digitList (cs ++ back) = digitList cs := by
  induction cs with
  | nil => simpa using digitList_silent_append h []
  | cons c cs ih => exact digitList_cons_congr c ih

theorem digitList_append_cut (hc : c = '@' ∨ c = ':') (front cs : List Char) :
    digitList (front ++ c :: cs) = digitList front := by
  induction front with
  | nil => exact digitList_cons_cut hc cs
  | cons d front ih => exact digitList_cons_congr d ih

theorem digitList_eq_self (h : ∀ c ∈ number, isDecimal c = true) : digitList number = number := by
  induction number with
  | nil => rfl
  | cons c number ih =>
    obtain ⟨hc, hnumber⟩ := List.forall_mem_cons.1 h
    rw [digitList_cons_decimal hc, ih hnumber]

/-! ## An id and the form under which it is compared -/

theorem digitList_trimList (cs : List Char) : digitList (trimList cs) = digitList cs := by
  obtain ⟨front, back, hfront, hback, hcs⟩ := exists_eq_padded_trimList cs
  conv_rhs => rw [hcs]
  rw [digitList_append_silent fun c hc => silent_of_isBlank (hback c hc),
    digitList_silent_append fun c hc => silent_of_isBlank (hfront c hc)]

theorem digitList_lowerAfter (before cs : List Char) :
    digitList (lowerAfter before cs) = digitList cs := by
  induction cs generalizing before with
  | nil => rfl
  | cons c cs ih =>
    rw [lowerAfter_cons]
    by_cases hc : Silent c
    · -- what is no digit and ends none becomes nothing of the kind
      have hsilent : ∀ d ∈ lowerAt before c cs, Silent d := by
        intro d hd
        by_contra hloud
        exact hloud ((caseless_of_not_silent hloud).alone hd ▸ hc)
      rw [digitList_silent_append hsilent, ih, digitList_cons_silent hc]
    · rw [(caseless_of_not_silent hc).kept, List.singleton_append]
      exact digitList_cons_congr c (ih _)

theorem digitList_personalList (cs : List Char) : digitList (personalList cs) = digitList cs := by
  rcases personalList_cases cs with ⟨front, rfl, hcut⟩ | hwhole
  · obtain ⟨rest, hrest, hfront⟩ := exists_device front
    rw [hcut, domain_eq_cons, digitList_append_cut (.inl rfl)]
    conv_rhs => rw [hfront]
    obtain rfl | ⟨name, rfl⟩ := hrest
    · rw [List.append_nil]
    · rw [digitList_append_cut (.inr rfl)]
  · rw [hwhole]

theorem digitList_normalList (cs : List Char) : digitList (normalList cs) = digitList cs := by
  obtain ⟨signs, hsigns, hword⟩ := exists_signs (personalList (lowerList (trimList cs)))
  have hsilent : ∀ c ∈ signs, Silent c := fun c hc => hsigns c hc ▸ silent_plus
  rw [normalList, ← digitList_silent_append hsilent, ← hword, digitList_personalList, lowerList,
    digitList_lowerAfter, digitList_trimList]

end

section
variable {a b jid : String} {number : List Char}

/-- Whatever the id, it has the phone number of the form under which it is compared. -/
theorem digits_normalize (jid : String) : digits (normalize jid) = digits jid := by
  rw [digits_eq_digitList, digits_eq_digitList, toList_normalize, digitList_normalList]

theorem phone_eq_iff : phone a = phone b ↔ digits a = digits b := by
  constructor
  · unfold phone
    cases digits a <;> cases digits b <;> simp [← String.toList_inj]
  · intro h
    rw [phone, phone, h]

theorem phone_normalize (jid : String) : phone (normalize jid) = phone jid :=
  phone_eq_iff.2 (digits_normalize jid)

theorem isNumber_digits (h : digits jid ≠ []) : IsNumber (digits jid) :=
  ⟨h, fun _ => isDecimal_of_mem_digits⟩

theorem normalize_eq_iff_spells (h : IsNumber number) :
    normalize jid = String.ofList number ↔ Spells number jid.toList := by
  rw [← normalList_eq_iff h, ← toList_normalize, ← String.toList_inj, String.toList_ofList]

example : normalize " ++5511:3@S.WhatsApp.net\n" = "5511" := by decide +kernel

theorem digits_of_spells (hnumber : IsNumber number) (h : Spells number jid.toList) :
    digits jid = number := by
  rw [← digits_normalize, (normalize_eq_iff_spells hnumber).2 h, digits_eq_digitList,
    String.toList_ofList, digitList_eq_self hnumber.isDecimal]

/-- The id is a spelling of its phone number. -/
def Understood (jid : String) : Prop := Spells (digits jid) jid.toList

theorem understood_iff (h : digits jid ≠ []) :
    Understood jid ↔ normalize jid = String.ofList (digits jid) :=
  (normalize_eq_iff_spells (isNumber_digits h)).symm

/-- An id that is understood is compared alike with the other ids of its phone number that are, and with no
more. -/
theorem normalize_eq_iff_of_understood (hne : digits a ≠ []) (hsame : digits a = digits b)
    (ha : Understood a) : normalize a = normalize b ↔ Understood b := by
  rw [(understood_iff hne).1 ha, understood_iff (hsame ▸ hne), ← hsame]
  exact eq_comm

end

end ChatAutomation.Contact
