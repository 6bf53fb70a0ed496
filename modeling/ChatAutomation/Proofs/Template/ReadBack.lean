import ChatAutomation.Action
import ChatAutomation.Proofs.Template.SinglePass

/-!
# Reading back what was stored

A node that sets a variable takes any name. A placeholder finds a variable only by a name of ASCII
word characters, so a word with an accent can be stored under and not be read: its placeholder stays
in the text as it was written.
-/
namespace ChatAutomation

namespace Template

/-- The placeholder of a name as templates write it. -/
def mention (name : String) : String := "\x7b\x7b" ++ name ++ "\x7d\x7d"

theorem toList_mention (name : String) :
    (mention name).toList = '\x7b' :: '\x7b' :: (name.toList ++ ['\x7d', '\x7d']) := by
  simp [mention]

/-- A name without a closing brace is the one that its placeholder is read for. -/
theorem eq_of_opens_mention {name : String} (hbrace : '\x7d' ∉ name.toList)
    {cs after : List Char} (h : Opens cs after (mention name).toList) : cs = name.toList := by
  obtain ⟨-, hword, heq⟩ := h
  have hcs : '\x7d' ∉ cs := fun hmem => by simpa [not_isAsciiWord_brace] using hword _ hmem
  have hupTo (ds rest : List Char) (hds : '\x7d' ∉ ds) :
      (ds ++ '\x7d' :: rest).takeWhile (· != '\x7d') = ds := by
    rw [List.takeWhile_append_of_pos fun c hc => bne_iff_ne.2 (ne_of_mem_of_not_mem hc hds)]
    simp
  rw [toList_mention, List.cons.injEq, List.cons.injEq] at heq
  rw [← hupTo cs _ hcs, ← heq.2.2, hupTo _ _ hbrace]

theorem fill_mention (vars : Variables) {name : String} (hne : name ≠ "")
    (hword : ∀ c ∈ name.toList, Text.isAsciiWord c = true) :
    (fill vars (mention name)).toList = emitted vars name.toList := by
  have hopens : Opens name.toList [] (mention name).toList :=
    ⟨by simpa using hne, hword, toList_mention name⟩
  rw [fill, String.toList_ofList, ← (Filled.placeholder hopens .done).eq_pieces, List.append_nil]

/-- Words hold no braces. -/
theorem brace_not_mem_word {cs : List Char} (hword : ∀ c ∈ cs, Text.isWord c = true) :
    '\x7b' ∉ cs ∧ '\x7d' ∉ cs :=
  ⟨fun h => absurd (hword _ h) (by decide), fun h => absurd (hword _ h) (by decide)⟩

/-- The placeholder of another word stays as it is. -/
theorem fill_mention_self (vars : Variables) {name : String} (hne : name ≠ "")
    (hword : ∀ c ∈ name.toList, Text.isWord c = true)
    (hother : ∃ c ∈ name.toList, Text.isAsciiWord c = false) :
    fill vars (mention name) = mention name := by
  obtain ⟨hopen, hclose⟩ := brace_not_mem_word hword
  obtain ⟨c, hc, hascii⟩ := hother
  refine filled_iff.1 (.self vars fun rest cs after hrest hopens => ?_)
  rw [toList_mention, List.suffix_cons_iff, List.suffix_cons_iff] at hrest
  rcases hrest with rfl | rfl | hrest
  · rw [← toList_mention] at hopens
    have hcs := eq_of_opens_mention hclose hopens
    rw [hopens.2.1 c (hcs ▸ hc)] at hascii
    cases hascii
  · -- Behind the first brace a name would have to begin with one.
    obtain ⟨d, ds, hds⟩ := List.exists_cons_of_ne_nil (l := name.toList) (by simpa using hne)
    have hd : d = '\x7b' := by simpa [hds] using congrArg List.head? (List.cons.inj hopens.2.2).2
    exact hopen (by simp [hds, hd])
  · have hmem : '\x7b' ∈ name.toList ++ ['\x7d', '\x7d'] := hrest.subset (by simp [hopens.2.2])
    exact hopen (by simpa using hmem)

end Template

namespace Engine
variable {σ : Type}

theorem execute_setVariable (e : Engine σ) {n : Node} (hkind : n.kind? = some .setVariable)
    {name value : String} (hp : Payload.ofNode .setVariable n = .ok (.setVariable name value))
    (hne : name ≠ "") (r : Run σ) :
    (e.execute n r).1.ok = true ∧ (e.execute n r).2.vars =
      r.vars.put name (.text (Template.interpolateText value r.vars)) := by
  have hempty : name.isEmpty = false := by simpa using hne
  simp only [execute, hkind, attempt, hp, perform, message?, orElse, hempty, Bool.false_eq_true,
    if_false]
  exact ⟨rfl, rfl⟩

/-- A variable is set whatever it is called, and read back by its placeholder if its name is of ASCII
word characters. The placeholder of any other word shows itself. -/
theorem mention_execute_setVariable (e : Engine σ) {n : Node} (hkind : n.kind? = some .setVariable)
    {name value : String} (hp : Payload.ofNode .setVariable n = .ok (.setVariable name value))
    (hne : name ≠ "") (hword : ∀ c ∈ name.toList, Text.isWord c = true) (r : Run σ) :
    let stored := Template.interpolateText value r.vars
    let vars := (e.execute n r).2.vars
    (e.execute n r).1.ok = true ∧ vars.get? name = some (.text stored) ∧
      Template.interpolateText (Template.mention name) vars =
        if name.toList.all Text.isAsciiWord then stored else Template.mention name := by
  intro stored vars
  obtain ⟨hok, hvars⟩ := execute_setVariable e hkind hp hne r
  have hget : vars.get? name = some (.text stored) := by
    change (e.execute n r).2.vars.get? name = _
    rw [hvars, Entries.get?_put_self]
  refine ⟨hok, hget, ?_⟩
  split_ifs with hascii
  · apply String.toList_inj.1
    rw [Template.interpolateText, Template.fill_mention vars hne (List.all_eq_true.1 hascii),
      Template.emitted, String.ofList_toList, hget]
    rfl
  · refine Template.fill_mention_self vars hne hword ?_
    simpa using hascii

/-- An engine without anything outside. -/
def storing : Engine Unit where
  collaborators :=
    { send := fun _ _ s => (.ok (), s)
      respond := fun _ _ s => (.ok .null, s)
      fetch := fun _ s => (.ok ⟨200, ""⟩, s)
      sleep := fun _ s => (.ok (), s) }
  defaultDelay := .int 1

def setter (name value : String) : Node :=
  ⟨"v", "set_variable", some [("name", .text name), ("value", .text value)], none, []⟩

/-- A message that is itself a placeholder is stored and read back as it came. -/
theorem mention_execute_setVariable_nome :
    let r : Run Unit := ⟨[("_message", .text "\x7b\x7bnome\x7d\x7d")], (), []⟩
    let n := setter "nome" "Oi, \x7b\x7b_message\x7d\x7d"
    n.kind? = some .setVariable ∧ Payload.ofNode .setVariable n =
      .ok (.setVariable "nome" "Oi, \x7b\x7b_message\x7d\x7d") ∧
    Template.interpolateText (Template.mention "nome") (storing.execute n r).2.vars =
      Template.interpolateText "Oi, \x7b\x7b_message\x7d\x7d" r.vars := by
  intro r n
  have hkind : n.kind? = some .setVariable := by decide +kernel
  have hword : "nome".toList.all Text.isWord = true := by decide +kernel
  exact ⟨hkind, rfl, (mention_execute_setVariable storing hkind rfl (by simp)
    (List.all_eq_true.1 hword) r).2.2⟩

/-- The price is stored, and the placeholder of its name is not taken for one. -/
theorem not_read_back_accented :
    let r : Run Unit := ⟨[], (), []⟩
    let n := setter "preço" "10"
    "preço".toList.all Text.isWord = true ∧ (storing.execute n r).1.ok = true ∧
    Template.interpolateText (Template.mention "preço") (storing.execute n r).2.vars =
      "\x7b\x7bpreço\x7d\x7d" ∧ Template.interpolateText "10" r.vars = "10" := by
  intro r n
  have hkind : n.kind? = some .setVariable := by decide +kernel
  have hword : "preço".toList.all Text.isWord = true := by decide +kernel
  have hother : ∃ c ∈ "preço".toList, Text.isAsciiWord c = false := ⟨'ç', by simp, by decide⟩
  have hp : Payload.ofNode .setVariable n = .ok (.setVariable "preço" "10") := rfl
  exact ⟨hword, (execute_setVariable storing hkind hp (by simp) r).1,
    Template.fill_mention_self _ (by simp) (List.all_eq_true.1 hword) hother, Template.fill_of_not_contains _ (by decide)⟩

end Engine
end ChatAutomation
