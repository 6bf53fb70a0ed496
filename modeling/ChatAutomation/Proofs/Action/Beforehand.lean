import ChatAutomation.Proofs.Action.Offer
import ChatAutomation.Proofs.Action.TypedNumber

/-!
# Words put in beforehand

A node may have a placeholder in its data, or the word that the placeholder shows. Both nodes do the same as
far as the inputs are filled in: the templates, the choices and the headers. Some inputs are taken as they
stand, and each of them tells the two nodes apart: `execute_inserted_iff`.
-/
namespace ChatAutomation
variable {vars : Variables} {name word : String} {kind : NodeKind} {kept : List String}

namespace Text
variable {s t : String}

theorem solid_mention (h : vars.HoldsWord name word) : Solid (Template.mention name).toList where
  ne_nil := by simp [Template.toList_mention]
  isBlank _ hc := isBlank_of_not_isCut (Template.not_isCut_of_mem_mention h.name_isAsciiWord hc)

theorem solid_word (h : vars.HoldsWord name word) : Solid word.toList where
  ne_nil := by simpa using h.word_ne_empty
  isBlank c hc := isBlank_of_not_isCut (Template.not_isCut_of_isAsciiWord (h.word_isAsciiWord c hc))

namespace Inserted

theorem alike (h : vars.HoldsWord name word) (hst : Inserted name word s t) :
    Template.Alike vars s t where
  filled_eq := by
    rw [Template.interpolateText, Template.interpolateText, ← String.toList_inj, Template.toList_fill,
      Template.toList_fill]
    exact (Template.filledAlike_of_replaced h hst).filled_eq
  isEmpty_eq := by
    rw [Bool.eq_iff_iff, String.isEmpty_iff, String.isEmpty_iff, ← String.toList_eq_nil_iff,
      ← String.toList_eq_nil_iff]
    exact hst.eq_nil_iff (solid_mention h).ne_nil (solid_word h).ne_nil

theorem trim (h : vars.HoldsWord name word) (hst : Inserted name word s t) :
    Inserted name word (Text.trim s) (Text.trim t) := by
  rw [Inserted, Text.trim, Text.trim, String.toList_ofList, String.toList_ofList]
  exact hst.trimList (solid_mention h) (solid_word h)

theorem splitAt (h : vars.HoldsWord name word) (hst : Inserted name word s t) :
    List.Forall₂ (Inserted name word) (Text.splitAt '\n' s) (Text.splitAt '\n' t) := by
  have hsolid {cs : List Char} (hcs : Solid cs) : '\n' ∉ cs := fun hmem =>
    absurd (hcs.isBlank _ hmem) (by decide +kernel)
  have hlines := hst.splitList (hsolid (solid_mention h)) (hsolid (solid_word h))
  rw [Text.splitAt, Text.splitAt, List.forall₂_map_left_iff, List.forall₂_map_right_iff]
  exact hlines.imp fun cs ds hcs => by simpa [Inserted] using hcs

end Inserted
end Text

/-! ## Choices and headers -/

namespace Value

theorem presentable_list (vs : List Value) : Text.Presentable (literal (.list vs)) := by
  have hlast : (literal (.list vs)).toList.getLast? = some ']' := by
    rw [literal, String.toList_append]
    exact List.getLast?_concat
  exact Text.presentable_iff.2
    ⟨⟨'[', by simp [literal], by decide +kernel⟩, ']', hlast, by decide +kernel⟩

theorem presentable_object (es : Entries Value) : Text.Presentable (literal (.object es)) := by
  have hlast : (literal (.object es)).toList.getLast? = some '\x7d' := by
    rw [literal, String.toList_append]
    exact List.getLast?_concat
  exact Text.presentable_iff.2
    ⟨⟨'\x7b', by simp [literal], by decide +kernel⟩, '\x7d', hlast, by decide +kernel⟩

end Value

namespace Options

/-- Two options, one line each, that are offered alike or dropped both. -/
def Alike (vars : Variables) (s t : String) : Prop := Template.Alike vars (Text.trim s) (Text.trim t)

theorem map_trimmed_eq {ss ts : List String} (h : List.Forall₂ (Alike vars) ss ts) :
    (trimmed ss).map (Template.interpolateText · vars) =
      (trimmed ts).map (Template.interpolateText · vars) := by
  induction h with
  | nil => rfl
  | @cons s t ss ts hst _ ih =>
    have hempty := hst.isEmpty_eq
    have hfilled := hst.filled_eq
    simp only [trimmed, List.map_cons, List.filter_cons, hempty] at ih ⊢
    split
    · simp only [List.map_cons, hfilled, ih]
    · exact ih

theorem alike_of_presentable {s t : String} (hs : Text.Presentable s) (ht : Text.Presentable t)
    (h : Template.FilledAlike vars s.toList t.toList) : Alike vars s t where
  filled_eq := by
    rw [hs.trim_eq, ht.trim_eq, Template.interpolateText, Template.interpolateText,
      ← String.toList_inj, Template.toList_fill, Template.toList_fill, h.filled_eq]
  isEmpty_eq := by
    rw [hs.trim_eq, ht.trim_eq, Bool.eq_iff_iff, String.isEmpty_iff, String.isEmpty_iff]
    exact iff_of_false hs.ne_empty ht.ne_empty

/-- An item of a list as an option. -/
def item (v : Value) : String := if v.isNull then "" else v.plain

theorem alike_item (h : vars.HoldsWord name word) {v w : Value}
    (hvw : v.Rewritten (Text.Inserted name word) w) : Alike vars (item v) (item w) := by
  have hliteral := Value.filledAlike_literal h hvw
  cases hvw with
  | text hst => exact (hst.trim h).alike h
  | list => exact alike_of_presentable (Value.presentable_list _) (Value.presentable_list _) hliteral
  | object =>
    exact alike_of_presentable (Value.presentable_object _) (Value.presentable_object _) hliteral
  | _ => exact Template.Alike.refl vars _

theorem alike_items (h : vars.HoldsWord name word) {vs ws : List Value}
    (hvs : Value.RewrittenItems (Text.Inserted name word) vs ws) :
    List.Forall₂ (Alike vars) (vs.map item) (ws.map item) := by
  induction vs generalizing ws with
  | nil =>
    cases hvs
    exact .nil
  | cons v vs ih =>
    cases hvs with
    | cons hvw hrest => exact .cons (alike_item h hvw) (ih hrest)

end Options

namespace Payload
variable {v w : Value}

theorem alike_typedText (h : vars.HoldsWord name word)
    (hvw : v.Rewritten (Text.Inserted name word) w) :
    Checked.Alike (Template.Alike vars) (typedText v) (typedText w) := by
  cases hvw with
  | text hst => exact .ok (hst.alike h)
  | list | object => exact .issues _
  | _ => exact .refl (Template.Alike.refl vars) _

theorem alike_readChoices (h : vars.HoldsWord name word)
    (hvw : v.Rewritten (Text.Inserted name word) w) :
    Checked.Alike (Choices.Alike vars) (readChoices v) (readChoices w) := by
  cases hvw with
  | @text s t hst =>
    have hraw (u : String) : Options.raw (.text u) = Text.splitAt '\n' u := by
      by_cases hu : u = "" <;> simp [Options.raw, Value.isGiven, Value.plain, hu]
    refine .ok ⟨?_⟩
    simp only [Choices.value, Options.split, hraw]
    exact Options.map_trimmed_eq ((hst.splitAt h).imp fun _ _ hline => (hline.trim h).alike h)
  | list hitems => exact .ok ⟨Options.map_trimmed_eq (Options.alike_items h hitems)⟩
  | object => exact .issues _
  | _ => exact .refl (fun _ => ⟨rfl⟩) _

theorem ofEntries_eq (h : vars.HoldsWord name word) {es fs : Entries Value}
    (hes : Value.RewrittenEntries (Text.Inserted name word) es fs) :
    Headers.ofEntries es vars = Headers.ofEntries fs vars := by
  induction es generalizing fs with
  | nil =>
    cases hes
    rfl
  | cons e es ih =>
    cases hes with
    | @cons k v w _ fs hvw hrest =>
      have hvalue := Value.Rewritten.fill_render h hvw
      have hentries := ih hrest
      simp only [Headers.ofEntries, Entries.mapValues, List.map_cons, Template.interpolate,
        hvalue] at hentries ⊢
      rw [hentries]

theorem alike_readHeaders (h : vars.HoldsWord name word)
    (hvw : v.Rewritten (Text.Inserted name word) w) :
    Checked.Alike (HeaderSource.Alike vars) (readHeaders v) (readHeaders w) := by
  cases hvw with
  | @text s t hst =>
    have halike := hst.alike h
    have hfilled : Template.interpolate (.text s) vars = Template.interpolate (.text t) vars :=
      halike.filled_eq
    refine .ok ⟨?_⟩
    simp only [HeaderSource.value, Headers.build, Value.isGiven, halike.isEmpty_eq, hfilled]
    rfl
  | @object es fs hentries =>
    refine .ok ⟨?_⟩
    have hempty : es.isEmpty = fs.isEmpty := by cases hentries <;> rfl
    simp only [HeaderSource.value, Headers.build, Value.isGiven, hempty, ofEntries_eq h hentries]
    rfl
  | list => exact .issues _
  | _ => exact .refl (fun _ => ⟨rfl⟩) _

end Payload

/-! ## Nodes -/

/-- Two data with the same keys, of which the second has a word in the place of each placeholder of a name, in
all texts but those of the inputs that are kept. -/
def Entries.Inserted (name word : String) (kept : List String) (es fs : Entries Value) : Prop :=
  List.Forall₂ (fun e f => e.1 = f.1 ∧
    if e.1 ∈ kept then e.2 = f.2 else e.2.Rewritten (Text.Inserted name word) f.2) es fs

/-- The second node is the first one with a word in the place of each placeholder of a name, but for the inputs
that are kept. -/
structure Node.Inserted (name word : String) (kept : List String) (n m : Node) : Prop where
  id_eq : n.id = m.id
  kindName_eq : n.kindName = m.kindName
  data : n.data.Inserted name word kept m.data

namespace Entries.Inserted
variable {es fs : Entries Value} {k : String}

/-- What the second data have under a key is what the first have, with the word put in unless the key is
kept. -/
theorem get? (h : es.Inserted name word kept fs) (k : String) :
    (es.get? k = fs.get? k) ∨ k ∉ kept ∧ ∃ v w, es.get? k = some v ∧ fs.get? k = some w ∧
      v.Rewritten (Text.Inserted name word) w := by
  induction h with
  | nil => exact .inl rfl
  | @cons e f es fs hef hrest ih =>
    obtain ⟨k₀, v⟩ := e
    obtain ⟨k₁, w⟩ := f
    obtain ⟨rfl, hvw⟩ : k₀ = k₁ ∧ _ := hef
    rw [Entries.get?_cons, Entries.get?_cons]
    by_cases hk : k = k₀
    · subst hk
      rw [if_pos rfl, if_pos rfl]
      split_ifs at hvw with hkept
      · exact .inl (congrArg some hvw)
      · exact .inr ⟨hkept, v, w, rfl, rfl, hvw⟩
    · rw [if_neg hk, if_neg hk]
      exact ih

theorem get?_of_mem (h : es.Inserted name word kept fs) (hk : k ∈ kept) : es.get? k = fs.get? k :=
  (h.get? k).resolve_right fun hnot => hnot.1 hk

/-- An input that reads alike with the word put in. -/
theorem alike_input {α : Type} {S : α → α → Prop} {default : α} {read : Value → Checked α}
    (h : es.Inserted name word kept fs) (k : String) (hrefl : ∀ a, S a a)
    (hread : ∀ v w : Value, v.Rewritten (Text.Inserted name word) w → Checked.Alike S (read v) (read w)) :
    Checked.Alike S (Payload.input es k default read) (Payload.input fs k default read) := by
  rcases h.get? k with heq | ⟨-, v, w, hv, hw, hvw⟩
  · rw [Payload.input, heq]
    exact .refl hrefl _
  · have hboth := (hread v w hvw).under (.name k)
    rw [Payload.input, Payload.input, hv, hw]
    cases hvw with
    | null => exact .refl hrefl _
    | _ => exact hboth

theorem inputsAlike (hword : vars.HoldsWord name word) (h : es.Inserted name word kept fs)
    (hkept : ∀ k ∈ Payload.verbatim kind, k ∈ kept) : Payload.InputsAlike vars kind es fs where
  template k _ := h.alike_input k (Template.Alike.refl vars) fun _ _ => Payload.alike_typedText hword
  choice k _ := h.alike_input k (fun _ => ⟨rfl⟩) fun _ _ => Payload.alike_readChoices hword
  header k _ := h.alike_input k (fun _ => ⟨rfl⟩) fun _ _ => Payload.alike_readHeaders hword
  verbatim k hk := h.get?_of_mem (hkept k hk)
  idle k _ := h.alike_input k (fun _ => trivial) fun _ _ hvw =>
    (Payload.alike_typedText hword hvw).imp fun _ _ _ => trivial

end Entries.Inserted

namespace Engine

/-- A node does the same with the word that a placeholder shows in the place of the placeholder, in all that
is filled in. -/
theorem execute_inserted {σ : Type} (e : Engine σ) {r : Run σ} {n m : Node}
    (hword : r.vars.HoldsWord name word) (hkind : n.kind? = some kind)
    (h : n.Inserted name word kept m) (hkept : ∀ k ∈ Payload.verbatim kind, k ∈ kept) :
    e.execute n r = e.execute m r :=
  e.execute_alike r hkind h.id_eq h.kindName_eq (h.data.inputsAlike hword hkept)

/-- An engine that notes what it is asked to wait for and to fetch. -/
def attentive : Engine (List String) where
  collaborators :=
    { send := fun _ _ s => (.ok (), s)
      respond := fun _ _ s => (.ok .null, s)
      fetch := fun q s => (.ok ⟨200, ""⟩, s ++ [q.method])
      sleep := fun v s => (.ok (), s ++ [v.plain]) }
  defaultDelay := .int 1

/-- Whether a node succeeded, what was noted, and the variables. -/
def outcome (x : NodeResult × Run (List String)) : Bool × List String × List (String × String) :=
  (x.1.ok, x.2.outside, x.2.vars.map fun e => (e.1, e.2.plain))

def onlyInput (kind : NodeKind) (k s : String) : Node := ⟨"n", kind.name, some [(k, .text s)], none, []⟩

def holding (word : String) : Run (List String) := ⟨[("x", .text word)], [], []⟩

theorem holdsWord_holding (hne : word ≠ "") (hword : word.toList.all Text.isAsciiWord = true) :
    (holding word).vars.HoldsWord "x" word where
  name_ne_empty := by decide
  name_isAsciiWord := List.all_eq_true.mp (by decide +kernel)
  word_ne_empty := hne
  word_isAsciiWord := List.all_eq_true.mp hword
  get?_eq := rfl

/-- A word that an input which is taken as it stands understands. -/
def understood (k : String) : String := if k = "operator" then "contains" else "1"

theorem holdsWord_understood (k : String) : (holding (understood k)).vars.HoldsWord "x" (understood k) := by
  rw [understood]
  split
  · exact holdsWord_holding (by decide) (by decide +kernel)
  · exact holdsWord_holding (by decide) (by decide +kernel)

theorem inserted_onlyInput (kind : NodeKind) {k : String} (hk : k ∉ kept) (name word : String) :
    (onlyInput kind k (Template.mention name)).Inserted name word kept (onlyInput kind k word) where
  id_eq := rfl
  kindName_eq := rfl
  data := by
    have htext : Text.Inserted name word (Template.mention name) word := by
      have hmark : Text.Replaced (Template.mention name).toList word.toList
          ((Template.mention name).toList ++ []) (word.toList ++ []) := .mark .nil
      simpa [Text.Inserted] using hmark
    refine .cons ⟨rfl, ?_⟩ .nil
    rw [if_neg hk]
    exact .text htext

/-- An input that is taken as it stands tells a placeholder from its word. -/
theorem outcome_onlyInput_ne (kind : NodeKind) : ∀ k ∈ Payload.verbatim kind,
    outcome (attentive.execute (onlyInput kind k (Template.mention "x")) (holding (understood k))) ≠
      outcome (attentive.execute (onlyInput kind k (understood k)) (holding (understood k))) := by
  cases kind <;> decide +kernel

/-- All that a node says in text is filled in before use if the inputs that are taken as they stand are left
out, and only then: the same happens with the word that a placeholder shows in the place of the placeholder,
for every engine, run and node of the kind, exactly if those inputs are kept as they are. -/
theorem execute_inserted_iff (kind : NodeKind) (kept : List String) :
    (∀ {σ : Type} (e : Engine σ) (r : Run σ) {name word : String} {n m : Node},
      r.vars.HoldsWord name word → n.kind? = some kind → n.Inserted name word kept m →
        e.execute n r = e.execute m r) ↔ ∀ k ∈ Payload.verbatim kind, k ∈ kept := by
  refine ⟨fun h k hk => ?_, fun hkept σ e r name word n m hword hkind hnm =>
    e.execute_inserted hword hkind hnm hkept⟩
  by_contra hnot
  have hkind : (onlyInput kind k (Template.mention "x")).kind? = some kind := NodeKind.ofName?_name kind
  have hsame := h attentive (holding (understood k)) (holdsWord_understood k) hkind
    (inserted_onlyInput kind hnot "x" (understood k))
  exact outcome_onlyInput_ne kind k hk (congrArg outcome hsame)

/-- A delay of as many seconds as a variable says takes as long as one that says nothing. -/
theorem delay_not_filled_in :
    let n := onlyInput .delay "seconds" (Template.mention "x")
    let m := onlyInput .delay "seconds" "5"
    (holding "5").vars.HoldsWord "x" "5" ∧ n.kind? = some .delay ∧ n.Inserted "x" "5" [] m ∧
      (attentive.execute n (holding "5")).2.outside = ["1"] ∧
      (attentive.execute m (holding "5")).2.outside = ["5.0"] := by
  refine ⟨holdsWord_holding (by decide) (by decide +kernel), NodeKind.ofName?_name .delay,
    inserted_onlyInput .delay (by simp) "x" "5", ?_, ?_⟩
  · decide +kernel
  · decide +kernel

end Engine
end ChatAutomation
