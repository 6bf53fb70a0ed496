import ChatAutomation.Action

/-!
# Inputs that are filled in alike

What a node does depends on a template through the text that it is filled in to, and on whether it is empty. So
two nodes of a kind do the same if the templates in their data are filled in alike, the choices and headers in
it are, and the inputs that are taken as they stand are the same: `execute_alike`.
-/
namespace ChatAutomation

namespace Checked
variable {α β γ δ : Type} {R : α → β → Prop} {S : γ → δ → Prop}

/-- Two readings that come to the same: to related results, or to the same issues. -/
inductive Alike (R : α → β → Prop) : Checked α → Checked β → Prop
  | ok {a : α} {b : β} (h : R a b) : Alike R (.ok a) (.ok b)
  | issues (is : List Issue) : Alike R (.issues is) (.issues is)

namespace Alike

theorem refl {R : α → α → Prop} (h : ∀ a, R a a) (x : Checked α) : Alike R x x := by
  cases x with
  | ok a => exact .ok (h a)
  | issues is => exact .issues is

theorem imp {S : α → β → Prop} (h : ∀ a b, R a b → S a b) {x : Checked α} {y : Checked β}
    (hxy : Alike R x y) : Alike S x y := by
  cases hxy with
  | ok hab => exact .ok (h _ _ hab)
  | issues is => exact .issues is

theorem map {f : α → γ} {g : β → δ} (h : ∀ a b, R a b → S (f a) (g b)) {x : Checked α} {y : Checked β}
    (hxy : Alike R x y) : Alike S (f <$> x) (g <$> y) := by
  cases hxy with
  | ok hab => exact .ok (h _ _ hab)
  | issues is => exact .issues is

theorem seq {f : Checked (α → γ)} {g : Checked (β → δ)}
    (h : Alike (fun u v => ∀ a b, R a b → S (u a) (v b)) f g) {x : Checked α} {y : Checked β}
    (hxy : Alike R x y) : Alike S (f <*> x) (g <*> y) := by
  cases h with
  | ok huv =>
    cases hxy with
    | ok hab => exact .ok (huv _ _ hab)
    | issues is => exact .issues is
  | issues is =>
    cases hxy with
    | ok hab => exact .issues is
    | issues js => exact .issues (is ++ js)

theorem under (s : Step) {x : Checked α} {y : Checked β} (hxy : Alike R x y) :
    Alike R (x.under s) (y.under s) := by
  cases hxy with
  | ok hab => exact .ok hab
  | issues is => exact .issues _

end Alike
end Checked

namespace Template

/-- Two templates that are filled in to the same text, of which both are empty or none is. -/
structure Alike (vars : Variables) (s t : String) : Prop where
  filled_eq : interpolateText s vars = interpolateText t vars
  isEmpty_eq : s.isEmpty = t.isEmpty

theorem Alike.refl (vars : Variables) (s : String) : Alike vars s s := ⟨rfl, rfl⟩

theorem Alike.orElse {vars : Variables} {s t : String} (h : Alike vars s t) (default : String) :
    interpolateText (Engine.orElse s default) vars = interpolateText (Engine.orElse t default) vars := by
  rw [Engine.orElse, Engine.orElse, h.isEmpty_eq]
  split
  · rfl
  · exact h.filled_eq

end Template

/-- Two lists of choices of which the same options are offered. -/
structure Choices.Alike (vars : Variables) (c d : Choices) : Prop where
  options_eq : ((Options.split c.value).map fun o => Template.interpolateText o vars) =
    (Options.split d.value).map fun o => Template.interpolateText o vars

/-- Two sources of the same headers, or of the same fault. -/
structure HeaderSource.Alike (vars : Variables) (h h' : HeaderSource) : Prop where
  build_eq : Headers.build h.value vars = Headers.build h'.value vars

namespace Payload

/-- Two payloads of a kind, alike in what is filled in and the same in what is taken as it stands. What a
trigger holds has no part in what the node does. -/
inductive Alike (vars : Variables) : Payload → Payload → Prop
  | trigger (type type' value value' : String) : Alike vars (.trigger type value) (.trigger type' value')
  | sendText {t t' : String} (ht : Template.Alike vars t t') : Alike vars (.sendText t) (.sendText t')
  | sendImage {u u' c c' : String} (hu : Template.Alike vars u u') (hc : Template.Alike vars c c') :
    Alike vars (.sendImage u c) (.sendImage u' c')
  | sendAudio {u u' : String} (hu : Template.Alike vars u u') (voice : Bool) :
    Alike vars (.sendAudio u voice) (.sendAudio u' voice)
  | sendVideo {u u' c c' : String} (hu : Template.Alike vars u u') (hc : Template.Alike vars c c') :
    Alike vars (.sendVideo u c) (.sendVideo u' c')
  | sendPoll {q q' : String} {o o' : Choices} (hq : Template.Alike vars q q') (ho : o.Alike vars o')
    (several : Bool) : Alike vars (.sendPoll q o several) (.sendPoll q' o' several)
  | sendButtons {t t' : String} {b b' : Choices} (ht : Template.Alike vars t t') (hb : b.Alike vars b') :
    Alike vars (.sendButtons t b) (.sendButtons t' b')
  | aiResponse {p p' : String} (hp : Template.Alike vars p p') :
    Alike vars (.aiResponse p) (.aiResponse p')
  | delay (seconds : Value) : Alike vars (.delay seconds) (.delay seconds)
  | condition {l l' r r' : String} (hl : Template.Alike vars l l') (operator : String)
    (hr : Template.Alike vars r r') : Alike vars (.condition l operator r) (.condition l' operator r')
  | setVariable {v v' : String} (name : String) (hv : Template.Alike vars v v') :
    Alike vars (.setVariable name v) (.setVariable name v')
  | httpRequest {u u' b b' : String} (hu : Template.Alike vars u u') (method : String)
    {h h' : HeaderSource} (hh : h.Alike vars h') (hb : Template.Alike vars b b') :
    Alike vars (.httpRequest u method h b) (.httpRequest u' method h' b')

/-- The inputs of a kind that are templates. -/
def templates : NodeKind → List String
  | .sendText => ["text"]
  | .sendImage | .sendVideo => ["url", "caption"]
  | .sendAudio => ["url"]
  | .sendPoll => ["question"]
  | .sendButtons => ["text"]
  | .aiResponse => ["prompt"]
  | .condition => ["left", "right"]
  | .setVariable => ["value"]
  | .httpRequest => ["url", "body"]
  | .trigger | .delay => []

/-- The inputs of a kind that offer choices. -/
def choices : NodeKind → List String
  | .sendPoll => ["options"]
  | .sendButtons => ["buttons"]
  | _ => []

/-- The inputs of a kind that are headers. -/
def headers : NodeKind → List String
  | .httpRequest => ["headers"]
  | _ => []

/-- The inputs of a kind that are taken as they stand. -/
def verbatim : NodeKind → List String
  | .sendAudio => ["ptt"]
  | .sendPoll => ["multiSelect"]
  | .delay => ["seconds"]
  | .condition => ["operator"]
  | .setVariable => ["name"]
  | .httpRequest => ["method"]
  | _ => []

/-- The inputs of a kind that are read and not used by the node itself. -/
def idle : NodeKind → List String
  | .trigger => ["trigger_type", "trigger_value"]
  | _ => []

theorem disjoint_templates_choices (kind : NodeKind) : ∀ k ∈ templates kind, k ∉ choices kind := by
  cases kind <;> decide

theorem disjoint_filled_others (kind : NodeKind) : ∀ k ∈ templates kind ++ choices kind,
    k ∉ headers kind ++ verbatim kind ++ idle kind := by
  cases kind <;> decide

/-- Data for a kind that is alike in what is filled in and the same in what is taken as it stands. -/
structure InputsAlike (vars : Variables) (kind : NodeKind) (es es' : Entries Value) : Prop where
  template : ∀ k ∈ templates kind,
    Checked.Alike (Template.Alike vars) (textInput es k "") (textInput es' k "")
  choice : ∀ k ∈ choices kind, Checked.Alike (Choices.Alike vars) (input es k (.lines "") readChoices)
    (input es' k (.lines "") readChoices)
  header : ∀ k ∈ headers kind, Checked.Alike (HeaderSource.Alike vars)
    (input es k (.template "") readHeaders) (input es' k (.template "") readHeaders)
  verbatim : ∀ k ∈ verbatim kind, es.get? k = es'.get? k
  idle : ∀ k ∈ idle kind, Checked.Alike (fun _ _ => True) (textInput es k "") (textInput es' k "")

theorem alike_ofData {vars : Variables} {kind : NodeKind} {es es' : Entries Value}
    (h : InputsAlike vars kind es es') :
    Checked.Alike (Alike vars) (ofData kind es) (ofData kind es') := by
  have htext := h.template
  have hverbatim {α : Type} (k : String) (default : α) (read : Value → Checked α)
      (hk : k ∈ verbatim kind) :
      Checked.Alike Eq (input es k default read) (input es' k default read) := by
    rw [input, h.verbatim k hk]
    exact .refl (fun _ => rfl) _
  -- one case for each kind, its inputs in the order in which the payload takes them
  cases kind with
  | trigger =>
    exact .seq (.map (fun _ _ _ _ _ _ => .trigger _ _ _ _) (h.idle "trigger_type" (by decide)))
      (h.idle "trigger_value" (by decide))
  | sendText => exact .map (fun _ _ => .sendText) (htext "text" (by decide))
  | sendImage =>
    exact .seq (.map (fun _ _ hu _ _ => .sendImage hu) (htext "url" (by decide)))
      (htext "caption" (by decide))
  | sendAudio =>
    refine .seq (.map ?_ (htext "url" (by decide)))
      (hverbatim "ptt" true Schema.switch (by decide))
    rintro _ _ hu voice _ rfl
    exact .sendAudio hu voice
  | sendVideo =>
    exact .seq (.map (fun _ _ hu _ _ => .sendVideo hu) (htext "url" (by decide)))
      (htext "caption" (by decide))
  | sendPoll =>
    refine .seq (.seq (.map ?_ (htext "question" (by decide))) (h.choice "options" (by decide)))
      (hverbatim "multiSelect" false Schema.switch (by decide))
    rintro _ _ hq _ _ ho several _ rfl
    exact .sendPoll hq ho several
  | sendButtons =>
    exact .seq (.map (fun _ _ ht _ _ => .sendButtons ht) (htext "text" (by decide)))
      (h.choice "buttons" (by decide))
  | aiResponse => exact .map (fun _ _ => .aiResponse) (htext "prompt" (by decide))
  | delay =>
    refine .map ?_ (hverbatim "seconds" .null .ok (by decide))
    rintro seconds _ rfl
    exact .delay seconds
  | condition =>
    refine .seq (.seq (.map ?_ (htext "left" (by decide)))
      (hverbatim "operator" "==" typedText (by decide))) (htext "right" (by decide))
    rintro _ _ hl operator _ rfl _ _ hr
    exact .condition hl operator hr
  | setVariable =>
    refine .seq (.map ?_ (hverbatim "name" "" typedText (by decide)))
      (htext "value" (by decide))
    rintro name _ rfl _ _ hv
    exact .setVariable name hv
  | httpRequest =>
    refine .seq (.seq (.seq (.map ?_ (htext "url" (by decide)))
      (hverbatim "method" "GET" typedText (by decide)))
      (h.header "headers" (by decide))) (htext "body" (by decide))
    rintro _ _ hu method _ rfl _ _ hh _ _ hb
    exact .httpRequest hu method hh hb

end Payload

namespace Engine
variable {σ : Type} (e : Engine σ) (r : Run σ)

theorem perform_alike {p q : Payload} (h : p.Alike r.vars q) : e.perform p r = e.perform q r := by
  cases h with
  | sendText ht => simp only [perform, message?, ht.filled_eq]
  | sendImage hu hc => simp only [perform, message?, hu.filled_eq, hc.filled_eq]
  | sendAudio hu voice => simp only [perform, message?, hu.filled_eq]
  | sendVideo hu hc => simp only [perform, message?, hu.filled_eq, hc.filled_eq]
  | sendPoll hq ho several => simp only [perform, message?, hq.filled_eq, ho.options_eq]
  | sendButtons ht hb => simp only [perform, message?, ht.filled_eq, hb.options_eq]
  | aiResponse hp => simp only [perform, message?, reply, hp.orElse]
  | condition hl operator hr => simp only [perform, message?, hl.filled_eq, hr.filled_eq]
  | setVariable name hv => simp only [perform, message?, hv.filled_eq]
  | httpRequest hu method hh hb =>
    simp only [perform, message?, request, hu.filled_eq, hh.build_eq, hb.filled_eq, hb.isEmpty_eq]
  | _ => rfl

theorem attempt_alike {kind : NodeKind} {n m : Node}
    (h : Payload.InputsAlike r.vars kind n.data m.data) : e.attempt kind n r = e.attempt kind m r := by
  have hread := Payload.alike_ofData h
  rw [attempt, attempt, Payload.ofNode, Payload.ofNode]
  cases hn : Payload.ofData kind n.data <;> cases hm : Payload.ofData kind m.data <;>
    rw [hn, hm] at hread
  · cases hread with
    | ok hpq => exact e.perform_alike r hpq
  · cases hread
  · cases hread
  · cases hread
    rfl

/-- Nodes of a kind that are alike in their inputs do the same. -/
theorem execute_alike {kind : NodeKind} {n m : Node} (hkind : n.kind? = some kind) (hid : n.id = m.id)
    (hname : n.kindName = m.kindName) (h : Payload.InputsAlike r.vars kind n.data m.data) :
    e.execute n r = e.execute m r := by
  have hkind' : m.kind? = some kind := by rw [← hkind, Node.kind?, Node.kind?, hname]
  simp only [execute, hkind, hkind', e.attempt_alike r h, hid]

end Engine
end ChatAutomation
