import Retrace.Proofs.Decoding.Events
import Retrace.Proofs.Decoding.Recognition
import Retrace.Replay

/-!
Recorded values shown as text. A value that is no text is shown as its JSON text, from which it can
be read back, so what events say in such values stays apart in the texts that are made of it.
-/

namespace Retrace

open Decoding

/-- A value that is shown as its JSON text and can be read back from it: no text itself, without
doubles, and not nested too deep. -/
structure Json.Restorable (v : Json) : Prop where
  writable : Writable nestingLimit v
  notText : ∀ s, v ≠ .string s

namespace Json

variable {v w : Json}

theorem plainText_eq_compact (h : ∀ s, v ≠ .string s) : v.plainText = v.compact := by
  cases v with
  | string s => exact absurd rfl (h s)
  | _ => rfl

theorem Restorable.ofText_plainText (h : v.Restorable) : ofText v.plainText = .ok v := by
  have hread := Document.read_compact h.writable.1.1 h.writable.2
  rw [plainText_eq_compact h.notText, ofText, Decoding.ofText, hread]
  exact h.writable.json_ofJson

theorem Restorable.plainText_inj (hv : v.Restorable) (hw : w.Restorable)
    (h : v.plainText = w.plainText) : v = w := by
  have hread : (.ok v : Except Fault Json) = .ok w := by
    rw [← hv.ofText_plainText, ← hw.ofText_plainText, h]
  exact Except.ok.inj hread

end Json

/-- The text that an action types or selects. -/
def Action.filled? : Action → Option String
  | .inputText _ text => some text
  | .selectOption _ value => some value
  | _ => none

/-- An event has a value for a control, and replaying it fills in a text there. -/
inductive Fills (e : Event) (value : Json) (text : String) : Prop
  | edit {target : Target} {plan : Plan} {a : Action} (hkind : e.kind = .inputChange)
      (htarget : e.target = some target) (hvalue : target.value = some value)
      (hplan : e.replay = .ok plan) (ha : a ∈ plan) (htext : a.filled? = some text) :
      Fills e value text
  | submission {controls : List (String × Control)} {name : String} {c : Control} {a : Action}
      (hkind : e.kind = .submit) (hcontrols : e.controls = some controls)
      (hc : (name, c) ∈ controls) (hvalue : c.value = some value) (ha : a ∈ c.step.actions)
      (htext : a.filled? = some text) : Fills e value text

section Filled

variable {kind : ControlKind} {selector text : String} {value : Json} {a : Action}

theorem ControlStep.filled_driven (ha : a ∈ (driven kind selector value).actions)
    (h : a.filled? = some text) : text = value.plainText := by
  cases kind <;>
    simp only [actions, List.mem_cons, List.not_mem_nil, or_false] at ha
  case text | select =>
    rcases ha with rfl | rfl
    · cases h
    · exact (Option.some.inj h).symm
  case checkable | button =>
    rcases ha with rfl | rfl <;> cases h
  case other =>
    subst ha
    cases h

theorem Control.filled_step {c : Control} (hvalue : c.value = some value)
    (ha : a ∈ c.step.actions) (h : a.filled? = some text) : text = value.plainText := by
  simp only [step, hvalue] at ha
  split at ha
  · cases ha
  · exact ControlStep.filled_driven ha h

/-- What an edit does to its control is part of what a form does to it. -/
theorem Event.mem_driven_of_editActions (ha : a ∈ editActions selector kind value) :
    a ∈ (ControlStep.driven kind selector value).actions := by
  cases kind with
  | button => exact List.mem_cons.mpr (.inl (List.mem_singleton.mp ha))
  | _ => exact ha

theorem Event.filled_inputChange {e : Event} {target : Target} {plan : Plan}
    (hkind : e.kind = .inputChange) (htarget : e.target = some target)
    (hvalue : target.value = some value) (hplan : e.replay = .ok plan) (ha : a ∈ plan)
    (h : a.filled? = some text) : text = value.plainText := by
  rw [replay, hkind] at hplan
  simp only [replayInputChange, htarget, Option.bind_some, hvalue] at hplan
  split at hplan
  · cases hplan
  · cases hplan
  · split at hplan
    · cases hplan
      cases ha
    · cases hplan
      exact ControlStep.filled_driven (mem_driven_of_editActions ha) h

theorem Fills.text_eq {e : Event} (h : Fills e value text) : text = value.plainText := by
  cases h with
  | edit hkind htarget hvalue hplan ha htext =>
      exact Event.filled_inputChange hkind htarget hvalue hplan ha htext
  | submission _ _ _ hvalue ha htext => exact Control.filled_step hvalue ha htext

end Filled

/-- Different values that two events have under one name, none of them null or a text, are taken as
different texts. -/
def TakenApart (name : String) (v w : Json) (taken other : Option String) : Prop :=
  ∀ a b, v.get? name = some a → w.get? name = some b → a.Restorable → b.Restorable →
    a ≠ .null → b ≠ .null → a ≠ b → ∃ s t, taken = some s ∧ other = some t ∧ s ≠ t

theorem takenApart_of_plainText {name : String} {v w : Json} {taken other : Option String}
    (hv : ∀ a, v.get? name = some a → (∀ s, a ≠ .string s) → a ≠ .null →
      taken = some a.plainText)
    (hw : ∀ b, w.get? name = some b → (∀ s, b ≠ .string s) → b ≠ .null →
      other = some b.plainText) : TakenApart name v w taken other := by
  intro a b ha hb hra hrb hna hnb hne
  refine ⟨_, _, hv a ha hra.notText hna, hw b hb hrb.notText hnb, fun heq => hne ?_⟩
  exact hra.plainText_inj hrb heq

/-- What two events say in different values is never shown as the same text. -/
structure ToldApart (v w : Json) (e f : Event) : Prop where
  taskId : TakenApart "taskId" v w e.taskId f.taskId
  description : TakenApart "taskDescription" v w e.description f.description
  kind : TakenApart "type" v w (some e.kind.name) (some f.kind.name)
  filled : ∀ a b s t, Fills e a s → Fills f b t → a.Restorable → b.Restorable → a ≠ b → s ≠ t

theorem toldApart_of_decode {origin other : Origin} {v w : Json} {e f : Event}
    (hv : Readable origin v) (he : Event.decode origin (Document.ofJson v) = .ok e)
    (hw : Readable other w) (hf : Event.decode other (Document.ofJson w) = .ok f) :
    ToldApart v w e f := by
  have hname {a : Json} (h : ∀ s, a ≠ .string s) : (EventKind.ofJson a).name = a.plainText := by
    cases a with
    | string s => exact absurd rfl (h s)
    | _ => rfl
  constructor
  case taskId =>
    exact takenApart_of_plainText (fun _ ha _ => Event.taskId_of_get? hv he ha)
      fun _ hb _ => Event.taskId_of_get? hw hf hb
  case description =>
    exact takenApart_of_plainText (fun _ ha _ => Event.description_of_get? hv he ha)
      fun _ hb _ => Event.description_of_get? hw hf hb
  case kind =>
    refine takenApart_of_plainText (fun a ha htext _ => ?_) fun b hb htext _ => ?_
    · rw [Event.kind_of_get? hv he ha, hname htext]
    · rw [Event.kind_of_get? hw hf hb, hname htext]
  case filled =>
    rintro a b s t hs ht hra hrb hne rfl
    exact hne (hra.plainText_inj hrb (hs.text_eq.symm.trans ht.text_eq))

/-- A value that is no text and holds no doubles is read back, with its members in their order, from
the text that it is shown as, so no two such values are shown as the same text; a text is shown as
it is. Hence two events are told apart by the values that they have for the identifier and the
description of the task, for their kind, and for the controls that are filled in. -/
theorem plainText_restores :
    (∀ s, (Json.string s).plainText = s) ∧
      (∀ v : Json, v.Restorable → Json.ofText v.plainText = .ok v) ∧
      (∀ v w : Json, v.Restorable → w.Restorable → v.plainText = w.plainText → v = w) ∧
      ∀ {origin other : Origin} {v w : Json} {e f : Event},
        Readable origin v → Event.decode origin (Document.ofJson v) = .ok e →
        Readable other w → Event.decode other (Document.ofJson w) = .ok f → ToldApart v w e f := by
  refine ⟨fun _ => rfl, fun v hv => hv.ofText_plainText, fun v w hv hw => hv.plainText_inj hw, ?_⟩
  intro origin other v w e f hv he hw hf
  exact toldApart_of_decode hv he hw hf

/-- A nested value with an integer at the end of its range, and two events whose task is the same
number, once by itself and once in a list. -/
theorem plainText_restores_nested :
    let nested : Json := .object [("b", .array [.null, .number (.integer (-9223372036854775808))]),
      ("a\n", .object [("", .string "\"\\")])]
    let event (id : Json) : Json := .object [("taskId", id), ("type", .string "click")]
    let twelve : Json := .number (.integer 12)
    Json.ofText nested.plainText = .ok nested ∧
      ∃ e f, Event.decode .value (Document.ofJson (event twelve)) = .ok e ∧
        Event.decode .value (Document.ofJson (event (.array [twelve]))) = .ok f ∧
        ∃ s t, e.taskId = some s ∧ f.taskId = some t ∧ s ≠ t := by
  intro nested event twelve
  obtain ⟨-, hback, -, hevents⟩ := plainText_restores
  have hnested : nested.Restorable := by
    refine ⟨⟨⟨?_, ?_⟩, ?_⟩, by simp [nested]⟩
    · simp [nested, Json.WellFormed, Json.ItemsWellFormed, Json.MembersWellFormed, Number.InRange]
    · decide
    · simp [nested, Json.DoubleFree, Json.ItemsDoubleFree, Json.MembersDoubleFree]
  have htwelve : twelve.Restorable := by
    refine ⟨⟨⟨?_, ?_⟩, ?_⟩, by simp [twelve]⟩
    · simp [twelve, Json.WellFormed, Number.InRange]
    · decide
    · simp [twelve, Json.DoubleFree]
  have hlist : (Json.array [twelve]).Restorable := by
    refine ⟨⟨⟨⟨htwelve.writable.1.1, trivial⟩, ?_⟩, ⟨htwelve.writable.2, trivial⟩⟩, by simp⟩
    decide
  have hevent (id : Json) (hid : id.Restorable) : Readable .value (event id) := by
    refine ⟨?_, trivial⟩
    simp [event, Json.WellFormed, Json.MembersWellFormed, hid.writable.1.1]
  refine ⟨hback nested hnested, _, _, rfl, rfl, ?_⟩
  have hapart := hevents (hevent twelve htwelve) rfl (hevent _ hlist) rfl
  refine hapart.taskId twelve _ rfl rfl htwelve hlist ?_ ?_ ?_ <;> simp [twelve]

end Retrace
