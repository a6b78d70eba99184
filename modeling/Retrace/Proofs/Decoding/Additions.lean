import Mathlib.Data.List.Forall2
import Retrace.Proofs.Decoding.Gathering
import Retrace.Proofs.Decoding.Values
import Retrace.Proofs.Plan.Readings

/-!
Members that are read by no field. Where such members are added to an event, to its target, to the
controls of a form or to the entries of a history, the event is decoded as before and reads alike.
-/

namespace Retrace

namespace Json

/-- What happens to the value of a member that stays as it is. -/
def Unchanged (_ : String) (v w : Json) : Prop := v = w

/-- Members to which others were added, anywhere among them and with any values. The added ones have
no known name; of those that were there before, `kept` says what may happen to their values. -/
inductive AddedTo (known : List String) (kept : String → Json → Json → Prop) :
    Members → Members → Prop
  | nil : AddedTo known kept [] []
  | keep {name : String} {v w : Json} {members others : Members} (h : kept name v w)
      (hrest : AddedTo known kept members others) :
      AddedTo known kept ((name, v) :: members) ((name, w) :: others)
  | add {name : String} {w : Json} {members others : Members} (h : name ∉ known)
      (hrest : AddedTo known kept members others) :
      AddedTo known kept members ((name, w) :: others)

/-- A value with members added to it, if it is an object. -/
inductive Widened (known : List String) (kept : String → Json → Json → Prop) : Json → Json → Prop
  | same (v : Json) : Widened known kept v v
  | object {members others : Members} (h : AddedTo known kept members others) :
      Widened known kept (.object members) (.object others)

end Json

namespace Decoding

section Views

variable {ε α β γ δ : Type}

/-- Two computations that look alike go on alike. -/
theorem map_bind_congr {x y : Except ε α} {p : α → γ} {f g : α → Except ε β} {q : β → δ}
    (hxy : x.map p = y.map p) (hfg : ∀ a b, p a = p b → (f a).map q = (g b).map q) :
    (x >>= f).map q = (y >>= g).map q := by
  cases x with
  | error fault =>
      cases y with
      | error other =>
          cases hxy
          rfl
      | ok b => cases hxy
  | ok a =>
      cases y with
      | error other => cases hxy
      | ok b => exact hfg a b (Except.ok.inj hxy)

theorem map_map_congr {x y : Except ε α} {p : α → γ} {f g : α → β} {q : β → δ}
    (hxy : x.map p = y.map p) (hfg : ∀ a b, p a = p b → q (f a) = q (g b)) :
    (x.map f).map q = (y.map g).map q := by
  cases x with
  | error fault =>
      cases y with
      | error other =>
          cases hxy
          rfl
      | ok b => cases hxy
  | ok a =>
      cases y with
      | error other => cases hxy
      | ok b => exact congrArg Except.ok (hfg a b (Except.ok.inj hxy))

theorem mapM_congr {R : β → β → Prop} {decode : β → Except ε α} {p : α → γ} {xs ys : List β}
    (h : List.Forall₂ R xs ys)
    (hlike : ∀ x ∈ xs, ∀ y ∈ ys, R x y → (decode x).map p = (decode y).map p) :
    (xs.mapM decode).map (List.map p) = (ys.mapM decode).map (List.map p) := by
  induction h with
  | nil => rfl
  | @cons x y xs ys hxy _ ih =>
      have hfirst := hlike x List.mem_cons_self y List.mem_cons_self hxy
      have hrest := ih fun x hx y hy => hlike x (List.mem_cons_of_mem _ hx) y
        (List.mem_cons_of_mem _ hy)
      rw [List.mapM_cons, List.mapM_cons]
      refine map_bind_congr hfirst fun a b hab => ?_
      refine map_bind_congr hrest fun as bs habs => ?_
      exact congrArg Except.ok (List.cons_eq_cons.mpr ⟨hab, habs⟩)

theorem exists_ok_iff_of_map {x y : Except ε α} {p : α → γ} (h : x.map p = y.map p) :
    (∃ a, x = .ok a) ↔ ∃ b, y = .ok b := by
  cases x with
  | error fault =>
      cases y with
      | error other => simp
      | ok b => cases h
  | ok a =>
      cases y with
      | error other => cases h
      | ok b => simp

end Views

namespace Record

variable {σ β : Type} {r : Record σ} {origin : Origin} {view : σ → β} {known : List String}
  {kept : String → Json → Json → Prop} {readable : Json → Prop}

/-- The view of a record shows nothing of members without a known name, nor of what may have
happened to the others. -/
structure Blind (r : Record σ) (origin : Origin) (view : σ → β) (known : List String)
    (kept : String → Json → Json → Prop) (readable : Json → Prop) : Prop where
  unknown : ∀ name, name ∉ known → r.field? name = none
  field : ∀ f ∈ r.fields, ∀ v w, kept f.name v w → readable v → readable w → ∀ s t,
    view s = view t → (f.read origin (Document.ofJson v) s).map view =
      (f.read origin (Document.ofJson w) t).map view
  other : ∀ name v w, r.field? name = none → kept name v w → readable v → readable w → ∀ s t,
    view s = view t → (r.other name origin (Document.ofJson v) s).map view =
      (r.other name origin (Document.ofJson w) t).map view
  added : ∀ name w, name ∉ known → readable w → ∀ s,
    (r.other name origin (Document.ofJson w) s).map view = .ok (view s)

theorem Blind.map_readMembers (h : r.Blind origin view known kept readable)
    {members others : Json.Members} (hadded : Json.AddedTo known kept members others)
    (hmembers : ∀ m ∈ members, readable m.2) (hothers : ∀ m ∈ others, readable m.2)
    (seen : List String) {s t : σ} (hst : view s = view t) :
    (r.readMembers origin seen s (Document.ofMembers members)).map (fun a => (a.1, view a.2)) =
      (r.readMembers origin seen t (Document.ofMembers others)).map fun a => (a.1, view a.2) := by
  induction hadded generalizing seen s t with
  | nil => exact congrArg (fun shown => Except.ok (seen, shown)) hst
  | @keep name v w members others hkept hrest ih =>
      obtain ⟨hv, hmembers⟩ := List.forall_mem_cons.mp hmembers
      obtain ⟨hw, hothers⟩ := List.forall_mem_cons.mp hothers
      rw [Document.ofMembers, Document.ofMembers, readMembers, readMembers]
      cases hf : r.field? name with
      | none =>
          refine map_bind_congr (h.other name v w hf hkept hv hw s t hst) fun s t hst => ?_
          exact ih hmembers hothers seen hst
      | some f =>
          dsimp only
          split
          · rfl
          · have hmem := List.mem_of_find?_eq_some hf
            rw [← name_of_field? hf] at hkept
            refine map_bind_congr (h.field f hmem v w hkept hv hw s t hst) fun s t hst => ?_
            exact ih hmembers hothers (name :: seen) hst
  | @add name w members others hname hrest ih =>
      obtain ⟨hw, hothers⟩ := List.forall_mem_cons.mp hothers
      have hview : (Except.ok s : Except Fault σ).map view =
          (r.other name origin (Document.ofJson w) t).map view := by
        rw [h.added name w hname hw t, ← hst]
        rfl
      rw [Document.ofMembers, readMembers, h.unknown name hname]
      change ((Except.ok s : Except Fault σ) >>= fun s => r.readMembers origin seen s
        (Document.ofMembers members)).map _ = _
      exact map_bind_congr hview fun s t hst => ih hmembers hothers seen hst

theorem Blind.map_ofMembers (h : r.Blind origin view known kept readable)
    {members others : Json.Members} (hadded : Json.AddedTo known kept members others)
    (hmembers : ∀ m ∈ members, readable m.2) (hothers : ∀ m ∈ others, readable m.2) :
    (r.ofMembers origin (Document.ofMembers members)).map view =
      (r.ofMembers origin (Document.ofMembers others)).map view := by
  rw [ofMembers, ofMembers]
  refine map_bind_congr (h.map_readMembers hadded hmembers hothers [] rfl) fun a b hab => ?_
  obtain ⟨seen, s⟩ := a
  obtain ⟨seen', t⟩ := b
  obtain ⟨rfl, hst⟩ := Prod.mk.inj hab
  dsimp only
  cases r.missing? seen with
  | some f => rfl
  | none => exact congrArg Except.ok hst

/-- A record that skips what is no field of its own. -/
theorem blind_of_skips (r : Record σ)
    (hskips : ∀ name origin d s, r.other name origin d s = .ok s) (origin : Origin) :
    r.Blind origin id (r.fields.map RecordField.name) Json.Unchanged fun _ => True where
  unknown _ := field?_eq_none_iff.mpr
  field f _ v w hvw _ _ s t hst := by
    cases hvw
    cases hst
    rfl
  other name v w _ hvw _ _ s t hst := by
    cases hvw
    cases hst
    rfl
  added name w _ _ s := by
    rw [hskips]
    rfl

/-- Members that a record skips may be added to the object it is decoded from. -/
theorem decode_widened (hskips : ∀ name origin d s, r.other name origin d s = .ok s)
    {v w : Json} (h : v.Widened (r.fields.map RecordField.name) Json.Unchanged w)
    (origin : Origin) :
    r.decode origin (Document.ofJson v) = r.decode origin (Document.ofJson w) := by
  cases h with
  | same => rfl
  | object hadded =>
      have hview (inner : Origin) := (r.blind_of_skips hskips inner).map_ofMembers hadded
        (fun _ _ => trivial) fun _ _ => trivial
      simp only [Except.map_id] at hview
      simp only [Document.ofJson, decode]
      cases origin.enter with
      | error fault => rfl
      | ok inner => exact hview inner

end Record

namespace RecordField

variable {σ α β γ : Type} {origin : Origin} {decode : Decoder α} {set : α → σ → σ} {view : σ → β}
  {d d' : Document} {s t : σ}

/-- If a part of what is decoded for a field is all that shows of it, the rest may differ. -/
theorem map_read_optional {part : α → γ}
    (hdecode : (decode origin d).map part = (decode origin d').map part)
    (hset : ∀ a b, part a = part b → view (set a s) = view (set b t)) (name : String) :
    ((optional name decode set).read origin d s).map view =
      ((optional name decode set).read origin d' t).map view :=
  map_map_congr hdecode hset

theorem map_read_optional_of_eq (hdecode : decode origin d = decode origin d')
    (hset : ∀ a, view (set a s) = view (set a t)) (name : String) :
    ((optional name decode set).read origin d s).map view =
      ((optional name decode set).read origin d' t).map view := by
  refine map_map_congr (p := id) (congrArg (Except.map id) hdecode) fun a b hab => ?_
  cases hab
  exact hset a

end RecordField

/-- A value that can be decoded as itself: in memory any well-formed one, in a text one that does
not nest too deep. -/
def Readable (origin : Origin) (v : Json) : Prop := v.WellFormed ∧ origin.Admits v.depth

theorem Readable.items {origin : Origin} {items : List Json} (h : Readable origin (.array items)) :
    ∃ inner, origin.enter = .ok inner ∧ ∀ v ∈ items, Readable inner v := by
  obtain ⟨inner, henter, hinner⟩ := h.2.enter
  refine ⟨inner, henter, fun v hv => ⟨Json.itemsWellFormed_iff.mp h.1 v hv, hinner.mono ?_⟩⟩
  exact Json.itemsDepth_le_iff.mp (Nat.le_refl (Json.itemsDepth items)) v hv

theorem Readable.members {origin : Origin} {members : Json.Members}
    (h : Readable origin (.object members)) :
    ∃ inner, origin.enter = .ok inner ∧ ∀ m ∈ members, Readable inner m.2 := by
  obtain ⟨inner, henter, hinner⟩ := h.2.enter
  refine ⟨inner, henter, fun m hm => ⟨Json.membersWellFormed_iff.mp h.1.2 m hm, hinner.mono ?_⟩⟩
  exact Json.membersDepth_le_iff.mp (Nat.le_refl (Json.membersDepth members)) m hm

end Decoding

open Decoding

namespace Target

def knownNames : List String := ["targetId", "target", "value", "selector"]

theorem decode_widened {v w : Json} (h : v.Widened knownNames Json.Unchanged w)
    (origin : Origin) : decode origin (Document.ofJson v) = decode origin (Document.ofJson w) :=
  Record.decode_widened (r := record) (fun _ _ _ _ => rfl) h origin

end Target

namespace Control

def knownNames : List String := ["selector", "tag", "type", "value"]

theorem decode_widened {v w : Json} (h : v.Widened knownNames Json.Unchanged w)
    (origin : Origin) : decode origin (Document.ofJson v) = decode origin (Document.ofJson w) :=
  Record.decode_widened (r := record) (fun _ _ _ _ => rfl) h origin

end Control

namespace NavigationEntry

def knownNames : List String := ["current_url"]

theorem decode_widened {v w : Json} (h : v.Widened knownNames Json.Unchanged w)
    (origin : Origin) : decode origin (Document.ofJson v) = decode origin (Document.ofJson w) :=
  Record.decode_widened (r := record) (fun _ _ _ _ => rfl) h origin

end NavigationEntry

namespace Event

/-- What may happen to the value of a member: its target, the controls of a form and the entries of
a history may have members added. -/
inductive MemberWidened : String → Json → Json → Prop
  | same (name : String) (v : Json) : MemberWidened name v v
  | target {v w : Json} (h : v.Widened Target.knownNames Json.Unchanged w) :
      MemberWidened "eventTarget" v w
  | controls {members others : Json.Members} (h : List.Forall₂ (fun m n => m.1 = n.1 ∧
        m.2.Widened Control.knownNames Json.Unchanged n.2) members others) :
      MemberWidened "allEvents" (.object members) (.object others)
  | history {items others : List Json} (h : List.Forall₂ (fun v w =>
        v.Widened NavigationEntry.knownNames Json.Unchanged w) items others) :
      MemberWidened "allEvents" (.array items) (.array others)

/-- An event to which members were added that the library does not read. -/
def Widened (v w : Json) : Prop := v.Widened knownNames MemberWidened w

theorem controls_widened {members others : Json.Members} (h : List.Forall₂ (fun m n => m.1 = n.1 ∧
      m.2.Widened Control.knownNames Json.Unchanged n.2) members others) :
    controls { payload := some (.controls members) } =
      controls { payload := some (.controls others) } := by
  simp only [controls, Option.some.injEq]
  induction h with
  | nil => rfl
  | cons hfirst hrest ih =>
      rw [List.filterMap_cons, List.filterMap_cons, ih]
      simp only [Decoding.ofJson, Control.decode_widened hfirst.2, hfirst.1]

theorem firstNavigation_widened {items others : List Json} (h : List.Forall₂ (fun v w =>
      v.Widened NavigationEntry.knownNames Json.Unchanged w) items others) :
    firstNavigation { payload := some (.history items) } =
      firstNavigation { payload := some (.history others) } := by
  cases h with
  | nil => rfl
  | cons hfirst hrest =>
      simp only [firstNavigation, Decoding.ofJson, NavigationEntry.decode_widened hfirst]

/-- What is read of a payload. -/
def payloadReading (payload : Option Payload) :
    Option (List (String × Control)) × Option NavigationEntry :=
  (controls { payload }, firstNavigation { payload })

theorem MemberWidened.eq_of_name {name : String} {v w : Json} (h : MemberWidened name v w)
    (htarget : name ≠ "eventTarget") (hpayload : name ≠ "allEvents") : v = w := by
  cases h with
  | same => rfl
  | target => exact absurd rfl htarget
  | controls | history => exact absurd rfl hpayload

theorem MemberWidened.payloadReading_eq {name : String} {v w : Json} (h : MemberWidened name v w)
    (htarget : name ≠ "eventTarget") :
    payloadReading (some (.ofJson v)) = payloadReading (some (.ofJson w)) := by
  cases h with
  | same => rfl
  | target => exact absurd rfl htarget
  | controls h => exact Prod.ext (controls_widened h) rfl
  | history h => exact Prod.ext rfl (firstNavigation_widened h)

theorem optional_target_widened {name : String} {v w : Json} (h : MemberWidened name v w)
    (hpayload : name ≠ "allEvents") (origin : Origin) :
    optional Target.decode origin (Document.ofJson v) =
      optional Target.decode origin (Document.ofJson w) := by
  cases h with
  | same => rfl
  | target h =>
      have hdecode := Target.decode_widened h origin
      cases h with
      | same => rfl
      | object h => exact congrArg (Except.map some) hdecode
  | controls | history => exact absurd rfl hpayload

theorem optional_payload_widened {name : String} {v w : Json} {origin : Origin}
    (h : MemberWidened name v w) (htarget : name ≠ "eventTarget") (hv : Readable origin v)
    (hw : Readable origin w) :
    (optional json origin (Document.ofJson v)).map (fun v => payloadReading (v.map .ofJson)) =
      (optional json origin (Document.ofJson w)).map fun v => payloadReading (v.map .ofJson) := by
  have hpart := h.payloadReading_eq htarget
  have hsome {v : Json} (hv : Readable origin v) (hnull : v ≠ .null) :
      optional json origin (Document.ofJson v) = .ok (some v) := by
    cases v with
    | null => exact absurd rfl hnull
    | _ => exact congrArg (Except.map some) (json_ofJson hv.1 hv.2)
  cases h with
  | same => rfl
  | target => exact absurd rfl htarget
  | controls h =>
      rw [hsome hv (by simp), hsome hw (by simp)]
      exact congrArg Except.ok hpart
  | history h =>
      rw [hsome hv (by simp), hsome hw (by simp)]
      exact congrArg Except.ok hpart

/-- The decoding of an event is blind to what is not read of it. -/
theorem blind_record (origin : Origin) :
    record.Blind origin reading knownNames MemberWidened (Readable origin) where
  unknown name := field?_eq_none_iff.mpr
  field f hf v w h hv hw s t hst := by
    simp only [record, List.mem_cons, List.not_mem_nil, or_false] at hf
    obtain rfl | rfl | rfl | rfl | rfl := hf
    case inl =>
      cases h.eq_of_name (by decide) (by decide)
      refine RecordField.map_read_optional_of_eq rfl (fun a => ?_) _
      exact congrArg (fun shown : Reading => { shown with kind := .ofJson a }) hst
    case inr.inl =>
      have hdecode := optional_target_widened h (by decide) origin
      refine RecordField.map_read_optional_of_eq hdecode (fun a => ?_) _
      exact congrArg (fun shown : Reading => { shown with target := a }) hst
    case inr.inr.inl =>
      have hdecode := optional_payload_widened h (by decide) hv hw
      refine RecordField.map_read_optional hdecode (fun a b hab => ?_) _
      have hshown := congrArg (fun shown : Reading => { shown with
        controls := (payloadReading (a.map .ofJson)).1
        navigation := (payloadReading (a.map .ofJson)).2 }) hst
      refine hshown.trans ?_
      rw [hab]
      rfl
    case inr.inr.inr.inl =>
      cases h.eq_of_name (by decide) (by decide)
      refine RecordField.map_read_optional_of_eq rfl (fun a => ?_) _
      exact congrArg (fun shown : Reading => { shown with taskId := a }) hst
    case inr.inr.inr.inr =>
      cases h.eq_of_name (by decide) (by decide)
      refine RecordField.map_read_optional_of_eq rfl (fun a => ?_) _
      exact congrArg (fun shown : Reading => { shown with description := a }) hst
  other name v w hname h hv hw s t hst := by
    have hunknown := field?_eq_none_iff.mp hname
    have hsame := h.eq_of_name (fun htarget => hunknown (by simp [htarget, knownNames]))
      fun hpayload => hunknown (by simp [hpayload, knownNames])
    cases hsame
    exact map_map_congr (p := id) rfl fun _ _ _ => hst
  added name w hname hw s := by
    change ((json origin (Document.ofJson w)).map _).map reading = _
    rw [json_ofJson hw.1 hw.2]
    rfl

/-- An event with added members is decoded exactly if it is without them, and reads alike. -/
theorem decode_widened {v w : Json} {origin : Origin} (h : Widened v w) (hv : Readable origin v)
    (hw : Readable origin w) :
    (decode origin (Document.ofJson v)).map reading =
      (decode origin (Document.ofJson w)).map reading := by
  cases h with
  | same => rfl
  | @object members others hadded =>
      obtain ⟨inner, henter, hmembers⟩ := hv.members
      obtain ⟨inner', henter', hothers⟩ := hw.members
      cases henter.symm.trans henter'
      have hread := (blind_record inner).map_ofMembers hadded hmembers hothers
      simp only [Document.ofJson, decode, Record.decodeObject, henter]
      exact hread

theorem sequence_widened {values others : List Json} {origin : Origin}
    (h : List.Forall₂ Widened values others) (hvalues : Readable origin (.array values))
    (hothers : Readable origin (.array others)) :
    (sequence decode origin (Document.ofJson (.array values))).map (List.map reading) =
      (sequence decode origin (Document.ofJson (.array others))).map (List.map reading) := by
  obtain ⟨inner, henter, hvalues⟩ := hvalues.items
  obtain ⟨inner', henter', hothers⟩ := hothers.items
  cases henter.symm.trans henter'
  simp only [Document.ofJson, Decoding.sequence, henter, Document.ofItems_eq_map]
  change ((values.map Document.ofJson).mapM (decode inner)).map _ =
    ((others.map Document.ofJson).mapM (decode inner)).map _
  rw [List.mapM_map, List.mapM_map]
  exact mapM_congr h fun v hv w hw hvw => decode_widened hvw (hvalues v hv) (hothers w hw)

/-- Members that the library does not read may be added to the events of a stream, to their targets,
to the controls of forms and to the entries of histories. The events are decoded exactly if they are
without these members, and they are compiled, and accepted or refused, as without them. -/
theorem compiled_without_additions {values others : List Json} {origin : Origin}
    (h : List.Forall₂ Widened values others) (hvalues : Readable origin (.array values))
    (hothers : Readable origin (.array others)) :
    let decoded (values : List Json) := sequence decode origin (Document.ofJson (.array values))
    ((∃ events, decoded values = .ok events) ↔ ∃ events, decoded others = .ok events) ∧
      ∀ events changed, decoded values = .ok events → decoded others = .ok changed →
        Compilation.ofEvents changed = Compilation.ofEvents events ∧
          Bundle.ofEvents changed = Bundle.ofEvents events := by
  intro decoded
  have hread : (decoded values).map (List.map reading) = (decoded others).map (List.map reading) :=
    sequence_widened h hvalues hothers
  constructor
  · exact exists_ok_iff_of_map hread
  · intro events changed hevents hchanged
    rw [hevents, hchanged] at hread
    have hreadings : events.map reading = changed.map reading := Except.ok.inj hread
    exact ⟨(Compilation.ofEventsFrom_congr hreadings 0).symm,
      (Bundle.ofEvents_congr hreadings).symm⟩

/-- A task with a search, before and after notes of a recorder were added everywhere. -/
theorem compiled_without_additions_notes :
    let note : String × Json := ("note", .array [.null])
    let start (entry : Json.Members) : Json.Members := [("type", .string "task-start"),
      ("allEvents", .array [.object entry]), ("taskId", .string "1"),
      ("taskDescription", .string "find")]
    let search (target control : Json.Members) : Json.Members := [("type", .string "submit"),
      ("eventTarget", .object target), ("allEvents", .object [("q", .object control)])]
    let entry : Json.Members := [("current_url", .string "http://a")]
    let target : Json.Members := [("selector", .string "#form")]
    let control : Json.Members := [("selector", .string "#q"), ("tag", .string "input"),
      ("value", .string "x")]
    let values : List Json := [.object (start entry), .object (search target control)]
    let others : List Json := [.object (note :: start (entry ++ [note])),
      .object (search (target ++ [note]) (note :: control))]
    let decoded (values : List Json) := sequence decode .value (Document.ofJson (.array values))
    List.Forall₂ Widened values others ∧
      (decoded values).map Bundle.ofEvents = .ok (.ok { goal := "find", taskId := "1", plan := [
        .openTab "http://a", .waitForElement "#q" 5000, .inputText "#q" "x",
        .sendKeys "Enter"] }) ∧
      (decoded others).map Bundle.ofEvents = (decoded values).map Bundle.ofEvents := by
  intro note start search entry target control values others decoded
  have hentry : Json.Widened NavigationEntry.knownNames Json.Unchanged (.object entry)
      (.object (entry ++ [note])) := .object (.keep rfl (.add (by decide) .nil))
  have htarget : Json.Widened Target.knownNames Json.Unchanged (.object target)
      (.object (target ++ [note])) := .object (.keep rfl (.add (by decide) .nil))
  have hcontrol : Json.Widened Control.knownNames Json.Unchanged (.object control)
      (.object (note :: control)) :=
    .object (.add (by decide) (.keep rfl (.keep rfl (.keep rfl .nil))))
  have hstart : Widened (.object (start entry)) (.object (note :: start (entry ++ [note]))) :=
    .object (.add (by decide) (.keep (.same _ _) (.keep (.history (.cons hentry .nil))
      (.keep (.same _ _) (.keep (.same _ _) .nil)))))
  have hsearch : Widened (.object (search target control))
      (.object (search (target ++ [note]) (note :: control))) :=
    .object (.keep (.same _ _) (.keep (.target htarget)
      (.keep (.controls (.cons ⟨rfl, hcontrol⟩ .nil)) .nil)))
  have hwidened : List.Forall₂ Widened values others := .cons hstart (.cons hsearch .nil)
  have hvalues : Readable .value (.array values) := by
    refine ⟨?_, trivial⟩
    simp [values, start, search, entry, target, control, Json.WellFormed, Json.ItemsWellFormed,
      Json.MembersWellFormed]
  have hothers : Readable .value (.array others) := by
    refine ⟨?_, trivial⟩
    simp [others, note, start, search, entry, target, control, Json.WellFormed,
      Json.ItemsWellFormed, Json.MembersWellFormed]
  obtain ⟨hdecoded, hsame⟩ := compiled_without_additions hwidened hvalues hothers
  obtain ⟨events, hevents⟩ : ∃ events, decoded values = .ok events := ⟨_, rfl⟩
  obtain ⟨changed, hchanged⟩ := hdecoded.mp ⟨events, hevents⟩
  refine ⟨hwidened, by decide +kernel, ?_⟩
  rw [hevents, show decoded others = _ from hchanged]
  exact congrArg Except.ok (hsame events changed hevents hchanged).2

end Event

end Retrace
