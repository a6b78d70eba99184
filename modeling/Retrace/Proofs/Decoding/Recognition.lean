import Retrace.Proofs.Decoding.Additions
import Retrace.Proofs.Decoding.Outcomes

/-!
Which values are events: objects whose target is readable. Nothing else in an event can be wrong;
its kind, its payload and the texts that name its task are taken from whatever stands there.
-/

namespace Retrace

namespace Json

def NullOrText (v : Json) : Prop := v = .null ∨ ∃ s, v = .string s

end Json

namespace Decoding

variable {origin : Origin}

theorem exists_json {v : Json} (hv : Readable origin v) :
    ∃ w, json origin (Document.ofJson v) = .ok w :=
  ⟨v, json_ofJson hv.1 hv.2⟩

theorem ofJson_eq_null_iff {v : Json} : Document.ofJson v = .null ↔ v = .null := by
  cases v <;> simp [Document.ofJson]

theorem optional_of_ne_null {α : Type} {decode : Decoder α} {v : Json} (hv : v ≠ .null) :
    optional decode origin (Document.ofJson v) =
      (decode origin (Document.ofJson v)).map some := by
  cases v with
  | null => exact absurd rfl hv
  | _ => rfl

theorem exists_optional_text_iff {v : Json} :
    (∃ s, optional text origin (Document.ofJson v) = .ok s) ↔ v.NullOrText := by
  rw [exists_optional_iff, exists_text_iff]
  cases v <;> simp [Json.NullOrText, Document.ofJson]

namespace Record

variable {σ : Type} {r : Record σ} {members : Json.Members}

theorem nodup_named_ofMembers (hmembers : (members.map Prod.fst).Nodup) :
    (r.named (Document.ofMembers members)).Nodup := by
  have hkeys : (Document.ofMembers members).filterMap Prod.fst = members.map Prod.fst := by
    simp [Document.ofMembers_eq_map, List.filterMap_map]
  rw [named, hkeys]
  exact hmembers.filter _

/-- A record without required fields is decoded from an object if each member can be. -/
theorem Steady.exists_ofMembers_ofJson_iff (h : r.Steady)
    (hoptional : ∀ f ∈ r.fields, f.required = false) (hmembers : (members.map Prod.fst).Nodup) :
    (∃ s, r.ofMembers origin (Document.ofMembers members) = .ok s) ↔
      ∀ m ∈ members, (r.readMember origin r.start (some m.1, Document.ofJson m.2)).isSome := by
  have hrequired : ∀ f ∈ r.fields, f.required →
      f.name ∈ r.named (Document.ofMembers members) := by
    intro f hf hreq
    rw [hoptional f hf] at hreq
    cases hreq
  rw [h.exists_ofMembers_iff, and_iff_left ⟨nodup_named_ofMembers hmembers, hrequired⟩,
    Document.ofMembers_eq_map, List.forall_mem_map]

/-- What a field of a recorded part may be: a text or nothing, but anything in `value`. -/
def Accepts (name : String) (v : Json) : Prop := name ≠ "value" → v.NullOrText

/-- A recorded part of an event: its fields are texts or `value`, and other members are skipped. -/
structure OfTexts (r : Record σ) : Prop where
  field : ∀ f ∈ r.fields,
    (∃ name set, name ≠ "value" ∧ f = .optional name (optional text) set) ∨
      ∃ set, f = .optional "value" (optional json) set
  other : ∀ name origin d s, r.other name origin d s = .ok s

/-- The fields stand under their names in an object or in their order in an array. -/
def Written (r : Record σ) : Json → Prop
  | .object members =>
      ∀ name ∈ r.fields.map RecordField.name, ∀ v ∈ members.lookup name, Accepts name v
  | .array items =>
      items.length ≤ r.fields.length ∧ ∀ p ∈ r.fields.zip items, Accepts p.1.name p.2
  | _ => False

theorem OfTexts.steady (h : r.OfTexts) : r.Steady where
  fields f hf := by
    obtain ⟨name, set, -, rfl⟩ | ⟨set, rfl⟩ := h.field f hf
    · exact RecordField.steady_optional _ _ _
    · exact RecordField.steady_optional _ _ _
  other name origin d s t _ := ⟨t, h.other name origin d t⟩

theorem OfTexts.required_eq_false (h : r.OfTexts) : ∀ f ∈ r.fields, f.required = false := by
  intro f hf
  obtain ⟨name, set, -, rfl⟩ | ⟨set, rfl⟩ := h.field f hf
  · exact RecordField.required_optional _ _ _
  · exact RecordField.required_optional _ _ _

theorem OfTexts.exists_read_iff (h : r.OfTexts) {f : RecordField σ} (hf : f ∈ r.fields) {v : Json}
    (hv : Readable origin v) (s : σ) :
    (∃ s', f.read origin (Document.ofJson v) s = .ok s') ↔ Accepts f.name v := by
  obtain ⟨name, set, hname, rfl⟩ | ⟨set, rfl⟩ := h.field f hf
  · rw [RecordField.exists_read_optional_iff, exists_optional_text_iff]
    exact ⟨fun htext _ => htext, fun haccepts => haccepts hname⟩
  · rw [RecordField.exists_read_optional_iff]
    exact iff_of_true (exists_optional_iff.mpr (.inr (exists_json hv))) fun hne => absurd rfl hne

theorem OfTexts.isSome_readMember_iff (h : r.OfTexts) {name : String} {v : Json}
    (hv : Readable origin v) :
    (r.readMember origin r.start (some name, Document.ofJson v)).isSome ↔
      (name ∈ r.fields.map RecordField.name → Accepts name v) := by
  cases hf : r.field? name with
  | none =>
      have hunknown := field?_eq_none_iff.mp hf
      simp only [readMember, hf, h.other, hunknown, false_implies, iff_true]
      rfl
  | some f =>
      have hmem := List.mem_of_find?_eq_some hf
      obtain rfl := name_of_field? hf
      simp only [readMember, hf, isSome_toOption_iff, h.exists_read_iff hmem hv,
        List.mem_map_of_mem hmem, true_implies]

theorem OfTexts.exists_ofItems_iff (h : r.OfTexts) {items : List Json}
    (hitems : ∀ v ∈ items, Readable origin v) :
    (∃ s, r.ofItems origin (Document.ofItems items) = .ok s) ↔ r.Written (.array items) := by
  have hdrop : ∀ f ∈ r.fields.drop items.length, f.required = false :=
    fun f hf => h.required_eq_false f (List.mem_of_mem_drop hf)
  rw [ofItems, exists_readItems_iff h.steady.fields, Document.ofItems_eq_map, List.length_map,
    and_iff_left hdrop, List.zip_map_right, List.forall_mem_map, Written]
  refine and_congr_right fun _ => forall₂_congr fun p hp => ?_
  have hmem := List.of_mem_zip hp
  exact h.exists_read_iff hmem.1 (hitems p.2 hmem.2) r.start

/-- A recorded part is decoded exactly from the values that are written as one. -/
theorem OfTexts.exists_decode_iff (h : r.OfTexts) {v : Json} (hv : Readable origin v) :
    (∃ s, r.decode origin (Document.ofJson v) = .ok s) ↔ r.Written v := by
  cases v with
  | null | bool _ | number _ | string _ =>
      refine iff_of_false ?_ id
      rintro ⟨s, hs⟩
      simp only [decode, Document.ofJson] at hs
      exact mismatch_ne_ok _ _ s hs
  | object members =>
      obtain ⟨inner, henter, hmembers⟩ := hv.members
      have hopened : r.decode origin (Document.ofJson (.object members)) =
          r.ofMembers inner (Document.ofMembers members) := by
        simp only [Document.ofJson, decode, henter]
        rfl
      rw [hopened, h.steady.exists_ofMembers_ofJson_iff h.required_eq_false hv.1.1, Written,
        Entries.forall_mem_lookup_iff hv.1.1]
      exact forall₂_congr fun m hm => h.isSome_readMember_iff (hmembers m hm)
  | array items =>
      obtain ⟨inner, henter, hitems⟩ := hv.items
      have hopened : r.decode origin (Document.ofJson (.array items)) =
          r.ofItems inner (Document.ofItems items) := by
        simp only [Document.ofJson, decode, henter]
        rfl
      rw [hopened, h.exists_ofItems_iff hitems]

end Record

end Decoding

open Decoding

namespace Target

/-- A target written as a value: nothing, an object or an array whose texts are texts. -/
def Shape : Json → Prop
  | .null => True
  | .object members =>
      ∀ name ∈ ["targetId", "target", "selector"], ∀ v ∈ members.lookup name, v.NullOrText
  | .array items => items.length ≤ 4 ∧ ∀ i ∈ [0, 1, 3], ∀ v ∈ items[i]?, v.NullOrText
  | _ => False

theorem ofTexts_record : record.OfTexts where
  field f hf := by
    simp only [record, List.mem_cons, List.not_mem_nil, or_false] at hf
    rcases hf with rfl | rfl | rfl | rfl
    · exact .inl ⟨_, _, by decide, rfl⟩
    · exact .inl ⟨_, _, by decide, rfl⟩
    · exact .inr ⟨_, rfl⟩
    · exact .inl ⟨_, _, by decide, rfl⟩
  other _ _ _ _ := rfl

theorem shape_iff_written {v : Json} : Shape v ↔ v = .null ∨ record.Written v := by
  cases v with
  | null | bool _ | number _ | string _ => simp [Shape, Record.Written]
  | object members => simp [Shape, Record.Written, record, Record.Accepts]
  | array items =>
      -- One case for each number of items; the third item may be any value.
      rcases items with _ | ⟨a, _ | ⟨b, _ | ⟨c, _ | ⟨d, _ | ⟨e, rest⟩⟩⟩⟩⟩ <;>
        simp [Shape, Record.Written, record, Record.Accepts]

theorem exists_decode_iff {origin : Origin} {v : Json} (hv : Readable origin v) :
    (∃ t, optional decode origin (Document.ofJson v) = .ok t) ↔ Shape v := by
  rw [exists_optional_iff, ofJson_eq_null_iff, shape_iff_written,
    ← ofTexts_record.exists_decode_iff hv]
  rfl

end Target

namespace Event

/-- An object whose target, if it has one, is written as one. -/
def Shape (v : Json) : Prop :=
  ∃ members, v = .object members ∧ ∀ w ∈ members.lookup "eventTarget", Target.Shape w

/-- How the members that may have any value have been taken. -/
structure ReadFrom (v : Json) (e : Event) : Prop where
  kind : ∀ w, v.get? "type" = some w → (∀ s, w ≠ .string s) → e.kind = .unknown w.compact
  taskId : ∀ w, v.get? "taskId" = some w → w ≠ .null → e.taskId = some w.plainText
  description :
    ∀ w, v.get? "taskDescription" = some w → w ≠ .null → e.description = some w.plainText
  controls : ∀ members, e.payload = some (.controls members) ↔
    v.get? "allEvents" = some (.object members)
  history : ∀ items, e.payload = some (.history items) ↔
    v.get? "allEvents" = some (.array items)

theorem steady_record : record.Steady where
  fields f hf := by
    simp only [record, List.mem_cons, List.not_mem_nil, or_false] at hf
    rcases hf with rfl | rfl | rfl | rfl | rfl <;> exact RecordField.steady_optional _ _ _
  other name origin d s t := by
    rintro ⟨s', hs⟩
    obtain ⟨v, hv, -⟩ := of_other hs
    exact ⟨{ t with extra := Entries.set name v t.extra }, congrArg (Except.map _) hv⟩

theorem optional_fields : ∀ f ∈ record.fields, f.required = false := by
  simp [record]

theorem exists_anyText {origin : Origin} {v : Json} (hv : Readable origin v) :
    ∃ s, anyText origin (Document.ofJson v) = .ok s :=
  ⟨v.plainText, congrArg (Except.map Json.plainText) (json_ofJson hv.1 hv.2)⟩

theorem exists_readMember_iff {origin : Origin} {name : String} {v : Json}
    (hv : Readable origin v) :
    (record.readMember origin record.start (some name, Document.ofJson v)).isSome ↔
      (name ∈ ["eventTarget"] → Target.Shape v) := by
  have hjson := exists_json hv
  have hany := exists_anyText hv
  cases hf : record.field? name with
  | none =>
      have hunknown : name ∉ ["eventTarget"] := by
        rw [List.mem_singleton]
        rintro rfl
        cases hf
      obtain ⟨w, hw⟩ := hjson
      have hother : record.other name origin (Document.ofJson v) record.start =
          .ok { record.start with extra := Entries.set name w record.start.extra } :=
        congrArg (Except.map _) hw
      simp only [Record.readMember, hf, hunknown, false_implies, iff_true, hother]
      rfl
  | some f =>
      simp only [Record.readMember, hf, isSome_toOption_iff]
      have hmem := List.mem_of_find?_eq_some hf
      have hname := Record.name_of_field? hf
      simp only [record, List.mem_cons, List.not_mem_nil, or_false] at hmem
      rcases hmem with rfl | rfl | rfl | rfl | rfl <;> cases hname <;>
        rw [RecordField.exists_read_optional_iff]
      · simp [hjson]
      · simp [Target.exists_decode_iff hv]
      · simp [exists_optional_iff.mpr (.inr hjson)]
      · simp [exists_optional_iff.mpr (.inr hany)]
      · simp [exists_optional_iff.mpr (.inr hany)]

theorem exists_decode_iff {origin : Origin} {v : Json} (hv : Readable origin v) :
    (∃ e, decode origin (Document.ofJson v) = .ok e) ↔ Shape v := by
  cases v with
  | object members =>
      obtain ⟨inner, henter, hmembers⟩ := hv.members
      have hopened : decode origin (Document.ofJson (.object members)) =
          record.ofMembers inner (Document.ofMembers members) := by
        simp only [Document.ofJson, decode, Record.decodeObject, henter]
        rfl
      have hshape : Shape (.object members) ↔
          ∀ name ∈ ["eventTarget"], ∀ w ∈ members.lookup name, Target.Shape w := by
        simp [Shape]
      rw [hopened, steady_record.exists_ofMembers_ofJson_iff optional_fields hv.1.1, hshape,
        Entries.forall_mem_lookup_iff hv.1.1]
      exact forall₂_congr fun m hm => exists_readMember_iff (hmembers m hm)
  | _ =>
      refine iff_of_false ?_ ?_
      · rintro ⟨e, he⟩
        simp only [decode, Record.decodeObject, Document.ofJson] at he
        exact mismatch_ne_ok _ _ e he
      · rintro ⟨_, hv, -⟩
        cases hv

theorem readMembers_of_decode {origin : Origin} {members : Json.Members} {e : Event}
    (hv : Readable origin (.object members))
    (h : decode origin (Document.ofJson (.object members)) = .ok e) :
    ∃ inner seen, (∀ m ∈ members, Readable inner m.2) ∧
      record.readMembers inner [] record.start (Document.ofMembers members) = .ok (seen, e) := by
  obtain ⟨inner, henter, hmembers⟩ := hv.members
  simp only [Document.ofJson, decode, Record.decodeObject, henter] at h
  obtain ⟨seen, hread⟩ := Record.exists_readMembers h
  exact ⟨inner, seen, hmembers, hread⟩

/-- What a part of an event is that only one field sets, where its member is there. -/
theorem part_of_get? {α β : Type} {key : String} {part : Event → β} {decodeField : Decoder α}
    {set : α → Event → Event} (honly : record.SetOnlyBy key part)
    (hf : record.field? key = some (.optional key decodeField set)) {origin : Origin}
    {v w : Json} {e : Event} (hv : Readable origin v)
    (h : decode origin (Document.ofJson v) = .ok e) (hw : v.get? key = some w) {a : α} {b : β}
    (hdecode : ∀ inner, Readable inner w → decodeField inner (Document.ofJson w) = .ok a)
    (hset : ∀ s, part (set a s) = b) : part e = b := by
  cases v with
  | object members =>
      obtain ⟨inner, seen, hmembers, hread⟩ := readMembers_of_decode hv h
      have hinner : Readable inner w := hmembers (key, w) (Entries.mem_of_lookup hw)
      refine honly.eq_of_lookup hf hw (fun s s' hs => ?_) hread
      obtain ⟨c, hc, rfl⟩ := RecordField.exists_of_read_optional hs
      rw [hdecode inner hinner] at hc
      cases hc
      exact hset s
  | _ => cases hw

theorem kind_of_get? {origin : Origin} {v w : Json} {e : Event} (hv : Readable origin v)
    (h : decode origin (Document.ofJson v) = .ok e) (hw : v.get? "type" = some w) :
    e.kind = .ofJson w := by
  have honly : record.SetOnlyBy "type" Event.kind :=
    setOnlyBy_of_keeps (fun hne => absurd rfl hne) (fun _ _ _ => rfl) (fun _ _ _ => rfl)
      (fun _ _ _ => rfl) (fun _ _ _ => rfl) fun _ _ => rfl
  exact part_of_get? honly rfl hv h hw (fun inner hinner => json_ofJson hinner.1 hinner.2)
    fun _ => rfl

theorem optional_anyText {origin : Origin} {w : Json} (hw : Readable origin w)
    (hnull : w ≠ .null) :
    optional anyText origin (Document.ofJson w) = .ok (some w.plainText) := by
  rw [optional_of_ne_null hnull, anyText, json_ofJson hw.1 hw.2]
  rfl

theorem taskId_of_get? {origin : Origin} {v w : Json} {e : Event} (hv : Readable origin v)
    (h : decode origin (Document.ofJson v) = .ok e) (hw : v.get? "taskId" = some w)
    (hnull : w ≠ .null) : e.taskId = some w.plainText :=
  part_of_get? setOnlyBy_taskId rfl hv h hw (fun _ hinner => optional_anyText hinner hnull)
    fun _ => rfl

theorem description_of_get? {origin : Origin} {v w : Json} {e : Event} (hv : Readable origin v)
    (h : decode origin (Document.ofJson v) = .ok e) (hw : v.get? "taskDescription" = some w)
    (hnull : w ≠ .null) : e.description = some w.plainText := by
  have honly : record.SetOnlyBy "taskDescription" Event.description :=
    setOnlyBy_of_keeps (fun _ _ _ => rfl) (fun _ _ _ => rfl) (fun _ _ _ => rfl)
      (fun _ _ _ => rfl) (fun hne => absurd rfl hne) fun _ _ => rfl
  exact part_of_get? honly rfl hv h hw (fun _ hinner => optional_anyText hinner hnull) fun _ => rfl

theorem setOnlyBy_payload : record.SetOnlyBy "allEvents" Event.payload :=
  setOnlyBy_of_keeps (fun _ _ _ => rfl) (fun _ _ _ => rfl) (fun hne => absurd rfl hne)
    (fun _ _ _ => rfl) (fun _ _ _ => rfl) fun _ _ => rfl

theorem payload_of_absent {origin : Origin} {v : Json} {e : Event} (hv : Readable origin v)
    (h : decode origin (Document.ofJson v) = .ok e) (hget : v.get? "allEvents" = none) :
    e.payload = none := by
  obtain ⟨members, rfl, -⟩ := (exists_decode_iff hv).mp ⟨e, h⟩
  obtain ⟨inner, seen, -, hread⟩ := readMembers_of_decode hv h
  exact setOnlyBy_payload.eq_of_lookup_eq_none hget hread

/-- The payload is whatever stands there, null standing for nothing. -/
theorem payload_eq_some_iff {origin : Origin} {v : Json} {e : Event} (hv : Readable origin v)
    (h : decode origin (Document.ofJson v) = .ok e) {p : Payload} :
    e.payload = some p ↔ ∃ w, v.get? "allEvents" = some w ∧ w ≠ .null ∧ Payload.ofJson w = p := by
  cases hget : v.get? "allEvents" with
  | none => simp [payload_of_absent hv h hget]
  | some w =>
      by_cases hnull : w = .null
      · subst hnull
        have hpayload : e.payload = none :=
          part_of_get? setOnlyBy_payload rfl hv h hget (fun _ _ => rfl) fun _ => rfl
        simp [hpayload]
      · have hdecode (inner : Origin) (hinner : Readable inner w) :
            optional json inner (Document.ofJson w) = .ok (some w) := by
          rw [optional_of_ne_null hnull, json_ofJson hinner.1 hinner.2]
          rfl
        have hpayload : e.payload = some (.ofJson w) :=
          part_of_get? setOnlyBy_payload rfl hv h hget hdecode fun _ => rfl
        simp [hpayload, hnull]

/-- A value is an event exactly if it is an object whose target is absent or written as one. Its
other members may be anything: a kind that is no string is unknown, the texts of the task are made
of any value, and the payload holds controls or a history by being an object or an array. -/
theorem decoded_iff_shape {origin : Origin} {v : Json} (hv : Readable origin v) :
    ((∃ e, decode origin (Document.ofJson v) = .ok e) ↔ Shape v) ∧
      ∀ e, decode origin (Document.ofJson v) = .ok e → ReadFrom v e := by
  refine ⟨exists_decode_iff hv, fun e h => ?_⟩
  constructor
  case kind =>
    intro w hw hstring
    rw [kind_of_get? hv h hw]
    cases w with
    | string s => exact absurd rfl (hstring s)
    | _ => rfl
  case taskId => exact fun w hw hnull => taskId_of_get? hv h hw hnull
  case description => exact fun w hw hnull => description_of_get? hv h hw hnull
  case controls =>
    intro members
    rw [payload_eq_some_iff hv h]
    constructor
    · rintro ⟨w, hw, -, hcontrols⟩
      cases w <;> cases hcontrols
      exact hw
    · exact fun hw => ⟨_, hw, nofun, rfl⟩
  case history =>
    intro items
    rw [payload_eq_some_iff hv h]
    constructor
    · rintro ⟨w, hw, -, hhistory⟩
      cases w <;> cases hhistory
      exact hw
    · exact fun hw => ⟨_, hw, nofun, rfl⟩

/-- A number for the kind, a list for the task and an array for the target, whose third item may be
anything. With anything but a text as the fourth item the value is no event. -/
theorem decoded_iff_shape_leniencies :
    let event (selector : Json) : Json := .object [("type", .number (.integer 1)),
      ("taskId", .array [.null]), ("allEvents", .object []),
      ("eventTarget", .array [.null, .string "<a>", .array [], selector])]
    (Readable .value (event .null) ∧ Readable .value (event (.bool true))) ∧
    (∃ e, decode .value (Document.ofJson (event .null)) = .ok e ∧ e.kind = .unknown "1" ∧
      e.taskId = some "[null]" ∧ e.payload = some (.controls [])) ∧
    ¬ ∃ e, decode .value (Document.ofJson (event (.bool true))) = .ok e := by
  intro event
  have hevent (selector : Json) (hselector : selector.WellFormed) :
      Readable .value (event selector) := by
    refine ⟨?_, trivial⟩
    simp [event, Json.WellFormed, Json.ItemsWellFormed, Json.MembersWellFormed, Number.InRange,
      hselector]
  have hnull := hevent .null trivial
  have hflag := hevent (.bool true) trivial
  refine ⟨⟨hnull, hflag⟩, ?_, ?_⟩
  · have hshape : Shape (event .null) := by
      simp [Shape, event, Target.Shape, Json.NullOrText, List.lookup_cons]
    obtain ⟨hiff, hread⟩ := decoded_iff_shape hnull
    obtain ⟨e, he⟩ := hiff.mpr hshape
    exact ⟨e, he, (hread e he).kind _ rfl (by simp), (hread e he).taskId _ rfl (by simp),
      ((hread e he).controls []).mpr rfl⟩
  · rw [(decoded_iff_shape hflag).1]
    simp [Shape, event, Target.Shape, Json.NullOrText, List.lookup_cons]

end Event

end Retrace
