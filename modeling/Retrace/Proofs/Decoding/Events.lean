import Retrace.Proofs.Decoding.Gathering
import Retrace.Proofs.Decoding.Values
import Retrace.Proofs.Json.Soundness

/-!
What a decoded event is when it is written and decoded again. Decoding is lenient, but only once:
what it makes of a member is written as a member that it takes as it is.
-/

namespace Retrace

open Decoding

/-- A value that can be written and decoded again with the given number of levels left. -/
def Writable (levels : Nat) (v : Json) : Prop := Sound levels v ∧ v.DoubleFree

theorem Writable.json_ofJson {levels : Nat} {v : Json} (h : Writable levels v) :
    json (.text levels) (Document.ofJson v) = .ok v :=
  Decoding.json_ofJson h.1.1 h.1.2

theorem writable_null (levels : Nat) : Writable levels .null :=
  ⟨⟨trivial, Nat.zero_le _⟩, trivial⟩

theorem writable_string (levels : Nat) (s : String) : Writable levels (.string s) :=
  ⟨⟨trivial, Nat.zero_le _⟩, trivial⟩

theorem writable_object {levels : Nat} {members : Json.Members}
    (hn : (members.map Prod.fst).Nodup) (h : ∀ m ∈ members, Writable levels m.2) :
    Writable (levels + 1) (.object members) := by
  have hw := Json.membersWellFormed_iff.mpr fun m hm => (h m hm).1.1
  have hd := Json.membersDepth_le_iff.mpr fun m hm => (h m hm).1.2
  have hf := Json.membersDoubleFree_iff.mpr fun m hm => (h m hm).2
  exact ⟨⟨⟨hn, hw⟩, Nat.succ_le_succ hd⟩, hf⟩

theorem writable_ofOption {α : Type} {levels : Nat} {write : α → Json} {given : Option α}
    (h : ∀ a, given = some a → Writable levels (write a)) :
    Writable levels (Json.ofOption write given) := by
  cases given with
  | none => exact writable_null levels
  | some a => exact h a rfl

theorem Decoding.writable_json {levels : Nat} {d : Document} {v : Json} (hfit : d.IntegersFit)
    (hfree : d.DoubleFree) (h : json (.text levels) d = .ok v) : Writable levels v :=
  ⟨sound_json hfit h, doubleFree_json hfree h⟩

theorem Decoding.of_optional {α : Type} {decode : Decoder α} {origin : Origin} {d : Document}
    {a : α} (h : optional decode origin d = .ok (some a)) :
    d ≠ .null ∧ decode origin d = .ok a := by
  unfold optional at h
  split at h
  · cases h
  · next hnull =>
      cases hd : decode origin d with
      | error fault =>
          rw [hd] at h
          cases h
      | ok b =>
          rw [hd] at h
          cases h
          exact ⟨hnull, rfl⟩

theorem Decoding.ne_null_of_json {origin : Origin} {d : Document} {v : Json} (hd : d ≠ .null)
    (h : json origin d = .ok v) : v ≠ .null := by
  rintro rfl
  cases d with
  | null => exact hd rfl
  | bool b => cases h
  | number n => cases n <;> cases h
  | string s => cases s <;> cases h
  | array items =>
      obtain ⟨_, _, _, _, heq⟩ := json_array_eq_ok h
      cases heq
  | object members =>
      obtain ⟨_, _, _, _, heq⟩ := json_object_eq_ok h
      cases heq

theorem Decoding.writable_of_optional {levels : Nat} {d : Document} {v : Json}
    (hfit : d.IntegersFit) (hfree : d.DoubleFree)
    (h : optional json (.text levels) d = .ok (some v)) : v ≠ .null ∧ Writable levels v := by
  obtain ⟨hnull, hjson⟩ := of_optional h
  exact ⟨ne_null_of_json hnull hjson, writable_json hfit hfree hjson⟩

theorem Decoding.optional_ofJson {α : Type} {decode : Decoder α} {origin : Origin} {v : Json}
    {a : α} (hv : v ≠ .null) (h : decode origin (Document.ofJson v) = .ok a) :
    optional decode origin (Document.ofJson v) = .ok (some a) := by
  cases v with
  | null => exact absurd rfl hv
  | _ =>
      change (decode origin _).map some = _
      rw [h]
      rfl

/-- What reads as a JSON text is the name of no known kind. -/
theorem EventKind.ofName_of_read {name : String} {d : Document}
    (h : Document.read name = some d) : ofName name = .unknown name := by
  have hunreadable : ∀ known ∈ ["task-start", "click", "go-back-or-forward", "submit",
      "input-change", "task-finish"], (Document.read known).isNone = true := by
    decide +kernel
  have hunknown : name ∉ ["task-start", "click", "go-back-or-forward", "submit", "input-change",
      "task-finish"] := by
    intro hmem
    have hnone := hunreadable name hmem
    rw [h] at hnone
    cases hnone
  unfold ofName
  split
  all_goals first
    | rfl
    | exact absurd (by simp) hunknown

theorem EventKind.ofName_name_ofJson {v : Json} (hw : v.WellFormed) (hf : v.DoubleFree) :
    ofName (ofJson v).name = ofJson v := by
  cases v with
  | string name => exact congrArg ofName (name_ofName name)
  | _ => exact ofName_of_read (Document.read_compact hw hf)

/-- A target that can be written and decoded again. -/
structure Target.Settled (levels : Nat) (t : Target) : Prop where
  value : ∀ v, t.value = some v → v ≠ .null ∧ Writable levels v

namespace Target

variable {levels : Nat} {t : Target}

theorem Settled.read {f : RecordField Target} (hf : f ∈ record.fields) {d : Document}
    (hfit : d.IntegersFit) (hfree : d.DoubleFree) {s s' : Target}
    (hread : f.read (.text levels) d s = .ok s') (h : s.Settled levels) : s'.Settled levels := by
  simp only [record, List.mem_cons, List.not_mem_nil, or_false] at hf
  rcases hf with rfl | rfl | rfl | rfl
  case inr.inr.inl =>
    obtain ⟨given, hgiven, rfl⟩ := RecordField.exists_of_read_optional hread
    constructor
    rintro v rfl
    exact writable_of_optional hfit hfree hgiven
  all_goals
    obtain ⟨given, -, rfl⟩ := RecordField.exists_of_read_optional hread
    exact ⟨h.value⟩

theorem settled_of_decode {d : Document} (hfit : d.IntegersFit) (hfree : d.DoubleFree)
    (h : decode (.text (levels + 1)) d = .ok t) : t.Settled levels := by
  have hstart : record.start.Settled levels := ⟨nofun⟩
  obtain ⟨members, inner, rfl, henter, hmembers⟩ | ⟨items, inner, rfl, henter, hitems⟩ :=
    Record.decode_eq_ok h
  · cases henter
    obtain ⟨seen, hread⟩ := Record.exists_readMembers hmembers
    have hfit := Document.membersFit_iff.mp hfit
    have hfree := Document.membersDoubleFree_iff.mp hfree
    refine Record.readMembers_invariant ?_ ?_ hread hstart
    · intro name d hmem f hf s s' hread hs
      exact hs.read hf (hfit _ hmem) (hfree _ hmem) hread
    · intro name d _ s s' hread hs
      cases hread
      exact hs
  · cases henter
    have hfit := Document.itemsFit_iff.mp hfit
    have hfree := Document.itemsDoubleFree_iff.mp hfree
    refine Record.readItems_induct ?_ hitems hstart
    intro f hf d hd s s' hread hs
    exact hs.read hf (hfit d hd) (hfree d hd) hread

theorem names_given_sublist (members : List (String × Option Json)) :
    ((members.filterMap fun (name, value) => value.map fun v => (name, v)).map
      Prod.fst).Sublist (members.map Prod.fst) := by
  induction members with
  | nil => exact List.Sublist.slnil
  | cons m rest ih =>
      obtain ⟨name, given⟩ := m
      cases given with
      | none => exact ih.cons name
      | some v => exact ih.cons_cons name

/-- The members of a target, each left out when it says nothing. -/
theorem toJson_eq (t : Target) : t.toJson = .object
    (((t.targetId.map Json.string).map fun v => ("targetId", v)).toList ++
      (((t.target.map Json.string).map fun v => ("target", v)).toList ++
        (((t.value.map id).map fun v => ("value", v)).toList ++
          (((t.selector.map Json.string).map fun v => ("selector", v)).toList ++ [])))) := by
  obtain ⟨targetId, target, value, selector⟩ := t
  cases targetId <;> cases target <;> cases value <;> cases selector <;> rfl

theorem Settled.decode_toJson (h : t.Settled levels) :
    decode (.text (levels + 1)) (Document.ofJson t.toJson) = .ok t := by
  have hoptional : ∀ f ∈ record.fields, f.required = false := by
    simp [record, RecordField.optional]
  have htext : ∀ s : String, optional text (.text levels) (Document.ofJson (.string s)) =
      .ok (some s) := fun _ => rfl
  have hvalue : ∀ v, t.value = some v →
      optional json (.text levels) (Document.ofJson (id v)) = .ok (some v) := by
    intro v hv
    obtain ⟨hnull, hw⟩ := h.value v hv
    exact optional_ofJson hnull hw.json_ofJson
  rw [toJson_eq]
  change record.ofMembers (.text levels) (Document.ofMembers _) = .ok t
  apply Record.ofMembers_of_readMembers hoptional
  rw [Record.readMembers_given rfl (by simp) rfl fun s _ => htext s,
    Record.readMembers_given rfl (by simp) rfl fun s _ => htext s,
    Record.readMembers_given rfl (by simp) rfl hvalue,
    Record.readMembers_given rfl (by simp) rfl fun s _ => htext s]
  rfl

theorem Settled.writable_toJson (h : t.Settled levels) : Writable (levels + 1) t.toJson := by
  have htext : ∀ name text (m : String × Json),
      (Option.map Json.string text).map (fun v => (name, v)) = some m → Writable levels m.2 := by
    intro name text m hm
    cases text with
    | none => cases hm
    | some s =>
        cases hm
        exact writable_string levels s
  apply writable_object
  · refine List.Nodup.sublist (names_given_sublist _) ?_
    simp
  · intro m hm
    obtain ⟨⟨name, given⟩, hmem, hgiven⟩ := List.mem_filterMap.mp hm
    simp only [List.mem_cons, List.not_mem_nil, or_false, Prod.mk.injEq] at hmem
    rcases hmem with ⟨rfl, rfl⟩ | ⟨rfl, rfl⟩ | ⟨rfl, rfl⟩ | ⟨rfl, rfl⟩
    · exact htext _ _ m hgiven
    · exact htext _ _ m hgiven
    · obtain ⟨v, hv, rfl⟩ := Option.map_eq_some_iff.mp hgiven
      exact (h.value v hv).2
    · exact htext _ _ m hgiven

end Target

namespace Event

variable {levels : Nat} {e : Event}

/-- An event whose known members can be written and decoded again. -/
structure Settled (levels : Nat) (e : Event) : Prop where
  kind : .ofName e.kind.name = e.kind
  target : ∀ t, e.target = some t → t.Settled levels
  payload : ∀ p, e.payload = some p →
    p.toJson ≠ .null ∧ .ofJson p.toJson = p ∧ Writable (levels + 1) p.toJson

theorem settled_start : record.start.Settled levels := ⟨rfl, nofun, nofun⟩

theorem Settled.read {f : RecordField Event} (hf : f ∈ record.fields) {d : Document}
    (hfit : d.IntegersFit) (hfree : d.DoubleFree) {s s' : Event}
    (hread : f.read (.text (levels + 1)) d s = .ok s') (h : s.Settled levels) :
    s'.Settled levels := by
  simp only [record, List.mem_cons, List.not_mem_nil, or_false] at hf
  rcases hf with rfl | rfl | rfl | rfl | rfl
  case inl =>
    obtain ⟨v, hv, rfl⟩ := RecordField.exists_of_read_optional hread
    obtain ⟨hsound, hdouble⟩ := writable_json hfit hfree hv
    exact { h with kind := EventKind.ofName_name_ofJson hsound.1 hdouble }
  case inr.inl =>
    obtain ⟨given, hgiven, rfl⟩ := RecordField.exists_of_read_optional hread
    refine { h with target := ?_ }
    rintro t rfl
    exact Target.settled_of_decode hfit hfree (of_optional hgiven).2
  case inr.inr.inl =>
    obtain ⟨given, hgiven, rfl⟩ := RecordField.exists_of_read_optional hread
    refine { h with payload := ?_ }
    intro p hp
    obtain ⟨v, rfl, rfl⟩ := Option.map_eq_some_iff.mp hp
    obtain ⟨hnull, hw⟩ := writable_of_optional hfit hfree hgiven
    rw [Payload.toJson_ofJson]
    exact ⟨hnull, rfl, hw⟩
  all_goals
    obtain ⟨given, -, rfl⟩ := RecordField.exists_of_read_optional hread
    exact ⟨h.kind, h.target, h.payload⟩

/-- Members that are no known ones and can be written and decoded again. -/
structure Unread (levels : Nat) (extra : Json.Members) : Prop where
  nodup : (extra.map Prod.fst).Nodup
  unknown : ∀ m ∈ extra, m.1 ∉ knownNames
  values : ∀ m ∈ extra, Writable levels m.2

theorem Gathered.unread {members : Document.Members} {extra : Json.Members}
    (h : Gathered (.text levels) members extra)
    (hfit : ∀ m ∈ members, m.2.IntegersFit) (hfree : ∀ m ∈ members, m.2.DoubleFree) :
    Unread levels extra := by
  constructor
  case nodup => exact h.nodup
  case unknown => exact fun m hm => h.notMem_knownNames (List.mem_map_of_mem hm)
  case values =>
    intro m hm
    obtain ⟨d, hd, hjson⟩ := h.values m.1 m.2 (Entries.lookup_of_mem h.nodup hm)
    obtain ⟨front, rest, hsplit, -⟩ := List.lookup_eq_some_iff.mp hd
    have hmem : (some m.1, d) ∈ members := by
      rw [← List.mem_reverse, hsplit]
      exact List.mem_append_right front List.mem_cons_self
    exact writable_json (hfit _ hmem) (hfree _ hmem) hjson

theorem settled_of_readMembers {members : Document.Members} {seen : List String}
    (hfit : ∀ m ∈ members, m.2.IntegersFit) (hfree : ∀ m ∈ members, m.2.DoubleFree)
    (hread : record.readMembers (.text (levels + 1)) [] record.start members = .ok (seen, e)) :
    e.Settled levels := by
  refine Record.readMembers_invariant ?_ ?_ hread settled_start
  · intro name d hmem f hf s s' hs h
    exact h.read hf (hfit _ hmem) (hfree _ hmem) hs
  · intro name d _ s s' hs h
    obtain ⟨v, -, rfl⟩ := of_other hs
    exact ⟨h.kind, h.target, h.payload⟩

theorem readMembers_extra {origin : Origin} {members : Json.Members}
    (hn : ((e.extra ++ members).map Prod.fst).Nodup)
    (hunknown : ∀ m ∈ members, m.1 ∉ knownNames)
    (hjson : ∀ m ∈ members, json origin (Document.ofJson m.2) = .ok m.2) (seen : List String) :
    record.readMembers origin seen e (Document.ofMembers members) =
      .ok (seen, { e with extra := e.extra ++ members }) := by
  induction members generalizing e with
  | nil =>
      rw [List.append_nil]
      rfl
  | cons m rest ih =>
      obtain ⟨name, v⟩ := m
      have hname := field?_eq_none_iff.mpr (hunknown (name, v) List.mem_cons_self)
      have hv := hjson (name, v) List.mem_cons_self
      have hfresh : name ∉ e.extra.map Prod.fst := by
        rw [List.map_append, List.map_cons] at hn
        intro hmem
        exact (List.nodup_append.mp hn).2.2 name hmem name List.mem_cons_self rfl
      have hset : Entries.set name v e.extra = e.extra ++ [(name, v)] :=
        Entries.set_of_notMem hfresh v
      have hassoc : e.extra ++ (name, v) :: rest = e.extra ++ [(name, v)] ++ rest := by simp
      have hother : record.other name origin (Document.ofJson v) e =
          .ok { e with extra := e.extra ++ [(name, v)] } := by
        rw [← hset]
        change (json origin (Document.ofJson v)).map _ = _
        rw [hv]
        rfl
      rw [hassoc] at hn ⊢
      rw [Document.ofMembers, Record.readMembers, hname]
      simp only [hother, bind, Except.bind]
      exact ih hn (fun m hm => hunknown m (List.mem_cons_of_mem _ hm))
        fun m hm => hjson m (List.mem_cons_of_mem _ hm)

theorem optional_ofOption {α : Type} {decode : Decoder α} {origin : Origin} {write : α → Json}
    {given : Option α} (h : ∀ a, given = some a →
      optional decode origin (Document.ofJson (write a)) = .ok (some a)) :
    optional decode origin (Document.ofJson (Json.ofOption write given)) = .ok given := by
  cases given with
  | none => rfl
  | some a => exact h a rfl

/-- An event that has settled is decoded as itself. -/
theorem Settled.decode_toJson (h : e.Settled levels) (hextra : Unread (levels + 1) e.extra) :
    decode (.text (levels + 2)) (Document.ofJson e.toJson) = .ok e := by
  have hoptional : ∀ f ∈ record.fields, f.required = false := by
    simp [record, RecordField.optional]
  have htype : json (.text (levels + 1)) (Document.ofJson (.string e.kind.name)) =
      .ok (.string e.kind.name) := rfl
  have htarget : optional Target.decode (.text (levels + 1))
      (Document.ofJson (Json.ofOption Target.toJson e.target)) = .ok e.target := by
    refine optional_ofOption fun t ht => ?_
    have hobject : t.toJson ≠ .null := by
      simp [Target.toJson]
    exact optional_ofJson hobject (h.target t ht).decode_toJson
  have hpayload : optional json (.text (levels + 1))
      (Document.ofJson (Json.ofOption Payload.toJson e.payload)) =
        .ok (e.payload.map Payload.toJson) := by
    cases hp : e.payload with
    | none => rfl
    | some p =>
        obtain ⟨hnull, -, hw⟩ := h.payload p hp
        exact optional_ofJson hnull hw.json_ofJson
  have htext : ∀ given, optional anyText (.text (levels + 1))
      (Document.ofJson (Json.ofText? given)) = .ok given := by
    intro given
    exact optional_ofOption fun s _ => rfl
  have hkind : EventKind.ofJson (.string e.kind.name) = e.kind := h.kind
  have hkept : (e.payload.map Payload.toJson).map .ofJson = e.payload := by
    cases hp : e.payload with
    | none => rfl
    | some p => exact congrArg some (h.payload p hp).2.1
  change record.ofMembers (.text (levels + 1)) (Document.ofMembers (_ ++ e.extra)) = .ok e
  apply Record.ofMembers_of_readMembers hoptional
  simp only [List.cons_append, List.nil_append, Document.ofMembers]
  rw [Record.readMembers_field rfl (by simp) (RecordField.read_optional htype _ _ _),
    Record.readMembers_field rfl (by simp) (RecordField.read_optional htarget _ _ _),
    Record.readMembers_field rfl (by simp) (RecordField.read_optional hpayload _ _ _),
    Record.readMembers_field rfl (by simp) (RecordField.read_optional (htext _) _ _ _),
    Record.readMembers_field rfl (by simp) (RecordField.read_optional (htext _) _ _ _),
    hkind, hkept]
  exact readMembers_extra (e := { e with extra := [] }) hextra.nodup hextra.unknown
    (fun m hm => (hextra.values m hm).json_ofJson) _

theorem Settled.writable_toJson (h : e.Settled levels) (hextra : Unread (levels + 1) e.extra) :
    Writable (levels + 2) e.toJson := by
  apply writable_object
  · rw [List.map_append, List.nodup_append]
    refine ⟨by simp, hextra.nodup, ?_⟩
    rintro known hknown name hname rfl
    obtain ⟨m, hm, rfl⟩ := List.mem_map.mp hname
    exact hextra.unknown m hm hknown
  · refine List.forall_mem_append.mpr ⟨?_, hextra.values⟩
    simp only [List.forall_mem_cons]
    exact ⟨writable_string _ _, writable_ofOption fun t ht => (h.target t ht).writable_toJson,
      writable_ofOption fun p hp => (h.payload p hp).2.2,
      writable_ofOption fun s _ => writable_string _ s,
      writable_ofOption fun s _ => writable_string _ s, nofun⟩

/-- Every event that is decoded from text keeps the members that the library does not read, each
under its name where that was first seen and with the value that was last given to it; and without
doubles in the text, it is decoded as itself from its own text. -/
theorem kept_of_ofText {text : String} (h : ofText text = .ok e) :
    ∃ members, Document.read text = some (.object members) ∧
      e.extra.map Prod.fst = ((members.filterMap Prod.fst).filter (· ∉ knownNames)).eraseDups ∧
      (∀ m ∈ e.extra, ∃ d, members.reverse.lookup (some m.1) = some d ∧
        json (.text (nestingLimit - 1)) d = .ok m.2) ∧
      ((Document.object members).DoubleFree → ofText e.toJson.compact = .ok e) := by
  unfold ofText Decoding.ofText at h
  cases hread : Document.read text with
  | none =>
      rw [hread] at h
      cases h
  | some document =>
      rw [hread] at h
      obtain ⟨members, inner, rfl, henter, hmembers⟩ := Record.decodeObject_eq_ok h
      cases henter
      obtain ⟨seen, hdecoded⟩ := Record.exists_readMembers hmembers
      have hgathered := gathered_of_readMembers hdecoded
      have hfit := Document.membersFit_iff.mp (Document.integersFit_read hread)
      refine ⟨members, rfl, hgathered.names, ?_, ?_⟩
      · intro m hm
        exact hgathered.values m.1 m.2 (Entries.lookup_of_mem hgathered.nodup hm)
      · intro hfree
        have hfree := Document.membersDoubleFree_iff.mp hfree
        have hsettled := settled_of_readMembers hfit hfree hdecoded
        have hextra := hgathered.unread hfit hfree
        obtain ⟨⟨hw, -⟩, hf⟩ := hsettled.writable_toJson hextra
        rw [ofText, Decoding.ofText, Document.read_compact hw hf]
        exact hsettled.decode_toJson hextra

/-- A type that is null, a target as an array, a task that is a number, and a name given twice. -/
theorem kept_of_ofText_lenient :
    let text :=
      "\x7b\"type\":null,\"a\":1,\"eventTarget\":[\"id\",null,7],\"taskId\":12,\"a\":[2]\x7d"
    let e : Event :=
      { kind := .unknown "null"
        target := some { targetId := some "id", value := some (.number (.integer 7)) }
        taskId := some "12"
        extra := [("a", .array [.number (.integer 2)])] }
    ofText text = .ok e ∧ ofText e.toJson.compact = .ok e := by
  intro text e
  have hread : Document.read text = some (.object [(some "type", .null),
      (some "a", .number (some (.integer 1))),
      (some "eventTarget", .array [.string (some "id"), .null, .number (some (.integer 7))]),
      (some "taskId", .number (some (.integer 12))),
      (some "a", .array [.number (some (.integer 2))])]) := by
    rw [Document.read]
    simp only [text, String.reduceToList]
    rfl
  have htext : ofText text = .ok e := by
    rw [ofText, Decoding.ofText, hread]
    rfl
  obtain ⟨members, hmembers, -, -, hback⟩ := kept_of_ofText htext
  rw [hread] at hmembers
  cases hmembers
  refine ⟨htext, hback ?_⟩
  simp [Document.DoubleFree, Document.MembersDoubleFree, Document.ItemsDoubleFree]

end Event

end Retrace
