import Retrace.Event.Decoding
import Retrace.Proofs.Decoding.Values

/-!
Decoding a value from text and from memory. Only the faults differ, and only in what they say of an
array that is too long; a decoder that gets a value from the one gets the same from the other.
-/

namespace Retrace

namespace Decoding

/-- What is decoded from the text of a value is what is decoded from the value. -/
def Agrees {α : Type} (decode : Decoder α) : Prop :=
  ∀ (v : Json) (levels : Nat), v.WellFormed → v.depth ≤ levels →
    (decode (.text levels) (Document.ofJson v)).toOption =
      (decode .value (Document.ofJson v)).toOption

theorem agrees_text : Agrees text := fun _ _ _ _ => rfl

theorem agrees_json : Agrees json := by
  intro v levels hw hd
  have hmemory : Origin.Admits .value v.depth := trivial
  have htext : Origin.Admits (.text levels) v.depth := hd
  rw [json_ofJson hw htext, json_ofJson hw hmemory]

theorem Agrees.optional {α : Type} {decode : Decoder α} (h : Agrees decode) :
    Agrees (optional decode) := by
  intro v levels hw hd
  cases v with
  | null => rfl
  | _ =>
      have hv := h _ levels hw hd
      simp only [Document.ofJson, Decoding.optional, toOption_map] at hv ⊢
      rw [hv]

theorem Agrees.map {α β : Type} {decode : Decoder α} (h : Agrees decode) (f : α → β) :
    Agrees fun origin document => (decode origin document).map f := by
  intro v levels hw hd
  rw [toOption_map, toOption_map, h v levels hw hd]

/-- A field is read alike from the text of a value and from the value. -/
def RecordField.Agrees {σ : Type} (f : RecordField σ) : Prop :=
  ∀ s, Decoding.Agrees fun origin document => f.read origin document s

theorem RecordField.agrees_optional {σ α : Type} {decode : Decoder α}
    (h : Decoding.Agrees decode) (name : String) (set : α → σ → σ) :
    (optional name decode set).Agrees :=
  fun s => h.map fun a => set a s

namespace Record

variable {σ : Type} {r : Record σ}

/-- All that the record does with a member or an item agrees. -/
structure Agrees (r : Record σ) : Prop where
  fields : ∀ f ∈ r.fields, f.Agrees
  other : ∀ name s, Decoding.Agrees fun origin document => r.other name origin document s

theorem Agrees.toOption_readMembers (h : r.Agrees) {members : Json.Members} {levels : Nat}
    (hw : ∀ m ∈ members, m.2.WellFormed) (hd : ∀ m ∈ members, m.2.depth ≤ levels)
    (seen : List String) (s : σ) :
    (r.readMembers (.text levels) seen s (Document.ofMembers members)).toOption =
      (r.readMembers .value seen s (Document.ofMembers members)).toOption := by
  induction members generalizing seen s with
  | nil => rfl
  | cons m rest ih =>
      obtain ⟨key, v⟩ := m
      have hwv := hw (key, v) List.mem_cons_self
      have hdv := hd (key, v) List.mem_cons_self
      have hrest := ih (fun m hm => hw m (List.mem_cons_of_mem _ hm))
        (fun m hm => hd m (List.mem_cons_of_mem _ hm))
      rw [Document.ofMembers, readMembers, readMembers]
      cases hf : r.field? key with
      | none =>
          simp only [toOption_bind, h.other key s v levels hwv hdv]
          congr 1
          funext s
          exact hrest seen s
      | some f =>
          have hread := h.fields f (List.mem_of_find?_eq_some hf) s v levels hwv hdv
          simp only
          split
          · rfl
          · simp only [toOption_bind, hread]
            congr 1
            funext s
            exact hrest (key :: seen) s

theorem Agrees.toOption_readItems {items : List Json} {levels : Nat}
    (hw : ∀ v ∈ items, v.WellFormed) (hd : ∀ v ∈ items, v.depth ≤ levels)
    {fields : List (RecordField σ)} (hfields : ∀ f ∈ fields, f.Agrees) (length index : Nat)
    (s : σ) :
    (r.readItems (.text levels) length index s fields (Document.ofItems items)).toOption =
      (r.readItems .value length index s fields (Document.ofItems items)).toOption := by
  induction fields generalizing items index s with
  | nil => cases items <;> rfl
  | cons f fields ih =>
      have hrest := fun g hg => hfields g (List.mem_cons_of_mem f hg)
      cases items with
      | nil =>
          rw [Document.ofItems, readItems, readItems]
          split
          · rfl
          · exact ih hw hd hrest (index + 1) s
      | cons v items =>
          have hread := hfields f List.mem_cons_self s v levels (hw v List.mem_cons_self)
            (hd v List.mem_cons_self)
          rw [Document.ofItems, readItems, readItems]
          simp only [toOption_bind, hread]
          congr 1
          funext s
          exact ih (fun w hv => hw w (List.mem_cons_of_mem v hv))
            (fun w hv => hd w (List.mem_cons_of_mem v hv)) hrest (index + 1) s

theorem Agrees.decodeObject (h : r.Agrees) : Decoding.Agrees r.decodeObject := by
  intro v levels hw hd
  cases v with
  | object members =>
      cases levels with
      | zero => cases hd
      | succ levels =>
          have hd := Json.membersDepth_le_iff.mp (Nat.le_of_succ_le_succ hd)
          have hread := h.toOption_readMembers (Json.membersWellFormed_iff.mp hw.2) hd [] r.start
          have hmembers : (r.ofMembers (.text levels) (Document.ofMembers members)).toOption =
              (r.ofMembers .value (Document.ofMembers members)).toOption := by
            rw [ofMembers, ofMembers, toOption_bind, toOption_bind, hread]
          simp only [Document.ofJson, Record.decodeObject, Origin.enter, toOption_bind]
          exact hmembers
  | _ => rfl

theorem Agrees.decode (h : r.Agrees) : Decoding.Agrees r.decode := by
  intro v levels hw hd
  cases v with
  | array items =>
      cases levels with
      | zero => cases hd
      | succ levels =>
          have hd := Json.itemsDepth_le_iff.mp (Nat.le_of_succ_le_succ hd)
          have hread := toOption_readItems (r := r) (Json.itemsWellFormed_iff.mp hw) hd h.fields
            (Document.ofItems items).length 0 r.start
          simp only [Document.ofJson, Record.decode, Origin.enter, ofItems, toOption_bind]
          exact hread
  | object members => exact h.decodeObject (.object members) levels hw hd
  | _ => rfl

end Record

end Decoding

open Decoding

theorem Target.agrees_decode : Agrees Target.decode := by
  refine Record.Agrees.decode ⟨?_, fun _ _ _ _ _ _ => rfl⟩
  simp only [record, List.forall_mem_cons]
  exact ⟨RecordField.agrees_optional agrees_text.optional _ _,
    RecordField.agrees_optional agrees_text.optional _ _,
    RecordField.agrees_optional agrees_json.optional _ _,
    RecordField.agrees_optional agrees_text.optional _ _, nofun⟩

namespace Event

theorem agrees_decode : Agrees decode := by
  have hany : Agrees anyText := agrees_json.map Json.plainText
  refine Record.Agrees.decodeObject ⟨?_, fun name e => agrees_json.map _⟩
  simp only [record, List.forall_mem_cons]
  exact ⟨RecordField.agrees_optional agrees_json _ _,
    RecordField.agrees_optional Target.agrees_decode.optional _ _,
    RecordField.agrees_optional agrees_json.optional _ _,
    RecordField.agrees_optional hany.optional _ _,
    RecordField.agrees_optional hany.optional _ _, nofun⟩

/-- A recorded event is read from the file of a value as it is from the value. -/
theorem toOption_ofText_pretty {v : Json} (hw : v.WellFormed) (hf : v.DoubleFree)
    (hd : v.depth ≤ nestingLimit) : (ofText v.pretty).toOption = (ofJson v).toOption := by
  rw [ofText, Decoding.ofText, Document.read_pretty hw hf]
  exact agrees_decode v nestingLimit hw hd

end Event

end Retrace
