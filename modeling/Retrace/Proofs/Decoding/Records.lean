import Retrace.Decoding.Record

/-!
The two forms of a record agree: an object that has every field once, in the order of declaration,
is decoded as the array of its values.
-/

namespace Retrace.Decoding

namespace RecordField

variable {σ α : Type} {origin : Origin} {decode : Decoder α} {document : Document} {a : α}

theorem read_mandatory (h : decode origin document = .ok a) (name : String) (set : α → σ → σ)
    (s : σ) : (mandatory name decode set).read origin document s = .ok (set a s) := by
  simp [mandatory, h, Except.map]

theorem read_optional (h : decode origin document = .ok a) (name : String) (set : α → σ → σ)
    (s : σ) : (optional name decode set).read origin document s = .ok (set a s) := by
  simp [optional, h, Except.map]

end RecordField

namespace Record

variable {σ : Type} {r : Record σ} {origin : Origin}

theorem readItems_cons {length index : Nat} {s s' : σ} {f : RecordField σ}
    {fields : List (RecordField σ)} {document : Document} {items : List Document}
    (h : f.read origin document s = .ok s') :
    r.readItems origin length index s (f :: fields) (document :: items) =
      r.readItems origin length (index + 1) s' fields items := by
  simp [readItems, h, bind, Except.bind]

theorem readMembers_field {key : String} {f : RecordField σ} {seen : List String} {s s' : σ}
    {document : Document} (hf : r.field? key = some f) (hs : key ∉ seen)
    (hr : f.read origin document s = .ok s') (rest : Document.Members) :
    r.readMembers origin seen s ((some key, document) :: rest) =
      r.readMembers origin (key :: seen) s' rest := by
  simp [readMembers, hf, hs, hr, bind, Except.bind]

theorem field?_of_mem (hn : (r.fields.map RecordField.name).Nodup) {f : RecordField σ}
    (hf : f ∈ r.fields) : r.field? f.name = some f := by
  unfold field?
  generalize r.fields = fields at hn hf
  induction fields with
  | nil => cases hf
  | cons g rest ih =>
      rw [List.map_cons, List.nodup_cons] at hn
      rcases List.mem_cons.mp hf with rfl | hmem
      · simp
      · have hne : g.name ≠ f.name := by
          intro he
          exact hn.1 (he ▸ List.mem_map_of_mem hmem)
        simp [hne, ih hn.2 hmem]

/-- The members of an object with the given fields. -/
def membersOf (fields : List (RecordField σ)) (values : List Document) : Document.Members :=
  List.zipWith (fun f d => (some f.name, d)) fields values

theorem readMembers_membersOf (hn : (r.fields.map RecordField.name).Nodup)
    {front fields : List (RecordField σ)} (hsplit : r.fields = front ++ fields)
    {values : List Document} (hlen : values.length = fields.length) {s s' : σ}
    {length index : Nat} (h : r.readItems origin length index s fields values = .ok s') :
    r.readMembers origin (front.map RecordField.name).reverse s (membersOf fields values) =
      .ok ((r.fields.map RecordField.name).reverse, s') := by
  induction fields generalizing front values s index with
  | nil =>
      cases values with
      | nil =>
          cases h
          simp [membersOf, readMembers, hsplit]
      | cons d values => cases hlen
  | cons f fields ih =>
      cases values with
      | nil => cases hlen
      | cons d values =>
          cases hr : f.read origin d s with
          | error fault => simp [readItems, hr, bind, Except.bind] at h
          | ok s₁ =>
              have hmem : f ∈ r.fields := hsplit ▸ List.mem_append_right front List.mem_cons_self
              have hfresh : f.name ∉ (front.map RecordField.name).reverse := by
                rw [hsplit, List.map_append, List.map_cons] at hn
                intro hin
                exact (List.nodup_append.mp hn).2.2 f.name (List.mem_reverse.mp hin) f.name
                  List.mem_cons_self rfl
              have hsplit' : r.fields = front ++ [f] ++ fields := by simp [hsplit]
              have hnext := ih hsplit' (Nat.succ.inj hlen) ((readItems_cons hr).symm.trans h)
              simp only [List.map_append, List.map_cons, List.map_nil, List.reverse_append,
                List.reverse_cons, List.reverse_nil, List.nil_append, List.cons_append] at hnext
              rw [membersOf, List.zipWith_cons_cons,
                readMembers_field (field?_of_mem hn hmem) hfresh hr]
              exact hnext

/-- An object with all fields in the order of declaration is decoded as the array of its values. -/
theorem ofMembers_membersOf (hn : (r.fields.map RecordField.name).Nodup)
    {values : List Document} (hlen : values.length = r.fields.length) {s : σ}
    (h : r.ofItems origin values = .ok s) :
    r.ofMembers origin (membersOf r.fields values) = .ok s := by
  have hread := readMembers_membersOf hn (List.nil_append r.fields).symm hlen h
  have hmissing : r.missing? (r.fields.map RecordField.name).reverse = none := by
    simp only [missing?, List.find?_eq_none]
    intro f hf
    have hname : f.name ∈ r.fields.map RecordField.name := List.mem_map_of_mem hf
    simp [hname]
  simp only [List.map_nil, List.reverse_nil] at hread
  simp [ofMembers, hread, hmissing, bind, Except.bind]

end Record

end Retrace.Decoding
