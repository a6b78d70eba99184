import Retrace.Proofs.Decoding.Members
import Retrace.Proofs.Decoding.Values

/-!
When a record is decoded. Each of its members succeeds or fails by itself, whatever was decoded
before it; besides, no field may occur twice, and those that are required must occur.
-/

namespace Retrace.Decoding

theorem isSome_toOption_iff {ε α : Type} {x : Except ε α} : x.toOption.isSome ↔ ∃ a, x = .ok a := by
  cases x <;> simp [Except.toOption]

/-- Steps that succeed or fail by themselves succeed together if each of them does. -/
theorem isSome_foldlM_iff {σ α : Type} {f : σ → α → Option σ} {list : List α}
    (h : ∀ a s t, (f s a).isSome → (f t a).isSome) (s : σ) :
    (list.foldlM f s).isSome ↔ ∀ a ∈ list, (f s a).isSome := by
  induction list generalizing s with
  | nil => simp
  | cons a rest ih =>
      rw [List.foldlM_cons, List.forall_mem_cons]
      cases hf : f s a with
      | none => simp
      | some s₁ =>
          change (rest.foldlM f s₁).isSome ↔ _
          rw [ih s₁]
          simp only [Option.isSome_some, true_and]
          exact forall₂_congr fun b _ => ⟨h b s₁ s, h b s s₁⟩

section Leaves

variable {origin : Origin} {d : Document}

theorem exists_text_iff : (∃ s, text origin d = .ok s) ↔ ∃ s, d = .string (some s) := by
  constructor
  · rintro ⟨s, hs⟩
    unfold text at hs
    split at hs
    · exact ⟨_, rfl⟩
    · exact absurd hs (mismatch_ne_ok _ _ s)
  · rintro ⟨s, rfl⟩
    exact ⟨s, rfl⟩

theorem exists_flag_iff : (∃ b, flag origin d = .ok b) ↔ ∃ b, d = .bool b := by
  constructor
  · rintro ⟨b, hb⟩
    unfold flag at hb
    split at hb
    · exact ⟨_, rfl⟩
    · exact absurd hb (mismatch_ne_ok _ _ b)
  · rintro ⟨b, rfl⟩
    exact ⟨b, rfl⟩

theorem exists_natural_iff {bound : Nat} {expected : String} :
    (∃ n, natural bound expected origin d = .ok n) ↔
      ∃ i : Int, d = .number (some (.integer i)) ∧ 0 ≤ i ∧ i < bound := by
  constructor
  · rintro ⟨n, hn⟩
    unfold natural at hn
    split at hn
    · next i =>
        split at hn
        · next hbound => exact ⟨i, rfl, hbound⟩
        · cases hn
    · exact absurd hn (mismatch_ne_ok _ _ n)
  · rintro ⟨i, rfl, hbound⟩
    exact ⟨i.toNat, if_pos hbound⟩

theorem exists_optional_iff {α : Type} {decode : Decoder α} :
    (∃ a, optional decode origin d = .ok a) ↔ d = .null ∨ ∃ a, decode origin d = .ok a := by
  cases d with
  | null => simp [optional]
  | _ =>
      simp only [optional, reduceCtorEq, false_or]
      exact exists_map_iff

end Leaves

namespace RecordField

variable {σ : Type}

@[simp] theorem name_optional {α : Type} (name : String) (decode : Decoder α) (set : α → σ → σ) :
    (optional name decode set).name = name := rfl

@[simp] theorem required_optional {α : Type} (name : String) (decode : Decoder α)
    (set : α → σ → σ) : (optional name decode set).required = false := rfl

@[simp] theorem name_mandatory {α : Type} (name : String) (decode : Decoder α)
    (set : α → σ → σ) : (mandatory name decode set).name = name := rfl

@[simp] theorem required_mandatory {α : Type} (name : String) (decode : Decoder α)
    (set : α → σ → σ) : (mandatory name decode set).required = true := rfl

/-- Whether the field can be decoded does not depend on what was decoded before. -/
def Steady (f : RecordField σ) : Prop :=
  ∀ origin d s t, (∃ s', f.read origin d s = .ok s') → ∃ t', f.read origin d t = .ok t'

theorem exists_read_optional_iff {α : Type} {name : String} {decode : Decoder α}
    {set : α → σ → σ} {origin : Origin} {d : Document} {s : σ} :
    (∃ s', (optional name decode set).read origin d s = .ok s') ↔
      ∃ a, decode origin d = .ok a :=
  exists_map_iff

theorem exists_of_read_mandatory {α : Type} {name : String} {decode : Decoder α}
    {set : α → σ → σ} {origin : Origin} {d : Document} {s s' : σ}
    (h : (mandatory name decode set).read origin d s = .ok s') :
    ∃ a, decode origin d = .ok a ∧ s' = set a s :=
  @exists_of_read_optional σ α name decode set origin d s s' h

theorem exists_read_mandatory_iff {α : Type} {name : String} {decode : Decoder α}
    {set : α → σ → σ} {origin : Origin} {d : Document} {s : σ} :
    (∃ s', (mandatory name decode set).read origin d s = .ok s') ↔
      ∃ a, decode origin d = .ok a :=
  exists_map_iff

theorem steady_mandatory {α : Type} (name : String) (decode : Decoder α) (set : α → σ → σ) :
    (mandatory name decode set).Steady := by
  intro origin d s t h
  exact exists_read_mandatory_iff.mpr (exists_read_mandatory_iff.mp h)

theorem steady_optional {α : Type} (name : String) (decode : Decoder α) (set : α → σ → σ) :
    (optional name decode set).Steady := by
  intro origin d s t h
  exact exists_read_optional_iff.mpr (exists_read_optional_iff.mp h)

end RecordField

namespace Record

variable {σ : Type} {r : Record σ} {origin : Origin} {members : Document.Members}

/-- What a member does to the record, if it can be decoded. -/
def readMember (r : Record σ) (origin : Origin) (s : σ) : Option String × Document → Option σ
  | (none, _) => none
  | (some name, d) =>
      match r.field? name with
      | some f => (f.read origin d s).toOption
      | none => (r.other name origin d s).toOption

/-- The fields that the members stand for. -/
def named (r : Record σ) (members : Document.Members) : List String :=
  (members.filterMap Prod.fst).filter fun name => (r.field? name).isSome

theorem readMembers_eq_ok_iff {seen seen' : List String} {s s' : σ} :
    r.readMembers origin seen s members = .ok (seen', s') ↔
      members.foldlM (r.readMember origin) s = some s' ∧ (r.named members).Nodup ∧
        (∀ name ∈ r.named members, name ∉ seen) ∧ seen' = (r.named members).reverse ++ seen := by
  induction members generalizing seen s with
  | nil => simp [readMembers, named, eq_comm, and_comm]
  | cons m rest ih =>
      obtain ⟨_ | name, d⟩ := m
      · simp [readMembers, readMember]
      · rw [readMembers, List.foldlM_cons]
        cases hf : r.field? name with
        | none =>
            have hnamed : r.named ((some name, d) :: rest) = r.named rest := by
              simp [named, hf]
            simp only [hnamed, readMember, hf]
            cases r.other name origin d s with
            | error fault => simp [bind, Except.bind, Except.toOption]
            | ok s₁ => exact ih
        | some f =>
            have hnamed : r.named ((some name, d) :: rest) = name :: r.named rest := by
              simp [named, hf]
            simp only [hnamed, readMember, hf]
            by_cases hseen : name ∈ seen
            · simp [hseen]
            · cases f.read origin d s with
              | error fault => simp [hseen, bind, Except.bind, Except.toOption]
              | ok s₁ =>
                  have hstep : (if seen.contains name then .error (.duplicateField name) else
                      Except.ok s₁ >>= fun s => r.readMembers origin (name :: seen) s rest) =
                        r.readMembers origin (name :: seen) s₁ rest := by
                    rw [List.contains_eq_mem, decide_eq_false hseen]
                    rfl
                  have hfresh : (∀ other ∈ r.named rest, other ∉ name :: seen) ↔
                      name ∉ r.named rest ∧ ∀ other ∈ r.named rest, other ∉ seen := by
                    grind
                  rw [hstep, ih, hfresh]
                  simp [Except.toOption, hseen, and_assoc, and_left_comm]

theorem missing?_eq_none_iff {seen : List String} :
    r.missing? seen = none ↔ ∀ f ∈ r.fields, f.required → f.name ∈ seen := by
  simp [missing?, List.find?_eq_none]

/-- A record is decoded if its fields occur at most once, the required ones do, and every member can
be decoded. -/
theorem ofMembers_eq_ok_iff {s : σ} : r.ofMembers origin members = .ok s ↔
    members.foldlM (r.readMember origin) r.start = some s ∧ (r.named members).Nodup ∧
      ∀ f ∈ r.fields, f.required → f.name ∈ r.named members := by
  have hmissing : r.missing? ((r.named members).reverse ++ []) = none ↔
      ∀ f ∈ r.fields, f.required → f.name ∈ r.named members := by
    simp [missing?_eq_none_iff]
  rw [← hmissing]
  constructor
  · intro h
    cases hread : r.readMembers origin [] r.start members with
    | error fault =>
        simp [ofMembers, hread, bind, Except.bind] at h
    | ok result =>
        obtain ⟨hfold, hnodup, -, hseen⟩ := readMembers_eq_ok_iff.mp hread
        simp only [ofMembers, hread, bind, Except.bind] at h
        split at h
        · cases h
        · next hnone =>
            cases h
            exact ⟨hfold, hnodup, hseen ▸ hnone⟩
  · rintro ⟨hfold, hnodup, hnone⟩
    have hread : r.readMembers origin [] r.start members =
        .ok ((r.named members).reverse ++ [], s) :=
      readMembers_eq_ok_iff.mpr ⟨hfold, hnodup, fun _ _ => List.not_mem_nil, rfl⟩
    simp only [ofMembers, hread, bind, Except.bind, hnone]

/-- Whether a member can be decoded does not depend on what was decoded before it. -/
structure Steady (r : Record σ) : Prop where
  fields : ∀ f ∈ r.fields, f.Steady
  other : ∀ name origin d s t, (∃ s', r.other name origin d s = .ok s') →
    ∃ t', r.other name origin d t = .ok t'

theorem Steady.readMember (h : r.Steady) {m : Option String × Document} {s : σ} (t : σ)
    (hread : (r.readMember origin s m).isSome) : (r.readMember origin t m).isSome := by
  obtain ⟨_ | name, d⟩ := m
  · cases hread
  · unfold Record.readMember at hread ⊢
    dsimp only at hread ⊢
    cases hf : r.field? name with
    | none =>
        rw [hf] at hread
        exact isSome_toOption_iff.mpr (h.other name origin d s t (isSome_toOption_iff.mp hread))
    | some f =>
        rw [hf] at hread
        have hfield := h.fields f (List.mem_of_find?_eq_some hf)
        exact isSome_toOption_iff.mpr (hfield origin d s t (isSome_toOption_iff.mp hread))

theorem Steady.exists_ofMembers_iff (h : r.Steady) :
    (∃ s, r.ofMembers origin members = .ok s) ↔
      (∀ m ∈ members, (r.readMember origin r.start m).isSome) ∧ (r.named members).Nodup ∧
        ∀ f ∈ r.fields, f.required → f.name ∈ r.named members := by
  have hfold : (members.foldlM (r.readMember origin) r.start).isSome ↔
      ∀ m ∈ members, (r.readMember origin r.start m).isSome :=
    isSome_foldlM_iff (fun m s t => h.readMember (m := m) (s := s) t) r.start
  simp only [ofMembers_eq_ok_iff, exists_and_right, ← Option.isSome_iff_exists, hfold]

theorem Steady.exists_read_of_mem (h : r.Steady) {s : σ}
    (hread : r.ofMembers origin members = .ok s) {f : RecordField σ} {name : String}
    (hf : r.field? name = some f) {d : Document} (hd : (some name, d) ∈ members) :
    ∃ s', f.read origin d r.start = .ok s' := by
  have hmember := (h.exists_ofMembers_iff.mp ⟨s, hread⟩).1 _ hd
  simpa only [Record.readMember, hf, isSome_toOption_iff] using hmember

theorem exists_mem_of_required {s : σ} (hread : r.ofMembers origin members = .ok s)
    {f : RecordField σ} (hf : f ∈ r.fields) (hrequired : f.required) :
    ∃ d, (some f.name, d) ∈ members := by
  have hnamed := (ofMembers_eq_ok_iff.mp hread).2.2 f hf hrequired
  obtain ⟨m, hm, hname⟩ := List.mem_filterMap.mp (List.mem_filter.mp hnamed).1
  exact ⟨m.2, hname ▸ hm⟩

/-- A field stands there once at most. -/
theorem eq_of_nodup_named (hn : (r.named members).Nodup) {name : String}
    (hf : (r.field? name).isSome) {d e : Document} (hd : (some name, d) ∈ members)
    (he : (some name, e) ∈ members) : d = e := by
  have hnamed {d : Document} {rest : Document.Members} (hd : (some name, d) ∈ rest) :
      name ∈ r.named rest :=
    List.mem_filter.mpr ⟨List.mem_filterMap.mpr ⟨_, hd, rfl⟩, hf⟩
  induction members with
  | nil => cases hd
  | cons m rest ih =>
      have hfirst (hm : m.1 = some name) : name ∉ r.named rest := by
        have hcons : r.named (m :: rest) = name :: r.named rest := by
          simp [named, List.filterMap_cons_some hm, hf]
        rw [hcons] at hn
        exact (List.nodup_cons.mp hn).1
      have hrest : (r.named rest).Nodup :=
        hn.sublist (((List.sublist_cons_self m rest).filterMap Prod.fst).filter _)
      rcases List.mem_cons.mp hd with hd | hdlater
      · rcases List.mem_cons.mp he with he | helater
        · exact (Prod.mk.inj (hd.trans he.symm)).2
        · exact absurd (hnamed helater) (hfirst (hd ▸ rfl))
      · rcases List.mem_cons.mp he with he | helater
        · exact absurd (hnamed hdlater) (hfirst (he ▸ rfl))
        · exact ih hrest hdlater helater

/-- A mandatory member stands there once, and what it is decoded as is the part of the record that
only its field sets. -/
theorem Steady.exists_of_mandatory (h : r.Steady) {α : Type} {key : String} {part : σ → α}
    {decode : Decoder α} {set : α → σ → σ} (honly : r.SetOnlyBy key part)
    (hf : r.field? key = some (.mandatory key decode set))
    (hset : ∀ a s, part (set a s) = a) {s : σ} (hread : r.ofMembers origin members = .ok s) :
    ∃ d, (∀ x, (some key, x) ∈ members ↔ x = d) ∧ decode origin d = .ok (part s) := by
  obtain ⟨d, hd⟩ := exists_mem_of_required hread (List.mem_of_find?_eq_some hf) rfl
  have hnodup := (ofMembers_eq_ok_iff.mp hread).2.1
  obtain ⟨a, ha⟩ := RecordField.exists_read_mandatory_iff.mp (h.exists_read_of_mem hread hf hd)
  obtain ⟨seen, hmembers⟩ := exists_readMembers hread
  have hpart : part s = a := by
    refine honly.eq_of_mem hf hd (fun s s' hs => ?_) hmembers
    obtain ⟨b, hb, rfl⟩ := RecordField.exists_of_read_mandatory hs
    rw [ha] at hb
    cases hb
    exact hset a s
  refine ⟨d, fun x => ⟨fun hx => ?_, fun hx => hx ▸ hd⟩, hpart ▸ ha⟩
  exact eq_of_nodup_named hnodup (hf ▸ rfl) hx hd

/-- An array is decoded if there are not too many items, each can be decoded as its field, and the
fields that are left are not required. -/
theorem exists_readItems_iff {fields : List (RecordField σ)} (h : ∀ f ∈ fields, f.Steady)
    {items : List Document} {length index : Nat} (s : σ) :
    (∃ s', r.readItems origin length index s fields items = .ok s') ↔
      items.length ≤ fields.length ∧
        (∀ p ∈ fields.zip items, ∃ s', p.1.read origin p.2 r.start = .ok s') ∧
          ∀ f ∈ fields.drop items.length, f.required = false := by
  induction fields generalizing items index s with
  | nil => cases items <;> simp [readItems]
  | cons f fields ih =>
      obtain ⟨hf, hfields⟩ := List.forall_mem_cons.mp h
      cases items with
      | nil =>
          rw [readItems]
          split
          · next hrequired => simp [hrequired]
          · next hrequired =>
              rw [ih hfields]
              simp [hrequired]
      | cons d items =>
          rw [readItems]
          cases hread : f.read origin d s with
          | error fault =>
              have hnot : ¬ ∃ s', f.read origin d r.start = .ok s' := by
                intro hstart
                obtain ⟨s', hs⟩ := hf origin d r.start s hstart
                rw [hread] at hs
                cases hs
              simp [bind, Except.bind, hnot]
          | ok s₁ =>
              have hstart := hf origin d s r.start ⟨s₁, hread⟩
              change (∃ s', r.readItems origin length (index + 1) s₁ fields items = .ok s') ↔ _
              rw [ih hfields]
              simp [hstart]

theorem readItems_required {fields : List (RecordField σ)} {f : RecordField σ}
    (hrequired : f.required) {items : List Document} {length index : Nat} {s s' : σ}
    (h : r.readItems origin length index s (f :: fields) items = .ok s') :
    ∃ d rest s₁, items = d :: rest ∧ f.read origin d s = .ok s₁ ∧
      r.readItems origin length (index + 1) s₁ fields rest = .ok s' := by
  cases items with
  | nil =>
      rw [readItems, if_pos hrequired] at h
      cases h
  | cons d rest =>
      obtain ⟨s₁, hs, hrest⟩ := bind_eq_ok_iff.mp h
      exact ⟨d, rest, s₁, rfl, hs, hrest⟩

theorem readItems_nil {items : List Document} {length index : Nat} {s s' : σ}
    (h : r.readItems origin length index s [] items = .ok s') : items = [] ∧ s' = s := by
  cases items with
  | nil =>
      cases h
      exact ⟨rfl, rfl⟩
  | cons d rest => cases h

theorem decodeOpened_eq_ok {d : Document} {s : σ} (h : r.decodeOpened origin d = .ok s) :
    ∃ members inner, d = .object members ∧ origin.enter = .ok inner ∧
      r.ofMembers inner members = .ok s := by
  cases d with
  | object members =>
      obtain ⟨inner, henter, hmembers⟩ := bind_eq_ok_iff.mp h
      exact ⟨members, inner, rfl, henter, hmembers⟩
  | array items =>
      obtain ⟨inner, -, hmismatch⟩ := bind_eq_ok_iff.mp h
      exact absurd hmismatch (mismatch_ne_ok _ _ s)
  | _ =>
      simp only [decodeOpened, mismatchOpened] at h
      exact absurd h (mismatch_ne_ok _ _ s)

end Record

end Retrace.Decoding
