import Retrace.Event.Decoding
import Retrace.Proofs.Decoding.Records
import Retrace.Proofs.Entries
import Retrace.Proofs.Json.Values

/-!
What a member of an object decides about the record that is decoded from it. A part of the record
that only one field sets is what that field's member says, since no field may stand there twice;
what every member keeps true of the record holds of it in the end.
-/

namespace Retrace

namespace Decoding

theorem mismatch_ne_ok {α : Type} (expected : String) (document : Document) (a : α) :
    mismatch expected document ≠ .ok a := by
  unfold mismatch
  split <;> exact nofun

theorem RecordField.exists_of_read_optional {σ α : Type} {name : String} {decode : Decoder α}
    {set : α → σ → σ} {origin : Origin} {document : Document} {s s' : σ}
    (h : (optional name decode set).read origin document s = .ok s') :
    ∃ a, decode origin document = .ok a ∧ s' = set a s := by
  cases hd : decode origin document with
  | error fault =>
      simp only [optional, hd] at h
      cases h
  | ok a =>
      simp only [optional, hd] at h
      cases h
      exact ⟨a, rfl, rfl⟩

namespace Record

variable {σ β : Type} {r : Record σ} {origin : Origin} {key : String} {part : σ → β}

theorem name_of_field? {f : RecordField σ} (h : r.field? key = some f) : f.name = key := by
  have hname := List.find?_some h
  exact beq_iff_eq.mp hname

theorem field?_eq_none_iff : r.field? key = none ↔ key ∉ r.fields.map RecordField.name := by
  simp [field?]

/-- What the reading of a further member comes to, if it succeeds. -/
theorem readMembers_cons {m : Option String × Document} {rest : Document.Members}
    {seen : List String} {s : σ} {result : List String × σ}
    (h : r.readMembers origin seen s (m :: rest) = .ok result) :
    ∃ name, m.1 = some name ∧
      ((∃ s', r.other name origin m.2 s = .ok s' ∧
          r.readMembers origin seen s' rest = .ok result ∧ r.field? name = none) ∨
        ∃ f s', f.read origin m.2 s = .ok s' ∧
          r.readMembers origin (name :: seen) s' rest = .ok result ∧
            r.field? name = some f ∧ name ∉ seen) := by
  obtain ⟨name, d⟩ := m
  cases name with
  | none => cases h
  | some name =>
      refine ⟨name, rfl, ?_⟩
      rw [readMembers] at h
      cases hf : r.field? name with
      | none =>
          left
          simp only [hf] at h
          cases ho : r.other name origin d s with
          | error fault =>
              rw [ho] at h
              cases h
          | ok s' =>
              rw [ho] at h
              exact ⟨s', rfl, h, rfl⟩
      | some f =>
          right
          simp only [hf] at h
          split at h
          · cases h
          · next hfresh =>
              cases hr : f.read origin d s with
              | error fault =>
                  rw [hr] at h
                  cases h
              | ok s' =>
                  rw [hr] at h
                  have hnew : name ∉ seen := fun hmem => hfresh (List.contains_iff_mem.mpr hmem)
                  exact ⟨f, s', hr, h, rfl, hnew⟩

theorem decodeObject_eq_ok {d : Document} {s : σ} (h : r.decodeObject origin d = .ok s) :
    ∃ members inner, d = .object members ∧ origin.enter = .ok inner ∧
      r.ofMembers inner members = .ok s := by
  unfold decodeObject at h
  split at h
  · next members =>
      cases henter : origin.enter with
      | error fault =>
          rw [henter] at h
          cases h
      | ok inner =>
          rw [henter] at h
          exact ⟨members, inner, rfl, rfl, h⟩
  · exact absurd h (mismatch_ne_ok _ _ s)

theorem decode_eq_ok {d : Document} {s : σ} (h : r.decode origin d = .ok s) :
    (∃ members inner, d = .object members ∧ origin.enter = .ok inner ∧
      r.ofMembers inner members = .ok s) ∨
    ∃ items inner, d = .array items ∧ origin.enter = .ok inner ∧
      r.ofItems inner items = .ok s := by
  unfold decode at h
  split at h
  · next members => exact .inl (decodeObject_eq_ok h)
  · next items =>
      cases henter : origin.enter with
      | error fault =>
          rw [henter] at h
          cases h
      | ok inner =>
          rw [henter] at h
          exact .inr ⟨items, inner, rfl, rfl, h⟩
  · exact absurd h (mismatch_ne_ok _ _ s)

theorem exists_readMembers {members : Document.Members} {s : σ}
    (h : r.ofMembers origin members = .ok s) :
    ∃ seen, r.readMembers origin [] r.start members = .ok (seen, s) := by
  rw [ofMembers] at h
  cases hread : r.readMembers origin [] r.start members with
  | error fault =>
      rw [hread] at h
      cases h
  | ok result =>
      obtain ⟨seen, read⟩ := result
      simp only [hread, bind, Except.bind] at h
      split at h
      · cases h
      · cases h
        exact ⟨seen, rfl⟩

/-- What each further member keeps true of the record holds after all of them. -/
theorem readMembers_induct {motive : Document.Members → σ → Prop}
    (field : ∀ front name f d s s', r.field? name = some f → f.read origin d s = .ok s' →
      motive front s → motive (front ++ [(some name, d)]) s')
    (other : ∀ front name d s s', r.field? name = none → r.other name origin d s = .ok s' →
      motive front s → motive (front ++ [(some name, d)]) s')
    {members front : Document.Members} {seen : List String} {s : σ} {result : List String × σ}
    (hread : r.readMembers origin seen s members = .ok result) (h : motive front s) :
    motive (front ++ members) result.2 := by
  induction members generalizing front seen s with
  | nil =>
      cases hread
      rw [List.append_nil]
      exact h
  | cons m rest ih =>
      obtain ⟨name, hname, hnext⟩ := readMembers_cons hread
      obtain ⟨key, d⟩ := m
      cases hname
      have hassoc : front ++ (some name, d) :: rest = front ++ [(some name, d)] ++ rest := by simp
      rw [hassoc]
      obtain ⟨s₁, hs, hrest, hnone⟩ | ⟨f, s₁, hs, hrest, hf, -⟩ := hnext
      · exact ih hrest (other front name d s s₁ hnone hs h)
      · exact ih hrest (field front name f d s s₁ hf hs h)

/-- As `readMembers_induct`, for what does not depend on the members read so far. -/
theorem readMembers_invariant {motive : σ → Prop} {members : Document.Members}
    (field : ∀ name d, (some name, d) ∈ members → ∀ f ∈ r.fields, ∀ s s',
      f.read origin d s = .ok s' → motive s → motive s')
    (other : ∀ name d, (some name, d) ∈ members → ∀ s s',
      r.other name origin d s = .ok s' → motive s → motive s')
    {seen : List String} {s : σ} {result : List String × σ}
    (hread : r.readMembers origin seen s members = .ok result) (h : motive s) :
    motive result.2 := by
  have hstart : ([] : Document.Members) ⊆ members → motive s := fun _ => h
  refine readMembers_induct (motive := fun front s => front ⊆ members → motive s) ?_ ?_ hread
    hstart (List.Subset.refl members)
  · intro front name f d s s' hf hs hfront hsub
    have hmem : (some name, d) ∈ members := hsub (List.mem_append_right _ List.mem_cons_self)
    exact field name d hmem f (List.mem_of_find?_eq_some hf) s s' hs
      (hfront (List.append_subset.mp hsub).1)
  · intro front name d s s' _ hs hfront hsub
    have hmem : (some name, d) ∈ members := hsub (List.mem_append_right _ List.mem_cons_self)
    exact other name d hmem s s' hs (hfront (List.append_subset.mp hsub).1)

theorem readItems_induct {motive : σ → Prop} {fields : List (RecordField σ)}
    {items : List Document}
    (field : ∀ f ∈ fields, ∀ d ∈ items, ∀ s s', f.read origin d s = .ok s' → motive s →
      motive s')
    {length index : Nat} {s s' : σ}
    (hread : r.readItems origin length index s fields items = .ok s') (h : motive s) :
    motive s' := by
  induction fields generalizing items index s with
  | nil =>
      cases items with
      | nil =>
          cases hread
          exact h
      | cons d items => cases hread
  | cons f fields ih =>
      cases items with
      | nil =>
          rw [readItems] at hread
          split at hread
          · cases hread
          · exact ih (fun _ _ _ hd => absurd hd List.not_mem_nil) hread h
      | cons d items =>
          rw [readItems] at hread
          cases hs : f.read origin d s with
          | error fault =>
              rw [hs] at hread
              cases hread
          | ok s₁ =>
              rw [hs] at hread
              have hfirst := field f List.mem_cons_self d List.mem_cons_self s s₁ hs h
              exact ih (fun g hg c hc => field g (List.mem_cons_of_mem _ hg) c
                (List.mem_cons_of_mem _ hc)) hread hfirst

/-- A member that is left out when it says nothing, in front of the others. -/
theorem readMembers_given {α : Type} {decode : Decoder α} {set : Option α → σ → σ}
    (hf : r.field? key = some (.optional key (optional decode) set)) {seen : List String}
    (hfresh : key ∉ seen) {s : σ} (hset : set none s = s) {write : α → Json} {given : Option α}
    (hwritten : ∀ a, given = some a →
      optional decode origin (Document.ofJson (write a)) = .ok (some a)) (rest : Json.Members) :
    r.readMembers origin seen s
        (Document.ofMembers (((given.map write).map fun v => (key, v)).toList ++ rest)) =
      r.readMembers origin ((given.map fun _ => key).toList ++ seen) (set given s)
        (Document.ofMembers rest) := by
  cases given with
  | none =>
      rw [hset]
      rfl
  | some a =>
      have hread := RecordField.read_optional (hwritten a rfl) key set s
      exact readMembers_field hf hfresh hread _

theorem ofMembers_of_readMembers (hoptional : ∀ f ∈ r.fields, f.required = false)
    {members : Document.Members} {seen : List String} {s : σ}
    (h : r.readMembers origin [] r.start members = .ok (seen, s)) :
    r.ofMembers origin members = .ok s := by
  have hmissing : r.missing? seen = none := by
    refine List.find?_eq_none.mpr fun f hf => ?_
    simp [hoptional f hf]
  simp [ofMembers, h, hmissing, bind, Except.bind]

/-- Only the field of the given name sets the given part of the record. -/
structure SetOnlyBy (r : Record σ) (key : String) (part : σ → β) : Prop where
  fields : ∀ f ∈ r.fields, f.name ≠ key → ∀ origin document s s',
    f.read origin document s = .ok s' → part s' = part s
  other : ∀ name origin document s s',
    r.other name origin document s = .ok s' → part s' = part s

/-- Once its field was met the part stays as it is. -/
theorem SetOnlyBy.eq_of_seen (h : r.SetOnlyBy key part) {members : Document.Members}
    {seen seen' : List String} {s s' : σ} (hseen : key ∈ seen)
    (hread : r.readMembers origin seen s members = .ok (seen', s')) : part s' = part s := by
  induction members generalizing seen s with
  | nil =>
      cases hread
      rfl
  | cons m rest ih =>
      obtain ⟨name, -, hother | hfield⟩ := readMembers_cons hread
      · obtain ⟨s₁, hs, hrest, -⟩ := hother
        exact (ih hseen hrest).trans (h.other _ _ _ _ _ hs)
      · obtain ⟨f, s₁, hs, hrest, hf, hfresh⟩ := hfield
        have hne : f.name ≠ key := by
          rw [name_of_field? hf]
          rintro rfl
          exact hfresh hseen
        have hfirst := h.fields f (List.mem_of_find?_eq_some hf) hne _ _ _ _ hs
        exact (ih (List.mem_cons_of_mem _ hseen) hrest).trans hfirst

/-- The part is what the member of its field makes it. -/
theorem SetOnlyBy.eq_of_mem (h : r.SetOnlyBy key part) {f : RecordField σ}
    (hf : r.field? key = some f) {members : Document.Members} {d : Document}
    (hd : (some key, d) ∈ members) {b : β}
    (hset : ∀ s s', f.read origin d s = .ok s' → part s' = b)
    {seen seen' : List String} {s s' : σ}
    (hread : r.readMembers origin seen s members = .ok (seen', s')) : part s' = b := by
  induction members generalizing seen s with
  | nil => cases hd
  | cons m rest ih =>
      obtain ⟨name, hname, hnext⟩ := readMembers_cons hread
      rcases List.mem_cons.mp hd with rfl | hlater
      · cases hname
        obtain ⟨s₁, -, -, hnone⟩ | ⟨g, s₁, hs, hrest, hg, -⟩ := hnext
        · rw [hf] at hnone
          cases hnone
        · rw [hf] at hg
          cases hg
          exact (h.eq_of_seen List.mem_cons_self hrest).trans (hset s s₁ hs)
      · obtain ⟨s₁, -, hrest, -⟩ | ⟨g, s₁, -, hrest, -, -⟩ := hnext
        · exact ih hlater hrest
        · exact ih hlater hrest

/-- Without a member of its field the part stays as it was. -/
theorem SetOnlyBy.eq_of_notMem (h : r.SetOnlyBy key part) {members : Document.Members}
    (habsent : ∀ d, (some key, d) ∉ members) {seen seen' : List String} {s s' : σ}
    (hread : r.readMembers origin seen s members = .ok (seen', s')) : part s' = part s := by
  induction members generalizing seen s with
  | nil =>
      cases hread
      rfl
  | cons m rest ih =>
      obtain ⟨name, d⟩ := m
      obtain ⟨name, hname, hother | hfield⟩ := readMembers_cons hread
      · obtain ⟨s₁, hs, hrest, -⟩ := hother
        have hlater := ih (fun d hd => habsent d (List.mem_cons_of_mem _ hd)) hrest
        exact hlater.trans (h.other _ _ _ _ _ hs)
      · obtain ⟨f, s₁, hs, hrest, hf, -⟩ := hfield
        have hne : f.name ≠ key := by
          rw [name_of_field? hf]
          rintro rfl
          exact habsent d (hname ▸ List.mem_cons_self)
        have hlater := ih (fun d hd => habsent d (List.mem_cons_of_mem _ hd)) hrest
        exact hlater.trans (h.fields f (List.mem_of_find?_eq_some hf) hne _ _ _ _ hs)

theorem SetOnlyBy.eq_of_lookup (h : r.SetOnlyBy key part) {f : RecordField σ}
    (hf : r.field? key = some f) {members : Json.Members} {v : Json}
    (hv : members.lookup key = some v) {b : β}
    (hset : ∀ s s', f.read origin (Document.ofJson v) s = .ok s' → part s' = b)
    {seen seen' : List String} {s s' : σ}
    (hread : r.readMembers origin seen s (Document.ofMembers members) = .ok (seen', s')) :
    part s' = b := by
  have hmem : (some key, Document.ofJson v) ∈ Document.ofMembers members := by
    rw [Document.ofMembers_eq_map]
    exact List.mem_map.mpr ⟨_, Entries.mem_of_lookup hv, rfl⟩
  exact h.eq_of_mem hf hmem hset hread

theorem SetOnlyBy.eq_of_lookup_eq_none (h : r.SetOnlyBy key part) {members : Json.Members}
    (hnone : members.lookup key = none) {seen seen' : List String} {s s' : σ}
    (hread : r.readMembers origin seen s (Document.ofMembers members) = .ok (seen', s')) :
    part s' = part s := by
  refine h.eq_of_notMem (fun d hd => ?_) hread
  rw [Document.ofMembers_eq_map] at hd
  obtain ⟨m, hm, hkey⟩ := List.mem_map.mp hd
  have hne := List.lookup_eq_none_iff.mp hnone m hm
  have hname : m.1 = key := Option.some.inj (Prod.mk.inj hkey).1
  simp [hname] at hne

end Record

end Decoding

namespace Event

open Decoding

theorem of_other {name : String} {origin : Origin} {d : Document} {s s' : Event}
    (h : record.other name origin d s = .ok s') :
    ∃ v, json origin d = .ok v ∧ s' = { s with extra := Entries.set name v s.extra } := by
  change (json origin d).map _ = .ok s' at h
  cases hj : json origin d with
  | error fault =>
      rw [hj] at h
      cases h
  | ok v =>
      rw [hj] at h
      cases h
      exact ⟨v, rfl, rfl⟩

/-- A part of an event that the fields of other names do not touch. -/
theorem setOnlyBy_of_keeps {β : Type} {key : String} {part : Event → β}
    (kind : "type" ≠ key → ∀ e v, part { e with kind := v } = part e)
    (target : "eventTarget" ≠ key → ∀ e v, part { e with target := v } = part e)
    (payload : "allEvents" ≠ key → ∀ e v, part { e with payload := v } = part e)
    (taskId : "taskId" ≠ key → ∀ e v, part { e with taskId := v } = part e)
    (description : "taskDescription" ≠ key → ∀ e v, part { e with description := v } = part e)
    (extra : ∀ e v, part { e with extra := v } = part e) : record.SetOnlyBy key part := by
  constructor
  case fields =>
    intro f hf hne origin document s s' hread
    simp only [record, List.mem_cons, List.not_mem_nil, or_false] at hf
    rcases hf with rfl | rfl | rfl | rfl | rfl <;>
      obtain ⟨a, -, rfl⟩ := RecordField.exists_of_read_optional hread
    · exact kind hne s _
    · exact target hne s _
    · exact payload hne s _
    · exact taskId hne s _
    · exact description hne s _
  case other =>
    intro name origin document s s' hread
    obtain ⟨v, -, rfl⟩ := of_other hread
    exact extra s _

theorem setOnlyBy_taskId : record.SetOnlyBy "taskId" Event.taskId :=
  setOnlyBy_of_keeps (fun _ _ _ => rfl) (fun _ _ _ => rfl) (fun _ _ _ => rfl)
    (fun hne => absurd rfl hne) (fun _ _ _ => rfl) fun _ _ => rfl

/-- An event belongs to the task that its value names. -/
theorem taskId_of_ofJson {v : Json} {e : Event} {id : String} (h : ofJson v = .ok e)
    (hid : v.get? "taskId" = some (.string id)) : e.taskId = some id := by
  cases v with
  | object members =>
      have hset : ∀ s s', (RecordField.optional "taskId" (optional anyText)
          fun v e => { e with taskId := v }).read .value (Document.ofJson (.string id)) s =
            .ok s' → Event.taskId s' = some id := by
        intro s s' hread
        obtain ⟨a, ha, rfl⟩ := RecordField.exists_of_read_optional hread
        cases ha
        rfl
      have hfields : (record.fields.map RecordField.name).Nodup := by
        decide
      have hmem : RecordField.optional "taskId" (optional anyText)
          (fun v e => { e with taskId := v }) ∈ record.fields := by
        simp [record]
      change record.ofMembers .value (Document.ofMembers members) = .ok e at h
      obtain ⟨seen, hread⟩ := Record.exists_readMembers h
      exact setOnlyBy_taskId.eq_of_lookup (Record.field?_of_mem hfields hmem) hid hset hread
  | _ => cases hid

end Event

end Retrace
