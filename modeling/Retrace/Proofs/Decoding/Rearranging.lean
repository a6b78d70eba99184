import Mathlib.Data.List.Pairwise
import Mathlib.Data.List.Perm.Basic
import Retrace.Proofs.Decoding.Outcomes
import Retrace.Proofs.Json.Soundness

/-!
The order of the members of an object, and the members that no field reads, do not matter for the
record that is decoded from it: the fields set different parts of the record, and what is read by no
field is skipped. This holds as long as the skipped members are JSON at all.
-/

namespace Retrace

namespace Document

/-- The members that have one of the names. -/
def membersCalled (names : List String) (members : Members) : Members :=
  members.filter fun m => m.1.any names.contains

/-- Two members of one name, `kept` saying what may have become of the value. -/
def SameMember (kept : String → Document → Document → Prop) (m n : Option String × Document) :
    Prop :=
  ∃ name, m.1 = some name ∧ n.1 = some name ∧ kept name m.2 n.2

/-- The known members in any order, `kept` saying what may have become of the value of each. Nothing
is said of the others: there may be more of them, or fewer, anywhere. -/
def Reordered (known : List String) (kept : String → Document → Document → Prop)
    (members others : Members) : Prop :=
  ∃ moved, (membersCalled known members).Perm moved ∧
    List.Forall₂ (SameMember kept) moved (membersCalled known others)

section Orders

variable {known : List String} {kept : String → Document → Document → Prop}
  {members others : Members}

/-- However the known members are arranged, the others can be arranged alike. -/
theorem Reordered.exists_right (h : Reordered known kept members others) {arranged : Members}
    (hperm : (membersCalled known members).Perm arranged) :
    ∃ alike, (membersCalled known others).Perm alike ∧
      List.Forall₂ (SameMember kept) arranged alike := by
  obtain ⟨moved, hmoved, hkept⟩ := h
  obtain ⟨alike, hsame, halike⟩ := List.perm_comp_forall₂ (hperm.symm.trans hmoved) hkept
  exact ⟨alike, halike.symm, hsame⟩

theorem Reordered.exists_left (h : Reordered known kept members others) {arranged : Members}
    (hperm : (membersCalled known others).Perm arranged) :
    ∃ alike, (membersCalled known members).Perm alike ∧
      List.Forall₂ (SameMember fun name d e => kept name e d) arranged alike := by
  obtain ⟨moved, hmoved, hkept⟩ := h
  obtain ⟨alike, hsame, halike⟩ := List.perm_comp_forall₂ hperm.symm hkept.flip
  refine ⟨alike, hmoved.trans halike.symm, hsame.imp fun m n hmn => ?_⟩
  obtain ⟨name, hm, hn, hvalue⟩ := hmn
  exact ⟨name, hn, hm, hvalue⟩

end Orders

theorem mem_membersCalled_iff {names : List String} {members : Members} {name : String}
    {d : Document} :
    (some name, d) ∈ membersCalled names members ↔ (some name, d) ∈ members ∧ name ∈ names := by
  simp [membersCalled]

theorem membersCalled_cons_of_mem {names : List String} {name : String} (h : name ∈ names)
    (d : Document) (members : Members) :
    membersCalled names ((some name, d) :: members) =
      (some name, d) :: membersCalled names members :=
  List.filter_cons_of_pos (by simpa using h)

theorem membersCalled_cons_of_notMem {names : List String} {name : String} (h : name ∉ names)
    (d : Document) (members : Members) :
    membersCalled names ((some name, d) :: members) = membersCalled names members :=
  List.filter_cons_of_neg (by simpa using h)

end Document

open Document

namespace Decoding

/-- The document can be decoded as a value of no particular kind. -/
def Legible (origin : Origin) (d : Document) : Prop := ∃ v, json origin d = .ok v

section Legibility

variable {origin : Origin}

theorem legible_of_jsonItems {items : List Document} {values : List Json}
    (h : jsonItems origin items = .ok values) : ∀ d ∈ items, Legible origin d := by
  induction items generalizing values with
  | nil => exact nofun
  | cons d rest ih =>
      rw [jsonItems] at h
      cases hd : json origin d with
      | error fault => simp [hd, bind, Except.bind] at h
      | ok v =>
          cases hrest : jsonItems origin rest with
          | error fault => simp [hd, hrest, bind, Except.bind] at h
          | ok others => exact List.forall_mem_cons.mpr ⟨⟨v, hd⟩, ih hrest⟩

theorem legible_of_jsonMembers {done values : Json.Members} {members : Members}
    (h : jsonMembers origin done members = .ok values) :
    ∀ m ∈ members, m.1.isSome ∧ Legible origin m.2 := by
  induction members generalizing done with
  | nil => exact nofun
  | cons m rest ih =>
      obtain ⟨key, v, hkey, hv, hrest⟩ := jsonMembers_cons h
      exact List.forall_mem_cons.mpr ⟨⟨hkey ▸ rfl, v, hv⟩, ih hrest⟩

theorem Legible.items {items : List Document} (h : Legible origin (.array items)) :
    ∃ inner, origin.enter = .ok inner ∧ ∀ d ∈ items, Legible inner d := by
  obtain ⟨v, hv⟩ := h
  obtain ⟨inner, values, henter, hitems, -⟩ := json_array_eq_ok hv
  exact ⟨inner, henter, legible_of_jsonItems hitems⟩

theorem Legible.members {members : Members} (h : Legible origin (.object members)) :
    ∃ inner, origin.enter = .ok inner ∧ ∀ m ∈ members, m.1.isSome ∧ Legible inner m.2 := by
  obtain ⟨v, hv⟩ := h
  obtain ⟨inner, values, henter, hmembers, -⟩ := json_object_eq_ok hv
  exact ⟨inner, henter, legible_of_jsonMembers hmembers⟩

theorem Legible.items_of_enter {items : List Document} {inner : Origin}
    (h : Legible origin (.array items)) (henter : origin.enter = .ok inner) :
    ∀ d ∈ items, Legible inner d := by
  obtain ⟨_, henter', hitems⟩ := h.items
  cases henter.symm.trans henter'
  exact hitems

theorem Legible.members_of_enter {members : Members} {inner : Origin}
    (h : Legible origin (.object members)) (henter : origin.enter = .ok inner) :
    ∀ m ∈ members, m.1.isSome ∧ Legible inner m.2 := by
  obtain ⟨_, henter', hmembers⟩ := h.members
  cases henter.symm.trans henter'
  exact hmembers

end Legibility

/-- Partial steps that commute may be taken in any order. -/
theorem foldlM_perm {σ α : Type} {f : σ → α → Option σ} {list moved : List α}
    (h : list.Perm moved)
    (hcomm : list.Pairwise fun a b => ∀ s, (f s a).bind (f · b) = (f s b).bind (f · a)) (s : σ) :
    list.foldlM f s = moved.foldlM f s := by
  induction h generalizing s with
  | nil => rfl
  | cons a hperm ih =>
      rw [List.foldlM_cons, List.foldlM_cons]
      congr 1
      funext s
      exact ih (List.pairwise_cons.mp hcomm).2 s
  | swap a b list =>
      have hab := (List.pairwise_cons.mp hcomm).1 a List.mem_cons_self s
      have hswap := congrArg (fun reached : Option σ => reached.bind (list.foldlM f)) hab
      simpa only [List.foldlM_cons, Option.bind_eq_bind, Option.bind_assoc] using hswap
  | trans hfirst hsecond ih₁ ih₂ =>
      rw [ih₁ hcomm s]
      exact ih₂ (hcomm.perm hfirst fun hab s => (hab s).symm) s

theorem foldlM_congr {σ α : Type} {f : σ → α → Option σ} {R : α → α → Prop} {xs ys : List α}
    (h : List.Forall₂ R xs ys) (hstep : ∀ a ∈ xs, ∀ b ∈ ys, R a b → ∀ s, f s a = f s b) (s : σ) :
    xs.foldlM f s = ys.foldlM f s := by
  induction h generalizing s with
  | nil => rfl
  | @cons a b xs ys hab _ ih =>
      rw [List.foldlM_cons, List.foldlM_cons, hstep a List.mem_cons_self b List.mem_cons_self hab]
      congr 1
      funext s
      exact ih (fun a ha b hb => hstep a (List.mem_cons_of_mem _ ha) b
        (List.mem_cons_of_mem _ hb)) s

namespace RecordField

variable {σ : Type}

/-- It does not matter which of the two fields is read first. -/
def Commute (f g : RecordField σ) : Prop :=
  ∀ origin d e s, ((f.read origin d s).toOption.bind fun t => (g.read origin e t).toOption) =
    (g.read origin e s).toOption.bind fun t => (f.read origin d t).toOption

/-- All that the field does is to set what it decoded. -/
def Sets {α : Type} (f : RecordField σ) (decode : Decoder α) (set : α → σ → σ) : Prop :=
  ∀ origin d s, f.read origin d s = (decode origin d).map fun a => set a s

theorem sets_mandatory {α : Type} (name : String) (decode : Decoder α) (set : α → σ → σ) :
    (mandatory name decode set).Sets decode set := fun _ _ _ => rfl

theorem sets_optional {α : Type} (name : String) (decode : Decoder α) (set : α → σ → σ) :
    (optional name decode set).Sets decode set := fun _ _ _ => rfl

theorem Sets.commute {α β : Type} {f g : RecordField σ} {decodeF : Decoder α}
    {decodeG : Decoder β} {setF : α → σ → σ} {setG : β → σ → σ} (hf : f.Sets decodeF setF)
    (hg : g.Sets decodeG setG) (hset : ∀ a b s, setG b (setF a s) = setF a (setG b s)) :
    f.Commute g := by
  intro origin d e s
  simp only [hf origin, hg origin, toOption_map]
  cases (decodeF origin d).toOption <;> cases (decodeG origin e).toOption <;> simp [hset]

theorem commute_mandatory {α β : Type} {name other : String} {decodeF : Decoder α}
    {decodeG : Decoder β} {setF : α → σ → σ} {setG : β → σ → σ}
    (hset : ∀ a b s, setG b (setF a s) = setF a (setG b s)) :
    (mandatory name decodeF setF).Commute (mandatory other decodeG setG) :=
  (sets_mandatory name decodeF setF).commute (sets_mandatory other decodeG setG) hset

instance : Std.Symm (Commute (σ := σ)) where
  symm _ _ h origin d e s := (h origin e d s).symm

end RecordField

namespace Record

variable {σ : Type} {r : Record σ} {origin : Origin} {members others : Members}
  {kept : String → Document → Document → Prop}

/-- The fields are read in any order to the same effect, and nothing else is read. -/
structure Commuting (r : Record σ) : Prop where
  fields : r.fields.Pairwise RecordField.Commute
  skips : ∀ name origin d s, r.other name origin d s = .ok s

/-- A member that no field reads is skipped. -/
theorem Commuting.readMember_eq_self (h : r.Commuting) {name : String}
    (hf : r.field? name = none) (d : Document) (s : σ) :
    r.readMember origin s (some name, d) = some s := by
  simp [readMember, hf, h.skips, Except.toOption]

theorem named_eq_filterMap : r.named members =
    (membersCalled (r.fields.map RecordField.name) members).filterMap Prod.fst := by
  rw [named, membersCalled, List.filterMap_filter, List.filter_filterMap]
  refine List.filterMap_congr fun m _ => ?_
  obtain ⟨_ | name, d⟩ := m
  · rfl
  · by_cases hname : name ∈ r.fields.map RecordField.name
    · have hf : (r.field? name).isSome := by
        rw [Option.isSome_iff_ne_none, ne_eq, field?_eq_none_iff, not_not]
        exact hname
      simp [hf, hname]
    · simp [hname, field?_eq_none_iff.mpr hname]

theorem Commuting.foldlM_membersCalled (h : r.Commuting) (hkeys : ∀ m ∈ members, m.1.isSome)
    (s : σ) : (membersCalled (r.fields.map RecordField.name) members).foldlM
      (r.readMember origin) s = members.foldlM (r.readMember origin) s := by
  induction members generalizing s with
  | nil => rfl
  | cons m rest ih =>
      obtain ⟨hm, hrest⟩ := List.forall_mem_cons.mp hkeys
      obtain ⟨_ | name, d⟩ := m
      · cases hm
      · by_cases hname : name ∈ r.fields.map RecordField.name
        · rw [membersCalled_cons_of_mem hname, List.foldlM_cons, List.foldlM_cons]
          congr 1
          funext s
          exact ih hrest s
        · rw [membersCalled_cons_of_notMem hname, List.foldlM_cons,
            h.readMember_eq_self (field?_eq_none_iff.mpr hname)]
          exact ih hrest s

/-- Members of different names may change places. -/
theorem Commuting.readMember (h : r.Commuting) {m n : Option String × Document}
    (hne : ∀ a, m.1 = some a → ∀ b, n.1 = some b → a ≠ b) (s : σ) :
    ((r.readMember origin s m).bind fun t => r.readMember origin t n) =
      (r.readMember origin s n).bind fun t => r.readMember origin t m := by
  obtain ⟨_ | a, d⟩ := m
  · simp [Record.readMember]
  obtain ⟨_ | b, e⟩ := n
  · simp [Record.readMember]
  have hab : a ≠ b := hne a rfl b rfl
  cases hf : r.field? a with
  | none => simp [h.readMember_eq_self hf]
  | some f =>
      cases hg : r.field? b with
      | none => simp [h.readMember_eq_self hg]
      | some g =>
          have hfg : f ≠ g := by
            rintro rfl
            exact hab ((name_of_field? hf).symm.trans (name_of_field? hg))
          have hcomm : f.Commute g := h.fields.forall
            (List.mem_of_find?_eq_some hf) (List.mem_of_find?_eq_some hg) hfg
          simpa only [Record.readMember, hf, hg] using hcomm origin d e s

/-- The fields that the members stand for are those of the rearranged members. -/
theorem named_perm (h : Reordered (r.fields.map RecordField.name) kept members others) :
    (r.named members).Perm (r.named others) := by
  obtain ⟨moved, hperm, hkept⟩ := h
  have hsame : List.Forall₂ (fun m n => m.1 = n.1) moved
      (membersCalled (r.fields.map RecordField.name) others) :=
    hkept.imp fun m n ⟨name, hm, hn, _⟩ => hm.trans hn.symm
  have hkeys : moved.map Prod.fst =
      (membersCalled (r.fields.map RecordField.name) others).map Prod.fst := by
    rwa [← List.forall₂_eq_eq_eq, List.forall₂_map_left_iff, List.forall₂_map_right_iff]
  rw [named_eq_filterMap, named_eq_filterMap]
  refine (hperm.filterMap _).trans (List.Perm.of_eq ?_)
  have hid (ms : Members) : ms.filterMap Prod.fst = (ms.map Prod.fst).filterMap id := by
    simp [List.filterMap_map]
  rw [hid, hkeys, ← hid]

/-- The effect of the members is that of the rearranged members. -/
theorem Commuting.foldlM_eq (h : r.Commuting)
    (hread : ∀ f ∈ r.fields, ∀ d e, kept f.name d e → Legible origin d → Legible origin e → ∀ s,
      (f.read origin d s).toOption = (f.read origin e s).toOption)
    (hmembers : ∀ m ∈ members, m.1.isSome ∧ Legible origin m.2)
    (hothers : ∀ m ∈ others, m.1.isSome ∧ Legible origin m.2)
    (hreordered : Reordered (r.fields.map RecordField.name) kept members others)
    (hnodup : (r.named members).Nodup) :
    members.foldlM (r.readMember origin) r.start =
      others.foldlM (r.readMember origin) r.start := by
  obtain ⟨moved, hperm, hkept⟩ := hreordered
  have hdistinct : (membersCalled (r.fields.map RecordField.name) members).Pairwise fun m n =>
      ∀ a, m.1 = some a → ∀ b, n.1 = some b → a ≠ b := by
    rw [named_eq_filterMap] at hnodup
    exact List.pairwise_filterMap.mp hnodup
  rw [← h.foldlM_membersCalled (fun m hm => (hmembers m hm).1),
    ← h.foldlM_membersCalled (fun m hm => (hothers m hm).1),
    foldlM_perm hperm (hdistinct.imp fun hne => h.readMember hne)]
  refine foldlM_congr hkept (fun m hm n hn hmn s => ?_) r.start
  obtain ⟨name, hname, hname', hvalue⟩ := hmn
  have hlegible := (hmembers m (List.mem_filter.mp (hperm.mem_iff.mpr hm)).1).2
  have hlegible' := (hothers n (List.mem_filter.mp hn).1).2
  obtain ⟨_, d⟩ := m
  obtain ⟨_, e⟩ := n
  cases hname
  cases hname'
  cases hf : r.field? name with
  | none => rw [h.readMember_eq_self hf, h.readMember_eq_self hf]
  | some f =>
      have hvalue : kept f.name d e := name_of_field? hf ▸ hvalue
      simpa only [Record.readMember, hf] using
        hread f (List.mem_of_find?_eq_some hf) d e hvalue hlegible hlegible' s

/-- The rearranged members are decoded as the members are, or neither can be decoded. -/
theorem Commuting.toOption_ofMembers (h : r.Commuting)
    (hread : ∀ f ∈ r.fields, ∀ d e, kept f.name d e → Legible origin d → Legible origin e → ∀ s,
      (f.read origin d s).toOption = (f.read origin e s).toOption)
    (hmembers : ∀ m ∈ members, m.1.isSome ∧ Legible origin m.2)
    (hothers : ∀ m ∈ others, m.1.isSome ∧ Legible origin m.2)
    (hreordered : Reordered (r.fields.map RecordField.name) kept members others) :
    (r.ofMembers origin members).toOption = (r.ofMembers origin others).toOption := by
  have hnamed := named_perm hreordered
  refine Option.ext fun s => ?_
  rw [toOption_eq_some_iff, toOption_eq_some_iff, ofMembers_eq_ok_iff, ofMembers_eq_ok_iff,
    ← hnamed.nodup_iff]
  simp only [← hnamed.mem_iff]
  refine and_congr_left fun hrest => ?_
  rw [h.foldlM_eq hread hmembers hothers hreordered hrest.1]

end Record

end Decoding

end Retrace
