import Mathlib.Data.List.Permutation
import Retrace.Proofs.Decoding.Bundles
import Retrace.Proofs.Decoding.Rearranging

/-!
What an action is decoded from: its tag names it, its parameters are there and have their kinds.
The members of the envelope and the parameters may stand in any order, with others among them.
-/

namespace Retrace

namespace Document

/-- What stands under a name in an object, or at its place in an array. -/
inductive Held (name : String) (index : Nat) : Document → Document → Prop
  | member {members : Members} {d : Document} (h : (some name, d) ∈ members) :
      Held name index (.object members) d
  | item {items : List Document} {d : Document} (h : items[index]? = some d) :
      Held name index (.array items) d

/-- A name written as a choice. -/
inductive Spells : Document → String → Prop
  | plain (name : String) : Spells (.string (some name)) name
  | keyed (name : String) : Spells (.object [(some name, .null)]) name

theorem held_object_iff {name : String} {index : Nat} {members : Members} {d : Document} :
    Held name index (.object members) d ↔ (some name, d) ∈ members :=
  ⟨fun h => by cases h; assumption, .member⟩

theorem held_array_iff {name : String} {index : Nat} {items : List Document} {d : Document} :
    Held name index (.array items) d ↔ items[index]? = some d :=
  ⟨fun h => by cases h; assumption, .item⟩

theorem Spells.unique {d : Document} {a b : String} (ha : Spells d a) (hb : Spells d b) :
    a = b := by
  cases ha <;> cases hb <;> rfl

end Document

open Document

namespace Decoding

theorem exists_mem_of_forall₂ {α β : Type} {R : α → β → Prop} {xs : List α} {ys : List β}
    (h : List.Forall₂ R xs ys) {x : α} (hx : x ∈ xs) : ∃ y ∈ ys, R x y := by
  induction h with
  | nil => cases hx
  | cons hfirst _ ih =>
      rcases List.mem_cons.mp hx with rfl | hx
      · exact ⟨_, List.mem_cons_self, hfirst⟩
      · obtain ⟨y, hy, hxy⟩ := ih hx
        exact ⟨y, List.mem_cons_of_mem _ hy, hxy⟩

section Choices

variable {α : Type} {known : List (String × α)} {origin : Origin} {d : Document} {a : α}

theorem pick_eq_ok_iff {name : String} : pick known name = .ok a ↔ known.lookup name = some a := by
  unfold pick
  cases known.lookup name <;> simp

theorem spells_of_choiceObject {members : Members}
    (h : choiceObject known origin members = .ok a) :
    ∃ name, Spells (.object members) name ∧ pick known name = .ok a := by
  have hnothing {inner : Origin} {d : Document} {u : Unit} (hd : nothing inner d = .ok u) :
      d = .null := by
    cases d with
    | null => rfl
    | _ =>
        simp only [nothing] at hd
        exact absurd hd (mismatch_ne_ok _ _ u)
  rcases members with _ | ⟨⟨_ | key, d⟩, rest⟩
  · cases origin with
    | text levels =>
        obtain ⟨inner, -, h⟩ := bind_eq_ok_iff.mp h
        cases h
    | value => cases h
  · cases origin with
    | text levels =>
        obtain ⟨inner, -, h⟩ := bind_eq_ok_iff.mp h
        cases h
    | value => cases h
  · cases origin with
    | text levels =>
        obtain ⟨inner, -, h⟩ := bind_eq_ok_iff.mp h
        obtain ⟨b, hpick, h⟩ := bind_eq_ok_iff.mp h
        obtain ⟨u, hd, h⟩ := bind_eq_ok_iff.mp h
        cases rest with
        | nil =>
            cases h
            exact ⟨key, hnothing hd ▸ .keyed key, hpick⟩
        | cons m rest => cases h
    | value =>
        cases rest with
        | nil =>
            obtain ⟨b, hpick, h⟩ := bind_eq_ok_iff.mp h
            obtain ⟨u, hd, h⟩ := bind_eq_ok_iff.mp h
            cases h
            exact ⟨key, hnothing hd ▸ .keyed key, hpick⟩
        | cons m rest => cases h

theorem spells_of_choice (h : choice known origin d = .ok a) :
    ∃ name, Spells d name ∧ known.lookup name = some a := by
  simp only [← pick_eq_ok_iff]
  unfold choice at h
  split at h
  · next name => exact ⟨name, .plain name, h⟩
  · cases h
  · exact spells_of_choiceObject h
  · split at h
    · cases h
    · exact absurd h (mismatch_ne_ok _ _ a)

theorem string_of_identifier (h : identifier known origin d = .ok a) :
    ∃ name, d = .string (some name) ∧ known.lookup name = some a := by
  unfold identifier at h
  split at h
  · next name => exact ⟨name, rfl, pick_eq_ok_iff.mp h⟩
  · exact absurd h (mismatch_ne_ok _ _ a)

end Choices

end Decoding

open Decoding

namespace Action

/-- What a parameter of an action may be. -/
inductive ParameterKind where
  | text
  | maybeText
  | natural (bound : Nat)
  | flag

def ParameterKind.Admits : ParameterKind → Document → Prop
  | .text, d => ∃ s, d = .string (some s)
  | .maybeText, d => d = .null ∨ ∃ s, d = .string (some s)
  | .natural bound, d => ∃ i : Int, d = .number (some (.integer i)) ∧ 0 ≤ i ∧ i < bound
  | .flag, d => ∃ b, d = .bool b

/-- The parameters of the actions, of which only the type of an element may be left out. -/
def Name.parameters : Name → List (String × ParameterKind)
  | .waitForElement => [("selector", .text), ("timeout", .natural UInt64.size)]
  | .clickBySelector => [("css_selector", .text)]
  | .clickByText => [("text", .text), ("element_type", .maybeText), ("nth", .natural UInt32.size)]
  | .inputText => [("selector", .text), ("text", .text)]
  | .selectOption => [("css_selector", .text), ("value", .text)]
  | .sendKeys => [("keys", .text)]
  | .openTab => [("url", .text)]
  | .goToUrl => [("url", .text)]
  | .extractContent => [("goal", .text), ("should_strip_link_urls", .flag)]
  | .done => [("text", .text), ("success", .flag)]

/-- The field reads the parameter, and the action keeps its name. -/
structure Reads (f : RecordField Action) (p : String × ParameterKind) : Prop where
  name : f.name = p.1
  required : p.1 ≠ "element_type" → f.required
  admits : ∀ origin d s, (∃ s', f.read origin d s = .ok s') ↔ p.2.Admits d
  keeps : ∀ origin d s s', f.read origin d s = .ok s' → s'.name = s.name

theorem reads_mandatory {α : Type} {name : String} {kind : ParameterKind} {decodeField : Decoder α}
    {set : α → Action → Action}
    (hadmits : ∀ origin d, (∃ a, decodeField origin d = .ok a) ↔ kind.Admits d)
    (hkeeps : ∀ a s, (set a s).name = s.name) :
    Reads (.mandatory name decodeField set) (name, kind) where
  name := rfl
  required _ := rfl
  admits origin d s := RecordField.exists_read_mandatory_iff.trans (hadmits origin d)
  keeps origin d s s' h := by
    obtain ⟨a, -, rfl⟩ := RecordField.exists_of_read_mandatory h
    exact hkeeps a s

theorem reads_text {name : String} {set : String → Action → Action}
    (hkeeps : ∀ a s, (set a s).name = s.name) : Reads (.mandatory name text set) (name, .text) :=
  reads_mandatory (fun _ _ => exists_text_iff) hkeeps

theorem reads_flag {name : String} {set : Bool → Action → Action}
    (hkeeps : ∀ a s, (set a s).name = s.name) : Reads (.mandatory name flag set) (name, .flag) :=
  reads_mandatory (fun _ _ => exists_flag_iff) hkeeps

theorem reads_word64 {name : String} {set : UInt64 → Action → Action}
    (hkeeps : ∀ a s, (set a s).name = s.name) :
    Reads (.mandatory name word64 set) (name, .natural UInt64.size) :=
  reads_mandatory (fun _ _ => exists_map_iff.trans exists_natural_iff) hkeeps

theorem reads_word32 {name : String} {set : UInt32 → Action → Action}
    (hkeeps : ∀ a s, (set a s).name = s.name) :
    Reads (.mandatory name word32 set) (name, .natural UInt32.size) :=
  reads_mandatory (fun _ _ => exists_map_iff.trans exists_natural_iff) hkeeps

theorem reads_elementType {set : Option String → Action → Action}
    (hkeeps : ∀ a s, (set a s).name = s.name) :
    Reads (.optional "element_type" (Decoding.optional text) set)
      ("element_type", .maybeText) where
  name := rfl
  required h := absurd rfl h
  admits origin d s := by
    rw [RecordField.exists_read_optional_iff, exists_optional_iff, exists_text_iff]
    rfl
  keeps origin d s s' h := by
    obtain ⟨a, -, rfl⟩ := RecordField.exists_of_read_optional h
    exact hkeeps a s

theorem name_setSelector (v : String) (a : Action) : (setSelector v a).name = a.name := by
  cases a <;> rfl

theorem name_setText (v : String) (a : Action) : (setText v a).name = a.name := by
  cases a <;> rfl

theorem name_setUrl (v : String) (a : Action) : (setUrl v a).name = a.name := by
  cases a <;> rfl

/-- The fields of the parameters are what the parameters are said to be. -/
theorem forall₂_reads (n : Name) : List.Forall₂ Reads (parameterFields n) n.parameters := by
  cases n with
  | waitForElement =>
      exact .cons (reads_text name_setSelector)
        (.cons (reads_word64 fun _ a => by cases a <;> rfl) .nil)
  | clickBySelector => exact .cons (reads_text name_setSelector) .nil
  | clickByText =>
      exact .cons (reads_text name_setText)
        (.cons (reads_elementType fun _ a => by cases a <;> rfl)
          (.cons (reads_word32 fun _ a => by cases a <;> rfl) .nil))
  | inputText => exact .cons (reads_text name_setSelector) (.cons (reads_text name_setText) .nil)
  | selectOption =>
      exact .cons (reads_text name_setSelector)
        (.cons (reads_text fun _ a => by cases a <;> rfl) .nil)
  | sendKeys => exact .cons (reads_text fun _ a => by cases a <;> rfl) .nil
  | openTab | goToUrl => exact .cons (reads_text name_setUrl) .nil
  | extractContent =>
      exact .cons (reads_text fun _ a => by cases a <;> rfl)
        (.cons (reads_flag fun _ a => by cases a <;> rfl) .nil)
  | done =>
      exact .cons (reads_text name_setText) (.cons (reads_flag fun _ a => by cases a <;> rfl) .nil)

theorem exists_reads_of_field {n : Name} {f : RecordField Action} (hf : f ∈ parameterFields n) :
    ∃ p ∈ n.parameters, Reads f p :=
  exists_mem_of_forall₂ (forall₂_reads n) hf

theorem exists_reads_of_parameter {n : Name} {p : String × ParameterKind}
    (hp : p ∈ n.parameters) : ∃ f ∈ parameterFields n, Reads f p :=
  exists_mem_of_forall₂ (forall₂_reads n).flip hp

theorem names_parameterFields (n : Name) :
    (parameterRecord n).fields.map RecordField.name = n.parameters.map Prod.fst := by
  cases n <;> rfl

theorem steady_parameterRecord (n : Name) : (parameterRecord n).Steady where
  fields f hf origin d s t := by
    obtain ⟨p, -, hreads⟩ := exists_reads_of_field hf
    rw [hreads.admits, hreads.admits]
    exact id
  other _ _ _ _ t _ := ⟨t, rfl⟩

/-- The parameters set different parts of an action. -/
theorem commuting_parameterRecord (n : Name) : (parameterRecord n).Commuting where
  fields := by
    cases n with
    | waitForElement | inputText | selectOption | extractContent | done =>
        exact List.pairwise_pair.mpr
          (RecordField.commute_mandatory fun _ _ s => by cases s <;> rfl)
    | clickByText =>
        have htext := RecordField.sets_mandatory "text" text setText
        have htype := RecordField.sets_optional "element_type" (Decoding.optional text)
          setElementType
        have hnth := RecordField.sets_mandatory "nth" word32 setNth
        have htextType := htext.commute htype fun _ _ s => by cases s <;> rfl
        have htextNth := htext.commute hnth fun _ _ s => by cases s <;> rfl
        have htypeNth := htype.commute hnth fun _ _ s => by cases s <;> rfl
        exact .cons (List.forall_mem_cons.mpr ⟨htextType, List.forall_mem_singleton.mpr htextNth⟩)
          (List.pairwise_pair.mpr htypeNth)
    | clickBySelector | sendKeys | openTab | goToUrl => exact List.pairwise_singleton _ _
  skips _ _ _ _ := rfl

/-- What the parameters of an action are decoded from. -/
theorem exists_of_decodeParameters {n : Name} {origin : Origin} {d : Document} {a : Action}
    (h : decodeParameters n origin d = .ok a) :
    ∃ members, d = .object members ∧ a.name = n ∧ ∀ p ∈ n.parameters,
      (p.1 ≠ "element_type" → ∃ e, (some p.1, e) ∈ members) ∧
        ∀ e, (some p.1, e) ∈ members → p.2.Admits e := by
  obtain ⟨members, inner, rfl, -, hread⟩ := Record.decodeOpened_eq_ok h
  refine ⟨members, rfl, ?_, fun p hp => ?_⟩
  · have hstart : (parameterRecord n).start.name = n := by
      cases n <;> rfl
    obtain ⟨seen, hmembers⟩ := Record.exists_readMembers hread
    refine Record.readMembers_invariant (motive := fun s => s.name = n) ?_ ?_ hmembers hstart
    · intro name d _ f hf s s' hs hname
      obtain ⟨p, -, hreads⟩ := exists_reads_of_field hf
      exact (hreads.keeps _ _ _ _ hs).trans hname
    · intro name d _ s s' hs hname
      cases hs
      exact hname
  · obtain ⟨f, hf, hreads⟩ := exists_reads_of_parameter hp
    constructor
    · intro hrequired
      rw [← hreads.name]
      exact Record.exists_mem_of_required hread hf (hreads.required hrequired)
    · intro e he
      have hfield := Record.field?_of_mem (nodup_parameterNames n) hf
      rw [hreads.name] at hfield
      exact (hreads.admits inner e _).mp
        ((steady_parameterRecord n).exists_read_of_mem hread hfield he)

def envelopeNames : List String := ["action", "action_params"]

section Envelopes

variable {origin : Origin} {members : Members} {t p d : Document}
  {n : Name} {a b : Action}

theorem mem_envelopeNames_iff {key : String} :
    key ∈ envelopeNames ↔ ∃ part : EnvelopePart, key = part.key := by
  constructor
  · intro h
    simp only [envelopeNames, List.mem_cons, List.not_mem_nil, or_false] at h
    exact h.elim (fun h => ⟨.tag, h⟩) fun h => ⟨.parameters, h⟩
  · rintro ⟨_ | _, rfl⟩ <;> decide

theorem nextPart?_part (part : EnvelopePart) (d : Document) (rest : Members) :
    nextPart? ((some part.key, d) :: rest) = .ok (some (part, d, rest)) := by
  cases part <;> rfl

theorem nextPart?_other {key : String} (h : key ∉ envelopeNames) (d : Document)
    (rest : Members) : nextPart? ((some key, d) :: rest) = nextPart? rest := by
  have hne (part : EnvelopePart) : key ≠ part.key :=
    fun heq => h (mem_envelopeNames_iff.mpr ⟨part, heq⟩)
  rw [nextPart?, if_neg (hne .tag), if_neg (hne .parameters)]

/-- The members of the envelope from the next part on. -/
def partsFrom : Option (EnvelopePart × Document × Members) → Members
  | none => []
  | some (part, d, rest) => (some part.key, d) :: membersCalled envelopeNames rest

theorem called_of_nextPart? {next : Option (EnvelopePart × Document × Members)}
    (h : nextPart? members = .ok next) :
    membersCalled envelopeNames members = partsFrom next := by
  induction members with
  | nil =>
      cases h
      rfl
  | cons m later ih =>
      obtain ⟨_ | key, d⟩ := m
      · cases h
      · by_cases hkey : key ∈ envelopeNames
        · rw [membersCalled_cons_of_mem hkey]
          obtain ⟨part, rfl⟩ := mem_envelopeNames_iff.mp hkey
          rw [nextPart?_part] at h
          cases h
          rfl
        · rw [nextPart?_other hkey] at h
          rw [membersCalled_cons_of_notMem hkey]
          exact ih h

theorem exists_nextPart? (hkeys : ∀ m ∈ members, m.1.isSome) :
    ∃ next, nextPart? members = .ok next ∧
      ∀ part d rest, next = some (part, d, rest) → ∀ m ∈ rest, m.1.isSome := by
  induction members with
  | nil => exact ⟨none, rfl, nofun⟩
  | cons m later ih =>
      obtain ⟨hm, hlater⟩ := List.forall_mem_cons.mp hkeys
      obtain ⟨_ | key, d⟩ := m
      · cases hm
      · by_cases hkey : key ∈ envelopeNames
        · obtain ⟨part, rfl⟩ := mem_envelopeNames_iff.mp hkey
          refine ⟨_, nextPart?_part part d later, fun _ _ _ hnext => ?_⟩
          cases hnext
          exact hlater
        · obtain ⟨next, hnext, hrest⟩ := ih hlater
          exact ⟨next, (nextPart?_other hkey d later).trans hnext, hrest⟩

theorem nextPart?_of_called_cons (part : EnvelopePart) (hkeys : ∀ m ∈ members, m.1.isSome)
    {others : Members}
    (hcalled : membersCalled envelopeNames members = (some part.key, d) :: others) :
    ∃ rest, nextPart? members = .ok (some (part, d, rest)) ∧ (∀ m ∈ rest, m.1.isSome) ∧
      membersCalled envelopeNames rest = others := by
  obtain ⟨next, hnext, hrest⟩ := exists_nextPart? hkeys
  have hfirst := called_of_nextPart? hnext
  rw [hcalled] at hfirst
  rcases next with _ | ⟨found, e, rest⟩
  · cases hfirst
  · obtain ⟨hm, hothers⟩ := List.cons.inj hfirst
    obtain ⟨hpart, rfl⟩ := Prod.mk.inj hm
    have hpart : part = found := by
      cases part <;> cases found <;> simp [EnvelopePart.key] at hpart ⊢
    subst hpart
    exact ⟨rest, hnext, hrest _ _ _ rfl, hothers.symm⟩

theorem nextPart?_of_called_nil (hkeys : ∀ m ∈ members, m.1.isSome)
    (hcalled : membersCalled envelopeNames members = []) : nextPart? members = .ok none := by
  obtain ⟨next, hnext, -⟩ := exists_nextPart? hkeys
  have hfirst := called_of_nextPart? hnext
  rw [hcalled] at hfirst
  rcases next with _ | ⟨part, d, rest⟩
  · exact hnext
  · cases hfirst

theorem closeEnvelope_eq_ok (h : closeEnvelope a members = .ok b) :
    membersCalled envelopeNames members = [] ∧ b = a := by
  obtain ⟨next, hnext, h⟩ := bind_eq_ok_iff.mp h
  have hcalled := called_of_nextPart? hnext
  rcases next with _ | ⟨part, d, rest⟩
  · cases h
    exact ⟨hcalled, rfl⟩
  · cases h

/-- An action that is decoded from an envelope has its tag and its parameters there, once each. -/
theorem exists_of_decodeEnvelope (h : decodeEnvelope origin members = .ok a) :
    ∃ t p n, (membersCalled envelopeNames members).Perm
        [(some "action", t), (some "action_params", p)] ∧
      choice Name.known origin t = .ok n ∧ decodeParameters n origin p = .ok a := by
  obtain ⟨first, hfirst, h⟩ := bind_eq_ok_iff.mp h
  have hcalled := called_of_nextPart? hfirst
  rcases first with _ | ⟨_ | _, d, rest⟩
  · cases h
  · obtain ⟨n, hn, h⟩ := bind_eq_ok_iff.mp h
    obtain ⟨second, hsecond, h⟩ := bind_eq_ok_iff.mp h
    have hcalled' := called_of_nextPart? hsecond
    rcases second with _ | ⟨_ | _, e, last⟩
    · cases h
    · cases h
    · obtain ⟨b, hb, h⟩ := bind_eq_ok_iff.mp h
      obtain ⟨hlast, rfl⟩ := closeEnvelope_eq_ok h
      refine ⟨d, e, n, ?_, hn, hb⟩
      rw [hcalled, partsFrom, hcalled', partsFrom, hlast]
      exact .refl _
  · obtain ⟨v, -, h⟩ := bind_eq_ok_iff.mp h
    obtain ⟨second, hsecond, h⟩ := bind_eq_ok_iff.mp h
    have hcalled' := called_of_nextPart? hsecond
    rcases second with _ | ⟨_ | _, e, last⟩
    · cases h
    · obtain ⟨n, hn, h⟩ := bind_eq_ok_iff.mp h
      obtain ⟨b, hb, h⟩ := bind_eq_ok_iff.mp h
      obtain ⟨hlast, rfl⟩ := closeEnvelope_eq_ok h
      refine ⟨e, d, n, ?_, hn, hb⟩
      rw [hcalled, partsFrom, hcalled', partsFrom, hlast]
      exact .swap _ _ _
    · cases h

/-- The tag and the parameters make an action in either order, among legible members. -/
theorem decodeEnvelope_of_perm (hmembers : ∀ m ∈ members, m.1.isSome ∧ Legible origin m.2)
    (hperm : (membersCalled envelopeNames members).Perm
      [(some "action", t), (some "action_params", p)])
    (hn : choice Name.known origin t = .ok n) (ha : decodeParameters n origin p = .ok a) :
    decodeEnvelope origin members = .ok a := by
  have hkeys : ∀ m ∈ members, m.1.isSome := fun m hm => (hmembers m hm).1
  have hclose {last : Members} (hkeys : ∀ m ∈ last, m.1.isSome)
      (hlast : membersCalled envelopeNames last = []) : closeEnvelope a last = .ok a :=
    bind_eq_ok_iff.mpr ⟨none, nextPart?_of_called_nil hkeys hlast, rfl⟩
  rcases List.perm_pair.mp hperm with hcalled | hcalled
  · obtain ⟨rest, hfirst, hrest, hcalled⟩ := nextPart?_of_called_cons .tag hkeys hcalled
    obtain ⟨last, hsecond, hlast, hcalled⟩ :=
      nextPart?_of_called_cons .parameters hrest hcalled
    simp only [decodeEnvelope, hfirst, hn, hsecond, ha, hclose hlast hcalled, bind, Except.bind]
  · have hp : (some "action_params", p) ∈ membersCalled envelopeNames members := by
      rw [hcalled]
      exact List.mem_cons_self
    obtain ⟨v, hv⟩ := (hmembers _ (mem_membersCalled_iff.mp hp).1).2
    obtain ⟨rest, hfirst, hrest, hcalled⟩ :=
      nextPart?_of_called_cons .parameters hkeys hcalled
    obtain ⟨last, hsecond, hlast, hcalled⟩ := nextPart?_of_called_cons .tag hrest hcalled
    simp only [decodeEnvelope, hfirst, hv, hsecond, hn, ha, hclose hlast hcalled, bind,
      Except.bind]

end Envelopes

/-- The name that an element has for a tag. -/
def Tag (item : Document) (name : String) : Prop := ∃ t, Held "action" 0 item t ∧ Spells t name

/-- A parameter that an element has. -/
def Parameter (item : Document) (key : String) (d : Document) : Prop :=
  ∃ members, Held "action_params" 1 item (.object members) ∧ (some key, d) ∈ members

/-- Why an element is no action. -/
inductive Flawed (item : Document) : Prop
  | unknown (h : ∀ n : Name, ¬ Tag item n.text)
  | missing {n : Name} {key : String} {kind : ParameterKind} (htag : Tag item n.text)
      (hkey : (key, kind) ∈ n.parameters) (hrequired : key ≠ "element_type")
      (h : ∀ d, ¬ Parameter item key d)
  | illTyped {n : Name} {key : String} {kind : ParameterKind} {d : Document}
      (htag : Tag item n.text) (hkey : (key, kind) ∈ n.parameters) (hd : Parameter item key d)
      (h : ¬ kind.Admits d)

section Elements

variable {origin : Origin} {item : Document} {a : Action}

theorem text_of_lookup {name : String} {n : Name} (h : Name.known.lookup name = some n) :
    name = n.text := by
  obtain ⟨m, -, hm⟩ := List.mem_map.mp (Entries.mem_of_lookup h)
  cases hm
  rfl

theorem exists_of_decodePair {outer : Origin} {items : List Document}
    (h : decodePair outer origin items = .ok a) :
    ∃ name p n, items = [.string (some name), p] ∧ Name.known.lookup name = some n ∧
      decodeParameters n origin p = .ok a := by
  rcases items with _ | ⟨t, rest⟩
  · cases h
  · obtain ⟨n, hn, h⟩ := bind_eq_ok_iff.mp h
    rcases rest with _ | ⟨p, last⟩
    · cases h
    · obtain ⟨b, hb, h⟩ := bind_eq_ok_iff.mp h
      obtain ⟨name, rfl, hlookup⟩ := string_of_identifier hn
      cases last with
      | nil =>
          cases h
          exact ⟨name, p, n, rfl, hlookup, hb⟩
      | cons d last => cases h

/-- What an action was decoded from: a tag that names it, and its parameters. -/
theorem exists_of_decode (h : decode origin item = .ok a) :
    ∃ t p inner, (∀ x, Held "action" 0 item x ↔ x = t) ∧
      (∀ x, Held "action_params" 1 item x ↔ x = p) ∧
      ∃ n : Name, Spells t n.text ∧ decodeParameters n inner p = .ok a := by
  cases item with
  | object members =>
      obtain ⟨inner, -, h⟩ := bind_eq_ok_iff.mp h
      obtain ⟨t, p, n, hperm, hn, ha⟩ := exists_of_decodeEnvelope h
      obtain ⟨name, hname, hlookup⟩ := spells_of_choice hn
      have hmem {key : String} {index : Nat} (hkey : key ∈ envelopeNames) (x : Document) :
          Held key index (.object members) x ↔
            (some key, x) ∈ [(some "action", t), (some "action_params", p)] := by
        rw [held_object_iff, ← hperm.mem_iff, mem_membersCalled_iff, and_iff_left hkey]
      refine ⟨t, p, inner, fun x => ?_, fun x => ?_, n, text_of_lookup hlookup ▸ hname, ha⟩
      · rw [hmem (by decide)]
        simp
      · rw [hmem (by decide)]
        simp
  | array items =>
      obtain ⟨inner, -, h⟩ := bind_eq_ok_iff.mp h
      obtain ⟨name, p, n, rfl, hlookup, ha⟩ := exists_of_decodePair h
      refine ⟨.string (some name), p, inner, fun x => ?_, fun x => ?_, n,
        text_of_lookup hlookup ▸ .plain name, ha⟩
      · simp [held_array_iff, eq_comm]
      · simp [held_array_iff, eq_comm]
  | _ =>
      simp only [decode] at h
      exact absurd h (mismatch_ne_ok _ _ a)

/-- An action has the name that its element is tagged with. -/
theorem tag_iff_of_decode (h : decode origin item = .ok a) {name : String} :
    Tag item name ↔ name = a.name.text := by
  obtain ⟨t, p, inner, htag, -, n, hspells, hparameters⟩ := exists_of_decode h
  obtain ⟨members, -, hname, -⟩ := exists_of_decodeParameters hparameters
  subst hname
  constructor
  · rintro ⟨x, hx, hxname⟩
    rw [htag] at hx
    subst hx
    exact hxname.unique hspells
  · rintro rfl
    exact ⟨t, (htag t).mpr rfl, hspells⟩

theorem not_flawed_of_decode (h : decode origin item = .ok a) : ¬ Flawed item := by
  obtain ⟨t, p, inner, -, hheld, n, -, hparameters⟩ := exists_of_decode h
  obtain ⟨members, rfl, rfl, hall⟩ := exists_of_decodeParameters hparameters
  have hname {n : Name} (htag : Tag item n.text) : n = a.name := by
    have htext := (tag_iff_of_decode h).mp htag
    have hlookup := pick_eq_ok_iff.mp (pick_known n)
    rw [htext, pick_eq_ok_iff.mp (pick_known a.name)] at hlookup
    exact (Option.some.inj hlookup).symm
  have hparameter {key : String} {d : Document} :
      Parameter item key d ↔ (some key, d) ∈ members := by
    simp [Parameter, hheld]
  rintro (hunknown | ⟨htag, hkey, hrequired, habsent⟩ | ⟨htag, hkey, hd, hkind⟩)
  · exact hunknown a.name ((tag_iff_of_decode h).mpr rfl)
  · cases hname htag
    obtain ⟨d, hd⟩ := (hall _ hkey).1 hrequired
    exact habsent d (hparameter.mpr hd)
  · cases hname htag
    exact hkind ((hall _ hkey).2 _ (hparameter.mp hd))

/-- The parameters of an action in any order, with others among them. -/
def SameParameters (n : Name) (d e : Document) : Prop :=
  d = e ∨ ∃ members others, d = .object members ∧ e = .object others ∧
    Reordered (n.parameters.map Prod.fst) (fun _ d e => d = e) members others

/-- What may become of a member of the element: its parameters may stand in another order. -/
def SamePart (item : Document) (name : String) (d e : Document) : Prop :=
  d = e ∨ name = "action_params" ∧ ∀ n : Name, Tag item n.text → SameParameters n d e

/-- The same element with its members and parameters in another order, or with other members that
are no part of an action. -/
inductive SameElement : Document → Document → Prop
  | same (d : Document) : SameElement d d
  | object {members others : Members}
      (h : Reordered envelopeNames (SamePart (.object members)) members others) :
      SameElement (.object members) (.object others)
  | array {t d e : Document} {rest : List Document}
      (h : SamePart (.array (t :: d :: rest)) "action_params" d e) :
      SameElement (.array (t :: d :: rest)) (.array (t :: e :: rest))

theorem toOption_decodeParameters {n : Name} {d e : Document} (h : SameParameters n d e)
    (hd : Legible origin d) (he : Legible origin e) :
    (decodeParameters n origin d).toOption = (decodeParameters n origin e).toOption := by
  obtain rfl | ⟨members, others, rfl, rfl, hreordered⟩ := h
  · rfl
  · obtain ⟨inner, henter, hmembers⟩ := hd.members
    have hothers := he.members_of_enter henter
    rw [← names_parameterFields] at hreordered
    simp only [decodeParameters, Record.decodeOpened, henter]
    refine (commuting_parameterRecord n).toOption_ofMembers ?_ hmembers hothers hreordered
    rintro f - d e rfl - - s
    rfl

/-- What becomes of the tag and the parameters of an element whose members are rearranged. -/
theorem same_of_forall₂ {kept : String → Document → Document → Prop} {t p : Document}
    {arranged : Members} (h : List.Forall₂ (SameMember kept)
      [(some "action", t), (some "action_params", p)] arranged) :
    ∃ t' p', arranged = [(some "action", t'), (some "action_params", p')] ∧
      kept "action" t t' ∧ kept "action_params" p p' := by
  obtain ⟨⟨_, t'⟩, rest, ⟨key, hkey, rfl, htag⟩, hrest, rfl⟩ := List.forall₂_cons_left_iff.mp h
  obtain ⟨⟨_, p'⟩, last, ⟨key', hkey', rfl, hparameters⟩, hlast, rfl⟩ :=
    List.forall₂_cons_left_iff.mp hrest
  cases List.forall₂_nil_left_iff.mp hlast
  cases hkey
  cases hkey'
  exact ⟨t', p', rfl, htag, hparameters⟩

theorem toOption_of_samePart {n : Name} {d e : Document}
    (h : SamePart item "action_params" d e) (htag : Tag item n.text) (hd : Legible origin d)
    (he : Legible origin e) :
    (decodeParameters n origin d).toOption = (decodeParameters n origin e).toOption := by
  obtain rfl | ⟨-, h⟩ := h
  · rfl
  · exact toOption_decodeParameters (h n htag) hd he

/-- The parts of an envelope are those of the rearranged envelope. -/
theorem parts_of_samePart {members others : Members} {t p t' p' : Document}
    (hmembers : ∀ m ∈ members, m.1.isSome ∧ Legible origin m.2)
    (hothers : ∀ m ∈ others, m.1.isSome ∧ Legible origin m.2)
    (hperm : (membersCalled envelopeNames members).Perm
      [(some "action", t), (some "action_params", p)])
    (hperm' : (membersCalled envelopeNames others).Perm
      [(some "action", t'), (some "action_params", p')])
    (ht : SamePart (.object members) "action" t t')
    (hp : SamePart (.object members) "action_params" p p') :
    t = t' ∧ ∀ n, choice Name.known origin t = .ok n →
      (decodeParameters n origin p).toOption = (decodeParameters n origin p').toOption := by
  have hmem {key : String} {d : Document} {list arranged : Members}
      (hlist : (membersCalled envelopeNames list).Perm arranged)
      (hd : (some key, d) ∈ arranged) : (some key, d) ∈ list :=
    (mem_membersCalled_iff.mp (hlist.mem_iff.mpr hd)).1
  have htmem : (some "action", t) ∈ members := hmem hperm (by simp)
  have hpmem : (some "action_params", p) ∈ members := hmem hperm (by simp)
  have hpmem' : (some "action_params", p') ∈ others := hmem hperm' (by simp)
  refine ⟨ht.elim id fun ⟨hname, _⟩ => absurd hname (by decide), fun n hn => ?_⟩
  obtain ⟨name, hname, hlookup⟩ := spells_of_choice hn
  have htag : Tag (.object members) n.text := ⟨t, .member htmem, text_of_lookup hlookup ▸ hname⟩
  exact toOption_of_samePart hp htag (hmembers _ hpmem).2 (hothers _ hpmem').2

theorem toOption_decodePair (outer inner : Origin) (t d : Document) (rest : List Document) :
    (decodePair outer inner (t :: d :: rest)).toOption =
      (identifier Name.known inner t).toOption.bind fun n =>
        (decodeParameters n inner d).toOption.bind fun a =>
          if rest.isEmpty then some a else none := by
  simp only [decodePair, toOption_bind]
  congr 1
  funext n
  congr 1
  funext a
  split <;> rfl

/-- An element whose members are rearranged is the same action, or none at all. -/
theorem toOption_decode {d e : Document} (h : SameElement d e) (hd : Legible origin d)
    (he : Legible origin e) : (decode origin d).toOption = (decode origin e).toOption := by
  cases h with
  | same => rfl
  | @object members others hreordered =>
      obtain ⟨inner, henter, hmembers⟩ := hd.members
      have hothers := he.members_of_enter henter
      refine Option.ext fun a => ?_
      rw [toOption_eq_some_iff, toOption_eq_some_iff]
      simp only [decode, henter, bind, Except.bind]
      constructor
      · intro h
        obtain ⟨t, p, n, hperm, hn, ha⟩ := exists_of_decodeEnvelope h
        obtain ⟨arranged, hperm', hkept⟩ := hreordered.exists_right hperm
        obtain ⟨t', p', rfl, ht, hp⟩ := same_of_forall₂ hkept
        obtain ⟨rfl, hsame⟩ := parts_of_samePart hmembers hothers hperm hperm' ht hp
        rw [← toOption_eq_some_iff, hsame n hn, toOption_eq_some_iff] at ha
        exact decodeEnvelope_of_perm hothers hperm' hn ha
      · intro h
        obtain ⟨t, p, n, hperm, hn, ha⟩ := exists_of_decodeEnvelope h
        obtain ⟨arranged, hperm', hkept⟩ := hreordered.exists_left hperm
        obtain ⟨t', p', rfl, ht, hp⟩ := same_of_forall₂ hkept
        obtain ⟨rfl, hsame⟩ := parts_of_samePart hmembers hothers hperm' hperm ht hp
        rw [← toOption_eq_some_iff, ← hsame n hn, toOption_eq_some_iff] at ha
        exact decodeEnvelope_of_perm hmembers hperm' hn ha
  | @array t d e rest hsame =>
      obtain ⟨inner, henter, hitems⟩ := hd.items
      have hothers := he.items_of_enter henter
      simp only [decode, henter, bind, Except.bind, toOption_decodePair]
      cases hn : identifier Name.known inner t with
      | error fault => rfl
      | ok n =>
          obtain ⟨name, rfl, hlookup⟩ := string_of_identifier hn
          have htag : Tag (.array (.string (some name) :: d :: rest)) n.text :=
            ⟨_, .item rfl, text_of_lookup hlookup ▸ .plain name⟩
          have hparameters := toOption_of_samePart hsame htag (hitems d (by simp))
            (hothers e (by simp))
          exact congrArg (fun read : Option Action => read.bind fun a =>
            if rest.isEmpty then some a else none) hparameters

end Elements

end Action

end Retrace
