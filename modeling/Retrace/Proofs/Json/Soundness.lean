import Retrace.Decoding.Basic
import Retrace.Proofs.Entries
import Retrace.Proofs.Json.Values

/-!
What the reader promises of every text: integers fit their 64 bits. So a value that is decoded from
text is well formed, and it nests no deeper than the text may. It holds no double that is not in the
text.
-/

namespace Retrace

namespace NumberLiteral

theorem foldWhole_lt {digits : List Nat} {significand : Nat} (h : significand < Nat.pow 2 64) :
    (foldWhole significand digits).1 < Nat.pow 2 64 := by
  induction digits generalizing significand with
  | nil => exact h
  | cons digit rest ih =>
      rw [foldWhole]
      split
      · next hfits => exact ih (of_decide_eq_true hfits)
      · exact h

theorem inRange_of_number? {l : NumberLiteral} {i : Int}
    (h : l.number? = some (.integer i)) : Number.InRange i := by
  have hlt : (foldWhole 0 l.whole).1 < Nat.pow 2 64 := foldWhole_lt (by decide)
  have hlow : 0 ≤ ((Nat.pow 2 63 : Nat) : Int) := Int.natCast_nonneg _
  have hbound : ((Nat.pow 2 63 : Nat) : Int) < (Nat.pow 2 64 : Nat) := by decide
  unfold number? at h
  dsimp only at h
  split at h
  · split at h
    · cases h
      exact ⟨by omega, Int.ofNat_lt.mpr hlt⟩
    · split at h
      · next hsmall =>
          cases h
          have hle := Int.ofNat_le.mpr hsmall.2.2
          exact ⟨by omega, by omega⟩
      · simp at h
  · simp at h

end NumberLiteral

namespace Document

mutual

/-- Every integer in the document fits 64 bits. -/
def IntegersFit : Document → Prop
  | .number (some (.integer i)) => Number.InRange i
  | .array items => ItemsFit items
  | .object members => MembersFit members
  | _ => True

def ItemsFit : List Document → Prop
  | [] => True
  | d :: rest => IntegersFit d ∧ ItemsFit rest

def MembersFit : List (Option String × Document) → Prop
  | [] => True
  | (_, d) :: rest => IntegersFit d ∧ MembersFit rest

end

mutual

/-- No number in the document is a double. -/
def DoubleFree : Document → Prop
  | .number (some (.double _)) => False
  | .array items => ItemsDoubleFree items
  | .object members => MembersDoubleFree members
  | _ => True

def ItemsDoubleFree : List Document → Prop
  | [] => True
  | d :: rest => DoubleFree d ∧ ItemsDoubleFree rest

def MembersDoubleFree : List (Option String × Document) → Prop
  | [] => True
  | (_, d) :: rest => DoubleFree d ∧ MembersDoubleFree rest

end

theorem itemsFit_iff {items : List Document} : ItemsFit items ↔ ∀ d ∈ items, d.IntegersFit := by
  induction items with
  | nil => simp [ItemsFit]
  | cons d rest ih => simp [ItemsFit, ih]

theorem membersFit_iff {members : Members} :
    MembersFit members ↔ ∀ m ∈ members, m.2.IntegersFit := by
  induction members with
  | nil => simp [MembersFit]
  | cons m rest ih => simp [MembersFit, ih]

theorem itemsDoubleFree_iff {items : List Document} :
    ItemsDoubleFree items ↔ ∀ d ∈ items, d.DoubleFree := by
  induction items with
  | nil => simp [ItemsDoubleFree]
  | cons d rest ih => simp [ItemsDoubleFree, ih]

theorem membersDoubleFree_iff {members : Members} :
    MembersDoubleFree members ↔ ∀ m ∈ members, m.2.DoubleFree := by
  induction members with
  | nil => simp [MembersDoubleFree]
  | cons m rest ih => simp [MembersDoubleFree, ih]

theorem integersFit_readNumber {negative : Bool} {text rest : List Char} {document : Document}
    (h : readNumber negative text = some (document, rest)) : document.IntegersFit := by
  unfold readNumber at h
  simp only [bind, Option.bind_eq_some_iff] at h
  obtain ⟨⟨whole, afterWhole⟩, -, ⟨fraction, afterFraction⟩, -, ⟨exponent, last⟩, -, heq⟩ := h
  cases heq
  cases hn : (NumberLiteral.mk negative whole fraction exponent).number? with
  | none => trivial
  | some n =>
      cases n with
      | integer i => exact NumberLiteral.inRange_of_number? hn
      | double d => trivial

/-- What the readers with the given fuel read has only integers that fit. -/
structure ReadsFit (fuel : Nat) : Prop where
  value : ∀ {text rest document}, readValue fuel text = some (document, rest) →
    document.IntegersFit
  items : ∀ {text rest items}, readItems fuel text = some (items, rest) → ItemsFit items
  members : ∀ {text rest members}, readMembers fuel text = some (members, rest) →
    MembersFit members

theorem ReadsFit.value_succ {fuel : Nat} (h : ReadsFit fuel) {text rest : List Char}
    {document : Document} (hread : readValue (fuel + 1) text = some (document, rest)) :
    document.IntegersFit := by
  rw [readValue] at hread
  split at hread
  case h_1 | h_2 | h_3 =>
    cases hread
    trivial
  case h_4 =>
    simp only [bind, Option.bind_eq_some_iff] at hread
    obtain ⟨⟨s, after⟩, -, heq⟩ := hread
    cases heq
    trivial
  case h_5 =>
    split at hread
    · cases hread
      trivial
    · simp only [bind, Option.bind_eq_some_iff] at hread
      obtain ⟨⟨items, after⟩, hitems, heq⟩ := hread
      cases heq
      exact h.items hitems
  case h_6 =>
    split at hread
    · cases hread
      trivial
    · simp only [bind, Option.bind_eq_some_iff] at hread
      obtain ⟨⟨members, after⟩, hmembers, heq⟩ := hread
      cases heq
      exact h.members hmembers
  case h_7 => exact integersFit_readNumber hread
  case h_8 => exact integersFit_readNumber hread

theorem ReadsFit.items_succ {fuel : Nat} (h : ReadsFit fuel) {text rest : List Char}
    {items : List Document} (hread : readItems (fuel + 1) text = some (items, rest)) :
    ItemsFit items := by
  rw [readItems] at hread
  simp only [bind, Option.bind_eq_some_iff] at hread
  obtain ⟨⟨item, after⟩, hitem, hread⟩ := hread
  have hfit := h.value hitem
  dsimp only at hread
  split at hread
  · simp only [Option.bind_eq_some_iff] at hread
    obtain ⟨⟨others, last⟩, hothers, heq⟩ := hread
    cases heq
    exact ⟨hfit, h.items hothers⟩
  · cases hread
    exact ⟨hfit, trivial⟩
  · cases hread

theorem ReadsFit.members_succ {fuel : Nat} (h : ReadsFit fuel) {text rest : List Char}
    {members : Members} (hread : readMembers (fuel + 1) text = some (members, rest)) :
    MembersFit members := by
  rw [readMembers] at hread
  split at hread
  · simp only [bind, Option.bind_eq_some_iff] at hread
    obtain ⟨⟨key, afterKey⟩, -, hread⟩ := hread
    dsimp only at hread
    split at hread
    · simp only [Option.bind_eq_some_iff] at hread
      obtain ⟨⟨value, after⟩, hvalue, hread⟩ := hread
      have hfit := h.value hvalue
      dsimp only at hread
      split at hread
      · simp only [Option.bind_eq_some_iff] at hread
        obtain ⟨⟨others, last⟩, hothers, heq⟩ := hread
        cases heq
        exact ⟨hfit, h.members hothers⟩
      · cases hread
        exact ⟨hfit, trivial⟩
      · cases hread
    · cases hread
  · cases hread

theorem readsFit (fuel : Nat) : ReadsFit fuel := by
  induction fuel with
  | zero =>
      constructor
      · intro text rest document h
        simp [readValue] at h
      · intro text rest items h
        simp [readItems] at h
      · intro text rest members h
        simp [readMembers] at h
  | succ fuel ih => exact ⟨ih.value_succ, ih.items_succ, ih.members_succ⟩

theorem integersFit_read {text : String} {document : Document} (h : read text = some document) :
    document.IntegersFit := by
  rw [read] at h
  cases hfirst : readFirst text.toList with
  | none => simp [hfirst] at h
  | some found =>
      rw [hfirst] at h
      simp only [bind, Option.bind] at h
      split at h
      · cases h
        exact (readsFit _).value hfirst
      · cases h

@[elab_as_elim]
theorem induct {motive : Document → Prop} (null : motive .null) (bool : ∀ b, motive (.bool b))
    (number : ∀ n, motive (.number n)) (string : ∀ s, motive (.string s))
    (array : ∀ items, (∀ d ∈ items, motive d) → motive (.array items))
    (object : ∀ members, (∀ m ∈ members, motive m.2) → motive (.object members))
    (document : Document) : motive document := by
  refine @Document.rec motive (fun items => ∀ d ∈ items, motive d)
    (fun members => ∀ m ∈ members, motive m.2) (fun m => motive m.2)
    null bool number string array object ?_ ?_ ?_ ?_ ?_ document
  · exact nofun
  · exact fun d rest hd hrest => List.forall_mem_cons.mpr ⟨hd, hrest⟩
  · exact nofun
  · exact fun m rest hm hrest => List.forall_mem_cons.mpr ⟨hm, hrest⟩
  · exact fun _ _ hd => hd

end Document

namespace Decoding

open Document

theorem mem_jsonItems {origin : Origin} {items : List Document} {values : List Json}
    (h : jsonItems origin items = .ok values) {v : Json} (hv : v ∈ values) :
    ∃ d ∈ items, json origin d = .ok v := by
  induction items generalizing values with
  | nil =>
      cases h
      cases hv
  | cons d rest ih =>
      rw [jsonItems] at h
      cases hd : json origin d with
      | error fault => simp [hd, bind, Except.bind] at h
      | ok first =>
          cases hr : jsonItems origin rest with
          | error fault => simp [hd, hr, bind, Except.bind] at h
          | ok others =>
              simp only [hd, hr, bind, Except.bind] at h
              cases h
              rcases List.mem_cons.mp hv with rfl | hmem
              · exact ⟨d, List.mem_cons_self, hd⟩
              · obtain ⟨found, hfound, hjson⟩ := ih hr hmem
                exact ⟨found, List.mem_cons_of_mem _ hfound, hjson⟩

theorem jsonMembers_cons {origin : Origin} {done values : Json.Members}
    {m : Option String × Document} {rest : Document.Members}
    (h : jsonMembers origin done (m :: rest) = .ok values) :
    ∃ key v, m.1 = some key ∧ json origin m.2 = .ok v ∧
      jsonMembers origin (Entries.set key v done) rest = .ok values := by
  obtain ⟨key, d⟩ := m
  cases key with
  | none => simp [jsonMembers] at h
  | some key =>
      rw [jsonMembers] at h
      cases hd : json origin d with
      | error fault => simp [hd, bind, Except.bind] at h
      | ok v =>
          simp only [hd, bind, Except.bind] at h
          exact ⟨key, v, rfl, rfl, h⟩

theorem mem_jsonMembers {origin : Origin} {done values : Json.Members}
    {members : Document.Members} (h : jsonMembers origin done members = .ok values)
    {m : String × Json} (hm : m ∈ values) :
    m ∈ done ∨ ∃ n ∈ members, json origin n.2 = .ok m.2 := by
  induction members generalizing done with
  | nil =>
      cases h
      exact .inl hm
  | cons n rest ih =>
      obtain ⟨key, v, -, hv, hrest⟩ := jsonMembers_cons h
      rcases ih hrest with hdone | ⟨later, hlater, hjson⟩
      · rcases Entries.mem_set hdone with rfl | hold
        · exact .inr ⟨n, List.mem_cons_self, hv⟩
        · exact .inl hold
      · exact .inr ⟨later, List.mem_cons_of_mem _ hlater, hjson⟩

theorem nodup_jsonMembers {origin : Origin} {done values : Json.Members}
    {members : Document.Members} (h : jsonMembers origin done members = .ok values)
    (hdone : (done.map Prod.fst).Nodup) : (values.map Prod.fst).Nodup := by
  induction members generalizing done with
  | nil =>
      cases h
      exact hdone
  | cons m rest ih =>
      obtain ⟨key, v, -, -, hrest⟩ := jsonMembers_cons h
      exact ih hrest (Entries.nodup_names_set hdone)

theorem json_array_eq_ok {origin : Origin} {items : List Document} {v : Json}
    (h : json origin (.array items) = .ok v) :
    ∃ inner values, origin.enter = .ok inner ∧ jsonItems inner items = .ok values ∧
      v = .array values := by
  rw [json] at h
  cases henter : origin.enter with
  | error fault => simp [henter, bind, Except.bind] at h
  | ok inner =>
      cases hitems : jsonItems inner items with
      | error fault => simp [henter, hitems, bind, Except.bind] at h
      | ok values =>
          simp only [henter, hitems, bind, Except.bind] at h
          cases h
          exact ⟨inner, values, rfl, hitems, rfl⟩

theorem json_object_eq_ok {origin : Origin} {members : Document.Members} {v : Json}
    (h : json origin (.object members) = .ok v) :
    ∃ inner values, origin.enter = .ok inner ∧ jsonMembers inner [] members = .ok values ∧
      v = .object values := by
  rw [json] at h
  cases henter : origin.enter with
  | error fault => simp [henter, bind, Except.bind] at h
  | ok inner =>
      cases hmembers : jsonMembers inner [] members with
      | error fault => simp [henter, hmembers, bind, Except.bind] at h
      | ok values =>
          simp only [henter, hmembers, bind, Except.bind] at h
          cases h
          exact ⟨inner, values, rfl, hmembers, rfl⟩

/-- A value that was decoded with the given number of levels left. -/
def Sound (levels : Nat) (v : Json) : Prop := v.WellFormed ∧ v.depth ≤ levels

/-- What is decoded from text is well formed and within the limit of the text. -/
theorem sound_json {document : Document} (hfit : document.IntegersFit) {levels : Nat} {v : Json}
    (hv : json (.text levels) document = .ok v) : Sound levels v := by
  induction document using Document.induct generalizing levels v with
  | null | bool _ =>
      cases hv
      exact ⟨trivial, Nat.zero_le _⟩
  | number n =>
      cases n with
      | none => cases hv
      | some n =>
          cases hv
          cases n with
          | integer i => exact ⟨hfit, Nat.zero_le _⟩
          | double d => exact ⟨trivial, Nat.zero_le _⟩
  | string s =>
      cases s with
      | none => cases hv
      | some s =>
          cases hv
          exact ⟨trivial, Nat.zero_le _⟩
  | array items ih =>
      obtain ⟨inner, values, henter, hi, rfl⟩ := json_array_eq_ok hv
      cases levels with
      | zero => cases henter
      | succ levels =>
          cases henter
          have hsound : ∀ v ∈ values, Sound levels v := by
            intro v hv
            obtain ⟨d, hd, hjson⟩ := mem_jsonItems hi hv
            exact ih d hd (itemsFit_iff.mp hfit d hd) hjson
          exact ⟨Json.itemsWellFormed_iff.mpr fun v hmem => (hsound v hmem).1,
            Nat.succ_le_succ (Json.itemsDepth_le_iff.mpr fun v hmem => (hsound v hmem).2)⟩
  | object members ih =>
      obtain ⟨inner, values, henter, hm, rfl⟩ := json_object_eq_ok hv
      cases levels with
      | zero => cases henter
      | succ levels =>
          cases henter
          have hnames := nodup_jsonMembers hm List.nodup_nil
          have hsound : ∀ m ∈ values, Sound levels m.2 := by
            intro m hmem
            rcases mem_jsonMembers hm hmem with hnone | ⟨n, hn, hjson⟩
            · cases hnone
            · exact ih n hn (membersFit_iff.mp hfit n hn) hjson
          exact ⟨⟨hnames, Json.membersWellFormed_iff.mpr fun m hmem => (hsound m hmem).1⟩,
            Nat.succ_le_succ (Json.membersDepth_le_iff.mpr fun m hmem => (hsound m hmem).2)⟩

/-- What is decoded from a document without doubles has none. -/
theorem doubleFree_json {document : Document} (hfree : document.DoubleFree) {origin : Origin}
    {v : Json} (hv : json origin document = .ok v) : v.DoubleFree := by
  induction document using Document.induct generalizing origin v with
  | null | bool _ =>
      cases hv
      trivial
  | number n =>
      cases n with
      | none => cases hv
      | some n =>
          cases hv
          cases n with
          | integer i => trivial
          | double d => exact hfree
  | string s =>
      cases s with
      | none => cases hv
      | some s =>
          cases hv
          trivial
  | array items ih =>
      obtain ⟨inner, values, -, hi, rfl⟩ := json_array_eq_ok hv
      refine Json.itemsDoubleFree_iff.mpr fun v hmem => ?_
      obtain ⟨d, hd, hjson⟩ := mem_jsonItems hi hmem
      exact ih d hd (itemsDoubleFree_iff.mp hfree d hd) hjson
  | object members ih =>
      obtain ⟨inner, values, -, hm, rfl⟩ := json_object_eq_ok hv
      refine Json.membersDoubleFree_iff.mpr fun m hmem => ?_
      rcases mem_jsonMembers hm hmem with hnone | ⟨n, hn, hjson⟩
      · cases hnone
      · exact ih n hn (membersDoubleFree_iff.mp hfree n hn) hjson

end Decoding

end Retrace
