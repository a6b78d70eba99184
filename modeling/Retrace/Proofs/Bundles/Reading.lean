import Retrace.Proofs.Bundles.Texts
import Retrace.Proofs.Decoding.Envelopes

/-!
What a bundle is read from. A text that is read as a bundle has an action for every element of its
list, named by the tag of the element, and a text with an element that is no action is not read at
all. The order of members does not matter, nor do members that are no part of a bundle.
-/

namespace Retrace

open Decoding Document

namespace Decoding

theorem forall₂_of_mapM {ε α β : Type} {f : α → Except ε β} {list : List α} {found : List β}
    (h : list.mapM f = .ok found) : List.Forall₂ (fun a b => f a = .ok b) list found := by
  induction list generalizing found with
  | nil =>
      cases h
      exact .nil
  | cons a rest ih =>
      rw [List.mapM_cons] at h
      obtain ⟨first, hfirst, h⟩ := bind_eq_ok_iff.mp h
      obtain ⟨others, hothers, h⟩ := bind_eq_ok_iff.mp h
      cases h
      exact .cons hfirst (ih hothers)

theorem toOption_mapM {ε α β : Type} {R : α → α → Prop} {f : α → Except ε β} {xs ys : List α}
    (h : List.Forall₂ R xs ys)
    (hsame : ∀ x ∈ xs, ∀ y ∈ ys, R x y → (f x).toOption = (f y).toOption) :
    (xs.mapM f).toOption = (ys.mapM f).toOption := by
  induction h with
  | nil => rfl
  | @cons x y xs ys hxy _ ih =>
      have hfirst := hsame x List.mem_cons_self y List.mem_cons_self hxy
      have hrest := ih fun x hx y hy => hsame x (List.mem_cons_of_mem _ hx) y
        (List.mem_cons_of_mem _ hy)
      simp only [List.mapM_cons, toOption_bind, hfirst, hrest]

theorem exists_of_sequence {α : Type} {decode : Decoder α} {origin : Origin} {d : Document}
    {found : List α} (h : Decoding.sequence decode origin d = .ok found) :
    ∃ items inner, d = .array items ∧ origin.enter = .ok inner ∧
      List.Forall₂ (fun item a => decode inner item = .ok a) items found := by
  cases d with
  | array items =>
      obtain ⟨inner, henter, hitems⟩ := bind_eq_ok_iff.mp h
      exact ⟨items, inner, rfl, henter, forall₂_of_mapM hitems⟩
  | _ =>
      simp only [Decoding.sequence] at h
      exact absurd h (mismatch_ne_ok _ _ found)

/-- A text that can be decoded as a value of no particular kind. -/
theorem legible_of_ofText {s : String} {v : Json} {d : Document} (h : Json.ofText s = .ok v)
    (hd : Document.read s = some d) : Legible (.text nestingLimit) d := by
  rw [Json.ofText, Decoding.ofText, hd] at h
  exact ⟨v, h⟩

end Decoding

namespace Bundle

variable {origin : Origin} {d e : Document} {b : Bundle}

theorem steady_record : record.Steady where
  fields f hf := by
    simp only [record, List.mem_cons, List.not_mem_nil, or_false] at hf
    rcases hf with rfl | rfl | rfl | rfl <;> exact RecordField.steady_mandatory _ _ _
  other _ _ _ _ t _ := ⟨t, rfl⟩

theorem commuting_record : record.Commuting where
  fields := by
    simp only [record, List.pairwise_cons, List.forall_mem_cons, List.not_mem_nil, false_implies,
      implies_true, List.Pairwise.nil, and_true]
    refine ⟨⟨?_, ?_, ?_⟩, ⟨?_, ?_⟩, ?_⟩ <;>
      exact RecordField.commute_mandatory fun _ _ _ => rfl
  skips _ _ _ _ := rfl

/-- A part of a bundle that the fields of other names do not touch. -/
theorem setOnlyBy_of_keeps {β : Type} {key : String} {part : Bundle → β}
    (goal : "ultimate_goal" ≠ key → ∀ b v, part { b with goal := v } = part b)
    (taskId : "task_id" ≠ key → ∀ b v, part { b with taskId := v } = part b)
    (replayType : "type" ≠ key → ∀ b v, part { b with replayType := v } = part b)
    (plan : "action_list" ≠ key → ∀ b v, part { b with plan := v } = part b) :
    record.SetOnlyBy key part := by
  constructor
  case fields =>
    intro f hf hne origin document s s' hread
    simp only [record, List.mem_cons, List.not_mem_nil, or_false] at hf
    rcases hf with rfl | rfl | rfl | rfl <;>
      obtain ⟨a, -, rfl⟩ := RecordField.exists_of_read_mandatory hread
    · exact goal hne s _
    · exact taskId hne s _
    · exact replayType hne s _
    · exact plan hne s _
  case other =>
    intro name origin document s s' hread
    cases hread
    rfl

theorem setOnlyBy_replayType : record.SetOnlyBy "type" Bundle.replayType :=
  setOnlyBy_of_keeps (fun _ _ _ => rfl) (fun _ _ _ => rfl) (fun hne => absurd rfl hne)
    fun _ _ _ => rfl

theorem setOnlyBy_plan : record.SetOnlyBy "action_list" Bundle.plan :=
  setOnlyBy_of_keeps (fun _ _ _ => rfl) (fun _ _ _ => rfl) (fun _ _ _ => rfl)
    fun hne => absurd rfl hne

theorem exists_of_ofItems {items : List Document} (h : record.ofItems origin items = .ok b) :
    ∃ goal id t x, items = [goal, id, t, x] ∧ choice ReplayType.known origin t = .ok b.replayType ∧
      Decoding.sequence Action.decode origin x = .ok b.plan := by
  obtain ⟨goal, _, s₁, rfl, -, h⟩ := Record.readItems_required rfl h
  obtain ⟨id, _, s₂, rfl, -, h⟩ := Record.readItems_required rfl h
  obtain ⟨t, _, s₃, rfl, ht, h⟩ := Record.readItems_required rfl h
  obtain ⟨x, _, s₄, rfl, hx, h⟩ := Record.readItems_required rfl h
  obtain ⟨rfl, rfl⟩ := Record.readItems_nil h
  obtain ⟨type, htype, rfl⟩ := RecordField.exists_of_read_mandatory ht
  obtain ⟨plan, hplan, rfl⟩ := RecordField.exists_of_read_mandatory hx
  exact ⟨goal, id, t, x, rfl, htype, hplan⟩

theorem exists_of_decode (h : decode origin d = .ok b) :
    ∃ inner t x, (∀ y, Held "type" 2 d y ↔ y = t) ∧ (∀ y, Held "action_list" 3 d y ↔ y = x) ∧
      choice ReplayType.known inner t = .ok b.replayType ∧
        Decoding.sequence Action.decode inner x = .ok b.plan := by
  obtain ⟨members, inner, rfl, -, h⟩ | ⟨items, inner, rfl, -, h⟩ := Record.decode_eq_ok h
  · obtain ⟨t, ht, htype⟩ := steady_record.exists_of_mandatory setOnlyBy_replayType rfl
      (fun _ _ => rfl) h
    obtain ⟨x, hx, hplan⟩ := steady_record.exists_of_mandatory setOnlyBy_plan rfl
      (fun _ _ => rfl) h
    exact ⟨inner, t, x, fun y => held_object_iff.trans (ht y),
      fun y => held_object_iff.trans (hx y), htype, hplan⟩
  · obtain ⟨goal, id, t, x, rfl, htype, hplan⟩ := exists_of_ofItems h
    refine ⟨inner, t, x, fun y => ?_, fun y => ?_, htype, hplan⟩
    · simp [held_array_iff, eq_comm]
    · simp [held_array_iff, eq_comm]

/-- What a bundle says of the document that it is read from. -/
structure ReadFrom (d : Document) (b : Bundle) : Prop where
  replayType : b.replayType = .exactReplay ∧
    ∃ t, (∀ x, Held "type" 2 d x ↔ x = t) ∧ Spells t "exact_replay"
  /-- There is one action for each element, with the name that the element is tagged with. -/
  plan : ∃ items, (∀ x, Held "action_list" 3 d x ↔ x = .array items) ∧
    List.Forall₂ (fun item a => ∀ name, Action.Tag item name ↔ name = a.name.text) items b.plan

theorem readFrom_of_decode (h : decode origin d = .ok b) : ReadFrom d b := by
  obtain ⟨inner, t, x, ht, hx, htype, hplan⟩ := exists_of_decode h
  constructor
  case replayType =>
    obtain ⟨name, hname, hlookup⟩ := spells_of_choice htype
    have hmem := Entries.mem_of_lookup hlookup
    rw [ReplayType.known, List.mem_singleton] at hmem
    obtain ⟨rfl, hexact⟩ := Prod.mk.inj hmem
    exact ⟨hexact, t, ht, hname⟩
  case plan =>
    obtain ⟨items, origin, rfl, -, hitems⟩ := exists_of_sequence hplan
    exact ⟨items, hx, hitems.imp fun item a h name => Action.tag_iff_of_decode h⟩

theorem not_flawed_of_decode (h : decode origin d = .ok b) {items : List Document}
    (hitems : Held "action_list" 3 d (.array items)) : ∀ item ∈ items, ¬ Action.Flawed item := by
  obtain ⟨inner, t, x, -, hx, -, hplan⟩ := exists_of_decode h
  obtain ⟨found, origin, rfl, -, hfound⟩ := exists_of_sequence hplan
  cases (hx _).mp hitems
  intro item hitem
  obtain ⟨a, -, ha⟩ := exists_mem_of_forall₂ hfound hitem
  exact Action.not_flawed_of_decode ha

/-- The same list with its elements rearranged within themselves. -/
def SameList (d e : Document) : Prop :=
  d = e ∨ ∃ items others, d = .array items ∧ e = .array others ∧
    List.Forall₂ Action.SameElement items others

/-- What may become of a member of a bundle. -/
def SamePart (name : String) (d e : Document) : Prop :=
  d = e ∨ name = "action_list" ∧ SameList d e

/-- The same bundle with its members, those of its elements and their parameters in another order,
or with other members that are no part of a bundle. -/
inductive SameBundle : Document → Document → Prop
  | same (d : Document) : SameBundle d d
  | object {members others : Members}
      (h : Reordered ["ultimate_goal", "task_id", "type", "action_list"] SamePart members others) :
      SameBundle (.object members) (.object others)
  | array {goal id t d e : Document} {rest : List Document} (h : SameList d e) :
      SameBundle (.array (goal :: id :: t :: d :: rest)) (.array (goal :: id :: t :: e :: rest))

theorem toOption_sequence (h : SameList d e) (hd : Legible origin d) (he : Legible origin e) :
    (Decoding.sequence Action.decode origin d).toOption =
      (Decoding.sequence Action.decode origin e).toOption := by
  obtain rfl | ⟨items, others, rfl, rfl, hsame⟩ := h
  · rfl
  · obtain ⟨inner, henter, hitems⟩ := hd.items
    have hothers := he.items_of_enter henter
    simp only [Decoding.sequence, henter]
    exact toOption_mapM hsame fun x hx y hy hxy =>
      Action.toOption_decode hxy (hitems x hx) (hothers y hy)

/-- A bundle whose members are rearranged is the same bundle, or none at all. -/
theorem toOption_decode (h : SameBundle d e) (hd : Legible origin d) (he : Legible origin e) :
    (decode origin d).toOption = (decode origin e).toOption := by
  cases h with
  | same => rfl
  | object hreordered =>
      obtain ⟨inner, henter, hmembers⟩ := hd.members
      have hothers := he.members_of_enter henter
      simp only [decode, Record.decode, henter]
      refine commuting_record.toOption_ofMembers ?_ hmembers hothers hreordered
      rintro f hf d e (rfl | ⟨hname, hsame⟩) hd he s
      · rfl
      · simp only [record, List.mem_cons, List.not_mem_nil, or_false] at hf
        rcases hf with rfl | rfl | rfl | rfl
        case inr.inr.inr =>
          have hplan := toOption_sequence hsame hd he
          simp only [RecordField.mandatory, toOption_map, hplan]
        all_goals exact absurd hname (by decide)
  | array hsame =>
      obtain ⟨inner, henter, hitems⟩ := hd.items
      have hothers := he.items_of_enter henter
      have hplan := toOption_sequence hsame (hitems _ (by simp)) (hothers _ (by simp))
      have hopened (items : List Document) :
          decode origin (.array items) = record.ofItems inner items := by
        simp only [decode, Record.decode, henter]
        rfl
      simp only [hopened, Record.ofItems, record, Record.readItems, RecordField.mandatory,
        List.length_cons, toOption_bind, toOption_map, hplan]

theorem exists_of_ofText {s : String} (h : ofText s = .ok b) :
    ∃ d, Document.read s = some d ∧ decode (.text nestingLimit) d = .ok b := by
  rw [ofText, Decoding.ofText] at h
  cases hd : Document.read s with
  | none =>
      rw [hd] at h
      cases h
  | some d =>
      rw [hd] at h
      exact ⟨d, rfl, h⟩

/-- A text that is read as a bundle has an action for each element of its list, in order and named
by the tag of the element. With an element that is no action, wherever it stands, the text is not
read as a bundle. Two texts that are JSON and differ in no more than the order of members, or in
members that are no part of a bundle, are read as the same bundle, or neither is. -/
theorem ofText_faithful (s : String) :
    (∀ b, ofText s = .ok b → ∃ d, Document.read s = some d ∧ ReadFrom d b) ∧
    (∀ d items, Document.read s = some d → Held "action_list" 3 d (.array items) →
      (∃ item ∈ items, Action.Flawed item) → ∀ b, ofText s ≠ .ok b) ∧
    ∀ other d e, Document.read s = some d → Document.read other = some e → SameBundle d e →
      (∃ v, Json.ofText s = .ok v) → (∃ v, Json.ofText other = .ok v) →
        (ofText s).toOption = (ofText other).toOption := by
  refine ⟨?_, ?_, ?_⟩
  · intro b h
    obtain ⟨d, hd, h⟩ := exists_of_ofText h
    exact ⟨d, hd, readFrom_of_decode h⟩
  · rintro d items hd hitems ⟨item, hitem, hflawed⟩ b h
    obtain ⟨d', hd', h⟩ := exists_of_ofText h
    cases hd.symm.trans hd'
    exact not_flawed_of_decode h hitems item hitem hflawed
  · rintro other d e hd he hsame ⟨v, hv⟩ ⟨w, hw⟩
    rw [ofText, ofText, Decoding.ofText, Decoding.ofText, hd, he]
    exact toOption_decode hsame (legible_of_ofText hv hd) (legible_of_ofText hw he)

/-- A bundle whose parameters stand before the tag, among notes, is the bundle in order without the
notes. With a tag that is no name it is no bundle. -/
theorem ofText_faithful_shuffled :
    let element (tag : String) : Json := .object [
      ("action_params", .object [("url", .string "http://a")]), ("note", .array []),
      ("action", .string tag)]
    let bundle (tag : String) : Json := .object [("action_list", .array [element tag]),
      ("type", .string "exact_replay"), ("note", .null), ("task_id", .string "1"),
      ("ultimate_goal", .string "find")]
    let tidy : Bundle := { goal := "find", taskId := "1", plan := [.openTab "http://a"] }
    (ofText (bundle "open_tab").compact).toOption = some tidy ∧
      ∀ b, ofText (bundle "open").compact ≠ .ok b := by
  intro element bundle tidy
  have hwell (tag : String) : (bundle tag).WellFormed := by
    simp [bundle, element, Json.WellFormed, Json.ItemsWellFormed, Json.MembersWellFormed]
  have hread (tag : String) :
      Document.read (bundle tag).compact = some (Document.ofJson (bundle tag)) := by
    refine Document.read_compact (hwell tag) ?_
    simp [bundle, element, Json.DoubleFree, Json.ItemsDoubleFree, Json.MembersDoubleFree]
  have htidy : Document.read tidy.compact = some (Document.ofJson tidy.toJson) :=
    Document.read_compact tidy.wellFormed_toJson tidy.doubleFree_toJson
  have hjson {v : Json} {s : String} (hs : Document.read s = some (Document.ofJson v))
      (hv : v.WellFormed) (hdepth : v.depth ≤ nestingLimit) : ∃ w, Json.ofText s = .ok w := by
    rw [Json.ofText, Decoding.ofText, hs]
    exact ⟨v, json_ofJson hv hdepth⟩
  constructor
  · have helement : Action.SameElement (Document.ofJson (element "open_tab"))
        (Document.ofJson (Action.openTab "http://a").toJson) := by
      refine .object ⟨_, (List.reverse_perm _).symm, ?_⟩
      exact .cons ⟨_, rfl, rfl, .inl rfl⟩ (.cons ⟨_, rfl, rfl, .inl rfl⟩ .nil)
    have hlist : SameList (.array [Document.ofJson (element "open_tab")])
        (.array [Document.ofJson (Action.openTab "http://a").toJson]) :=
      .inr ⟨_, _, rfl, rfl, .cons helement .nil⟩
    have hsame : SameBundle (Document.ofJson (bundle "open_tab"))
        (Document.ofJson tidy.toJson) := by
      refine .object ⟨_, (List.reverse_perm _).symm, ?_⟩
      exact .cons ⟨_, rfl, rfl, .inl rfl⟩ (.cons ⟨_, rfl, rfl, .inl rfl⟩
        (.cons ⟨_, rfl, rfl, .inl rfl⟩ (.cons ⟨_, rfl, rfl, .inr ⟨rfl, hlist⟩⟩ .nil)))
    have hsound := (ofText_faithful (bundle "open_tab").compact).2.2 _ _ _ (hread _) htidy hsame
      (hjson (hread _) (hwell _) (by decide)) (hjson htidy tidy.wellFormed_toJson (by decide))
    rw [hsound, tidy.ofText_compact]
    rfl
  · have hflawed : Action.Flawed (Document.ofJson (element "open")) := by
      refine .unknown ?_
      rintro n ⟨t, ht, hname⟩
      have hopen : t = .string (some "open") := by
        simpa [element, Document.ofJson, Document.ofMembers, held_object_iff] using ht
      subst hopen
      have htext : n.text = "open" := hname.unique (.plain "open")
      revert htext
      cases n <;> decide
    exact (ofText_faithful _).2.1 _ _ (hread "open") (.member List.mem_cons_self)
      ⟨_, List.mem_cons_self, hflawed⟩

end Bundle

end Retrace
