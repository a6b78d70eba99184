import Retrace.Proofs.Decoding.Members
import Retrace.Proofs.Entries

/-!
The members of an event that the library does not read. They stay as they were recorded: under their
names in the order in which these were first seen, each with the value that was last given to it.
-/

namespace Retrace.Event

open Decoding

variable {origin : Origin} {members : Document.Members} {extra : Json.Members} {name : String}

/-- The names of the members that have fields of their own. -/
def knownNames : List String := ["type", "eventTarget", "allEvents", "taskId", "taskDescription"]

theorem field?_eq_none_iff : record.field? name = none ↔ name ∉ knownNames := by
  have hnames : knownNames = record.fields.map RecordField.name := rfl
  rw [hnames, List.mem_map, Record.field?, List.find?_eq_none]
  constructor
  · rintro h ⟨f, hf, rfl⟩
    exact h f hf (beq_self_eq_true f.name)
  · intro h f hf hname
    exact h ⟨f, hf, eq_of_beq hname⟩

theorem extra_of_read {f : RecordField Event} (hf : f ∈ record.fields)
    {d : Document} {s s' : Event} (h : f.read origin d s = .ok s') : s'.extra = s.extra := by
  simp only [record, List.mem_cons, List.not_mem_nil, or_false] at hf
  rcases hf with rfl | rfl | rfl | rfl | rfl
  all_goals
    obtain ⟨a, -, rfl⟩ := RecordField.exists_of_read_optional h
    rfl

/-- The members that stay in `extra`: each name once, where it was first seen, with the value that
was last given to it. -/
structure Gathered (origin : Origin) (members : Document.Members) (extra : Json.Members) :
    Prop where
  names : extra.map Prod.fst = ((members.filterMap Prod.fst).filter (· ∉ knownNames)).eraseDups
  nodup : (extra.map Prod.fst).Nodup
  values : ∀ name v, extra.lookup name = some v →
    ∃ d, members.reverse.lookup (some name) = some d ∧ json origin d = .ok v

theorem gathered_nil (origin : Origin) : Gathered origin [] [] := ⟨rfl, List.nodup_nil, nofun⟩

theorem Gathered.notMem_knownNames (h : Gathered origin members extra)
    (hname : name ∈ extra.map Prod.fst) : name ∉ knownNames := by
  rw [h.names, List.mem_eraseDups] at hname
  exact of_decide_eq_true (List.mem_filter.mp hname).2

theorem lookup_reverse_of_ne {other : String} (hne : other ≠ name) (d : Document) :
    (members ++ [(some name, d)]).reverse.lookup (some other) =
      members.reverse.lookup (some other) := by
  rw [List.reverse_append, List.reverse_singleton, List.singleton_append, List.lookup_cons,
    beq_false_of_ne fun heq => hne (Option.some.inj heq)]

theorem Gathered.known (h : Gathered origin members extra) (hname : name ∈ knownNames)
    (d : Document) : Gathered origin (members ++ [(some name, d)]) extra := by
  constructor
  case names => simp [h.names, hname]
  case nodup => exact h.nodup
  case values =>
    intro other v hv
    have hother := h.notMem_knownNames
      (List.mem_map.mpr ⟨_, Entries.mem_of_lookup hv, rfl⟩)
    have hne : other ≠ name := by
      rintro rfl
      exact hother hname
    rw [lookup_reverse_of_ne hne]
    exact h.values other v hv

theorem Gathered.other (h : Gathered origin members extra) (hname : name ∉ knownNames)
    {d : Document} {v : Json} (hv : json origin d = .ok v) :
    Gathered origin (members ++ [(some name, d)]) (Entries.set name v extra) := by
  constructor
  case names =>
    have hnew : ([(some name, d)].filterMap Prod.fst).filter (· ∉ knownNames) = [name] := by
      simp [hname]
    rw [Entries.names_set, List.filterMap_append, List.filter_append, hnew,
      Entries.eraseDups_append_singleton, h.names]
    simp only [List.mem_eraseDups]
  case nodup => exact Entries.nodup_names_set h.nodup
  case values =>
    intro other w hw
    rw [Entries.lookup_set] at hw
    by_cases hne : other = name
    · rw [if_pos hne] at hw
      cases hw
      refine ⟨d, ?_, hv⟩
      rw [hne, List.reverse_append, List.reverse_singleton, List.singleton_append,
        List.lookup_cons_self]
    · rw [if_neg hne] at hw
      rw [lookup_reverse_of_ne hne]
      exact h.values other w hw

theorem gathered_of_readMembers {e : Event} {seen : List String}
    (hread : record.readMembers origin [] record.start members = .ok (seen, e)) :
    Gathered origin members e.extra := by
  refine Record.readMembers_induct (motive := fun front s => Gathered origin front s.extra) ?_ ?_
    hread (gathered_nil origin)
  · intro front name f d s s' hf hs h
    have hname : name ∈ knownNames := by
      refine Decidable.byContradiction fun hunknown => ?_
      rw [field?_eq_none_iff.mpr hunknown] at hf
      cases hf
    rw [extra_of_read (List.mem_of_find?_eq_some hf) hs]
    exact h.known hname d
  · intro front name d s s' hf hs h
    obtain ⟨v, hv, rfl⟩ := of_other hs
    exact h.other (field?_eq_none_iff.mp hf) hv

end Retrace.Event
