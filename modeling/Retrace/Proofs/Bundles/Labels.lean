import Mathlib.Logic.Function.Basic
import Retrace.Stream

/-!
Labels of the events of a stream. They only reach the error of a refused stream, so other labels
give the same error about the same events, and never another bundle.
-/

namespace Retrace

/-- The error with its events named otherwise. -/
def StreamError.mapLabels (name : String → String) : StreamError → StreamError
  | .multipleTaskStarts labels => .multipleTaskStarts (labels.map name)
  | .taskStartNotFirst label found => .taskStartNotFirst (name label) found
  | .missingTaskMetadata label => .missingTaskMetadata (name label)
  | error => error

namespace Labelled

def mapLabel (name : String → String) (l : Labelled) : Labelled := ⟨name l.label, l.event⟩

theorem filter_map_mapLabel (name : String → String) (stream : List Labelled) :
    (stream.map (mapLabel name)).filter isTaskStart =
      (stream.filter isTaskStart).map (mapLabel name) := by
  rw [List.filter_map]
  rfl

theorem header_map_mapLabel (name : String → String) (stream : List Labelled) :
    header (stream.map (mapLabel name)) = (header stream).mapError (.mapLabels name) := by
  cases stream with
  | nil => rfl
  | cons first rest =>
      have hfilter := filter_map_mapLabel name (first :: rest)
      rw [List.map_cons] at hfilter ⊢
      unfold header
      simp only [hfilter]
      cases hstarts : (first :: rest).filter isTaskStart with
      | nil => rfl
      | cons start others =>
          cases others with
          | cons second others =>
              have hlabels : ((start :: second :: others).map (mapLabel name)).map label =
                  ((start :: second :: others).map label).map name := by
                rw [List.map_map, List.map_map]
                rfl
              simp only [List.map_cons] at hlabels ⊢
              rw [hlabels]
              rfl
          | nil =>
              have hfirst : (mapLabel name first).isTaskStart = first.isTaskStart := rfl
              simp only [List.map_cons, List.map_nil, hfirst]
              split
              · have hevent : (mapLabel name first).event = first.event := rfl
                rw [hevent]
                split
                · rfl
                · rfl
              · rfl

/-- A bundle does not depend on the labels, and an error only names the events otherwise. -/
theorem bundle_map_mapLabel (name : String → String) (stream : List Labelled) :
    bundle (stream.map (mapLabel name)) = (bundle stream).mapError (.mapLabels name) := by
  have hevents : (stream.map (mapLabel name)).map event = stream.map event := by
    rw [List.map_map]
    rfl
  rw [bundle, bundle, header_map_mapLabel, hevents]
  cases header stream with
  | error error => rfl
  | ok h => rfl

theorem eventLabel_injective : Function.Injective eventLabel := by
  intro i j h
  have hdigits : Nat.toDigits 10 i = Nat.toDigits 10 j := by
    have hlist := congrArg String.toList h
    rw [eventLabel, eventLabel, String.toList_append, String.toList_append,
      Nat.toString_eq_repr, Nat.toString_eq_repr, Nat.toList_repr, Nat.toList_repr] at hlist
    exact List.append_cancel_left hlist
  have hback := congrArg (fun digits => Nat.ofDigitChars 10 digits 0) hdigits
  rw [Nat.ofDigitChars_ten_toDigits, Nat.ofDigitChars_ten_toDigits] at hback
  exact hback

theorem map_event_byIndexFrom (lookup : Nat → String) (index : Nat) (events : List Event) :
    (byIndexFrom lookup index events).map event = events := by
  induction events generalizing index with
  | nil => rfl
  | cons e rest ih => rw [byIndexFrom, List.map_cons, ih]

theorem byIndexFrom_eq_self {lookup : Nat → String} {stream : List Labelled} {index : Nat}
    (h : ∀ i l, stream[i]? = some l → lookup (index + i) = l.label) :
    byIndexFrom lookup index (stream.map event) = stream := by
  induction stream generalizing index with
  | nil => rfl
  | cons first rest ih =>
      have hfirst : lookup index = first.label := h 0 first rfl
      have hrest : ∀ i l, rest[i]? = some l → lookup (index + 1 + i) = l.label := by
        intro i l hl
        rw [Nat.add_right_comm]
        exact h (i + 1) l hl
      rw [List.map_cons, byIndexFrom, ih hrest, hfirst]

theorem map_byIndexFrom (name : String → String) (lookup : Nat → String) (index : Nat)
    (events : List Event) :
    (byIndexFrom lookup index events).map (mapLabel name) =
      byIndexFrom (fun i => name (lookup i)) index events := by
  induction events generalizing index with
  | nil => rfl
  | cons e rest ih =>
      rw [byIndexFrom, byIndexFrom, List.map_cons, ih]
      rfl

/-- Any labels come from those by place, through one name for each place. -/
theorem exists_map_byIndex (stream : List Labelled) : ∃ name : String → String,
    (∀ i l, stream[i]? = some l → name (eventLabel i) = l.label) ∧
      (byIndex eventLabel (stream.map event)).map (mapLabel name) = stream := by
  let labelAt (i : Nat) : String := (stream[i]?.map label).getD ""
  have hname : ∀ i l, stream[i]? = some l →
      Function.extend eventLabel labelAt id (eventLabel i) = l.label := by
    intro i l hl
    rw [eventLabel_injective.extend_apply]
    simp only [labelAt, hl]
    rfl
  refine ⟨_, hname, ?_⟩
  rw [byIndex, map_byIndexFrom]
  refine byIndexFrom_eq_self fun i l hl => ?_
  rw [Nat.zero_add]
  exact hname i l hl

/-- A stream is refused as it is by place, with the labels exchanged. -/
theorem bundle_eq_mapError (stream : List Labelled) : ∃ name : String → String,
    (∀ i l, stream[i]? = some l → name (eventLabel i) = l.label) ∧
      bundle stream = (Bundle.ofEvents (stream.map event)).mapError (.mapLabels name) := by
  obtain ⟨name, hname, hstream⟩ := exists_map_byIndex stream
  refine ⟨name, hname, ?_⟩
  rw [Bundle.ofEvents, ← bundle_map_mapLabel, hstream]

theorem exists_taskId_of_header {stream : List Labelled} {h : TaskHeader}
    (hh : header stream = .ok h) : ∃ l ∈ stream, l.event.taskId = some h.taskId := by
  unfold header at hh
  split at hh
  · cases hh
  · next first rest =>
      split at hh
      · cases hh
      · cases hh
      · split at hh
        · split at hh
          · next taskId description htask _ =>
              cases hh
              refine ⟨first, List.mem_cons_self, ?_⟩
              exact (Option.filter_eq_some_iff.mp htask).1
          · cases hh
        · cases hh

/-- The task of a bundle is named by an event of its stream. -/
theorem exists_taskId_of_bundle {stream : List Labelled} {b : Bundle}
    (hb : bundle stream = .ok b) : ∃ l ∈ stream, l.event.taskId = some b.taskId := by
  rw [bundle] at hb
  cases hh : header stream with
  | error error =>
      rw [hh] at hb
      cases hb
  | ok h =>
      rw [hh] at hb
      cases hb
      exact exists_taskId_of_header hh

end Labelled

end Retrace
