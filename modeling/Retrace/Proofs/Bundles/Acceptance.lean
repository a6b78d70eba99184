import Mathlib.Data.Set.List
import Retrace.Proofs.Bundles.Labels
import Retrace.Store.Loading

/-!
Which streams are accepted for a bundle, and what the others are refused for. `Judged` says it by
the task-start events of a stream alone; a stream has exactly one judgement. Events that are named
by their files are judged as those that are named by their places, about the same events.
-/

namespace Retrace

/-- The events record one task. The first of them is the only task-start event, and it names the
task and describes it. -/
structure RecordsTask (id description : String) (first : Event) (rest : List Event) : Prop where
  start : first.kind = .taskStart
  only : ∀ e ∈ rest, e.kind ≠ .taskStart
  taskId : first.taskId = some id
  taskId_ne : id ≠ ""
  described : first.description = some description
  description_ne : description ≠ ""

/-- The labels of the events that an error names. -/
def StreamError.labels : StreamError → List String
  | .emptyStream | .missingTaskStart => []
  | .multipleTaskStarts labels => labels
  | .taskStartNotFirst label _ | .missingTaskMetadata label => [label]

namespace Labelled

/-- What becomes of a stream. -/
inductive Judged : List Labelled → Except StreamError Bundle → Prop
  | empty : Judged [] (.error .emptyStream)
  | noStart {stream : List Labelled} (hsome : stream ≠ [])
      (hnone : ∀ l ∈ stream, l.event.kind ≠ .taskStart) :
      Judged stream (.error .missingTaskStart)
  | severalStarts {stream : List Labelled} (hseveral : 2 ≤ (stream.filter isTaskStart).length) :
      Judged stream (.error (.multipleTaskStarts ((stream.filter isTaskStart).map label)))
  | lateStart {first : Labelled} {rest : List Labelled}
      (hfirst : first.event.kind ≠ .taskStart)
      (hone : (rest.filter isTaskStart).length = 1) :
      Judged (first :: rest)
        (.error (.taskStartNotFirst first.label first.event.kind.name))
  | noMetadata {first : Labelled} {rest : List Labelled}
      (hfirst : first.event.kind = .taskStart) (hrest : ∀ l ∈ rest, l.event.kind ≠ .taskStart)
      (hmissing : first.event.taskId.getD "" = "" ∨ first.event.description.getD "" = "") :
      Judged (first :: rest) (.error (.missingTaskMetadata first.label))
  | accepted {first : Labelled} {rest : List Labelled} {id description : String}
      (h : RecordsTask id description first.event (rest.map event)) :
      Judged (first :: rest)
        (.ok { goal := description, taskId := id,
               plan := (Compilation.ofEvents (first.event :: rest.map event)).plan })

variable {stream : List Labelled}

theorem isTaskStart_iff {l : Labelled} : l.isTaskStart ↔ l.event.kind = .taskStart :=
  decide_eq_true_iff

theorem filter_isTaskStart_eq_nil_iff :
    stream.filter isTaskStart = [] ↔ ∀ l ∈ stream, l.event.kind ≠ .taskStart := by
  simp only [List.filter_eq_nil_iff, isTaskStart_iff, ne_eq]

theorem filter_cons_eq_singleton {first : Labelled} {rest : List Labelled}
    (hfirst : first.event.kind = .taskStart) (hrest : ∀ l ∈ rest, l.event.kind ≠ .taskStart) :
    (first :: rest).filter isTaskStart = [first] := by
  rw [List.filter_cons_of_pos (isTaskStart_iff.mpr hfirst),
    filter_isTaskStart_eq_nil_iff.mpr hrest]

theorem getD_ne_empty_iff {field : Option String} :
    field.getD "" ≠ "" ↔ ∃ text, field = some text ∧ text ≠ "" := by
  cases field <;> simp

theorem filter_ne_empty_eq_none_iff {field : Option String} :
    field.filter (· ≠ "") = none ↔ field.getD "" = "" := by
  cases field <;> simp

/-- A judgement is what the stream comes to. -/
theorem Judged.bundle_eq {result : Except StreamError Bundle} (h : Judged stream result) :
    bundle stream = result := by
  cases h with
  | empty => rfl
  | noStart hsome hnone =>
      have hstarts := filter_isTaskStart_eq_nil_iff.mpr hnone
      cases stream with
      | nil => exact absurd rfl hsome
      | cons first rest =>
          simp only [bundle, header, hstarts]
          rfl
  | severalStarts hseveral =>
      cases stream with
      | nil => simp at hseveral
      | cons first rest =>
          simp only [bundle, header]
          cases hstarts : (first :: rest).filter isTaskStart with
          | nil => simp [hstarts] at hseveral
          | cons start others =>
              cases others with
              | nil => simp [hstarts] at hseveral
              | cons second others => rfl
  | @lateStart first rest hfirst hone =>
      have hnot : ¬ first.isTaskStart := fun hs => hfirst (isTaskStart_iff.mp hs)
      obtain ⟨start, hstart⟩ := List.length_eq_one_iff.mp hone
      simp only [bundle, header, List.filter_cons_of_neg hnot, hstart, if_neg hnot]
      rfl
  | @noMetadata first rest hfirst hrest hmissing =>
      simp only [bundle, header, filter_cons_eq_singleton hfirst hrest,
        if_pos (isTaskStart_iff.mpr hfirst)]
      rcases hmissing with hid | hdescription
      · rw [filter_ne_empty_eq_none_iff.mpr hid]
        rfl
      · rw [filter_ne_empty_eq_none_iff.mpr hdescription]
        cases first.event.taskId.filter (· ≠ "") <;> rfl
  | @accepted first rest id description h =>
      have hrest : ∀ l ∈ rest, l.event.kind ≠ .taskStart := fun l hl =>
        h.only l.event (List.mem_map_of_mem hl)
      have hid : first.event.taskId.filter (· ≠ "") = some id :=
        Option.filter_eq_some_iff.mpr ⟨h.taskId, decide_eq_true h.taskId_ne⟩
      have hdescription : first.event.description.filter (· ≠ "") = some description :=
        Option.filter_eq_some_iff.mpr ⟨h.described, decide_eq_true h.description_ne⟩
      simp only [bundle, header, filter_cons_eq_singleton h.start hrest,
        if_pos (isTaskStart_iff.mpr h.start), hid, hdescription]
      rfl

theorem exists_judged (stream : List Labelled) : ∃ result, Judged stream result := by
  cases stream with
  | nil => exact ⟨_, .empty⟩
  | cons first rest =>
      cases hstarts : (first :: rest).filter isTaskStart with
      | nil => exact ⟨_, .noStart nofun (filter_isTaskStart_eq_nil_iff.mp hstarts)⟩
      | cons start others =>
          cases others with
          | cons second others =>
              refine ⟨_, .severalStarts ?_⟩
              rw [hstarts]
              exact Nat.le_add_left 2 others.length
          | nil =>
              by_cases hfirst : first.event.kind = .taskStart
              · rw [List.filter_cons_of_pos (isTaskStart_iff.mpr hfirst)] at hstarts
                have hrest := filter_isTaskStart_eq_nil_iff.mp (List.cons.inj hstarts).2
                by_cases hmissing :
                    first.event.taskId.getD "" = "" ∨ first.event.description.getD "" = ""
                · exact ⟨_, .noMetadata hfirst hrest hmissing⟩
                · rw [not_or] at hmissing
                  obtain ⟨id, hid, hidne⟩ := getD_ne_empty_iff.mp hmissing.1
                  obtain ⟨description, hd, hdne⟩ := getD_ne_empty_iff.mp hmissing.2
                  refine ⟨_, .accepted ⟨hfirst, ?_, hid, hidne, hd, hdne⟩⟩
                  exact List.forall_mem_map.mpr hrest
              · have hnot : ¬ first.isTaskStart := fun hs => hfirst (isTaskStart_iff.mp hs)
                rw [List.filter_cons_of_neg hnot] at hstarts
                exact ⟨_, .lateStart hfirst (List.length_eq_one_iff.mpr ⟨start, hstarts⟩)⟩

theorem judged_iff {result : Except StreamError Bundle} :
    Judged stream result ↔ bundle stream = result := by
  refine ⟨Judged.bundle_eq, ?_⟩
  rintro rfl
  obtain ⟨result, h⟩ := exists_judged stream
  rw [h.bundle_eq]
  exact h

theorem exists_of_mem_labels {error : StreamError} (h : bundle stream = .error error)
    {name : String} (hname : name ∈ error.labels) : ∃ l ∈ stream, l.label = name := by
  cases judged_iff.mpr h with
  | empty | noStart => cases hname
  | severalStarts =>
      obtain ⟨l, hl, rfl⟩ := List.mem_map.mp hname
      exact ⟨l, (List.mem_filter.mp hl).1, rfl⟩
  | lateStart | noMetadata =>
      rw [List.mem_singleton.mp hname]
      exact ⟨_, List.mem_cons_self, rfl⟩

theorem exists_of_mem_byIndexFrom {lookup : Nat → String} {index : Nat} {events : List Event}
    {l : Labelled} (h : l ∈ byIndexFrom lookup index events) :
    ∃ i, i < events.length ∧ l.label = lookup (index + i) := by
  induction events generalizing index with
  | nil => cases h
  | cons e rest ih =>
      cases List.mem_cons.mp h with
      | inl hfirst => exact ⟨0, Nat.succ_pos _, by rw [hfirst]; rfl⟩
      | inr hrest =>
          obtain ⟨i, hi, hl⟩ := ih hrest
          exact ⟨i + 1, Nat.succ_lt_succ hi, by rw [hl]; congr 1; omega⟩

/-- Two outcomes of a stream that are the same, the first naming events by their labels and the
second by their places. -/
inductive SameOutcome (stream : List Labelled) :
    Except StreamError Bundle → Except StreamError Bundle → Prop
  | accepted (b : Bundle) : SameOutcome stream (.ok b) (.ok b)
  | emptyStream : SameOutcome stream (.error .emptyStream) (.error .emptyStream)
  | missingTaskStart : SameOutcome stream (.error .missingTaskStart) (.error .missingTaskStart)
  | multipleTaskStarts (places : List (Fin stream.length)) :
      SameOutcome stream (.error (.multipleTaskStarts (places.map fun i => stream[i].label)))
        (.error (.multipleTaskStarts (places.map fun (i : Fin _) => eventLabel i)))
  | taskStartNotFirst (place : Fin stream.length) (found : String) :
      SameOutcome stream (.error (.taskStartNotFirst stream[place].label found))
        (.error (.taskStartNotFirst (eventLabel place) found))
  | missingTaskMetadata (place : Fin stream.length) :
      SameOutcome stream (.error (.missingTaskMetadata stream[place].label))
        (.error (.missingTaskMetadata (eventLabel place)))

theorem sameOutcome_bundle (stream : List Labelled) :
    SameOutcome stream (bundle stream) (Bundle.ofEvents (stream.map event)) := by
  obtain ⟨name, hname, hbundle⟩ := bundle_eq_mapError stream
  have hplace : ∀ i : Fin stream.length, name (eventLabel i) = stream[i].label := fun i =>
    hname i _ (List.getElem?_eq_getElem i.isLt)
  rw [hbundle]
  cases hresult : Bundle.ofEvents (stream.map event) with
  | ok b => exact .accepted b
  | error error =>
      have hplaces : ∀ label ∈ error.labels, ∃ i : Fin stream.length, eventLabel i = label := by
        intro label hlabel
        obtain ⟨l, hl, rfl⟩ := exists_of_mem_labels hresult hlabel
        obtain ⟨i, hi, hi'⟩ := exists_of_mem_byIndexFrom hl
        rw [List.length_map] at hi
        exact ⟨⟨i, hi⟩, by rw [hi', Nat.zero_add]⟩
      cases error with
      | emptyStream => exact .emptyStream
      | missingTaskStart => exact .missingTaskStart
      | multipleTaskStarts labels =>
          obtain ⟨places, rfl⟩ : labels ∈ Set.range (List.map fun i : Fin stream.length =>
              eventLabel i) := by
            rw [Set.range_list_map]
            exact hplaces
          have hlabels : (places.map fun (i : Fin _) => eventLabel i).map name =
              places.map fun i => stream[i].label := by
            rw [List.map_map]
            exact List.map_congr_left fun i _ => hplace i
          rw [Except.mapError, StreamError.mapLabels, hlabels]
          exact .multipleTaskStarts places
      | taskStartNotFirst label found =>
          obtain ⟨place, rfl⟩ := hplaces label List.mem_cons_self
          rw [Except.mapError, StreamError.mapLabels, hplace]
          exact .taskStartNotFirst place found
      | missingTaskMetadata label =>
          obtain ⟨place, rfl⟩ := hplaces label List.mem_cons_self
          rw [Except.mapError, StreamError.mapLabels, hplace]
          exact .missingTaskMetadata place

theorem exists_bundle_iff : (∃ b, bundle stream = .ok b) ↔ ∃ first rest id description,
    stream.map event = first :: rest ∧ RecordsTask id description first rest := by
  constructor
  · rintro ⟨b, hb⟩
    cases judged_iff.mpr hb with
    | accepted h => exact ⟨_, _, _, _, rfl, h⟩
  · rintro ⟨first, rest, id, description, hstream, h⟩
    cases stream with
    | nil => cases hstream
    | cons l others =>
        cases hstream
        exact ⟨_, judged_iff.mp (.accepted h)⟩

end Labelled

namespace Bundle

open Labelled

/-- Loaded events are accepted exactly when they record a task, and are judged under the names of
their files. Only places in the list are looked up for a name, and naming the events by their places
makes no other difference. -/
theorem ofLoaded_judged (loaded : List LoadedEvent) :
    ((∃ b, ofLoaded loaded = .ok b) ↔ ∃ first rest id description,
        loaded.map LoadedEvent.event = first :: rest ∧
          RecordsTask id description first rest) ∧
      (∀ result, ofLoaded loaded = result ↔
        Judged (loaded.map LoadedEvent.labelled) result) ∧
      (∀ lookup : Nat → String, (∀ i (h : i < loaded.length), lookup i = loaded[i].label) →
        bundle (byIndex lookup (loaded.map LoadedEvent.event)) = ofLoaded loaded) ∧
      SameOutcome (loaded.map LoadedEvent.labelled) (ofLoaded loaded)
        (ofEvents (loaded.map LoadedEvent.event)) := by
  have hevents : (loaded.map LoadedEvent.labelled).map Labelled.event =
      loaded.map LoadedEvent.event := by
    rw [List.map_map]
    rfl
  refine ⟨?_, fun result => judged_iff.symm, ?_, ?_⟩
  · rw [← hevents]
    exact exists_bundle_iff
  · intro lookup hlookup
    have hlabels : byIndex lookup (loaded.map LoadedEvent.event) =
        loaded.map LoadedEvent.labelled := by
      rw [← hevents, byIndex]
      refine byIndexFrom_eq_self fun i l hl => ?_
      rw [List.getElem?_map, Option.map_eq_some_iff] at hl
      obtain ⟨file, hfile, rfl⟩ := hl
      obtain ⟨hi, rfl⟩ := List.getElem?_eq_some_iff.mp hfile
      rw [Nat.zero_add]
      exact hlookup i hi
    rw [hlabels]
    rfl
  · rw [← hevents]
    exact sameOutcome_bundle _

/-- A task-start event that comes late, with its file names looked up by place. -/
theorem ofLoaded_judged_late :
    let loaded : List LoadedEvent :=
      [⟨⟨"day", ["01.json"]⟩, { kind := .click }⟩, ⟨⟨"day", ["02.json"]⟩, { kind := .taskStart }⟩]
    let lookup : Nat → String := fun i => ["01.json", "02.json"].getD i ""
    (∀ i (h : i < loaded.length), lookup i = loaded[i].label) ∧
      bundle (byIndex lookup (loaded.map LoadedEvent.event)) =
        .error (.taskStartNotFirst "01.json" "click") := by
  intro loaded lookup
  have hlookup : ∀ i (h : i < loaded.length), lookup i = loaded[i].label := by
    decide +kernel
  have hfirst : (LoadedEvent.label ⟨⟨"day", ["01.json"]⟩, { kind := .click }⟩) = "01.json" := by
    decide +kernel
  refine ⟨hlookup, ((ofLoaded_judged loaded).2.2.1 lookup hlookup).trans ?_⟩
  refine ((ofLoaded_judged loaded).2.1 _).mpr ?_
  rw [← hfirst]
  exact .lateStart nofun rfl

end Bundle

end Retrace
