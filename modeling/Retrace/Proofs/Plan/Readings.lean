import Retrace.Proofs.Bundles.Labels

/-!
What is read of an event once it is decoded: the controls of a form and the first entry of a
history, but not the other members it was recorded with. Streams of events that read alike are
compiled alike, and accepted or refused alike.
-/

namespace Retrace

/-- What compilation reads of an event. -/
structure Reading where
  kind : EventKind
  target : Option Target
  controls : Option (List (String × Control))
  navigation : Option NavigationEntry
  taskId : Option String
  description : Option String

namespace Event

def reading (e : Event) : Reading where
  kind := e.kind
  target := e.target
  controls := e.controls
  navigation := e.firstNavigation
  taskId := e.taskId
  description := e.description

variable {e f : Event}

theorem replay_congr (h : e.reading = f.reading) : e.replay = f.replay := by
  have hkind : e.kind = f.kind := congrArg Reading.kind h
  have htarget : e.target = f.target := congrArg Reading.target h
  have hcontrols : e.controls = f.controls := congrArg Reading.controls h
  have hnavigation : e.firstNavigation = f.firstNavigation := congrArg Reading.navigation h
  have hdescription : e.description = f.description := congrArg Reading.description h
  simp only [replay, replayTaskStart, replayClick, locator?, replayNavigation, replaySubmit,
    submission, replayInputChange, replayTaskFinish, hkind, htarget, hcontrols, hnavigation,
    hdescription]

theorem ignoredControls_congr (h : e.reading = f.reading) :
    e.ignoredControls = f.ignoredControls := by
  have hkind : e.kind = f.kind := congrArg Reading.kind h
  have hcontrols : e.controls = f.controls := congrArg Reading.controls h
  rw [ignoredControls, ignoredControls, hkind, hcontrols]

end Event

namespace Compilation

theorem ofEvent_congr {e f : Event} (h : e.reading = f.reading) (index : Nat) :
    ofEvent index e = ofEvent index f := by
  have hkind : e.kind = f.kind := congrArg Reading.kind h
  rw [ofEvent, ofEvent, Event.replay_congr h, Event.ignoredControls_congr h, hkind]

theorem ofEventsFrom_congr {events others : List Event}
    (h : events.map Event.reading = others.map Event.reading) (index : Nat) :
    ofEventsFrom index events = ofEventsFrom index others := by
  induction events generalizing others index with
  | nil =>
      rw [List.map_nil, eq_comm, List.map_eq_nil_iff] at h
      rw [h]
  | cons e rest ih =>
      obtain ⟨f, others, rfl, hfirst, hrest⟩ := List.map_eq_cons_iff.mp h.symm
      rw [ofEventsFrom, ofEventsFrom, ofEvent_congr hfirst.symm, ih hrest.symm]

end Compilation

namespace Labelled

/-- The label and the members that the header of a stream is made of. -/
def bare (l : Labelled) : Labelled where
  label := l.label
  event := { kind := l.event.kind, taskId := l.event.taskId, description := l.event.description }

theorem header_map_bare (stream : List Labelled) : header (stream.map bare) = header stream := by
  cases stream with
  | nil => rfl
  | cons first rest =>
      have hfilter : ((first :: rest).map bare).filter isTaskStart =
          ((first :: rest).filter isTaskStart).map bare := by
        rw [List.filter_map]
        rfl
      rw [List.map_cons] at hfilter ⊢
      simp only [header, hfilter]
      cases (first :: rest).filter isTaskStart with
      | nil => rfl
      | cons start others =>
          cases others with
          | nil => rfl
          | cons second others =>
              have hlabels : ((start :: second :: others).map bare).map label =
                  (start :: second :: others).map label := by
                rw [List.map_map]
                rfl
              rw [hlabels]
              rfl

theorem map_bare_byIndexFrom {events others : List Event}
    (h : events.map Event.reading = others.map Event.reading) (lookup : Nat → String)
    (index : Nat) :
    (byIndexFrom lookup index events).map bare = (byIndexFrom lookup index others).map bare := by
  induction events generalizing others index with
  | nil =>
      rw [List.map_nil, eq_comm, List.map_eq_nil_iff] at h
      rw [h]
  | cons e rest ih =>
      obtain ⟨f, others, rfl, hfirst, hrest⟩ := List.map_eq_cons_iff.mp h.symm
      have hkind : f.kind = e.kind := congrArg Reading.kind hfirst
      have htaskId : f.taskId = e.taskId := congrArg Reading.taskId hfirst
      have hdescription : f.description = e.description := congrArg Reading.description hfirst
      rw [byIndexFrom, byIndexFrom, List.map_cons, List.map_cons, ih hrest.symm]
      simp only [bare, hkind, htaskId, hdescription]

end Labelled

theorem Bundle.ofEvents_congr {events others : List Event}
    (h : events.map Event.reading = others.map Event.reading) :
    ofEvents events = ofEvents others := by
  have hheader : Labelled.header (Labelled.byIndex Labelled.eventLabel events) =
      Labelled.header (Labelled.byIndex Labelled.eventLabel others) := by
    rw [← Labelled.header_map_bare, Labelled.byIndex, Labelled.map_bare_byIndexFrom h,
      ← Labelled.byIndex, Labelled.header_map_bare]
  rw [ofEvents, ofEvents, Labelled.bundle, Labelled.bundle, hheader, Labelled.byIndex,
    Labelled.byIndex, Labelled.map_event_byIndexFrom, Labelled.map_event_byIndexFrom,
    Compilation.ofEvents, Compilation.ofEvents, Compilation.ofEventsFrom_congr h]

end Retrace
