import Retrace.Compilation

/-!
A compilation accounts for every event of its stream, by actions or by an entry among the skipped.
What it says of an event depends on that event and its index alone, so the compilation of two
streams in a row is made of theirs, and an event that was skipped can as well be left out.
-/

namespace Retrace

def SkippedEvent.raise (n : Nat) (s : SkippedEvent) : SkippedEvent :=
  { s with index := s.index + n }

/-- The note when `n` more events come before its own. -/
def Note.raise (n : Nat) : Note → Note
  | .ignoredControl name => .ignoredControl name
  | .skipped event => .skipped (event.raise n)

/-- What an event adds to a plan. -/
def Event.actions (e : Event) : List Action := e.replay.toOption.getD []

def Event.isReplayed (e : Event) : Bool := e.replay.isOk

theorem Event.actions_eq_nil {e : Event} (h : ¬ e.isReplayed) : e.actions = [] := by
  cases hr : e.replay with
  | ok actions => exact absurd (by rw [isReplayed, hr]; rfl) h
  | error reason => simp [actions, hr, Except.toOption]

namespace Compilation

def raise (n : Nat) (c : Compilation) : Compilation :=
  ⟨c.plan, c.skipped.map (SkippedEvent.raise n), c.notes.map (Note.raise n)⟩

theorem append_assoc (a b c : Compilation) :
    (a.append b).append c = a.append (b.append c) := by
  simp [append]

theorem raise_append (n : Nat) (a b : Compilation) :
    (a.append b).raise n = (a.raise n).append (b.raise n) := by
  simp [raise, append]

theorem ofEvent_add (index n : Nat) (e : Event) :
    ofEvent (index + n) e = (ofEvent index e).raise n := by
  have hignored : (e.ignoredControls.map Note.ignoredControl).map (Note.raise n) =
      e.ignoredControls.map Note.ignoredControl := by
    rw [List.map_map]
    rfl
  cases h : e.replay with
  | ok actions => simp only [ofEvent, h, raise, hignored, List.map_nil]
  | error reason =>
      simp only [ofEvent, h, raise, List.map_append, hignored, List.map_cons, List.map_nil]
      rfl

theorem ofEventsFrom_add (index n : Nat) (events : List Event) :
    ofEventsFrom (index + n) events = (ofEventsFrom index events).raise n := by
  induction events generalizing index with
  | nil => rfl
  | cons e rest ih =>
      rw [ofEventsFrom, ofEventsFrom, ofEvent_add, Nat.add_right_comm, ih, raise_append]

theorem ofEventsFrom_append (index : Nat) (xs ys : List Event) :
    ofEventsFrom index (xs ++ ys) =
      (ofEventsFrom index xs).append (ofEventsFrom (index + xs.length) ys) := by
  induction xs generalizing index with
  | nil => rfl
  | cons e rest ih =>
      have hindex : index + 1 + rest.length = index + (e :: rest).length := by
        rw [List.length_cons]
        omega
      rw [List.cons_append, ofEventsFrom, ofEventsFrom, ih, append_assoc, hindex]

theorem ofEvents_append (xs ys : List Event) :
    ofEvents (xs ++ ys) = (ofEvents xs).append ((ofEvents ys).raise xs.length) := by
  rw [ofEvents, ofEventsFrom_append, ofEventsFrom_add]
  rfl

theorem plan_ofEventsFrom (index : Nat) (events : List Event) :
    (ofEventsFrom index events).plan = events.flatMap Event.actions := by
  induction events generalizing index with
  | nil => rfl
  | cons e rest ih =>
      have hfirst : (ofEvent index e).plan = e.actions := by
        cases h : e.replay <;> simp [ofEvent, Event.actions, h, Except.toOption]
      rw [ofEventsFrom, append, List.flatMap_cons, hfirst, ih]

/-- The entry among the skipped for an event with its index. -/
def skip? (p : Event × Nat) : Option SkippedEvent :=
  match p.1.replay with
  | .ok _ => none
  | .error reason => some ⟨p.2, p.1.kind.name, reason⟩

theorem skip?_eq_some_iff {e : Event} {index : Nat} {s : SkippedEvent} :
    skip? (e, index) = some s ↔
      index = s.index ∧ e.replay = .error s.reason ∧ s.eventType = e.kind.name := by
  obtain ⟨i, eventType, reason⟩ := s
  cases h : e.replay with
  | ok actions => simp [skip?, h]
  | error other =>
      simp only [skip?, h, Option.some.injEq, SkippedEvent.mk.injEq, Except.error.injEq]
      constructor
      · rintro ⟨hi, ht, hr⟩
        exact ⟨hi, hr, ht.symm⟩
      · rintro ⟨hi, hr, ht⟩
        exact ⟨hi, ht.symm, hr⟩

theorem skip?_eq_none_iff {p : Event × Nat} : skip? p = none ↔ p.1.isReplayed := by
  cases h : p.1.replay <;> simp [skip?, Event.isReplayed, h, Except.isOk, Except.toBool]

theorem skipped_ofEventsFrom (index : Nat) (events : List Event) :
    (ofEventsFrom index events).skipped = (events.zipIdx index).filterMap skip? := by
  induction events generalizing index with
  | nil => rfl
  | cons e rest ih =>
      rw [ofEventsFrom, append, ih, List.zipIdx_cons]
      cases h : e.replay with
      | ok actions =>
          have hskip : skip? (e, index) = none := by simp [skip?, h]
          simp [ofEvent, h, List.filterMap_cons_none hskip]
      | error reason =>
          have hskip : skip? (e, index) = some ⟨index, e.kind.name, reason⟩ := by
            simp [skip?, h]
          simp [ofEvent, h, List.filterMap_cons_some hskip]

theorem mem_skipped_iff {events : List Event} {s : SkippedEvent} :
    s ∈ (ofEvents events).skipped ↔
      ∃ e, events[s.index]? = some e ∧ e.replay = .error s.reason ∧
        s.eventType = e.kind.name := by
  rw [ofEvents, skipped_ofEventsFrom, List.mem_filterMap]
  constructor
  · rintro ⟨⟨e, index⟩, hmem, hskip⟩
    obtain ⟨rfl, herror, htype⟩ := skip?_eq_some_iff.mp hskip
    exact ⟨e, List.mk_mem_zipIdx_iff_getElem?.mp hmem, herror, htype⟩
  · rintro ⟨e, hget, herror, htype⟩
    refine ⟨(e, s.index), List.mk_mem_zipIdx_iff_getElem?.mpr hget, ?_⟩
    exact skip?_eq_some_iff.mpr ⟨rfl, herror, htype⟩

theorem pairwise_skipped (events : List Event) :
    (ofEvents events).skipped.Pairwise fun s t => s.index < t.index := by
  have hindices : (events.zipIdx).Pairwise fun p q => p.2 < q.2 := by
    have hrange := List.pairwise_lt_range' (s := 0) (n := events.length) 1
    rw [← List.zipIdx_map_snd, List.pairwise_map] at hrange
    exact hrange
  rw [ofEvents, skipped_ofEventsFrom]
  refine hindices.filterMap skip? ?_
  rintro ⟨e, i⟩ ⟨f, j⟩ hij s hs t ht
  rw [← (skip?_eq_some_iff.mp hs).1, ← (skip?_eq_some_iff.mp ht).1]
  exact hij

theorem warnings_ofEventsFrom (index : Nat) (events : List Event) :
    (ofEventsFrom index events).notes.filter (·.level = .warning) =
      (ofEventsFrom index events).skipped.map Note.skipped := by
  induction events generalizing index with
  | nil => rfl
  | cons e rest ih =>
      have hignored : (e.ignoredControls.map Note.ignoredControl).filter (·.level = .warning) =
          [] := by
        rw [List.filter_map, List.map_eq_nil_iff, List.filter_eq_nil_iff]
        intro name _
        simp [Note.level]
      rw [ofEventsFrom, append, List.filter_append, List.map_append, ih]
      congr 1
      cases h : e.replay with
      | ok actions => simp only [ofEvent, h, hignored, List.map_nil]
      | error reason =>
          simp only [ofEvent, h, List.filter_append, hignored, List.nil_append, List.map_cons,
            List.map_nil]
          rfl

/-- A stream without the events at the given indices. -/
def without (indices : List Nat) (events : List Event) : List Event :=
  (events.zipIdx.filter fun p => p.2 ∉ indices).map Prod.fst

theorem without_skipped (events : List Event) :
    without ((ofEvents events).skipped.map SkippedEvent.index) events =
      events.filter Event.isReplayed := by
  have hkept : ∀ p ∈ events.zipIdx,
      decide (p.2 ∉ (ofEvents events).skipped.map SkippedEvent.index) = p.1.isReplayed := by
    rintro ⟨e, i⟩ hp
    have hget := List.mk_mem_zipIdx_iff_getElem?.mp hp
    cases h : e.replay with
    | ok actions =>
        rw [Event.isReplayed, h]
        refine decide_eq_true ?_
        intro hmem
        obtain ⟨s, hs, rfl⟩ := List.mem_map.mp hmem
        obtain ⟨f, hf, herror, -⟩ := mem_skipped_iff.mp hs
        rw [hget] at hf
        cases hf
        rw [h] at herror
        cases herror
    | error reason =>
        rw [Event.isReplayed, h]
        refine decide_eq_false (not_not_intro (List.mem_map.mpr ?_))
        exact ⟨⟨i, e.kind.name, reason⟩, mem_skipped_iff.mpr ⟨e, hget, h, rfl⟩, rfl⟩
  rw [without, List.filter_congr hkept]
  conv => rhs; rw [← List.zipIdx_map_fst 0 events, List.filter_map]
  rfl

theorem plan_filter_isReplayed (events : List Event) :
    (events.filter Event.isReplayed).flatMap Event.actions =
      events.flatMap Event.actions := by
  induction events with
  | nil => rfl
  | cons e rest ih =>
      by_cases h : e.isReplayed
      · rw [List.filter_cons_of_pos h, List.flatMap_cons, List.flatMap_cons, ih]
      · rw [List.filter_cons_of_neg h, List.flatMap_cons, ih, Event.actions_eq_nil h]
        rfl

theorem skipped_filter_isReplayed (events : List Event) :
    (ofEvents (events.filter Event.isReplayed)).skipped = [] := by
  rw [ofEvents, skipped_ofEventsFrom, List.filterMap_eq_nil_iff]
  rintro ⟨e, i⟩ hp
  have hget := List.mk_mem_zipIdx_iff_getElem?.mp hp
  exact skip?_eq_none_iff.mpr (List.mem_filter.mp (List.mem_of_getElem? hget)).2

/-- Streams are compiled part by part; each event gives its actions or is skipped with a warning
under its index; and without the skipped events the plan is the same and nothing is skipped. -/
theorem ofEvents_by_parts (xs ys : List Event) :
    (ofEvents (xs ++ ys)).plan = (ofEvents xs).plan ++ (ofEvents ys).plan ∧
      (ofEvents (xs ++ ys)).skipped =
        (ofEvents xs).skipped ++ (ofEvents ys).skipped.map (SkippedEvent.raise xs.length) ∧
      (ofEvents (xs ++ ys)).notes =
        (ofEvents xs).notes ++ (ofEvents ys).notes.map (Note.raise xs.length) ∧
      (ofEvents xs).plan = xs.flatMap Event.actions ∧
      ((ofEvents xs).skipped.Pairwise fun s t => s.index < t.index) ∧
      (∀ s, s ∈ (ofEvents xs).skipped ↔
        ∃ e, xs[s.index]? = some e ∧ e.replay = .error s.reason ∧ s.eventType = e.kind.name) ∧
      (ofEvents xs).notes.filter (·.level = .warning) =
        (ofEvents xs).skipped.map Note.skipped ∧
      ((ofEvents xs).notes.filter (·.level = .warning)).map Note.message =
        (ofEvents xs).skipped.map (fun s => "Skipping event #" ++ toString s.index ++ " (" ++
          s.eventType ++ "): " ++ s.reason.message) ∧
      let kept := without ((ofEvents xs).skipped.map SkippedEvent.index) xs
      (ofEvents kept).plan = (ofEvents xs).plan ∧ (ofEvents kept).skipped = [] := by
  have happend := ofEvents_append xs ys
  have hwarnings := warnings_ofEventsFrom 0 xs
  refine ⟨congrArg plan happend, congrArg skipped happend, congrArg notes happend,
    plan_ofEventsFrom 0 xs, pairwise_skipped xs, fun s => mem_skipped_iff, hwarnings, ?_, ?_⟩
  · rw [ofEvents, hwarnings, List.map_map]
    rfl
  · rw [without_skipped]
    refine ⟨?_, skipped_filter_isReplayed xs⟩
    rw [ofEvents, ofEvents, plan_ofEventsFrom, plan_ofEventsFrom, plan_filter_isReplayed]

end Compilation

end Retrace
