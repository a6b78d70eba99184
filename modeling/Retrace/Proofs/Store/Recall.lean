import Mathlib.Data.List.Basic
import Retrace.Proofs.Decoding.Members
import Retrace.Proofs.Files.Listing
import Retrace.Proofs.Files.Order
import Retrace.Proofs.Store.Contents
import Retrace.Store.Loading

/-!
What is loaded from a store after a run of saves: the saved events of a task that can be read as
events, each once, in the order of the saves.
-/

namespace Retrace

open Decoding Files Files.Node

theorem isEventFileName_eventFileName (moment : Moment) (number : UInt64) :
    isEventFileName (eventFileName moment number) = true := by
  have hsplit : (eventFileName moment number).toList =
      ("summary_event_".toList ++ (moment.stampChars ++
        '_' :: Decimal.padded 6 number.toNat)) ++ '.' :: ['j', 's', 'o', 'n'] := by
    rw [toList_eventFileName]
    simp only [List.append_assoc, List.cons_append]
    rfl
  rw [isEventFileName, hsplit, Text.cutLast?_append (by simp) (by decide)]
  rfl

namespace Entry

theorem isEventFileName_name (e : Entry) : isEventFileName e.name = true := by
  rw [name]
  exact isEventFileName_eventFileName e.moment _

/-- For one task the routes of the files are in the order of the saves. -/
theorem route_le {e later : Entry} (he : e.moment.InRange) (hl : later.moment.InRange)
    (h : e.Before later) (hbound : later.number < 1000000) (hid : e.id = later.id) :
    Route.le e.route later.route = true := by
  refine Route.le_cons_iff.mpr ((Moment.dayText_le he hl h.moment).imp_right fun hday => ?_)
  refine ⟨hday, Route.le_cons_iff.mpr (.inr ⟨hid, ?_⟩)⟩
  exact Route.le_cons_iff.mpr (.inl (name_lt he hl h hbound))

end Entry

namespace Store

/-- The event files of a task below the folder of a day. -/
def dayFiles (id : String) (day : Node) : List Route :=
  match day.at? [id] with
  | some (.folder entries) => (Node.folder entries).eventFiles.map (id :: ·)
  | _ => []

theorem mem_dayFiles_iff {id : String} {day : Node} (h : day.WellFormed) {route : Route} :
    route ∈ dayFiles id day ↔ ∃ rest content, rest.getLast?.any isEventFileName = true ∧
      route = id :: rest ∧ day.at? route = some (.file content) := by
  unfold dayFiles
  split
  · next entries he =>
      have hw := wellFormed_of_at? h he
      have hbelow : ∀ rest, day.at? (id :: rest) = (Node.folder entries).at? rest := by
        intro rest
        have happend := at?_append [id] rest day
        rw [he] at happend
        exact happend
      simp only [List.mem_map, Node.eventFiles, Route.sort, List.mem_mergeSort, List.mem_filter]
      constructor
      · rintro ⟨rest, ⟨hfile, hname⟩, rfl⟩
        obtain ⟨content, hc⟩ := (mem_files_iff hw).mp hfile
        exact ⟨rest, content, hname, rfl, (hbelow rest).trans hc⟩
      · rintro ⟨rest, content, hname, rfl, hc⟩
        rw [hbelow] at hc
        exact ⟨rest, ⟨(mem_files_iff hw).mpr ⟨content, hc⟩, hname⟩, rfl⟩
  · next hno =>
      refine ⟨nofun, ?_⟩
      rintro ⟨rest, content, hname, rfl, hc⟩
      have happend := at?_append [id] rest day
      rw [List.singleton_append, hc] at happend
      cases hd : day.at? [id] with
      | none => simp [hd] at happend
      | some found =>
          cases found with
          | folder entries => exact absurd hd (hno entries)
          | file other =>
              cases rest with
              | nil => simp at hname
              | cons first rest => simp [hd, at?] at happend

theorem nodup_dayFiles {id : String} {day : Node} (h : day.WellFormed) :
    (dayFiles id day).Nodup := by
  unfold dayFiles
  split
  · next entries he =>
      have hfiles := (nodup_files (wellFormed_of_at? h he)).filter
        fun route => route.getLast?.any isEventFileName
      have hsorted := (List.mergeSort_perm _ Route.le).nodup_iff.mpr hfiles
      rw [List.Nodup, List.pairwise_map]
      exact hsorted.imp fun hne heq => hne (List.cons.inj heq).2
  · exact List.nodup_nil

/-- The event files of a task below the folders of days. -/
def taskFiles (id : String) (days : List (String × Node)) : List Route :=
  (days.map fun entry => (dayFiles id entry.2).map (entry.1 :: ·)).flatten

theorem mem_taskFiles_iff {id : String} {days : List (String × Node)}
    (h : (Node.folder days).WellFormed) {route : Route} :
    route ∈ taskFiles id days ↔ ∃ day rest content, rest.getLast?.any isEventFileName = true ∧
      route = day :: id :: rest ∧ (Node.folder days).at? route = some (.file content) := by
  have hdays := entriesWellFormed_iff.mp h.2
  rw [taskFiles, List.mem_flatten]
  constructor
  · rintro ⟨routes, hroutes, hroute⟩
    obtain ⟨⟨day, node⟩, hentry, rfl⟩ := List.mem_map.mp hroutes
    obtain ⟨below, hbelow, rfl⟩ := List.mem_map.mp hroute
    obtain ⟨rest, content, hname, rfl, hfile⟩ := (mem_dayFiles_iff (hdays _ hentry)).mp hbelow
    exact ⟨day, rest, content, hname, rfl, (at?_folder_cons h.1).mpr ⟨node, hentry, hfile⟩⟩
  · rintro ⟨day, rest, content, hname, rfl, hfile⟩
    obtain ⟨node, hentry, hfile⟩ := (at?_folder_cons h.1).mp hfile
    refine ⟨_, List.mem_map.mpr ⟨_, hentry, rfl⟩, List.mem_map.mpr ⟨_, ?_, rfl⟩⟩
    exact (mem_dayFiles_iff (hdays _ hentry)).mpr ⟨rest, content, hname, rfl, hfile⟩

theorem nodup_taskFiles {id : String} {days : List (String × Node)}
    (h : (Node.folder days).WellFormed) : (taskFiles id days).Nodup := by
  have hdays := entriesWellFormed_iff.mp h.2
  have hnames : ((days.map fun entry => (entry.1, dayFiles id entry.2)).map Prod.fst).Nodup := by
    rw [List.map_map]
    exact h.1
  have hroutes : ∀ entry ∈ days.map fun entry => (entry.1, dayFiles id entry.2),
      entry.2.Nodup := by
    intro entry he
    obtain ⟨⟨day, node⟩, hentry, rfl⟩ := List.mem_map.mp he
    exact nodup_dayFiles (hdays _ hentry)
  have hnodup := nodup_flatMap_cons hnames hroutes
  rw [List.flatMap_map] at hnodup
  rw [taskFiles, ← List.flatMap_def]
  exact hnodup

/-- A day gives the files of a task if every folder of the task can be opened. -/
theorem entryFiles_eq_ok {root : Path} {id : String} {entry : String × Node}
    (h : entry.2.WellFormed) (hopen : ∀ rest, entry.2.IsFolderAt (id :: rest) →
      ¬ (root.append (entry.1 :: id :: rest)).isTooLong) :
    entryFiles root id entry = .ok ((dayFiles id entry.2).map (entry.1 :: ·)) := by
  obtain ⟨day, node⟩ := entry
  unfold entryFiles dayFiles
  cases hn : node.at? [id] with
  | none => rfl
  | some found =>
      cases found with
      | file content => rfl
      | folder inner =>
          have hclosed : (Node.folder inner).closedFolder? (root.append [day, id]) = none := by
            refine (closedFolder?_eq_none_iff (wellFormed_of_at? h hn)).mpr fun rest hrest => ?_
            rw [Path.append_append]
            exact hopen rest ((isFolderAt_append_iff hn).mpr hrest)
          simp only [if_neg (hopen [] ⟨inner, hn⟩), Node.walk, hclosed, bind, Except.bind,
            List.map_map]
          rfl

end Store

/-- The id of the task that an event names, valid or not. -/
def Json.namedTask? (event : Json) : Option String := (event.get? "taskId").bind Json.asString?

theorem Json.namedTask?_eq_some_iff {event : Json} {id : String} :
    event.namedTask? = some id ↔ event.get? "taskId" = some (.string id) := by
  unfold namedTask?
  cases event.get? "taskId" with
  | none => simp
  | some v => cases v <;> simp [asString?]

namespace Recording

/-- The saved events of a task, as far as they can be read as events. -/
def eventsOf (r : Recording) (id : String) : List LoadedEvent :=
  (r.saved.filter fun save => save.2.namedTask? = some id).filterMap fun save =>
    (Event.ofJson save.2).toOption.map (⟨save.1, ·⟩)

theorem eventsOf_saveAll (r : Recording) (calls : List (Moment × Json)) (id : String) :
    r.eventsOf id <+: (r.saveAll calls).eventsOf id :=
  ((r.saved_saveAll calls).filter _).filterMap _

theorem taskId_of_mem_eventsOf {r : Recording} {id : String} {file : LoadedEvent}
    (h : file ∈ r.eventsOf id) : file.event.taskId = some id := by
  obtain ⟨save, hsave, hfile⟩ := List.mem_filterMap.mp h
  have hnamed := of_decide_eq_true (List.mem_filter.mp hsave).2
  obtain ⟨event, hevent, rfl⟩ := Option.map_eq_some_iff.mp hfile
  rw [toOption_eq_some_iff] at hevent
  exact Event.taskId_of_ofJson hevent (Json.namedTask?_eq_some_iff.mp hnamed)

variable {r : Recording} {there : Route} {calls : List (Moment × Json)} {entries : List Entry}

theorem Holds.at?_root (h : Holds r there calls entries) :
    ∃ days, r.disk.at? r.store.root = some (.folder days) ∧
      r.disk.tree.at? there = some (.folder days) ∧ (Node.folder days).WellFormed := by
  obtain ⟨days, hfound, hw⟩ := h.folder
  exact ⟨days, Disk.at?_eq_some_iff.mpr ⟨there, h.root, hfound⟩, hfound, hw⟩

theorem Holds.at?_eq_file_iff (h : Holds r there calls entries) {days : List (String × Node)}
    (hdays : r.disk.tree.at? there = some (.folder days)) {route : Route} {content : ByteArray} :
    (Node.folder days).at? route = some (.file content) ↔
      ∃ e ∈ entries, route = e.route ∧ content = e.event.pretty.toUTF8 := by
  rw [← h.files, peek_append hdays, Node.peek_eq_file_iff]

/-- No folder of a task is closed to a walk. -/
theorem Holds.entryFiles (h : Holds r there calls entries) {days : List (String × Node)}
    (hdays : r.disk.tree.at? there = some (.folder days)) (hw : (Node.folder days).WellFormed)
    (id : String) {entry : String × Node} (he : entry ∈ days) :
    Store.entryFiles r.store.root id entry =
      .ok ((Store.dayFiles id entry.2).map (entry.1 :: ·)) := by
  obtain ⟨day, node⟩ := entry
  refine Store.entryFiles_eq_ok (entriesWellFormed_iff.mp hw.2 _ he) fun rest hrest => ?_
  have hthere : r.disk.tree.IsFolderAt (there ++ day :: id :: rest) :=
    (isFolderAt_append_cons_iff hdays hw.1).mpr ⟨node, he, hrest⟩
  obtain ⟨hlength, hrefusal⟩ := h.folders _ hthere
  obtain rfl : rest = [] := by
    simp only [List.length_cons] at hlength
    exact List.eq_nil_of_length_eq_zero (by omega)
  have hnone := hrefusal rfl
  unfold Path.refusal? at hnone
  split at hnone
  · cases hnone
  · split at hnone
    · cases hnone
    · assumption

theorem Holds.mem_taskFiles_iff (h : Holds r there calls entries)
    {days : List (String × Node)} (hdays : r.disk.tree.at? there = some (.folder days))
    (hw : (Node.folder days).WellFormed) {id : String} {route : Route} :
    route ∈ Store.taskFiles id days ↔
      route ∈ (entries.filter (·.id = id)).map Entry.route := by
  rw [Store.mem_taskFiles_iff hw, List.mem_map]
  constructor
  · rintro ⟨day, rest, content, -, rfl, hfile⟩
    obtain ⟨e, he, heq, -⟩ := (h.at?_eq_file_iff hdays).mp hfile
    refine ⟨e, List.mem_filter.mpr ⟨he, ?_⟩, heq.symm⟩
    exact decide_eq_true (List.cons.inj (List.cons.inj heq).2).1.symm
  · rintro ⟨e, he, rfl⟩
    obtain ⟨hmem, hei⟩ := List.mem_filter.mp he
    have hroute : e.route = e.moment.dayText :: id :: [e.name] := by
      rw [Entry.route, of_decide_eq_true hei]
    have hname : [e.name].getLast?.any isEventFileName = true := by
      rw [List.getLast?_singleton, Option.any_some]
      exact e.isEventFileName_name
    refine ⟨_, _, _, hname, hroute, (h.at?_eq_file_iff hdays).mpr ⟨e, hmem, rfl, rfl⟩⟩

theorem Holds.ordered_routes (h : Holds r there calls entries)
    (hclock : Chronological (calls.map Prod.fst)) (htaken : r.taken ≤ 1000000) (id : String) :
    ((entries.filter (·.id = id)).map Entry.route).Pairwise
      fun a b => Route.le a b = true ∧ a ≠ b := by
  have hinRange : ∀ e ∈ entries, e.moment.InRange := fun e he =>
    hclock.inRange _ (List.mem_map.mpr ⟨_, h.calls e he, rfl⟩)
  rw [List.pairwise_map]
  refine (h.ordered.filter _).imp_of_mem ?_
  intro e later he hl hbefore
  obtain ⟨he, hei⟩ := List.mem_filter.mp he
  obtain ⟨hl, hli⟩ := List.mem_filter.mp hl
  have hbound := Nat.lt_of_lt_of_le (h.numbers later hl) htaken
  refine ⟨Entry.route_le (hinRange e he) (hinRange later hl) hbefore hbound ?_, ?_⟩
  · exact (of_decide_eq_true hei).trans (of_decide_eq_true hli).symm
  · exact Entry.route_ne (hinRange e he) (hinRange later hl) hbefore hbound

/-- The files of a task that are listed are those of its saves, in the order of the saves. -/
theorem Holds.eventFiles (h : Holds r there calls entries)
    (hclock : Chronological (calls.map Prod.fst)) (htaken : r.taken ≤ 1000000) {id : String}
    (hid : ValidTaskId id) :
    r.store.eventFiles r.disk id =
      .ok ((entries.filter (·.id = id)).map fun e => r.store.root.append e.route) := by
  obtain ⟨days, hroot, hdays, hw⟩ := h.at?_root
  have hordered := h.ordered_routes hclock htaken id
  have hsort : Route.sort (Store.taskFiles id days) =
      (entries.filter (·.id = id)).map Entry.route :=
    Route.sort_eq (hordered.imp And.left) (Store.nodup_taskFiles hw) (hordered.imp And.right)
      fun route => h.mem_taskFiles_iff hdays hw
  have hlisted := mapM_eq_ok fun entry (he : entry ∈ days) => h.entryFiles hdays hw id he
  have hok := requireTaskId_eq_ok_iff.mpr hid
  rw [Store.taskFiles] at hsort
  simp only [Store.eventFiles, hok, hroot, hlisted, bind, Except.bind, hsort, List.map_map]
  rfl

/-- What can be written as it is and read back: no double, and not nested too deep. -/
structure Recordable (event : Json) : Prop where
  wellFormed : event.WellFormed
  doubleFree : event.DoubleFree
  depth : event.depth ≤ nestingLimit

theorem Holds.readEvent? (h : Holds r there calls entries) {e : Entry} (he : e ∈ entries)
    (hevent : Recordable e.event) :
    r.disk.readEvent? (r.store.root.append e.route) = (Event.ofJson e.event).toOption := by
  have hfile := Node.peek_eq_file_iff.mp ((h.files _ _).mpr ⟨e, he, rfl, rfl⟩)
  have hfound := Disk.at?_eq_some_iff.mpr ⟨_, h.routes e he, hfile⟩
  have htext : r.disk.readText? (r.store.root.append e.route) = some e.event.pretty := by
    rw [Disk.readText?, hfound]
    exact Disk.fromUTF8?_toUTF8 _
  rw [Disk.readEvent?, htext]
  exact Event.toOption_ofText_pretty hevent.wellFormed hevent.doubleFree hevent.depth

theorem Holds.eventsOf (h : Holds r there calls entries) (id : String) :
    r.eventsOf id = (entries.filter (·.id = id)).filterMap fun e =>
      (Event.ofJson e.event).toOption.map (⟨r.store.root.append e.route, ·⟩) := by
  have hfilter : entries.filter (fun e => decide (e.event.namedTask? = some id)) =
      entries.filter (·.id = id) := by
    refine List.filter_congr fun e he => ?_
    rw [Json.namedTask?_eq_some_iff.mpr (h.ids e he).1]
    simp
  rw [Recording.eventsOf, h.saved, List.filter_map, List.filterMap_map]
  exact congrArg _ hfilter

theorem Holds.events (h : Holds r there calls entries)
    (hclock : Chronological (calls.map Prod.fst)) (htaken : r.taken ≤ 1000000)
    (hcalls : ∀ call ∈ calls, Recordable call.2) {id : String} (hid : ValidTaskId id) :
    r.store.events r.disk id = .ok (r.eventsOf id) := by
  rw [Store.events, h.eventFiles hclock htaken hid, h.eventsOf]
  refine congrArg Except.ok ?_
  rw [Disk.readEvents, List.filterMap_map]
  refine List.filterMap_congr fun e he => ?_
  have hmem := (List.mem_filter.mp he).1
  rw [Function.comp_apply, h.readEvent? hmem (hcalls _ (h.calls e hmem))]

/-- What is loaded for a task after a run of saves over an empty root. -/
theorem events_of_valid {root : Path} {disk : Disk} {calls : List (Moment × Json)}
    (hroot : disk.at? root = some (.folder []))
    (hclock : Chronological (calls.map Prod.fst))
    (htaken : ((start root disk).saveAll calls).taken ≤ 1000000)
    (hcalls : ∀ call ∈ calls, Recordable call.2) {id : String} (hid : ValidTaskId id) :
    let r := (start root disk).saveAll calls
    r.store.events r.disk id = .ok (r.eventsOf id) := by
  obtain ⟨there, hstart⟩ := Holds.start hroot
  obtain ⟨entries, hrun⟩ := hstart.saveAll hclock htaken
  exact hrun.events hclock htaken hcalls hid

/-- After any run of saves over an empty root, what is loaded for a task are its saved events that
can be read, each as it was given to the save and each once, in the order of the saves. -/
theorem events_saveAll {root : Path} {disk : Disk} {calls : List (Moment × Json)}
    (hroot : disk.at? root = some (.folder []))
    (hclock : Chronological (calls.map Prod.fst))
    (htaken : ((start root disk).saveAll calls).taken ≤ 1000000)
    (hcalls : ∀ call ∈ calls, Recordable call.2) (id : String) :
    let r := (start root disk).saveAll calls
    r.store.events r.disk id =
      if ValidTaskId id then .ok (r.eventsOf id) else .error (.invalidTaskId id) := by
  intro r
  split
  · next hid => exact events_of_valid hroot hclock htaken hcalls hid
  · next hid =>
      have hrefused : requireTaskId id = .error (.invalidTaskId id) := if_neg hid
      rw [Store.events, Store.eventFiles, hrefused]
      rfl

/-- Two tasks, one of them recorded around midnight. -/
theorem events_saveAll_midnight :
    let root : Path := ⟨"data", []⟩
    let disk : Disk := { tree := .folder [("data", .folder [])] }
    let event (id : String) : Json := .object [("type", .string "click"), ("taskId", .string id)]
    let calls := [(⟨2025, 1, 31, 23, 59, 59, 999999999⟩, event "t"),
      (⟨2025, 1, 31, 23, 59, 59, 999999999⟩, event "u"), (⟨2025, 2, 1, 0, 0, 0, 0⟩, event "t")]
    let r := (start root disk).saveAll calls
    disk.at? root = some (.folder []) ∧ Chronological (calls.map Prod.fst) ∧
      r.taken ≤ 1000000 ∧ (∀ call ∈ calls, Recordable call.2) ∧
      r.store.events r.disk "t" = .ok (r.eventsOf "t") ∧ (r.eventsOf "t").length = 2 := by
  intro root disk event calls r
  have hroute : (disk.route root).toOption = some ["data"] := by
    decide +kernel
  have hroot : disk.at? root = some (.folder []) :=
    Disk.at?_eq_some_iff.mpr ⟨["data"], toOption_eq_some_iff.mp hroute, rfl⟩
  have hclock : Chronological (calls.map Prod.fst) := by
    decide
  have htaken : r.taken ≤ 1000000 :=
    Nat.le_trans (taken_saveAll_le _ calls) (by decide)
  have hevent : ∀ id, Recordable (event id) := fun id =>
    ⟨⟨(by decide : ["type", "taskId"].Nodup), trivial, trivial, trivial⟩,
      ⟨trivial, trivial, trivial⟩, (by decide : 1 ≤ nestingLimit)⟩
  have hcalls : ∀ call ∈ calls, Recordable call.2 := by
    simp only [calls, List.forall_mem_cons]
    exact ⟨hevent "t", hevent "u", hevent "t", nofun⟩
  have hvalid : ValidTaskId "t" := by
    decide
  have hevents := (events_saveAll hroot hclock htaken hcalls "t").trans (if_pos hvalid)
  exact ⟨hroot, hclock, htaken, hcalls, hevents, by decide +kernel⟩

end Recording

end Retrace
