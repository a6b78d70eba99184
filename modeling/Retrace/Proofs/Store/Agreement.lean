import Retrace.Proofs.CommandLine.Compiling
import Retrace.Proofs.Files.Spelling
import Retrace.Proofs.Http.Replays
import Retrace.Proofs.Store.Collecting

/-!
The two ways in which the events of a store are gathered: over the days for one task, and by one
walk over everything. The first lists what the second lists in the folders of the task, in the same
order, as long as a walk can open every folder. So a store that holds one task is answered for and
compiled alike.
-/

namespace Retrace

open Files Files.Node Files.Disk

/-- A route into the folder of a task, in whatever entry of the root. -/
def InTask (id : String) : Route → Prop
  | _ :: task :: _ :: _ => task = id
  | _ => False

instance (id : String) : DecidablePred (InTask id)
  | [] | [_] | [_, _] => inferInstanceAs (Decidable False)
  | _ :: task :: _ :: _ => inferInstanceAs (Decidable (task = id))

theorem inTask_append_singleton {id : String} {parent : Route} {name : String} :
    InTask id (parent ++ [name]) ↔ ∃ day rest, parent = day :: id :: rest := by
  rcases parent with _ | ⟨day, _ | ⟨task, rest⟩⟩
  · simp [InTask]
  · simp [InTask]
  · cases rest <;> simp [InTask]

section Listings

variable (store : Store) {disk other : Disk} {there : Route} {days : List (String × Node)}
  {id : String} (hw : disk.tree.WellFormed) (hroot : disk.route store.root = .ok there)
  (hdays : disk.tree.at? there = some (.folder days))
  (hopens : Opens disk store.root there fun _ => True)

include hw hdays hopens in
/-- Gathering the folders of a task day by day and sorting keeps the order of the walk. -/
theorem Store.sort_taskFiles : Route.sort (taskFiles id (seenDays store.root id days)) =
    (eventRoutes (.folder days)).filter (InTask id) := by
  have hfolder := wellFormed_of_at? hw hdays
  have hall := lists_eventRoutes hw hdays
  have htask := lists_taskFiles hw hdays store.root id
  have hwalked : Route.sort (eventRoutes (.folder days)) = eventRoutes (.folder days) :=
    eventFiles_eq_eventRoutes hfolder
  rw [← hwalked]
  refine Route.sort_eq_filter htask.nodup hall.nodup fun route => ?_
  rw [htask.mem_iff, hall.mem_iff, decide_eq_true_iff]
  constructor
  · rintro ⟨⟨parent, name, rfl, ⟨day, rest, rfl, -⟩, hname⟩, hfile⟩
    exact ⟨⟨⟨_, name, rfl, trivial, hname⟩, hfile⟩, inTask_append_singleton.mpr ⟨day, rest, rfl⟩⟩
  · rintro ⟨⟨⟨parent, name, rfl, -, hname⟩, content, hfile⟩, hin⟩
    obtain ⟨day, rest, rfl⟩ := inTask_append_singleton.mp hin
    refine ⟨⟨_, name, rfl, ⟨day, rest, rfl, ?_⟩, hname⟩, content, hfile⟩
    -- The folder of the task is there, since the file is, so the walk opens it.
    have hbelow : there ++ (day :: id :: rest ++ [name]) =
        (there ++ [day, id]) ++ (rest ++ [name]) := by
      simp
    rw [hbelow] at hfile
    exact hopens _ trivial (isFolderAt_of_peek_below (by simp) hfile)

include hw hroot hdays hopens in
theorem Store.eventFiles_eq_filter (hid : ValidTaskId id) : store.eventFiles disk id =
    .ok (((eventRoutes (.folder days)).filter (InTask id)).map store.root.append) := by
  rw [store.eventFiles_eq_sort hw hroot hdays hid fun route _ => hopens route trivial,
    store.sort_taskFiles hw hdays hopens]

include hw hroot hdays hopens in
/-- A store that holds the files of one task is loaded as that task. -/
theorem folderEvents_eq_events (hid : ValidTaskId id)
    (honly : ∀ route ∈ eventRoutes (.folder days), InTask id route)
    (hsome : eventRoutes (.folder days) ≠ []) :
    disk.folderEvents store.root = store.events disk id ∧ store.events disk id =
      .ok (disk.readEvents ((eventRoutes (.folder days)).map store.root.append)) := by
  have hat := at?_eq_some_iff.mpr ⟨there, hroot, hdays⟩
  have hall : (eventRoutes (.folder days)).filter (InTask id) = eventRoutes (.folder days) :=
    List.filter_eq_self.mpr fun route hroute => decide_eq_true (honly route hroute)
  have htask : store.events disk id =
      .ok (disk.readEvents ((eventRoutes (.folder days)).map store.root.append)) := by
    rw [Store.events, store.eventFiles_eq_filter hw hroot hdays hopens hid, hall]
    rfl
  refine ⟨?_, htask⟩
  rw [htask, Disk.folderEvents, hat, eventFiles_of_opens hw hroot hdays hopens]
  simp [bind, Except.bind, hsome]

end Listings

section Verdicts

open CommandLine Http

/-- How a task is answered for, and how its folder is compiled, when the same events are loaded for
both. Only a compile needs a name for its file and has to write it. -/
inductive SameVerdict (disk : Disk) (dataFolder outputFolder : String) :
    Response → Disk × Outcome → Prop
  | refused (error : StreamError) :
      SameVerdict disk dataFolder outputFolder (Problem.compile error).response
        (disk, .exit 1 "" (Refusal.ofCompile dataFolder error).text)
  | unnamed {bundle : Bundle} (h : ¬ ValidTaskId bundle.taskId) :
      SameVerdict disk dataFolder outputFolder (.json 200 bundle.compact)
        (disk, .exit 1 "" (Refusal.ofStore (.invalidTaskId bundle.taskId)).text)
  | written {bundle : Bundle} {later : Disk} {there : Route}
      (hready : Ready disk dataFolder bundle)
      (hadds : AddsFile disk later ⟨outputFolder, []⟩ there (Bundle.fileName bundle.taskId)
        bundle.pretty.toUTF8) :
      SameVerdict disk dataFolder outputFolder (.json 200 bundle.compact) (later, .exit 0 "" "")
  | failed {bundle : Bundle} {later : Disk} {refusal : Refusal}
      (hready : Ready disk dataFolder bundle)
      (h : SystemFailure disk dataFolder outputFolder later refusal) :
      SameVerdict disk dataFolder outputFolder (.json 200 bundle.compact)
        (later, .exit 1 "" refusal.text)

theorem sameVerdict_of_loaded {c : Collector} {id dataFolder : String} {file : LoadedEvent}
    {files : List LoadedEvent} (hevents : c.store.events c.disk id = .ok (file :: files))
    (hfolder : c.disk.folderEvents ⟨dataFolder, []⟩ = .ok (file :: files)) {piece : String}
    (hpiece : decodePiece? piece = some id) (outputFolder : String) :
    SameVerdict c.disk dataFolder outputFolder (c.replayResponse piece)
      (ending (bundleFolder c.disk dataFolder outputFolder)) := by
  have hreplay := Collector.replay_of_events hevents
  cases hbundle : Bundle.ofLoaded (file :: files) with
  | error error =>
      have hproblem : c.replay id = .error (.compile error) := by
        rw [hreplay, hbundle]
        rfl
      have hresponse : c.replayResponse piece = (Problem.compile error).response := by
        simp only [Collector.replayResponse, hpiece, hproblem]
      rw [hresponse, bundleFolder_of_barred (.notAccepted hfolder hbundle)]
      exact .refused error
  | ok bundle =>
      have hok : c.replay id = .ok bundle := by
        rw [hreplay, hbundle]
        rfl
      have hresponse : c.replayResponse piece = .json 200 bundle.compact := by
        simp only [Collector.replayResponse, hpiece, hok]
      rw [hresponse]
      by_cases hname : ValidTaskId bundle.taskId
      · have hready : Ready c.disk dataFolder bundle := ⟨⟨_, hfolder, hbundle⟩, hname⟩
        have hcompiled := compiled_of_ready hready outputFolder
        generalize ending (bundleFolder c.disk dataFolder outputFolder) = result at hcompiled ⊢
        cases hcompiled with
        | refused hbarred => exact absurd hbarred (hready.not_barred _)
        | written hother hadds =>
            obtain rfl := hready.bundle_eq hother
            exact .written hready hadds
        | failed hfailure _ => exact .failed hready hfailure
      · rw [bundleFolder_of_barred (.invalidTaskId hfolder hbundle hname)]
        exact .unnamed hname

/-- The two listings of a store that a walk can open, by the routes of its event files. -/
structure Agreement (c : Collector) (id : String) (routes : List Route) : Prop where
  collected : c.disk.eventFiles c.store.root = .ok (routes.map c.store.root.append)
  ofTask : c.store.eventFiles c.disk id =
    .ok ((routes.filter (InTask id)).map c.store.root.append)
  relisted : ∀ other, Relisted c.disk other →
    other.eventFiles c.store.root = c.disk.eventFiles c.store.root ∧
      c.store.eventFiles other id = c.store.eventFiles c.disk id
  loaded : (∀ route ∈ routes, InTask id route) → routes ≠ [] →
    c.disk.folderEvents c.store.root = c.store.events c.disk id
  verdict : (∀ route ∈ routes, InTask id route) →
    (∃ route ∈ routes, ∃ e, c.disk.readEvent? (c.store.root.append route) = some e) →
    ∀ dataFolder, c.store.root = ⟨dataFolder, []⟩ →
    ∀ clock request piece, Encodes piece id.toUTF8.toList → request.method = "GET" →
      request.target = planTarget piece →
    ∀ arguments env outputFolder,
      Invocation.ofArguments arguments = .run (.compile dataFolder outputFolder) →
        SameVerdict c.disk dataFolder
          (outputFolder.getD (Settings.ofEnvironment (env.withNearestFile c.disk)).outputFolder)
          (c.handle clock request).2 (run arguments env c.disk)

theorem agreement_of_opens {c : Collector} {there : Route} {days : List (String × Node)}
    {id : String} (hw : c.disk.tree.WellFormed) (hroot : c.disk.route c.store.root = .ok there)
    (hdays : c.disk.tree.at? there = some (.folder days))
    (hopens : Opens c.disk c.store.root there fun _ => True) (hid : ValidTaskId id) :
    Agreement c id (eventRoutes (.folder days)) := by
  have htask := c.store.eventFiles_eq_filter hw hroot hdays hopens hid
  constructor
  case collected => exact eventFiles_of_opens hw hroot hdays hopens
  case ofTask => exact htask
  case relisted =>
    intro other hother
    obtain ⟨others, hroot', hothers, hopens', hroutes⟩ :=
      hother.exists_folder hw hroot hdays hopens
    refine ⟨hother.eventFiles_eq hw hroot hdays hopens, ?_⟩
    rw [htask, c.store.eventFiles_eq_filter hother.wellFormed hroot' hothers hopens' hid, hroutes]
  case loaded =>
    intro honly hsome
    exact (folderEvents_eq_events c.store hw hroot hdays hopens hid honly hsome).1
  case verdict =>
    rintro honly ⟨route, hroute, e, he⟩ dataFolder hfolder clock request piece hpiece hmethod
      htarget arguments env outputFolder hcall
    obtain ⟨hsame, hevents⟩ := folderEvents_eq_events c.store hw hroot hdays hopens hid honly
      (List.ne_nil_of_mem hroute)
    have hmem : (⟨c.store.root.append route, e⟩ : LoadedEvent) ∈
        c.disk.readEvents ((eventRoutes (.folder days)).map c.store.root.append) := by
      refine List.mem_filterMap.mpr ⟨_, List.mem_map_of_mem hroute, ?_⟩
      rw [he, Option.map_some]
    obtain ⟨file, files, hfiles⟩ := List.exists_cons_of_ne_nil (List.ne_nil_of_mem hmem)
    rw [hfiles] at hevents
    rw [hevents, hfolder] at hsame
    rw [Collector.handle_planTarget hmethod htarget hpiece, run_compile hcall]
    exact sameVerdict_of_loaded hevents hsame hpiece.decodePiece? _

/-- Where a walk can open every folder below the root, the files of a task are those of all the
files that are in its folders, in the order they have there, however the folders are listed. If all
files are the task's, both are loaded alike, and once a file is read as an event the task is
answered for as its folder is compiled. A folder that cannot be opened bars the walk, and the error
names such a folder. -/
theorem listings_agree {c : Collector} {there : Route} {days : List (String × Node)}
    {id : String} (hw : c.disk.tree.WellFormed) (hroot : c.disk.route c.store.root = .ok there)
    (hdays : c.disk.tree.at? there = some (.folder days)) (hid : ValidTaskId id) :
    (Opens c.disk c.store.root there (fun _ => True) → ∃ routes, Agreement c id routes) ∧
    (¬ Opens c.disk c.store.root there (fun _ => True) → ∃ closed,
      ClosedAt c.disk c.store.root there (fun _ => True) closed ∧
        c.disk.eventFiles c.store.root = .error (.walk closed.text Failure.nameTooLong.message) ∧
          c.disk.folderEvents c.store.root =
            .error (.walk closed.text Failure.nameTooLong.message)) :=
  ⟨fun hopens => ⟨_, agreement_of_opens hw hroot hdays hopens hid⟩,
    eventFiles_of_closed hw hroot hdays⟩

/-- Two days of a task and nothing else, the later day listed first. -/
theorem listings_agree_days :
    let event (text : String) : Node := .folder [("t", .folder [("a.json", .file text.toUTF8)])]
    let start : String :=
      "\x7b\"type\":\"task-start\",\"taskId\":\"t\",\"taskDescription\":\"g\"\x7d"
    let click : String := "\x7b\"type\":\"click\"\x7d"
    let disk : Disk :=
      { tree := .folder [("d", .folder [("b", event click), ("a", event start)])] }
    let c : Collector := ⟨{ root := ⟨"d", []⟩ }, disk⟩
    let get : Request := { method := "GET", target := planTarget ['t'] }
    let arguments := ["compile", "--data-dir", "d", "--output-dir", "o"]
    let clock : Clock := ⟨⟨2025, 1, 31, 23, 59, 59, 999999999⟩, ⟨2025, 1, 31, 22, 59, 59, 0⟩⟩
    let found := [["a", "t", "a.json"], ["b", "t", "a.json"]].map (Path.append ⟨"d", []⟩)
    disk.eventFiles ⟨"d", []⟩ = .ok found ∧ c.store.eventFiles disk "t" = .ok found ∧
      disk.folderEvents ⟨"d", []⟩ = c.store.events disk "t" ∧
      SameVerdict disk "d" "o" (c.handle clock get).2 (run arguments [] disk) := by
  intro event start click disk c get arguments clock found
  let days := [("b", event click), ("a", event start)]
  have hw : disk.tree.WellFormed := by
    simp [disk, event, Node.WellFormed, Node.EntriesWellFormed]
  have hroot : disk.route ⟨"d", []⟩ = .ok ["d"] := by
    decide +kernel
  have hdays : disk.tree.at? ["d"] = some (.folder days) := rfl
  have hfolders : (Node.folder days).folders = [[], ["a"], ["a", "t"], ["b"], ["b", "t"]] := by
    simp [folders, entryFolders, inNameOrder, days, event, List.mergeSort,
      List.MergeSort.Internal.splitInTwo, nameLe]
  have hfiles : (Node.folder days).files = [["a", "t", "a.json"], ["b", "t", "a.json"]] := by
    simp [files, entryFiles, inNameOrder, days, event, List.mergeSort,
      List.MergeSort.Internal.splitInTwo, nameLe]
  have hlisted : disk.eventFiles ⟨"d", []⟩ = .ok found := by
    have hat := at?_eq_some_iff.mpr ⟨_, hroot, hdays⟩
    have hfolder := wellFormed_of_at? hw hdays
    refine (eventFiles_eq_ok_iff hat).mpr ⟨?_, ?_⟩
    · rw [Node.closedFolder?, hfolders]
      decide
    · rw [eventFiles_eq_eventRoutes hfolder, eventRoutes, hfiles]
      decide
  have hopens := (exists_eventFiles_iff_opens hw hroot hdays).mp ⟨_, hlisted⟩
  have hid : ValidTaskId "t" := by
    decide
  obtain ⟨routes, hagreement⟩ := (listings_agree (c := c) hw hroot hdays hid).1 hopens
  have hroutes : routes = [["a", "t", "a.json"], ["b", "t", "a.json"]] := by
    have hsame := Except.ok.inj (hagreement.collected.symm.trans hlisted)
    refine (List.map_injective_iff.mpr fun first second h => ?_) hsame
    exact congrArg Path.below h
  subst hroutes
  have honly : ∀ route ∈ [["a", "t", "a.json"], ["b", "t", "a.json"]], InTask "t" route := by
    decide
  refine ⟨hlisted, hagreement.ofTask, hagreement.loaded honly (by simp), ?_⟩
  have hread : (disk.readEvent? ⟨"d", ["a", "t", "a.json"]⟩).isSome := by
    decide +kernel
  have hpiece : Encodes ['t'] "t".toUTF8.toList := by
    have hbytes : "t".toUTF8.toList = ['t'.toUInt8] := by
      decide +kernel
    rw [hbytes]
    exact .plain (by decide) (by decide) .nil
  have hcall : Invocation.ofArguments arguments = .run (.compile "d" (some "o")) := by
    decide +kernel
  exact hagreement.verdict honly ⟨_, List.mem_cons_self, Option.isSome_iff_exists.mp hread⟩ "d" rfl
    clock get ['t'] hpiece rfl rfl arguments [] (some "o") hcall

end Verdicts

section Depths

/-- Folders within one another. -/
def nested : Route → Node
  | [] => .folder []
  | name :: rest => .folder [(name, nested rest)]

theorem wellFormed_nested (names : Route) : (nested names).WellFormed := by
  induction names with
  | nil => simp [nested, Node.WellFormed, Node.EntriesWellFormed]
  | cons name rest ih => simp [nested, Node.WellFormed, Node.EntriesWellFormed, ih]

theorem at?_nested (names : Route) : (nested names).at? names = some (.folder []) := by
  induction names with
  | nil => rfl
  | cons name rest ih => simpa [nested, Node.at?] using ih

open CommandLine Http

/-- Beside folders within one another that are too deep to be walked the files of a task are listed,
but not those of the whole store. A plan whose task cannot name a file is answered, but not
written. -/
theorem listings_differ :
    let event (id : String) : Node := .folder [("t", .folder [("a.json",
      .file ("\x7b\"type\":\"task-start\",\"taskId\":\"" ++ id ++
        "\",\"taskDescription\":\"g\"\x7d").toUTF8)])]
    let names : Route := List.replicate 17 (String.ofList (List.replicate 255 'a'))
    let deep : Disk :=
      { tree := .folder [("d", .folder [("day", event "t"), ("n", nested names)])] }
    let misnamed : Disk := { tree := .folder [("d", .folder [("day", event ".")])] }
    let store : Store := { root := ⟨"d", []⟩ }
    let get : Request := { method := "GET", target := planTarget ['t'] }
    let arguments := ["compile", "--data-dir", "d", "--output-dir", "o"]
    let clock : Clock := ⟨⟨2025, 1, 31, 23, 59, 59, 999999999⟩, ⟨2025, 1, 31, 22, 59, 59, 0⟩⟩
    (deep.tree.WellFormed ∧ deep.route ⟨"d", []⟩ = .ok ["d"] ∧ deep.tree.IsFolderAt ["d"] ∧
      store.eventFiles deep "t" = .ok [⟨"d", ["day", "t", "a.json"]⟩] ∧
      ∃ closed, ClosedAt deep ⟨"d", []⟩ ["d"] (fun _ => True) closed ∧
        deep.eventFiles ⟨"d", []⟩ = .error (.walk closed.text Failure.nameTooLong.message)) ∧
    misnamed.eventFiles ⟨"d", []⟩ = .ok [⟨"d", ["day", "t", "a.json"]⟩] ∧
      store.eventFiles misnamed "t" = .ok [⟨"d", ["day", "t", "a.json"]⟩] ∧
      (Collector.handle ⟨store, misnamed⟩ clock get).2.status = 200 ∧
      (run arguments [] misnamed).2 = .exit 1 "" "Error: invalid task id '.'\n" := by
  intro event names deep misnamed store get arguments clock
  have hw : deep.tree.WellFormed := by
    simp [deep, event, Node.WellFormed, Node.EntriesWellFormed, wellFormed_nested]
  have hroot : deep.route ⟨"d", []⟩ = .ok ["d"] := by
    decide +kernel
  have hclosed : ¬ Opens deep ⟨"d", []⟩ ["d"] fun _ => True := by
    have hbelow (node : Node) (rest : Route) :
        (Node.folder [("d", .folder [("day", event "t"), ("n", node)])]).at?
          (["d"] ++ "n" :: rest) = node.at? rest := rfl
    have hbottom : deep.tree.IsFolderAt (["d"] ++ "n" :: names) :=
      ⟨[], (hbelow (nested names) names).trans (at?_nested names)⟩
    refine fun hopens => hopens _ trivial hbottom (decide_eq_true ?_)
    have hlong : ∀ name ∈ names, 255 ≤ name.utf8ByteSize := by
      have hsize : (String.ofList (List.replicate 255 'a')).utf8ByteSize = 255 := by
        decide +kernel
      intro name hname
      rw [List.eq_of_mem_replicate hname, hsize]
    have hcount : names.length = 17 := List.length_replicate
    have hsize := Path.le_utf8ByteSize_append ⟨"d", ["n"]⟩ hlong
    rw [hcount] at hsize
    exact Nat.lt_of_lt_of_le (by decide) hsize
  obtain ⟨closed, hat, hwalk, -⟩ := eventFiles_of_closed hw hroot rfl hclosed
  refine ⟨⟨hw, hroot, ⟨_, rfl⟩, ?_, closed, hat, hwalk⟩, ?_, ?_, ?_, ?_⟩
  · exact Decoding.toOption_eq_some_iff.mp (by decide +kernel)
  · exact Decoding.toOption_eq_some_iff.mp (by decide +kernel)
  · exact Decoding.toOption_eq_some_iff.mp (by decide +kernel)
  · decide +kernel
  · decide +kernel

end Depths

end Retrace
