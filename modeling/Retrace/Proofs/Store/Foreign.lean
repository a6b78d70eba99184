import Retrace.Proofs.Files.Spelling
import Retrace.Proofs.Http.Replays
import Retrace.Proofs.Store.Containment
import Retrace.Proofs.Store.Walks

/-!
Files that are no events among the files of a store. Wherever they come below a folder, in folders
of their own or not, what is loaded stays as it was, file by file and in its order, as long as a
walk can open every folder that it then meets.
-/

namespace Retrace

open Files Files.Node Files.Disk

/-- A file that is not read as an event. -/
inductive Foreign (name : String) (content : ByteArray) : Prop
  | otherName (h : isEventFileName name = false)
  | notText (h : String.fromUTF8? content = none)
  | notJson {text : String} (htext : String.fromUTF8? content = some text)
      (h : Document.read text = none)
  | noEvent {text : String} (htext : String.fromUTF8? content = some text)
      (h : ∀ e, Event.ofText text ≠ .ok e)

theorem Foreign.readEvent?_eq_none {name : String} {content : ByteArray}
    (h : Foreign name content) (hname : isEventFileName name = true) {disk : Disk} {path : Path}
    (hfile : disk.at? path = some (.file content)) : disk.readEvent? path = none := by
  simp only [readEvent?, readText?, hfile]
  cases h with
  | otherName h =>
      rw [hname] at h
      cases h
  | notText h => rw [h]
  | notJson htext h =>
      rw [htext]
      simp only [Event.ofText, Decoding.ofText, h]
      rfl
  | @noEvent text htext h =>
      rw [htext]
      cases he : Event.ofText text with
      | error fault => simp [he, Except.toOption]
      | ok e => exact absurd he (h e)

/-- Everything stays as it is, and what is new in the folders of an area is no event. The routes of
the area start from the given folder. -/
structure AddsForeign (disk later : Disk) (there : Route) (area : Route → Prop) : Prop where
  current : later.current = disk.current
  keeps : disk.tree.Keeps later.tree
  foreign : ∀ parent name content, area parent →
    disk.tree.peek (there ++ (parent ++ [name])) = none →
      later.tree.peek (there ++ (parent ++ [name])) = some (some content) → Foreign name content

namespace AddsForeign

variable {disk later : Disk} {there : Route} {area : Route → Prop} {base : Path}

theorem refl (disk : Disk) (there : Route) (area : Route → Prop) :
    AddsForeign disk disk there area where
  current := rfl
  keeps := Keeps.refl disk.tree
  foreign _ _ _ _ hnew hfile := by
    rw [hnew] at hfile
    cases hfile

/-- A further folder may be made where nothing was, and a further file that is no event added. -/
theorem put (h : AddsForeign disk later there area) (parent : Route) (name : String) {new : Node}
    (hparent : later.tree.IsFolderAt parent) (hfree : later.tree.at? (parent ++ [name]) = none)
    (hnew : new = .folder [] ∨ ∃ content, new = .file content ∧ Foreign name content) :
    AddsForeign disk { later with tree := later.tree.put (parent ++ [name]) new } there area := by
  constructor
  case current => exact h.current
  case keeps => exact h.keeps.trans (keeps_put hfree new)
  case foreign =>
    intro above last found harea hnone hfile
    -- What is found is the file that was put, or was found before.
    by_cases hbelow : parent ++ [name] <+: there ++ (above ++ [last])
    · obtain ⟨rest, hrest⟩ := hbelow
      rw [← hrest, List.append_assoc, List.singleton_append,
        peek_put_below hparent name new rest] at hfile
      obtain rfl | ⟨content, rfl, hforeign⟩ := hnew
      · obtain ⟨-, hfound⟩ := peek_empty hfile
        cases hfound
      · cases rest with
        | nil =>
            cases hfile
            rw [List.append_nil, ← List.append_assoc] at hrest
            rwa [← List.singleton_inj.mp (List.append_inj_right' hrest rfl)]
        | cons first rest => cases hfile
    · rw [peek_put_elsewhere hparent name new hbelow] at hfile
      exact h.foreign above last found harea hnone hfile

/-- A folder that a path led to is where it leads now. -/
theorem isFolderAt (h : AddsForeign disk later there area) (hbase : later.route base = .ok there)
    (hfound : ∃ entries, disk.at? base = some (.folder entries)) : disk.tree.IsFolderAt there := by
  obtain ⟨entries, hfound⟩ := hfound
  obtain ⟨before, hbefore, hentries⟩ := at?_eq_some_iff.mp hfound
  have hsame := (route_mono hbefore h.current h.keeps.keepsFolders).symm.trans hbase
  obtain rfl := Except.ok.inj hsame
  exact ⟨entries, hentries⟩

/-- What was there before is loaded as before. -/
theorem load?_eq (h : AddsForeign disk later there area) (hbase : disk.LeadsTo base there)
    {names : Route} (hnil : names ≠ []) {seen : Option ByteArray}
    (hseen : disk.tree.peek (there ++ names) = some seen) :
    load? later base names = load? disk base names := by
  have hsame := h.keeps _ _ hseen
  have hfile (content : ByteArray) : later.at? (base.append names) = some (.file content) ↔
      disk.at? (base.append names) = some (.file content) := by
    refine at?_append_eq_file_iff h.current h.keeps.keepsFolders hbase hnil ?_
    rw [hsame, hseen]
  rw [load?, load?, readEvent?_congr hfile]

/-- Nothing is loaded from what is new. -/
theorem load?_eq_none (h : AddsForeign disk later there area) (hleads : later.LeadsTo base there)
    {parent : Route} {name : String} (harea : area parent) (hname : isEventFileName name = true)
    (hnew : disk.tree.peek (there ++ (parent ++ [name])) = none) :
    load? later base (parent ++ [name]) = none := by
  have hnone : later.readEvent? (base.append (parent ++ [name])) = none := by
    by_cases hfile : ∃ content,
        later.at? (base.append (parent ++ [name])) = some (.file content)
    · obtain ⟨content, hfile⟩ := hfile
      obtain ⟨target, hroute, hfound⟩ := at?_eq_some_iff.mp hfile
      rw [route_append_eq hleads hroute] at hfound
      have hforeign := h.foreign parent name content harea hnew (peek_eq_file_iff.mpr hfound)
      exact hforeign.readEvent?_eq_none hname hfile
    · exact readEvent?_of_not_file (not_exists.mp hfile)
  rw [load?, hnone, Option.map_none]

/-- The new files leave neither a gap nor an event in what is loaded. The folder may be new too. -/
theorem filterMap_load? (h : AddsForeign disk later there area) (hleads : later.LeadsTo base there)
    (hbase : disk.tree.IsFolderAt there → disk.LeadsTo base there)
    {routes others : List Route} (hroutes : ListsEvents disk.tree there area routes)
    (hothers : ListsEvents later.tree there area others) :
    (Route.sort others).filterMap (load? later base) =
      (Route.sort routes).filterMap (load? disk base) := by
  have hkept (route : Route) : route ∈ routes ↔
      route ∈ others ∧ (disk.tree.peek (there ++ route)).isSome = true := by
    rw [hroutes.mem_iff, hothers.mem_iff]
    constructor
    · rintro ⟨hroute, content, hfile⟩
      exact ⟨⟨hroute, content, h.keeps _ _ hfile⟩, by rw [hfile, Option.isSome_some]⟩
    · rintro ⟨⟨hroute, content, hfile⟩, hold⟩
      obtain ⟨seen, hseen⟩ := Option.isSome_iff_exists.mp hold
      rw [h.keeps _ _ hseen, Option.some.injEq] at hfile
      exact ⟨hroute, content, hfile ▸ hseen⟩
  -- The files that were there are listed in the order they had, and the new ones between them give
  -- nothing, so both lists are gathered over the same routes.
  rw [Route.sort_eq_filter hroutes.nodup hothers.nodup hkept, List.filterMap_filter]
  refine List.filterMap_congr fun route hroute => ?_
  obtain ⟨⟨parent, name, rfl, harea, hname⟩, -⟩ :=
    (hothers.mem_iff route).mp (Route.mem_sort.mp hroute)
  cases hseen : disk.tree.peek (there ++ (parent ++ [name])) with
  | none => exact h.load?_eq_none hleads harea hname hseen
  | some seen =>
      have hbelow : parent ++ [name] ≠ [] := by simp
      exact h.load?_eq (hbase (isFolderAt_of_peek_below hbelow hseen)) hbelow hseen

end AddsForeign

theorem AddsForeign.opens {disk later : Disk} {there : Route} {area : Route → Prop} {base : Path}
    (h : AddsForeign disk later there area) (hopens : Opens later base there area) :
    Opens disk base there area :=
  fun route harea hfolder => hopens route harea (h.keeps.keepsFolders _ hfolder)

/-- What a folder is loaded to after files were added that are no events. -/
structure SameFolder (disk later : Disk) (base : Path) (there : Route) : Prop where
  same : Opens later base there (fun _ => True) → ∃ loaded,
    disk.folderEvents base = .ok loaded ∧ later.folderEvents base = .ok loaded
  compiled : Opens later base there (fun _ => True) →
    (later.folderEvents base).map Bundle.ofLoaded = (disk.folderEvents base).map Bundle.ofLoaded
  closed : ¬ Opens later base there (fun _ => True) →
    ∃ closed, ClosedAt later base there (fun _ => True) closed ∧
      later.folderEvents base = .error (.walk closed.text Failure.nameTooLong.message)

/-- What a task is loaded to after files were added that are no events, and what is answered to
requests for its plan. -/
structure SameTask (disk later : Disk) (store : Store) (there : Route) (id : String) : Prop where
  same : Opens later store.root there (OfTask store.root id) →
    store.events later id = store.events disk id
  answer : Opens later store.root there (OfTask store.root id) → ∀ clock request piece,
    Http.Endpoint.ofTarget? request.target = some (.exactReplay piece) →
      Http.decodePiece? piece = some id →
        (Http.Collector.handle ⟨store, later⟩ clock request).2 =
          (Http.Collector.handle ⟨store, disk⟩ clock request).2
  closed : ¬ Opens later store.root there (OfTask store.root id) → ValidTaskId id →
    ∃ closed, ClosedAt later store.root there (OfTask store.root id) closed ∧
      store.events later id = .error (.walk closed.text Failure.nameTooLong.message)

section Same

variable {disk later : Disk} {there : Route} (hw : disk.tree.WellFormed)
  (hlater : later.tree.WellFormed)

include hw hlater

theorem AddsForeign.sameFolder {base : Path} (hbase : disk.route base = .ok there)
    (h : AddsForeign disk later there fun _ => True)
    (hsome : ∃ parent name content, isEventFileName name = true ∧
      disk.tree.peek (there ++ (parent ++ [name])) = some (some content)) :
    SameFolder disk later base there := by
  obtain ⟨parent, name, content, hname, hfile⟩ := hsome
  obtain ⟨entries, hentries⟩ := isFolderAt_of_peek_below (by simp) hfile
  obtain ⟨others, hothers⟩ := h.keeps.keepsFolders there ⟨entries, hentries⟩
  have hbase' := route_mono hbase h.current h.keeps.keepsFolders
  have hleads := leadsTo_of_route hbase ⟨entries, hentries⟩
  have hroutes := lists_eventRoutes hw hentries
  have hroutes' := lists_eventRoutes hlater hothers
  have hmem : parent ++ [name] ∈ eventRoutes (.folder entries) :=
    (hroutes.mem_iff _).mpr ⟨⟨parent, name, rfl, trivial, hname⟩, content, hfile⟩
  have hmem' : parent ++ [name] ∈ eventRoutes (.folder others) :=
    (hroutes'.mem_iff _).mpr ⟨⟨parent, name, rfl, trivial, hname⟩, content, h.keeps _ _ hfile⟩
  have hsame : Opens later base there (fun _ => True) → ∃ loaded,
      disk.folderEvents base = .ok loaded ∧ later.folderEvents base = .ok loaded := by
    intro hopens
    have hbefore :=
      folderEvents_of_opens hw hbase hentries (h.opens hopens) (List.ne_nil_of_mem hmem)
    have hafter := folderEvents_of_opens hlater hbase' hothers hopens (List.ne_nil_of_mem hmem')
    have hleads' := hleads.mono h.current h.keeps.keepsFolders
    rw [h.filterMap_load? hleads' (fun _ => hleads) hroutes hroutes'] at hafter
    exact ⟨_, hbefore, hafter⟩
  constructor
  case same => exact hsame
  case compiled =>
    intro hopens
    obtain ⟨loaded, hbefore, hafter⟩ := hsame hopens
    rw [hbefore, hafter]
  case closed => exact folderEvents_of_closed hlater hbase' hothers

/-- For a task the root may come with the files. -/
theorem AddsForeign.events_eq {store : Store} {id : String}
    (hroot : later.route store.root = .ok there)
    (hbefore : disk.tree.IsFolderAt there → disk.route store.root = .ok there)
    (h : AddsForeign disk later there (OfTask store.root id))
    (hopens : Opens later store.root there (OfTask store.root id)) (hid : ValidTaskId id) :
    store.events later id = store.events disk id := by
  by_cases hnew : later.tree.IsFolderAt there
  · obtain ⟨others, hothers⟩ := hnew
    have hlisted := lists_taskFiles hlater hothers store.root id
    have hload {routes : List Route}
        (hroutes : ListsEvents disk.tree there (OfTask store.root id) routes) :=
      h.filterMap_load? (leadsTo_of_route hroot ⟨others, hothers⟩)
        (fun hold => leadsTo_of_route (hbefore hold) hold) hroutes hlisted
    rw [store.events_of_opens hlater hroot hothers hid hopens]
    by_cases hold : disk.tree.IsFolderAt there
    · obtain ⟨days, hdays⟩ := hold
      rw [store.events_of_opens hw (hbefore ⟨days, hdays⟩) hdays hid (h.opens hopens),
        hload (lists_taskFiles hw hdays store.root id)]
    · rw [Store.events_of_not_folder hid (mt (h.isFolderAt hroot) hold),
        hload (lists_nothing hold _), Route.sort, List.mergeSort_nil, List.filterMap_nil]
  · have hold : ¬ disk.tree.IsFolderAt there := mt (h.keeps.keepsFolders there) hnew
    have hsame := AddsForeign.refl later there (OfTask store.root id)
    rw [Store.events_of_not_folder hid (mt (h.isFolderAt hroot) hold),
      Store.events_of_not_folder hid (mt (hsame.isFolderAt hroot) hnew)]

theorem AddsForeign.sameTask {store : Store} {id : String}
    (hroot : later.route store.root = .ok there)
    (hbefore : disk.tree.IsFolderAt there → disk.route store.root = .ok there)
    (h : AddsForeign disk later there (OfTask store.root id)) :
    SameTask disk later store there id := by
  have hsame : Opens later store.root there (OfTask store.root id) →
      store.events later id = store.events disk id := by
    intro hopens
    by_cases hid : ValidTaskId id
    · exact h.events_eq hw hlater hroot hbefore hopens hid
    · rw [events_of_not_validTaskId hid, events_of_not_validTaskId hid]
  constructor
  case same => exact hsame
  case answer =>
    intro hopens clock request piece htarget hpiece
    exact Http.Collector.handle_congr ⟨store, later⟩ ⟨store, disk⟩ htarget hpiece (hsame hopens)
      clock
  case closed =>
    intro hclosed hid
    have hnew : later.tree.IsFolderAt there := by
      by_contra hnone
      refine hclosed fun route ⟨day, rest, hroute, _⟩ hfolder => absurd ?_ hnone
      exact isFolderAt_of_append hfolder
    obtain ⟨others, hothers⟩ := hnew
    exact store.events_of_closed hlater hroot hothers hid hclosed

/-- Files that are no events may be added anywhere below a folder that holds event files, or below
the folders of a task, where the root may be new too. What is loaded stays as it was, file by file
and in its order, and so does what is answered to requests for the plan of the task, unless there is
a folder then whose path is too long to be opened: there everything fails, and the error names one
such folder. -/
theorem foreign_files_unseen :
    (∀ base, disk.route base = .ok there → AddsForeign disk later there (fun _ => True) →
      (∃ parent name content, isEventFileName name = true ∧
        disk.tree.peek (there ++ (parent ++ [name])) = some (some content)) →
          SameFolder disk later base there) ∧
    ∀ (store : Store) (id : String), later.route store.root = .ok there →
      (disk.tree.IsFolderAt there → disk.route store.root = .ok there) →
        AddsForeign disk later there (OfTask store.root id) → SameTask disk later store there id :=
  ⟨fun _ hbase h hsome => h.sameFolder hw hlater hbase hsome,
    fun _ _ hroot hbefore h => h.sameTask hw hlater hroot hbefore⟩

end Same

/-- A task with one event, and around it a file that is not text and one that is no event, in a
folder of its own. -/
theorem foreign_files_unseen_around :
    let base : Path := ⟨"data", []⟩
    let task : Route := ["data", "day", "t"]
    let start : String := "\x7b\"type\":\"task-start\",\"taskId\":\"t\"\x7d"
    let disk : Disk := { tree := .folder [("data", .folder [("day", .folder [("t",
      .folder [("m.json", .file start.toUTF8)])])])] }
    let later : Disk :=
      { tree := ((disk.tree.put (task ++ ["a.json"]) (.file ⟨#[255]⟩)).put (task ++ ["n"])
          (.folder [])).put ((task ++ ["n"]) ++ ["b.json"]) (.file "5".toUTF8) }
    let store : Store := { root := base }
    AddsForeign disk later ["data"] (fun _ => True) ∧ Opens later base ["data"] (fun _ => True) ∧
      (∃ loaded, loaded.map LoadedEvent.path = [base.append ["day", "t", "m.json"]] ∧
        disk.folderEvents base = .ok loaded ∧ later.folderEvents base = .ok loaded) ∧
      store.events later "t" = store.events disk "t" := by
  intro base task start disk later store
  have hw : disk.tree.WellFormed := by
    simp [disk, Node.WellFormed, Node.EntriesWellFormed]
  have hlater : later.tree.WellFormed :=
    wellFormed_put (wellFormed_put (wellFormed_put hw (wellFormed_file _) _) wellFormed_empty _)
      (wellFormed_file _) _
  have hroute : disk.route base = .ok ["data"] := by
    decide +kernel
  have hnumber : Foreign "b.json" "5".toUTF8 := by
    refine .noEvent (fromUTF8?_toUTF8 _) fun e he => ?_
    have hnone : (Event.ofText "5").toOption.isNone = true := by
      decide +kernel
    rw [he] at hnone
    cases hnone
  have hadds (area : Route → Prop) : AddsForeign disk later ["data"] area := by
    refine (((AddsForeign.refl disk ["data"] area).put task "a.json" ⟨_, rfl⟩ rfl ?_).put
      task "n" ⟨_, rfl⟩ rfl ?_).put (task ++ ["n"]) "b.json" ⟨_, rfl⟩ rfl ?_
    · exact .inr ⟨_, rfl, .notText (by decide +kernel)⟩
    · exact .inl rfl
    · exact .inr ⟨_, rfl, hnumber⟩
  have hpaths : (disk.folderEvents base).toOption.map (·.map LoadedEvent.path) =
      some [base.append ["day", "t", "m.json"]] := by
    decide +kernel
  obtain ⟨loaded, hloaded, hnames⟩ := Option.map_eq_some_iff.mp hpaths
  rw [Decoding.toOption_eq_some_iff] at hloaded
  obtain ⟨-, -, hfiles, -⟩ := folderEvents_eq_ok_iff.mp hloaded
  have hopens : Opens later base ["data"] fun _ => True := by
    have hbefore := (exists_eventFiles_iff_opens hw hroute rfl).mp hfiles
    refine ((hbefore.put task "a.json" ⟨_, rfl⟩ (.inl ⟨_, rfl⟩)).put
      task "n" ⟨_, rfl⟩ (.inr ⟨rfl, fun route hnew => ?_⟩)).put
        (task ++ ["n"]) "b.json" ⟨_, rfl⟩ (.inl ⟨_, rfl⟩)
    obtain ⟨-, rfl⟩ := List.cons.inj hnew
    decide +kernel
  have hsame := @foreign_files_unseen disk later ["data"] hw hlater
  have hrooted := route_mono hroute (hadds (OfTask base "t")).current
    (hadds (OfTask base "t")).keeps.keepsFolders
  have hevent : isEventFileName "m.json" = true := by
    decide +kernel
  obtain ⟨found, hfound, hafter⟩ :=
    (hsame.1 base hroute (hadds _) ⟨["day", "t"], "m.json", _, hevent, rfl⟩).same hopens
  obtain rfl := Except.ok.inj (hfound.symm.trans hloaded)
  refine ⟨hadds _, hopens, ⟨found, hnames, hfound, hafter⟩, ?_⟩
  exact (hsame.2 store "t" hrooted (fun _ => hroute) (hadds _)).same
    fun route _ => hopens route trivial

section Slashes

/-- The folder `d`, spelled with slashes at its end. -/
def slashed (count : Nat) : Path := ⟨"d" ++ String.ofList (List.replicate count '/'), []⟩

theorem utf8ByteSize_slashed (count : Nat) : (slashed count).text.utf8ByteSize = 1 + count := by
  change ("d" ++ String.ofList (List.replicate count '/')).utf8ByteSize = 1 + count
  rw [String.utf8ByteSize_append]
  congr 1
  induction count with
  | zero => rfl
  | succ count ih =>
      rw [List.replicate_succ', String.ofList_append, String.utf8ByteSize_append, ih]
      rfl

theorem toList_slashed (count : Nat) :
    (slashed count).text.toList = ['d'] ++ List.replicate count '/' := by
  simp [slashed, Path.text]

theorem steps_slashed (count : Nat) : (slashed count).steps = [.down "d"] := by
  change spelledSteps (slashed count).text.toList ++ [] = _
  rw [toList_slashed, spelledSteps_append_replicate]
  rfl

theorem isAbsolute_slashed (count : Nat) : ¬ (slashed count).isAbsolute := by
  change ¬ (slashed count).text.toList.head? == some '/'
  rw [toList_slashed, List.singleton_append, List.head?_cons]
  decide

theorem not_isTooLong_slashed {count : Nat} (hcount : count < Path.textLimit) :
    ¬ (slashed count).isTooLong := by
  simp only [Path.isTooLong, utf8ByteSize_slashed, decide_eq_true_eq]
  omega

theorem refusal?_slashed {count : Nat} (hcount : count < Path.textLimit) :
    (slashed count).refusal? = none := by
  have hnul : ¬ (slashed count).holdsNul := by
    simp [Path.holdsNul, toList_slashed, List.mem_replicate]
  rw [Path.refusal?, if_neg hnul, if_neg (not_isTooLong_slashed hcount)]

theorem isTooLong_slashed {count : Nat} {name : String}
    (h : Path.textLimit < 1 + count + name.utf8ByteSize) :
    ((slashed count).append [name]).isTooLong := by
  have hsize := Path.le_utf8ByteSize_joinText (slashed count).text name
  rw [utf8ByteSize_slashed] at hsize
  exact decide_eq_true (h.trans_le hsize)

end Slashes

/-- A folder with an event file is loaded while a walk can open all folders below it, and not any
more once another file has come in a folder of a long name. -/
theorem long_folder_bars_loading :
    let data := slashed 3850
    let long := String.ofList (List.replicate 255 'a')
    let start : String :=
      "\x7b\"type\":\"task-start\",\"taskId\":\"t\",\"taskDescription\":\"g\"\x7d"
    let disk : Disk :=
      { tree := Node.put (.folder [("d", .folder [])]) (["d"] ++ ["x.json"]) (.file start.toUTF8) }
    let later : Disk :=
      { tree := (disk.tree.put (["d"] ++ [long]) (.folder [])).put
          ((["d"] ++ [long]) ++ ["n.txt"]) (.file "".toUTF8) }
    disk.route data = .ok ["d"] ∧ AddsForeign disk later ["d"] (fun _ => True) ∧
      (∃ loaded, disk.folderEvents data = .ok loaded) ∧
      ∃ closed, ClosedAt later data ["d"] (fun _ => True) closed ∧
        later.folderEvents data = .error (.walk closed.text Failure.nameTooLong.message) := by
  intro data long start disk later
  have hfolder : disk.tree.IsFolderAt ["d"] := ⟨_, rfl⟩
  have hroute : disk.route data = .ok ["d"] := by
    have hleads : disk.LeadsTo data ["d"] := by
      refine ⟨?_, hfolder⟩
      rw [steps_slashed, Disk.start, if_neg (isAbsolute_slashed _)]
      rfl
    exact hleads.route_eq_ok (refusal?_slashed (by decide))
  have hw : disk.tree.WellFormed :=
    wellFormed_put (by simp [Node.WellFormed, Node.EntriesWellFormed]) (wellFormed_file _) _
  have hlater : later.tree.WellFormed :=
    wellFormed_put (wellFormed_put hw wellFormed_empty _) (wellFormed_file _) _
  have hfree : disk.tree.at? (["d"] ++ [long]) = none :=
    Option.isNone_iff_eq_none.mp (by decide +kernel)
  have hmade : (disk.tree.put (["d"] ++ [long]) (.folder [])).at? (["d"] ++ [long]) =
      some (.folder []) := at?_put_of_folder rfl long (.folder [])
  have hmadeFree : (disk.tree.put (["d"] ++ [long]) (.folder [])).at?
      ((["d"] ++ [long]) ++ ["n.txt"]) = none := by
    rw [at?_append, hmade]
    rfl
  have hadds : AddsForeign disk later ["d"] fun _ => True := by
    refine ((AddsForeign.refl disk ["d"] _).put ["d"] long hfolder hfree (.inl rfl)).put
      (["d"] ++ [long]) "n.txt" ⟨_, hmade⟩ hmadeFree (.inr ⟨_, rfl, .otherName ?_⟩)
    decide +kernel
  have hlong : later.tree.IsFolderAt (["d"] ++ [long]) :=
    (keeps_put hmadeFree _).keepsFolders _ ⟨_, hmade⟩
  have hopens : Opens disk data ["d"] fun _ => True := by
    have hbefore : Opens { tree := .folder [("d", .folder [])] } data ["d"] fun _ => True := by
      intro route _ hroute
      obtain ⟨rfl, -⟩ := peek_empty (isFolderAt_iff_peek.mp hroute)
      exact not_isTooLong_slashed (by decide)
    exact hbefore.put ["d"] "x.json" ⟨_, rfl⟩ (.inl ⟨_, rfl⟩)
  refine ⟨hroute, hadds, ⟨_, folderEvents_of_opens hw hroute rfl hopens ?_⟩, ?_⟩
  · decide +kernel
  · obtain ⟨others, hothers⟩ := hadds.keeps.keepsFolders _ hfolder
    have hroute' := route_mono hroute hadds.current hadds.keeps.keepsFolders
    refine folderEvents_of_closed hlater hroute' hothers fun hopens => ?_
    refine hopens [long] trivial hlong (isTooLong_slashed ?_)
    decide +kernel

end Retrace
