import Retrace.Proofs.Bundles.Texts
import Retrace.Proofs.Files.Order
import Retrace.Proofs.Files.Spelling
import Retrace.Proofs.Http.Sessions

/-!
Where the files of a task can lie. A valid id is a name of its own, so what is stored or read for it
lies below the root at a day and the id, and its bundle lies in the output folder itself. An id that
is not valid is turned away before anything is made, numbered or looked up.
-/

namespace Retrace

open Files

theorem Moment.mem_dayChars {m : Moment} {c : Char} (h : c ∈ m.dayChars) :
    c.isDigit = true ∨ c = '+' := by
  rw [dayChars, List.mem_append, List.mem_append, yearText] at h
  rcases h with (hyear | hmonth) | hday
  · split at hyear
    · rcases List.mem_cons.mp hyear with rfl | hdigit
      · exact .inr rfl
      · exact .inl (Decimal.isDigit_of_mem_padded hdigit)
    · exact .inl (Decimal.isDigit_of_mem_padded hyear)
  · exact .inl (Decimal.isDigit_of_mem_padded hmonth)
  · exact .inl (Decimal.isDigit_of_mem_padded hday)

theorem Moment.notMem_dayChars {m : Moment} {c : Char} (hdigit : c.isDigit = false)
    (hplus : c ≠ '+') : c ∉ m.dayChars := by
  intro h
  rcases mem_dayChars h with hc | hc
  · rw [hdigit] at hc
    cases hc
  · exact hplus hc

theorem Moment.isName_dayText (m : Moment) : IsName m.dayText := by
  have hlist : m.dayText.toList = m.dayChars := String.toList_ofList
  cases hchars : m.dayChars with
  | nil =>
      have hlength := Decimal.length_padded 2 m.day
      have hday : Decimal.padded 2 m.day = [] := by
        rw [dayChars, List.append_eq_nil_iff] at hchars
        exact hchars.2
      rw [hday, List.length_nil] at hlength
      omega
  | cons c rest =>
      have hhead : c ∈ m.dayChars := by simp [hchars]
      refine isName_of_head (hlist.trans hchars) ?_ ?_
      · rintro rfl
        exact notMem_dayChars (by decide) (by decide) hhead
      · rw [hlist]
        exact notMem_dayChars (by decide) (by decide)

theorem Moment.slash_notMem_stampChars (m : Moment) : '/' ∉ m.stampChars := by
  have hpadded : ∀ width n, '/' ∉ Decimal.padded width n := by
    intro width n h
    cases Decimal.isDigit_of_mem_padded h
  have hday : '/' ∉ m.dayChars := notMem_dayChars (by decide) (by decide)
  simp [stampChars, hpadded, hday]

theorem isName_eventFileName (m : Moment) (number : UInt64) : IsName (eventFileName m number) := by
  have hnumber : '/' ∉ Decimal.padded 6 number.toNat := by
    intro h
    cases Decimal.isDigit_of_mem_padded h
  have hlist := toList_eventFileName m number
  refine isName_of_head hlist (by decide) ?_
  rw [hlist]
  simp [m.slash_notMem_stampChars, hnumber]

theorem ValidTaskId.isName {id : String} (h : ValidTaskId id) : IsName id := by
  obtain ⟨⟨c, hc, -⟩, hstay, hup, hslash, -⟩ := h
  refine ⟨?_, hslash, hstay, hup⟩
  rintro rfl
  cases hc

theorem Bundle.isName_fileName {id : String} (h : '/' ∉ id.toList) : IsName (fileName id) := by
  have hlist : (fileName id).toList =
      "wap_exact_replay_list_".toList ++ (id.toList ++ ".json".toList) := by
    delta fileName
    simp only [String.toList_append, List.append_assoc]
  refine isName_of_head hlist (by decide) ?_
  rw [hlist]
  simp [h]

theorem Bundle.fileName_injective : Function.Injective fileName := by
  intro id other h
  delta fileName at h
  simpa only [String.append_left_inj, String.append_right_inj] using h

/-- A file below a root: its path is spelled as the root is and then the names, and they lead to the
file from where the root is. -/
structure LiesBelow (disk : Disk) (root : Path) (names : Route) (path : Path)
    (content : ByteArray) : Prop where
  path_eq : path = root.append names
  spelled : Components.ofText path.text = (Components.ofText root.text).down names
  found : ∃ there, disk.LeadsTo root there ∧ disk.tree.at? (there ++ names) = some (.file content)

theorem liesBelow_of_write {disk later : Disk} {root : Path} {folders : Route} {name : String}
    {content : ByteArray} (hfolders : ∀ folder ∈ folders, IsName folder) (hname : IsName name)
    (h : disk.write ((root.append folders).join name) content = (later, .ok ())) :
    LiesBelow later root (folders ++ [name]) ((root.append folders).join name) content := by
  have hpath : (root.append folders).join name = root.append (folders ++ [name]) := by
    rw [Path.join_eq_append, Path.append_append]
  obtain ⟨folder, -, hleads, hwritten⟩ := Disk.written_of_write h
  obtain ⟨there, hroot, rfl⟩ := hleads.of_append
  constructor
  case path_eq => exact hpath
  case spelled =>
    rw [hpath]
    refine Components.ofText_append root ?_
    rw [List.forall_mem_append]
    exact ⟨hfolders, List.forall_mem_singleton.mpr hname⟩
  case found =>
    refine ⟨there, hroot.mono hwritten.current hwritten.keepsFolders, ?_⟩
    obtain ⟨entries, he⟩ := hwritten.isFolder
    rw [hwritten.tree, ← List.append_assoc]
    exact Node.at?_put_of_folder he name _

/-- What is done for a task with the given id stays where the task belongs. -/
structure Contained (id : String) : Prop where
  save {store later : Store} {moment : Moment} {event : Json} {disk after : Disk} {path : Path}
    (hid : event.get? "taskId" = some (.string id))
    (h : store.save moment event disk = (later, after, .ok path)) :
    LiesBelow after store.root [moment.dayText, id, eventFileName moment store.next] path
      event.pretty.toUTF8
  eventFiles {store : Store} {disk : Disk} {paths : List Path} {path : Path}
    (h : store.eventFiles disk id = .ok paths) (hpath : path ∈ paths) :
    ∃ days day node entries rest,
      disk.at? store.root = some (.folder days) ∧ (day, node) ∈ days ∧
        node.at? [id] = some (.folder entries) ∧ rest ∈ (Node.folder entries).files ∧
          path = store.root.append (day :: id :: rest)
  bundle {bundle : Bundle} {folder : Path} {disk after : Disk} {path : Path}
    (hid : bundle.taskId = id) (h : bundle.write folder disk = (after, .ok path)) :
    LiesBelow after folder [Bundle.fileName id] path bundle.pretty.toUTF8
  alone {other : String} (h : Bundle.fileName other = Bundle.fileName id) : other = id

/-- Nothing is done for a task with the given id. -/
structure Rejected (id : String) : Prop where
  save {event : Json} (hid : event.get? "taskId" = some (.string id)) (store : Store)
    (moment : Moment) (disk : Disk) :
    store.save moment event disk = (store, disk, .error (.invalidTaskId id))
  prepare {event : Json} (hid : event.get? "taskId" = some (.string id)) (root : Path)
    (moment : Moment) (disk : Disk) :
    Store.prepare root moment event disk = (disk, .error (.invalidTaskId id))
  eventFiles (store : Store) (disk : Disk) :
    store.eventFiles disk id = .error (.invalidTaskId id)
  events (store : Store) (disk : Disk) : store.events disk id = .error (.invalidTaskId id)
  bundle {bundle : Bundle} (hid : bundle.taskId = id) (folder : Path) (disk : Disk) :
    bundle.write folder disk = (disk, .error (.invalidTaskId id))
  post {request : Http.Request} {event : Json} (hpost : request.posted? = some event)
    (hid : event.get? "taskId" = some (.string id)) (collector : Http.Collector)
    (clock : Clock) :
    ∃ response, collector.handle clock request = (collector, response) ∧ response.status = 400
  replay {request : Http.Request} {piece : String}
    (hmethod : request.method = "GET" ∨ request.method = "HEAD")
    (htarget : Http.Endpoint.ofTarget? request.target = some (.exactReplay piece))
    (hid : Http.decodePiece? piece = some id) (collector : Http.Collector) (clock : Clock) :
    ∃ response, collector.handle clock request = (collector, response) ∧ response.status = 400

theorem mem_files_of_walk {node : Node} {path : Path} {routes : List Route}
    (h : node.walk path = .ok routes) {route : Route} (hroute : route ∈ routes) :
    route ∈ node.files := by
  unfold Node.walk at h
  split at h
  · cases h
  · cases h
    exact (List.mem_filter.mp (Route.mem_sort.mp hroute)).1

/-- What a day contributes to the files of a task lies in the task's folder of that day. -/
theorem Store.mem_entryFiles {root : Path} {id : String} {entry : String × Node}
    {routes : List Route} (h : entryFiles root id entry = .ok routes) {route : Route}
    (hroute : route ∈ routes) :
    ∃ entries rest, entry.2.at? [id] = some (.folder entries) ∧
      rest ∈ (Node.folder entries).files ∧ route = entry.1 :: id :: rest := by
  unfold entryFiles at h
  split at h
  · next entries hfolder =>
      split at h
      · cases h
        cases hroute
      · cases hwalk : (Node.folder entries).walk (root.append [entry.1, id]) with
        | error e =>
            rw [hwalk] at h
            cases h
        | ok found =>
            rw [hwalk] at h
            cases h
            obtain ⟨rest, hrest, rfl⟩ := List.mem_map.mp hroute
            exact ⟨entries, rest, hfolder, mem_files_of_walk hwalk hrest, rfl⟩
  · cases h
    cases hroute

section Valid

variable {id : String}

theorem ValidTaskId.liesBelow_of_save (h : ValidTaskId id) {store later : Store}
    {moment : Moment} {event : Json} {disk after : Disk} {path : Path}
    (hid : event.get? "taskId" = some (.string id))
    (hsave : store.save moment event disk = (later, after, .ok path)) :
    LiesBelow after store.root [moment.dayText, id, eventFileName moment store.next] path
      event.pretty.toUTF8 := by
  have hrecorded : recordedTaskId event = .ok id := recordedTaskId_eq_ok_iff.mpr ⟨hid, h⟩
  have hfolders : ∀ folder ∈ [moment.dayText, id], IsName folder := by
    simp [moment.isName_dayText, h.isName]
  have hname := isName_eventFileName moment store.next
  simp only [Store.save, Store.prepare, hrecorded, Store.taskFolder_eq] at hsave
  cases hmade : disk.makeFolders (store.root.append [moment.dayText, id]) with
  | mk made result =>
      rw [hmade] at hsave
      cases result with
      | error failure => cases hsave
      | ok _ =>
          simp only [Store.takeNumber, PendingSave.write, PendingSave.path] at hsave
          split at hsave
          · cases hsave
          · next hwrite =>
              cases hsave
              exact liesBelow_of_write hfolders hname hwrite

theorem exists_of_mem_eventFiles {store : Store} {disk : Disk} {paths : List Path} {path : Path}
    (hfiles : store.eventFiles disk id = .ok paths) (hpath : path ∈ paths) :
    ∃ days day node entries rest,
      disk.at? store.root = some (.folder days) ∧ (day, node) ∈ days ∧
        node.at? [id] = some (.folder entries) ∧ rest ∈ (Node.folder entries).files ∧
          path = store.root.append (day :: id :: rest) := by
  simp only [Store.eventFiles, bind, Except.bind] at hfiles
  split at hfiles
  · cases hfiles
  · split at hfiles
    · next days hroot =>
        cases hfound : days.mapM (Store.entryFiles store.root id) with
        | error e =>
            rw [hfound] at hfiles
            cases hfiles
        | ok found =>
            rw [hfound] at hfiles
            cases hfiles
            obtain ⟨route, hroute, rfl⟩ := List.mem_map.mp hpath
            obtain ⟨routes, hroutes, hmem⟩ := List.mem_flatten.mp (Route.mem_sort.mp hroute)
            obtain ⟨entry, hentry, hlisted⟩ := Decoding.exists_of_mem_mapM hfound hroutes
            obtain ⟨entries, rest, hfolder, hrest, rfl⟩ := Store.mem_entryFiles hlisted hmem
            exact ⟨days, entry.1, entry.2, entries, rest, hroot, hentry, hfolder, hrest, rfl⟩
    · cases hfiles
      cases hpath

theorem ValidTaskId.liesBelow_of_bundle (h : ValidTaskId id) {bundle : Bundle} {folder : Path}
    {disk after : Disk} {path : Path} (hid : bundle.taskId = id)
    (hwrite : bundle.write folder disk = (after, .ok path)) :
    LiesBelow after folder [Bundle.fileName id] path bundle.pretty.toUTF8 := by
  obtain ⟨-, rfl, made, -, hwritten⟩ := Bundle.write_eq_ok hwrite
  rw [hid] at hwritten ⊢
  have hname := Bundle.isName_fileName h.isName.noSlash
  have hself : folder.append [] = folder := by simp [Path.append]
  rw [← hself] at hwritten
  have hlies := liesBelow_of_write (List.forall_mem_nil _) hname hwritten
  rw [hself] at hlies
  exact hlies

theorem ValidTaskId.contained (h : ValidTaskId id) : Contained id where
  save := h.liesBelow_of_save
  eventFiles := exists_of_mem_eventFiles
  bundle := h.liesBelow_of_bundle
  alone hname := Bundle.fileName_injective hname

end Valid

section Invalid

variable {id : String}

theorem requireTaskId_of_not_validTaskId (h : ¬ ValidTaskId id) :
    requireTaskId id = .error (.invalidTaskId id) := by
  rw [requireTaskId, if_neg h]

theorem prepare_of_not_validTaskId (h : ¬ ValidTaskId id) {event : Json}
    (hid : event.get? "taskId" = some (.string id)) (root : Path) (moment : Moment) (disk : Disk) :
    Store.prepare root moment event disk = (disk, .error (.invalidTaskId id)) := by
  have hrecorded : recordedTaskId event = .error (.invalidTaskId id) := by
    rw [recordedTaskId, hid]
    simp only [requireTaskId_of_not_validTaskId h]
    rfl
  rw [Store.prepare, hrecorded]

theorem save_of_not_validTaskId (h : ¬ ValidTaskId id) {event : Json}
    (hid : event.get? "taskId" = some (.string id)) (store : Store) (moment : Moment)
    (disk : Disk) :
    store.save moment event disk = (store, disk, .error (.invalidTaskId id)) := by
  rw [Store.save, prepare_of_not_validTaskId h hid]

theorem eventFiles_of_not_validTaskId (h : ¬ ValidTaskId id) (store : Store) (disk : Disk) :
    store.eventFiles disk id = .error (.invalidTaskId id) := by
  rw [Store.eventFiles, requireTaskId_of_not_validTaskId h]
  rfl

theorem events_of_not_validTaskId (h : ¬ ValidTaskId id) (store : Store) (disk : Disk) :
    store.events disk id = .error (.invalidTaskId id) := by
  rw [Store.events, eventFiles_of_not_validTaskId h]
  rfl

theorem replay_of_not_validTaskId (h : ¬ ValidTaskId id) {request : Http.Request}
    {piece : String} (hmethod : request.method = "GET" ∨ request.method = "HEAD")
    (htarget : Http.Endpoint.ofTarget? request.target = some (.exactReplay piece))
    (hid : Http.decodePiece? piece = some id) (collector : Http.Collector) (clock : Clock) :
    ∃ response, collector.handle clock request = (collector, response) ∧
      response.status = 400 := by
  have hreplay : collector.replayResponse piece =
      (Http.Problem.store (.invalidTaskId id)).response := by
    rw [Http.Collector.replayResponse, hid]
    simp only [Http.Collector.replay, events_of_not_validTaskId h]
  have hallows : (Http.Endpoint.exactReplay piece).allows request.method = true := by
    simpa [Http.Endpoint.allows] using hmethod
  have hoptions : request.method ≠ "OPTIONS" := by
    intro hoptions
    rw [hoptions] at hmethod
    exact absurd hmethod (by decide)
  rw [Http.Collector.handle, if_neg hoptions, htarget]
  simp only [hallows, if_true, Http.Collector.dispatch, hreplay]
  refine ⟨_, rfl, ?_⟩
  split <;> rfl

theorem rejected_of_not_validTaskId (h : ¬ ValidTaskId id) : Rejected id where
  save hid := save_of_not_validTaskId h hid
  prepare hid := prepare_of_not_validTaskId h hid
  eventFiles := eventFiles_of_not_validTaskId h
  events := events_of_not_validTaskId h
  bundle := by
    rintro bundle rfl folder disk
    rw [Bundle.write, requireTaskId_of_not_validTaskId h]
  post := by
    intro request event hpost hid collector clock
    have hhandle := Http.Collector.handle_of_posted? hpost collector clock
    rw [save_of_not_validTaskId h hid] at hhandle
    exact ⟨_, hhandle, rfl⟩
  replay := replay_of_not_validTaskId h

end Invalid

/-- What is done for a valid id stays where the task belongs, and for any other id nothing is done:
no file is written, no number is taken, and requests that bring the id are answered with 400. -/
theorem contained_or_rejected (id : String) :
    (ValidTaskId id → Contained id) ∧ (¬ ValidTaskId id → Rejected id) :=
  ⟨ValidTaskId.contained, rejected_of_not_validTaskId⟩

theorem contained_or_rejected_ids : Contained "t" ∧ Rejected "../t" :=
  ⟨(contained_or_rejected "t").1 (by decide), (contained_or_rejected "../t").2 (by decide)⟩

end Retrace
