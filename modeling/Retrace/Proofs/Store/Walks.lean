import Retrace.Proofs.Store.Recall
import Retrace.Proofs.Store.Reloading

/-!
Which event files a walk lists, and what is loaded of them. A walk lists each event file once and
fails if there is a folder that cannot be opened; the folder of a task whose own path is too long is
not walked at all.
-/

namespace Retrace

open Files Files.Node Files.Disk

/-- The routes lead to the event files in the folders of an area, to each of them once. -/
structure ListsEvents (tree : Node) (there : Route) (area : Route → Prop) (routes : List Route) :
    Prop where
  nodup : routes.Nodup
  mem_iff : ∀ route, route ∈ routes ↔ (∃ parent name, route = parent ++ [name] ∧ area parent ∧
    isEventFileName name = true) ∧ ∃ content, tree.peek (there ++ route) = some (some content)

section Listings

variable {tree : Node} {there : Route} {entries : List (String × Node)}

theorem any_isEventFileName_iff {route : Route} : route.getLast?.any isEventFileName = true ↔
    ∃ parent name, route = parent ++ [name] ∧ isEventFileName name = true := by
  rw [Option.any_eq_true]
  simp only [List.getLast?_eq_some_iff]
  constructor
  · rintro ⟨name, ⟨parent, rfl⟩, hname⟩
    exact ⟨parent, name, rfl, hname⟩
  · rintro ⟨parent, name, rfl, hname⟩
    exact ⟨name, ⟨parent, rfl⟩, hname⟩

/-- Nothing is listed where no folder is. -/
theorem lists_nothing (h : ¬ tree.IsFolderAt there) (area : Route → Prop) :
    ListsEvents tree there area [] where
  nodup := List.nodup_nil
  mem_iff route := by
    refine ⟨fun hmem => absurd hmem List.not_mem_nil, ?_⟩
    rintro ⟨⟨parent, name, rfl, -⟩, content, hfile⟩
    exact absurd (isFolderAt_of_peek_below (by simp) hfile) h

theorem lists_eventRoutes (hw : tree.WellFormed) (h : tree.at? there = some (.folder entries)) :
    ListsEvents tree there (fun _ => True) (eventRoutes (.folder entries)) := by
  have hfolder := wellFormed_of_at? hw h
  refine ⟨nodup_eventRoutes hfolder, fun route => ?_⟩
  simp only [eventRoutes, List.mem_filter, mem_files_iff hfolder, ← peek_eq_file_iff,
    peek_append h, any_isEventFileName_iff, true_and]
  exact and_comm

/-- The folders of a task that can be seen, below those of the days. -/
def OfTask (root : Path) (id : String) (route : Route) : Prop :=
  ∃ day rest, route = day :: id :: rest ∧ ¬ (root.append [day, id]).isTooLong

/-- The days whose folder of a task can be seen, as far as there is one. -/
def Store.seenDays (root : Path) (id : String) (days : List (String × Node)) :
    List (String × Node) :=
  days.filter fun entry => ¬ (root.append [entry.1, id]).isTooLong

theorem Store.mem_seenDays {root : Path} {id : String} {entry : String × Node} :
    entry ∈ seenDays root id entries ↔
      entry ∈ entries ∧ ¬ (root.append [entry.1, id]).isTooLong := by
  simp [seenDays]

theorem Store.wellFormed_seenDays (h : (Node.folder entries).WellFormed) (root : Path)
    (id : String) : (Node.folder (seenDays root id entries)).WellFormed := by
  refine ⟨h.1.sublist (List.filter_sublist.map Prod.fst), entriesWellFormed_iff.mpr ?_⟩
  intro entry he
  exact entriesWellFormed_iff.mp h.2 entry (mem_seenDays.mp he).1

theorem Store.at?_seenDays (h : (Node.folder entries).WellFormed) {root : Path} {id day : String}
    {rest : Route} {node : Node} :
    (Node.folder (seenDays root id entries)).at? (day :: rest) = some node ↔
      (Node.folder entries).at? (day :: rest) = some node ∧
        ¬ (root.append [day, id]).isTooLong := by
  rw [at?_folder_cons (wellFormed_seenDays h root id).1, at?_folder_cons h.1]
  simp only [mem_seenDays]
  constructor
  · rintro ⟨found, ⟨hfound, hseen⟩, hrest⟩
    exact ⟨⟨found, hfound, hrest⟩, hseen⟩
  · rintro ⟨⟨found, hfound, hrest⟩, hseen⟩
    exact ⟨found, ⟨hfound, hseen⟩, hrest⟩

theorem lists_taskFiles (hw : tree.WellFormed) (h : tree.at? there = some (.folder entries))
    (root : Path) (id : String) : ListsEvents tree there (OfTask root id)
      (Store.taskFiles id (Store.seenDays root id entries)) := by
  have hfolder := wellFormed_of_at? hw h
  have hseen := Store.wellFormed_seenDays hfolder root id
  refine ⟨Store.nodup_taskFiles hseen, fun route => ?_⟩
  simp only [Store.mem_taskFiles_iff hseen, ← peek_eq_file_iff, peek_append h,
    any_isEventFileName_iff]
  constructor
  · rintro ⟨day, rest, content, ⟨parent, name, rfl, hname⟩, rfl, hfile⟩
    rw [peek_eq_file_iff, Store.at?_seenDays hfolder, ← peek_eq_file_iff] at hfile
    obtain ⟨hfile, hday⟩ := hfile
    exact ⟨⟨day :: id :: parent, name, rfl, ⟨day, parent, rfl, hday⟩, hname⟩, content, hfile⟩
  · rintro ⟨⟨parent, name, rfl, ⟨day, rest, rfl, hday⟩, hname⟩, content, hfile⟩
    refine ⟨day, rest ++ [name], content, ⟨rest, name, rfl, hname⟩, rfl, ?_⟩
    rw [peek_eq_file_iff] at hfile ⊢
    exact (Store.at?_seenDays hfolder).mpr ⟨hfile, hday⟩

end Listings

/-- Every folder of an area can be opened at its path. -/
def Opens (disk : Disk) (base : Path) (there : Route) (area : Route → Prop) : Prop :=
  ∀ route, area route → disk.tree.IsFolderAt (there ++ route) → ¬ (base.append route).isTooLong

/-- The path is that of a folder of an area, and too long for the folder to be opened. -/
def ClosedAt (disk : Disk) (base : Path) (there : Route) (area : Route → Prop) (path : Path) :
    Prop :=
  ∃ route, area route ∧ disk.tree.IsFolderAt (there ++ route) ∧ path = base.append route ∧
    path.isTooLong

theorem not_opens_iff {disk : Disk} {base : Path} {there : Route} {area : Route → Prop} :
    ¬ Opens disk base there area ↔ ∃ path, ClosedAt disk base there area path := by
  simp only [Opens, ClosedAt, not_forall, not_not]
  constructor
  · rintro ⟨route, harea, hfolder, hlong⟩
    exact ⟨_, route, harea, hfolder, rfl, hlong⟩
  · rintro ⟨_, route, harea, hfolder, rfl, hlong⟩
    exact ⟨route, harea, hfolder, hlong⟩

/-- A further folder needs a path that can be opened, a further file needs nothing. -/
theorem Opens.put {disk : Disk} {there : Route} {area : Route → Prop} {base : Path}
    (h : Opens disk base there area) (parent : Route) (name : String) {new : Node}
    (hparent : disk.tree.IsFolderAt parent)
    (hnew : (∃ content, new = .file content) ∨ new = .folder [] ∧
      ∀ route, there ++ route = parent ++ [name] → ¬ (base.append route).isTooLong) :
    Opens { disk with tree := disk.tree.put (parent ++ [name]) new } base there area := by
  intro route harea hfolder
  rw [isFolderAt_iff_peek] at hfolder
  by_cases hbelow : parent ++ [name] <+: there ++ route
  · obtain ⟨rest, hrest⟩ := hbelow
    rw [← hrest, List.append_assoc, List.singleton_append,
      peek_put_below hparent name new rest] at hfolder
    obtain ⟨content, rfl⟩ | ⟨rfl, hopens⟩ := hnew
    · cases rest <;> cases hfolder
    · obtain ⟨rfl, -⟩ := peek_empty hfolder
      rw [List.append_nil] at hrest
      exact hopens route hrest.symm
  · rw [peek_put_elsewhere hparent name new hbelow] at hfolder
    exact h route harea (isFolderAt_iff_peek.mpr hfolder)

section Folders

variable {disk : Disk} {base : Path} {there : Route} {entries : List (String × Node)}
  (hw : disk.tree.WellFormed) (hbase : disk.route base = .ok there)
  (hentries : disk.tree.at? there = some (.folder entries))

include hw hbase hentries

theorem exists_eventFiles_iff_opens :
    (∃ files, disk.eventFiles base = .ok files) ↔ Opens disk base there fun _ => True := by
  rw [exists_eventFiles_iff hw (at?_eq_some_iff.mpr ⟨there, hbase, hentries⟩)]
  simp only [Opens, isFolderAt_append_iff hentries, forall_const]

/-- What is loaded from a folder. -/
theorem folderEvents_of_opens (hopens : Opens disk base there fun _ => True)
    (hsome : eventRoutes (.folder entries) ≠ []) : disk.folderEvents base =
      .ok ((Route.sort (eventRoutes (.folder entries))).filterMap (load? disk base)) := by
  have hat := at?_eq_some_iff.mpr ⟨there, hbase, hentries⟩
  have hfiles := (exists_eventFiles_iff_opens hw hbase hentries).mpr hopens
  refine folderEvents_eq_ok_iff.mpr ⟨entries, hat, hfiles, ?_, rfl⟩
  obtain ⟨route, hroute⟩ := List.exists_mem_of_ne_nil _ hsome
  exact List.ne_nil_of_mem (Route.mem_sort.mpr hroute)

/-- A folder below that cannot be opened bars everything, and the error names one that bars it. -/
theorem eventFiles_of_closed (hclosed : ¬ Opens disk base there fun _ => True) :
    ∃ closed, ClosedAt disk base there (fun _ => True) closed ∧
      disk.eventFiles base = .error (.walk closed.text Failure.nameTooLong.message) ∧
        disk.folderEvents base = .error (.walk closed.text Failure.nameTooLong.message) := by
  have hat := at?_eq_some_iff.mpr ⟨there, hbase, hentries⟩
  have hfind : disk.find base = .ok (.folder entries) := Decoding.toOption_eq_some_iff.mp hat
  rw [← exists_eventFiles_iff_opens hw hbase hentries] at hclosed
  cases hfirst : (Node.folder entries).closedFolder? base with
  | none => exact absurd ⟨_, (eventFiles_eq_ok_iff hat).mpr ⟨hfirst, rfl⟩⟩ hclosed
  | some closed =>
      obtain ⟨route, hfolder, hpath⟩ :=
        exists_of_closedFolder? (wellFormed_of_at? hw hentries) hfirst
      have hfiles :
          disk.eventFiles base = .error (.walk closed.text Failure.nameTooLong.message) := by
        simp only [Disk.eventFiles, hfind, Node.walk, hfirst]
        rfl
      have hbelow := (isFolderAt_append_iff hentries).mpr hfolder
      refine ⟨closed, ⟨route, trivial, hbelow, hpath⟩, hfiles, ?_⟩
      simp only [Disk.folderEvents, hat, hfiles]
      rfl

theorem folderEvents_of_closed (hclosed : ¬ Opens disk base there fun _ => True) :
    ∃ closed, ClosedAt disk base there (fun _ => True) closed ∧
      disk.folderEvents base = .error (.walk closed.text Failure.nameTooLong.message) := by
  obtain ⟨closed, hclosed, -, hevents⟩ := eventFiles_of_closed hw hbase hentries hclosed
  exact ⟨closed, hclosed, hevents⟩

end Folders

namespace Store

section Days

variable {root : Path} {id : String} {entry : String × Node}

/-- A day fails at a folder of the task that can be seen and cannot be opened. -/
theorem exists_closed_of_entryFiles (hw : entry.2.WellFormed) {error : StoreError}
    (h : entryFiles root id entry = .error error) :
    ∃ rest, ¬ (root.append [entry.1, id]).isTooLong ∧ entry.2.IsFolderAt (id :: rest) ∧
      (root.append (entry.1 :: id :: rest)).isTooLong ∧
        error = .walk (root.append (entry.1 :: id :: rest)).text Failure.nameTooLong.message := by
  unfold entryFiles at h
  split at h
  · next inner hinner =>
      split at h
      · cases h
      · next hseen =>
          cases hfirst : (Node.folder inner).closedFolder? (root.append [entry.1, id]) with
          | none =>
              simp only [Node.walk, hfirst] at h
              cases h
          | some closed =>
              simp only [Node.walk, hfirst] at h
              cases h
              obtain ⟨rest, hrest, rfl, hlong⟩ :=
                exists_of_closedFolder? (wellFormed_of_at? hw hinner) hfirst
              rw [Path.append_append] at hlong ⊢
              exact ⟨rest, hseen, (isFolderAt_append_iff hinner).mpr hrest, hlong, rfl⟩
  · cases h

theorem entryFiles_of_isTooLong (h : (root.append [entry.1, id]).isTooLong) :
    entryFiles root id entry = .ok [] := by
  unfold entryFiles
  split
  · exact if_pos h
  · rfl

theorem entryFiles_ne_ok (hw : entry.2.WellFormed) (hseen : ¬ (root.append [entry.1, id]).isTooLong)
    {rest : Route} (hfolder : entry.2.IsFolderAt (id :: rest))
    (hlong : (root.append (entry.1 :: id :: rest)).isTooLong) (routes : List Route) :
    entryFiles root id entry ≠ .ok routes := by
  have htask : entry.2.IsFolderAt ([id] ++ rest) := hfolder
  obtain ⟨inner, hinner⟩ := isFolderAt_of_append htask
  cases hfirst : (Node.folder inner).closedFolder? (root.append [entry.1, id]) with
  | none =>
      have hopen := (closedFolder?_eq_none_iff (wellFormed_of_at? hw hinner)).mp hfirst rest
        ((isFolderAt_append_iff hinner).mp htask)
      rw [Path.append_append] at hopen
      exact absurd hlong hopen
  | some closed =>
      intro hroutes
      simp only [entryFiles, hinner, if_neg hseen, Node.walk, hfirst] at hroutes
      cases hroutes

/-- What the days list for a task, those left out where it cannot be seen. -/
theorem flatten_seenDays (days : List (String × Node)) :
    (days.map fun entry => if (root.append [entry.1, id]).isTooLong then []
      else (dayFiles id entry.2).map (entry.1 :: ·)).flatten =
        taskFiles id (seenDays root id days) := by
  induction days with
  | nil => rfl
  | cons entry rest ih =>
      rw [List.map_cons, List.flatten_cons, ih]
      by_cases hlong : (root.append [entry.1, id]).isTooLong
      · simp [taskFiles, seenDays, hlong]
      · simp [taskFiles, seenDays, hlong]

end Days

/-- Nothing is loaded for a task where the root is no folder. -/
theorem events_of_not_folder {store : Store} {disk : Disk} {id : String} (hid : ValidTaskId id)
    (h : ¬ ∃ days, disk.at? store.root = some (.folder days)) : store.events disk id = .ok [] := by
  have hfiles : store.eventFiles disk id = .ok [] := by
    simp only [Store.eventFiles, requireTaskId_eq_ok_iff.mpr hid, bind, Except.bind]
    split
    · next days hdays => exact absurd ⟨days, hdays⟩ h
    · rfl
  rw [Store.events, hfiles]
  rfl

section Tasks

variable (store : Store) {disk : Disk} {there : Route} {days : List (String × Node)} {id : String}
  (hw : disk.tree.WellFormed) (hroot : disk.route store.root = .ok there)
  (hdays : disk.tree.at? there = some (.folder days)) (hid : ValidTaskId id)

include hw hroot hdays hid

/-- The files of a task, as walks give them that can open every folder of the task. -/
theorem eventFiles_eq_sort (hopens : Opens disk store.root there (OfTask store.root id)) :
    store.eventFiles disk id = .ok ((Route.sort (taskFiles id (seenDays store.root id days))).map
      store.root.append) := by
  have hat := at?_eq_some_iff.mpr ⟨there, hroot, hdays⟩
  have hfolder := wellFormed_of_at? hw hdays
  have hvalid := requireTaskId_eq_ok_iff.mpr hid
  have hlisted : ∀ entry ∈ days, entryFiles store.root id entry =
      .ok (if (store.root.append [entry.1, id]).isTooLong then []
        else (dayFiles id entry.2).map (entry.1 :: ·)) := by
    intro entry he
    split
    · next hlong => exact entryFiles_of_isTooLong hlong
    · next hseen =>
        refine entryFiles_eq_ok (entriesWellFormed_iff.mp hfolder.2 _ he) fun rest hrest => ?_
        refine hopens _ ⟨entry.1, rest, rfl, hseen⟩ ?_
        exact (isFolderAt_append_cons_iff hdays hfolder.1).mpr ⟨entry.2, he, hrest⟩
  have hfiles := Decoding.mapM_eq_ok hlisted
  simp only [Store.eventFiles, hvalid, hat, hfiles, bind, Except.bind, flatten_seenDays]
  rfl

/-- What is loaded for a task. -/
theorem events_of_opens (hopens : Opens disk store.root there (OfTask store.root id)) :
    store.events disk id = .ok ((Route.sort (taskFiles id (seenDays store.root id days))).filterMap
      (load? disk store.root)) := by
  rw [Store.events, store.eventFiles_eq_sort hw hroot hdays hid hopens]
  exact congrArg Except.ok (readEvents_append disk store.root _)

/-- A folder of a task that cannot be opened bars everything, and the error names one that does. -/
theorem events_of_closed (hclosed : ¬ Opens disk store.root there (OfTask store.root id)) :
    ∃ closed, ClosedAt disk store.root there (OfTask store.root id) closed ∧
      store.events disk id = .error (.walk closed.text Failure.nameTooLong.message) := by
  have hat := at?_eq_some_iff.mpr ⟨there, hroot, hdays⟩
  have hfolder := wellFormed_of_at? hw hdays
  have hvalid := requireTaskId_eq_ok_iff.mpr hid
  obtain ⟨_, _, ⟨day, rest, rfl, hseen⟩, hopen, rfl, hlong⟩ := not_opens_iff.mp hclosed
  obtain ⟨node, hnode, hrest⟩ := (isFolderAt_append_cons_iff hdays hfolder.1).mp hopen
  cases hfiles : days.mapM (entryFiles store.root id) with
  | ok found =>
      obtain ⟨routes, hroutes⟩ := Decoding.exists_ok_of_mapM hfiles _ hnode
      have hnodeWf := entriesWellFormed_iff.mp hfolder.2 _ hnode
      exact absurd hroutes (entryFiles_ne_ok hnodeWf hseen hrest hlong routes)
  | error error =>
      -- The day that fails need not be the one with the given folder.
      obtain ⟨entry, hentry, hfailed⟩ := Decoding.exists_error_of_mapM hfiles
      obtain ⟨rest, hseen, hrest, hlong, rfl⟩ :=
        exists_closed_of_entryFiles (entriesWellFormed_iff.mp hfolder.2 _ hentry) hfailed
      have hbelow := (isFolderAt_append_cons_iff hdays hfolder.1).mpr ⟨entry.2, hentry, hrest⟩
      refine ⟨_, ⟨_, ⟨entry.1, rest, rfl, hseen⟩, hbelow, rfl, hlong⟩, ?_⟩
      simp only [Store.events, Store.eventFiles, hvalid, hat, hfiles, bind, Except.bind]

end Tasks

end Store

end Retrace
