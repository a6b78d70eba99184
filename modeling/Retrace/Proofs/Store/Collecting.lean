import Retrace.Proofs.Store.Walks
import Retrace.Proofs.Text.Occurrences

/-!
Which files a walk collects, and in which order. It takes the files by what follows the last dot of
their names, and it meets them in the order of their routes, so sorting them leaves them as they
are.
-/

namespace Retrace

namespace Text

theorem cutLast?_eq_some_iff {separator : Char} {text before after : List Char} :
    cutLast? separator text = some (before, after) ↔
      text = before ++ separator :: after ∧ before ≠ [] ∧ separator ∉ after := by
  constructor
  · intro h
    unfold cutLast? at h
    split at h
    · next d c rest hdrop =>
        cases h
        have hreverse := congrArg List.reverse (eq_append_of_dropWhile_ne hdrop)
        simp only [List.reverse_reverse, List.reverse_append, List.reverse_cons,
          List.append_assoc, List.singleton_append] at hreverse
        refine ⟨by simpa using hreverse, by simp, fun hmem => ?_⟩
        exact notMem_takeWhile_ne separator text.reverse (List.mem_reverse.mp hmem)
    · cases h
  · rintro ⟨rfl, hbefore, hafter⟩
    exact cutLast?_append hbefore hafter

end Text

open Files Files.Node Files.Disk

/-- The last dot of the name is not its first character, and `json` follows it in any case. -/
def HasJsonExtension (name : String) : Prop :=
  ∃ stem extension, name.toList = stem ++ '.' :: extension ∧ stem ≠ [] ∧ '.' ∉ extension ∧
    extension.map Char.toLower = "json".toList

theorem isEventFileName_iff {name : String} :
    isEventFileName name = true ↔ HasJsonExtension name := by
  rw [isEventFileName, Option.any_eq_true]
  constructor
  · rintro ⟨⟨stem, extension⟩, hcut, hjson⟩
    obtain ⟨hname, hstem, hdot⟩ := Text.cutLast?_eq_some_iff.mp hcut
    exact ⟨stem, extension, hname, hstem, hdot, beq_iff_eq.mp hjson⟩
  · rintro ⟨stem, extension, hname, hstem, hdot, hjson⟩
    exact ⟨(stem, extension), Text.cutLast?_eq_some_iff.mpr ⟨hname, hstem, hdot⟩,
      beq_iff_eq.mpr hjson⟩

/-- A route ends in the name of an event file. -/
def IsEventRoute (route : Route) : Prop :=
  ∃ parent name, route = parent ++ [name] ∧ HasJsonExtension name

section Collections

theorem pairwise_lt_eventRoutes {node : Node} (h : node.WellFormed) :
    (eventRoutes node).Pairwise (· < ·) :=
  (pairwise_lt_files h).filter _

/-- Sorting leaves what the walk has met as it is. -/
theorem eventFiles_eq_eventRoutes {node : Node} (h : node.WellFormed) :
    node.eventFiles = eventRoutes node :=
  Route.sort_eq_of_lt (pairwise_lt_eventRoutes h) (nodup_eventRoutes h) fun _ => Iff.rfl

theorem mem_eventRoutes_iff {node : Node} (h : node.WellFormed) {route : Route} :
    route ∈ eventRoutes node ↔
      IsEventRoute route ∧ ∃ content, node.peek route = some (some content) := by
  simp only [eventRoutes, List.mem_filter, mem_files_iff h, ← peek_eq_file_iff,
    any_isEventFileName_iff, isEventFileName_iff]
  exact and_comm

/-- What is met depends on no more than what is seen at the routes. -/
theorem eventRoutes_eq_of_peek {node other : Node} (h : node.WellFormed)
    (hother : other.WellFormed) (hpeek : ∀ route, other.peek route = node.peek route) :
    eventRoutes other = eventRoutes node := by
  have hmem (route : Route) : route ∈ eventRoutes other ↔ route ∈ eventRoutes node := by
    rw [mem_eventRoutes_iff h, mem_eventRoutes_iff hother, hpeek]
  rw [← Route.sort_eq_of_lt (pairwise_lt_eventRoutes h) (nodup_eventRoutes hother) hmem,
    ← eventFiles_eq, eventFiles_eq_eventRoutes hother]

/-- The same files and folders, their entries listed in whatever order. -/
structure Relisted (disk other : Disk) : Prop where
  current : other.current = disk.current
  wellFormed : other.tree.WellFormed
  peek : ∀ route, other.tree.peek route = disk.tree.peek route

/-- The entries of a folder show the same in any order. -/
theorem peek_of_perm {entries others : List (String × Node)} (hperm : others.Perm entries)
    (hn : (entries.map Prod.fst).Nodup) (route : Route) :
    (Node.folder others).peek route = (Node.folder entries).peek route := by
  have hn' : (others.map Prod.fst).Nodup := (hperm.map Prod.fst).nodup_iff.mpr hn
  cases route with
  | nil => rfl
  | cons name rest =>
      have hlookup : others.lookup name = entries.lookup name := by
        refine Option.ext fun node => ⟨fun h => ?_, fun h => ?_⟩
        · exact Entries.lookup_of_mem hn (hperm.mem_iff.mp (Entries.mem_of_lookup h))
        · exact Entries.lookup_of_mem hn' (hperm.mem_iff.mpr (Entries.mem_of_lookup h))
      rw [peek_folder_cons, peek_folder_cons, hlookup]

variable {disk other : Disk} {base : Path} {there : Route} {entries : List (String × Node)}

theorem Relisted.keepsFolders (h : Relisted disk other) :
    disk.tree.KeepsFolders other.tree := by
  intro route hroute
  rw [isFolderAt_iff_peek] at hroute ⊢
  rw [h.peek, hroute]

/-- The paths of the event files, as a walk gives them that can open every folder. -/
theorem eventFiles_of_opens (hw : disk.tree.WellFormed) (hbase : disk.route base = .ok there)
    (hentries : disk.tree.at? there = some (.folder entries))
    (hopens : Opens disk base there fun _ => True) :
    disk.eventFiles base = .ok ((eventRoutes (.folder entries)).map base.append) := by
  obtain ⟨files, hfiles⟩ := (exists_eventFiles_iff_opens hw hbase hentries).mpr hopens
  have hat := at?_eq_some_iff.mpr ⟨there, hbase, hentries⟩
  obtain ⟨-, rfl⟩ := (eventFiles_eq_ok_iff hat).mp hfiles
  rw [hfiles, eventFiles_eq_eventRoutes (wellFormed_of_at? hw hentries)]

/-- The same folder is there, with the same event files, and can be walked as before. -/
theorem Relisted.exists_folder (h : Relisted disk other) (hw : disk.tree.WellFormed)
    (hbase : disk.route base = .ok there)
    (hentries : disk.tree.at? there = some (.folder entries))
    (hopens : Opens disk base there fun _ => True) :
    ∃ others, other.route base = .ok there ∧ other.tree.at? there = some (.folder others) ∧
      Opens other base there (fun _ => True) ∧
      eventRoutes (.folder others) = eventRoutes (.folder entries) := by
  have hbase' := route_mono hbase h.current h.keepsFolders
  obtain ⟨others, hothers⟩ := h.keepsFolders there ⟨entries, hentries⟩
  have hopens' : Opens other base there fun _ => True := by
    intro route _ hfolder
    rw [isFolderAt_iff_peek, h.peek] at hfolder
    exact hopens route trivial (isFolderAt_iff_peek.mpr hfolder)
  have hpeek (route : Route) :
      (Node.folder others).peek route = (Node.folder entries).peek route := by
    rw [← peek_append hothers, ← peek_append hentries, h.peek]
  have hroutes := eventRoutes_eq_of_peek (wellFormed_of_at? hw hentries)
    (wellFormed_of_at? h.wellFormed hothers) hpeek
  exact ⟨others, hbase', hothers, hopens', hroutes⟩

theorem Relisted.eventFiles_eq (h : Relisted disk other) (hw : disk.tree.WellFormed)
    (hbase : disk.route base = .ok there)
    (hentries : disk.tree.at? there = some (.folder entries))
    (hopens : Opens disk base there fun _ => True) :
    other.eventFiles base = disk.eventFiles base := by
  obtain ⟨others, hbase', hothers, hopens', hroutes⟩ :=
    h.exists_folder hw hbase hentries hopens
  rw [eventFiles_of_opens hw hbase hentries hopens,
    eventFiles_of_opens h.wellFormed hbase' hothers hopens', hroutes]

/-- A walk that can open every folder collects the files with the extension, at any depth, and
nothing else. Their routes increase strictly, so each is there once. They are as the walk meets
them, which sorting does not change, and they do not depend on the order in which the entries of the
folders are listed. -/
theorem eventFiles_collected (hw : disk.tree.WellFormed) (hbase : disk.route base = .ok there)
    (hentries : disk.tree.at? there = some (.folder entries))
    (hopens : Opens disk base there fun _ => True) :
    ∃ routes : List Route, disk.eventFiles base = .ok (routes.map base.append) ∧
      (∀ route, route ∈ routes ↔ IsEventRoute route ∧
        ∃ content, disk.tree.at? (there ++ route) = some (.file content)) ∧
      routes.Pairwise (· < ·) ∧
      (routes = (Node.folder entries).files.filter (·.getLast?.any isEventFileName) ∧
        Route.sort routes = routes) ∧
      ∀ other, Relisted disk other → other.eventFiles base = disk.eventFiles base := by
  have hfolder := wellFormed_of_at? hw hentries
  refine ⟨eventRoutes (.folder entries), eventFiles_of_opens hw hbase hentries hopens, ?_,
    pairwise_lt_eventRoutes hfolder, ⟨rfl, eventFiles_eq_eventRoutes hfolder⟩, ?_⟩
  · intro route
    rw [mem_eventRoutes_iff hfolder]
    simp only [← peek_append hentries, peek_eq_file_iff]
  · exact fun other hother => hother.eventFiles_eq hw hbase hentries hopens

/-- A folder `a` beside a file `a.json`, a folder that is named like an event file, a file whose
only dot comes first, and the entries in two orders. -/
theorem eventFiles_collected_beside :
    let file : Node := .file ⟨#[]⟩
    let entries : List (String × Node) := [("x.json", .folder [("..json", file)]),
      ("a.json", file), (".json", file), ("a", .folder [("b.c.JSON", file), ("b", file)])]
    let disk (entries : List (String × Node)) : Disk := { tree := .folder [("d", .folder entries)] }
    let found := [["a", "b.c.JSON"], ["a.json"], ["x.json", "..json"]]
    (disk entries).eventFiles ⟨"d", []⟩ = .ok (found.map (Path.append ⟨"d", []⟩)) ∧
      Relisted (disk entries) (disk entries.reverse) ∧
      (disk entries.reverse).eventFiles ⟨"d", []⟩ = (disk entries).eventFiles ⟨"d", []⟩ := by
  intro file entries disk found
  have hw : (disk entries).tree.WellFormed := by
    simp [disk, entries, file, Node.WellFormed, Node.EntriesWellFormed]
  have hbase : (disk entries).route ⟨"d", []⟩ = .ok ["d"] := by
    have hroute : ((disk entries).route ⟨"d", []⟩).toOption = some ["d"] := by
      decide +kernel
    exact Decoding.toOption_eq_some_iff.mp hroute
  have hentries : (disk entries).tree.at? ["d"] = some (.folder entries) := rfl
  have hfiles : ∃ files, (disk entries).eventFiles ⟨"d", []⟩ = .ok files := by
    have hat := at?_eq_some_iff.mpr ⟨_, hbase, hentries⟩
    have hfolders : (Node.folder entries).folders = [[], ["a"], ["x.json"]] := by
      simp [folders, entryFolders, inNameOrder, entries, file, List.mergeSort,
        List.MergeSort.Internal.splitInTwo, nameLe]
    refine ⟨_, (eventFiles_eq_ok_iff hat).mpr ⟨?_, rfl⟩⟩
    rw [Node.closedFolder?, hfolders]
    decide
  have hopens := (exists_eventFiles_iff_opens hw hbase hentries).mp hfiles
  obtain ⟨routes, hroutes, -, -, ⟨hwalk, -⟩, hother⟩ :=
    eventFiles_collected hw hbase hentries hopens
  have hfound : routes = found := by
    have hfiles : (Node.folder entries).files = [[".json"], ["a", "b"], ["a", "b.c.JSON"],
        ["a.json"], ["x.json", "..json"]] := by
      simp [files, entryFiles, inNameOrder, entries, file, List.mergeSort,
        List.MergeSort.Internal.splitInTwo, nameLe]
    rw [hwalk, hfiles]
    decide
  have hrelisted : Relisted (disk entries) (disk entries.reverse) := by
    refine ⟨rfl, ?_, fun route => ?_⟩
    · simp [disk, entries, file, Node.WellFormed, Node.EntriesWellFormed]
    · have hnames : (entries.map Prod.fst).Nodup := by
        decide
      cases route with
      | nil => rfl
      | cons name rest =>
          simp only [disk, peek_folder_cons, List.lookup_cons]
          split
          · exact peek_of_perm (List.reverse_perm entries) hnames rest
          · rfl
  exact ⟨hfound ▸ hroutes, hrelisted, hother _ hrelisted⟩

end Collections

end Retrace
