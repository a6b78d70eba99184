import Retrace.Proofs.CommandLine.Compiling
import Retrace.Proofs.Store.Reloading

/-!
Compiling a folder again. The bundle that was written is listed among the events where the output
folder lies in the folder that is compiled, so the second time goes like the first one only if the
bundle is aside: after some event that was recorded, and in place of none that gave actions.
-/

namespace Retrace

open Files Disk

namespace Bundle

theorem isEventFileName_fileName (id : String) : isEventFileName (fileName id) = true := by
  have hsplit : (fileName id).toList =
      ("wap_exact_replay_list_" ++ id).toList ++ '.' :: ['j', 's', 'o', 'n'] := by
    delta fileName
    rw [String.toList_append, List.append_cancel_left_eq]
    rfl
  have hfront : ("wap_exact_replay_list_" ++ id).toList ≠ [] := by
    simp
  rw [isEventFileName, hsplit, Text.cutLast?_append hfront (by decide)]
  rfl

variable {b : Bundle} {folder path : Path} {disk later : Disk}

theorem addsFile_of_write (h : b.write folder disk = (later, .ok path)) :
    ∃ there, AddsFile disk later folder there (fileName b.taskId) b.pretty.toUTF8 := by
  obtain ⟨-, rfl, made, hmade, hwrite⟩ := write_eq_ok h
  apply Disk.addsFile_of_write
  rw [hmade]
  exact hwrite

theorem wellFormed_of_write (hw : disk.tree.WellFormed)
    (h : b.write folder disk = (later, .ok path)) : later.tree.WellFormed := by
  obtain ⟨-, -, made, hmade, hwrite⟩ := write_eq_ok h
  have hmadeWell := wellFormed_makeFolders hw folder
  rw [hmade] at hmadeWell
  have hlater := wellFormed_write hmadeWell path b.pretty.toUTF8
  rw [Disk.writeText] at hwrite
  rwa [hwrite] at hlater

theorem at?_of_write (h : b.write folder disk = (later, .ok path)) :
    later.at? path = some (.file b.pretty.toUTF8) := by
  obtain ⟨-, rfl, made, -, hwrite⟩ := write_eq_ok h
  exact at?_write hwrite

/-- A bundle that is written again changes nothing. -/
theorem write_again (h : b.write folder disk = (later, .ok path)) :
    b.write folder later = (later, .ok path) := by
  obtain ⟨hid, rfl, made, hmade, -⟩ := write_eq_ok h
  obtain ⟨there, hadds⟩ := addsFile_of_write h
  have hrefusal : folder.refusal? = none := by
    cases hrefused : folder.refusal? with
    | none => rfl
    | some failure =>
        rw [makeFolders, hrefused] at hmade
        cases hmade
  have hfile := write_of_at? (at?_of_write h)
  simp only [write, requireTaskId_eq_ok_iff.mpr hid,
    makeFolders_of_leadsTo hadds.leads hrefusal, Disk.writeText, hfile]

end Bundle

namespace CommandLine

variable {disk later : Disk} {dataFolder outputFolder : String}

theorem bundleFolder_eq_ok_iff {path : Path} :
    bundleFolder disk dataFolder outputFolder = (later, .ok path) ↔ ∃ loaded bundle,
      disk.folderEvents ⟨dataFolder, []⟩ = .ok loaded ∧ Bundle.ofLoaded loaded = .ok bundle ∧
        bundle.write ⟨outputFolder, []⟩ disk = (later, .ok path) := by
  constructor
  · intro h
    unfold bundleFolder at h
    split at h
    · cases h
    · next loaded hloaded =>
        split at h
        · cases h
        · next bundle hbundle =>
            split at h
            · cases h
            · next hwrite =>
                cases h
                exact ⟨loaded, bundle, hloaded, hbundle, hwrite⟩
  · rintro ⟨loaded, bundle, hloaded, hbundle, hwrite⟩
    simp only [bundleFolder, hloaded, hbundle, hwrite]

theorem run_compile_eq_exit_zero_iff {arguments : List String} {env : Environment}
    {output errors : String}
    (h : Invocation.ofArguments arguments = .run (.compile dataFolder (some outputFolder))) :
    run arguments env disk = (later, .exit 0 output errors) ↔
      (∃ path, bundleFolder disk dataFolder outputFolder = (later, .ok path)) ∧
        output = "" ∧ errors = "" := by
  rw [run_compile h, Option.getD_some]
  rcases bundleFolder disk dataFolder outputFolder with ⟨made, refusal | path⟩
  · simp [ending]
  · simp [ending, eq_comm]

/-- What a compile that goes well does: the bundle of the events of the folder is written to a file
of the output folder, which is at the route. -/
structure Wrote (disk later : Disk) (dataFolder outputFolder : String)
    (loaded : List LoadedEvent) (bundle : Bundle) (file : Route) : Prop where
  loads : disk.folderEvents ⟨dataFolder, []⟩ = .ok loaded
  makes : Bundle.ofLoaded loaded = .ok bundle
  writes : bundle.write ⟨outputFolder, []⟩ disk =
    (later, .ok (Path.join ⟨outputFolder, []⟩ (Bundle.fileName bundle.taskId)))
  leads : later.route (Path.join ⟨outputFolder, []⟩ (Bundle.fileName bundle.taskId)) = .ok file

theorem exists_wrote {path : Path}
    (h : bundleFolder disk dataFolder outputFolder = (later, .ok path)) :
    ∃ loaded bundle file, Wrote disk later dataFolder outputFolder loaded bundle file := by
  obtain ⟨loaded, bundle, hloaded, hbundle, hwrite⟩ := bundleFolder_eq_ok_iff.mp h
  obtain ⟨-, rfl, -⟩ := Bundle.write_eq_ok hwrite
  obtain ⟨file, hroute, -⟩ := at?_eq_some_iff.mp (Bundle.at?_of_write hwrite)
  exact ⟨loaded, bundle, file, hloaded, hbundle, hwrite, hroute⟩

section Wrote

variable {loaded : List LoadedEvent} {bundle : Bundle} {file : Route}

theorem Wrote.getLast?_eq (h : Wrote disk later dataFolder outputFolder loaded bundle file) :
    file.getLast? = some (Bundle.fileName bundle.taskId) := by
  obtain ⟨there, -, rfl, -⟩ := route_join h.leads
  exact List.getLast?_concat

/-- What loading the folder again gives, if a walk can still go through it. -/
theorem Wrote.reloaded (h : Wrote disk later dataFolder outputFolder loaded bundle file)
    (hw : disk.tree.WellFormed) (hopened : ∃ files, later.eventFiles ⟨dataFolder, []⟩ = .ok files) :
    ∃ e again, e.kind = .unknown bundle.replayType.text ∧
      later.folderEvents ⟨dataFolder, []⟩ = .ok again ∧
        Reloaded later ⟨dataFolder, []⟩ file e loaded again := by
  obtain ⟨there, hadds⟩ := Bundle.addsFile_of_write h.writes
  obtain ⟨e, he, hkind⟩ := bundle.exists_event
  have hfile := h.leads
  rw [Path.join_eq_append] at hfile
  obtain rfl := route_append_eq hadds.leads hfile
  obtain ⟨again, hagain, hreloaded⟩ := hadds.folderEvents hw
    (Bundle.wellFormed_of_write hw h.writes) (Bundle.isEventFileName_fileName _) he h.loads hopened
  exact ⟨e, again, hkind, hagain, hreloaded⟩

/-- A walk goes well again where the output folder was there before. -/
theorem Wrote.exists_eventFiles
    (h : Wrote disk later dataFolder outputFolder loaded bundle file) (hw : disk.tree.WellFormed)
    {there : Route} (hfolder : disk.LeadsTo ⟨outputFolder, []⟩ there) :
    ∃ files, later.eventFiles ⟨dataFolder, []⟩ = .ok files := by
  obtain ⟨folder, hadds⟩ := Bundle.addsFile_of_write h.writes
  obtain ⟨entries, hentries, hfiles, -, -⟩ := folderEvents_eq_ok_iff.mp h.loads
  have hleads := (hfolder.mono hadds.current hadds.keepsFolders).1
  obtain rfl := Except.ok.inj (hleads.symm.trans hadds.leads.1)
  exact hadds.exists_eventFiles hw (Bundle.wellFormed_of_write hw h.writes) hfolder hentries hfiles

/-- With the bundle aside, compiling again changes nothing at all. -/
theorem Wrote.bundleFolder_of_aside
    (h : Wrote disk later dataFolder outputFolder loaded bundle file) (hw : disk.tree.WellFormed)
    (haside : Aside later ⟨dataFolder, []⟩ file loaded) :
    ∃ path, bundleFolder later dataFolder outputFolder = (later, .ok path) := by
  obtain ⟨e, again, hkind, hagain, hreloaded⟩ := h.reloaded hw haside.opened
  have hpaths := exists_path_of_folderEvents h.loads
  have hsame := (hreloaded.ofLoaded_iff ⟨_, hkind⟩ h.makes haside.opened hpaths).mpr haside
  exact ⟨_, bundleFolder_eq_ok_iff.mpr ⟨again, bundle, hagain, hsame, Bundle.write_again h.writes⟩⟩

/-- If compiling again leaves the file as it is, the bundle was aside. -/
theorem Wrote.aside_of_bundleFolder {last : Disk} {path : Path}
    (h : Wrote disk later dataFolder outputFolder loaded bundle file) (hw : disk.tree.WellFormed)
    (hagain : bundleFolder later dataFolder outputFolder = (last, .ok path))
    (hkept : last.at? (Path.join ⟨outputFolder, []⟩ (Bundle.fileName bundle.taskId)) =
      later.at? (Path.join ⟨outputFolder, []⟩ (Bundle.fileName bundle.taskId))) :
    Aside later ⟨dataFolder, []⟩ file loaded := by
  obtain ⟨found, other, hfound, hother, hwritten⟩ := bundleFolder_eq_ok_iff.mp hagain
  obtain ⟨_, -, hopened, -, -⟩ := folderEvents_eq_ok_iff.mp hfound
  obtain ⟨e, again, hkind, hreload, hreloaded⟩ := h.reloaded hw hopened
  obtain rfl := Except.ok.inj (hfound.symm.trans hreload)
  have hpaths := exists_path_of_folderEvents h.loads
  have hid := hreloaded.taskId_eq ⟨_, hkind⟩ h.makes hother
  have hrewritten := Bundle.at?_of_write hwritten
  rw [(Bundle.write_eq_ok hwritten).2.1, hid, hkept, Bundle.at?_of_write h.writes] at hrewritten
  have htext : bundle.pretty = other.pretty := by
    simpa [String.toByteArray_inj] using hrewritten
  obtain rfl := Bundle.eq_of_ofText bundle.ofText_pretty (htext ▸ other.ofText_pretty)
  exact (hreloaded.ofLoaded_iff ⟨_, hkind⟩ h.makes hopened hpaths).mp hother

/-- With the bundle ahead, it is taken for the first event. -/
theorem Wrote.bundleFolder_of_ahead
    (h : Wrote disk later dataFolder outputFolder loaded bundle file) (hw : disk.tree.WellFormed)
    (hahead : Ahead later ⟨dataFolder, []⟩ file loaded) :
    bundleFolder later dataFolder outputFolder = (later, .error (.ofCompile dataFolder
      (.taskStartNotFirst (Bundle.fileName bundle.taskId) bundle.replayType.text))) := by
  obtain ⟨e, again, hkind, hagain, hreloaded⟩ := h.reloaded hw hahead.opened
  have hbarred := hreloaded.ofLoaded_of_ahead hkind h.makes h.getLast?_eq hahead
  rw [bundleFolder, hagain]
  simp only [hbarred]

end Wrote

/-- After a compile that went well, the same call goes well again and leaves the bundle as it is
exactly if the bundle is aside, and then it changes nothing at all. A bundle that is ahead is taken
for the first event of the task, and the call fails. -/
theorem recompiles_iff_aside {arguments : List String} {env : Environment}
    {output errors : String} (hw : disk.tree.WellFormed)
    (h : Invocation.ofArguments arguments = .run (.compile dataFolder (some outputFolder)))
    (hrun : run arguments env disk = (later, .exit 0 output errors)) :
    ∃ loaded bundle file, Wrote disk later dataFolder outputFolder loaded bundle file ∧
      let path := Path.join ⟨outputFolder, []⟩ (Bundle.fileName bundle.taskId)
      later.at? path = some (.file bundle.pretty.toUTF8) ∧
        (Aside later ⟨dataFolder, []⟩ file loaded →
          run arguments env later = (later, .exit 0 "" "")) ∧
        (∀ again output errors, run arguments env later = (again, .exit 0 output errors) →
          again.at? path = later.at? path → Aside later ⟨dataFolder, []⟩ file loaded) ∧
        (Ahead later ⟨dataFolder, []⟩ file loaded →
          run arguments env later = (later, .exit 1 ""
            (Refusal.ofCompile dataFolder (.taskStartNotFirst (Bundle.fileName bundle.taskId)
              bundle.replayType.text)).text)) := by
  obtain ⟨path, hfirst⟩ := (run_compile_eq_exit_zero_iff h).mp hrun |>.1
  obtain ⟨loaded, bundle, file, hwrote⟩ := exists_wrote hfirst
  refine ⟨loaded, bundle, file, hwrote, Bundle.at?_of_write hwrote.writes, ?_, ?_, ?_⟩
  · intro haside
    exact (run_compile_eq_exit_zero_iff h).mpr ⟨hwrote.bundleFolder_of_aside hw haside, rfl, rfl⟩
  · intro again output errors hagain hkept
    obtain ⟨path, hsecond⟩ := (run_compile_eq_exit_zero_iff h).mp hagain |>.1
    exact hwrote.aside_of_bundleFolder hw hsecond hkept
  · intro hahead
    rw [run_compile h, Option.getD_some, hwrote.bundleFolder_of_ahead hw hahead]
    rfl

/-- The start of a task, compiled twice into a folder of its own. -/
theorem recompiles_iff_aside_apart :
    let event : Json := .object [("type", .string "task-start"), ("taskId", .string "t"),
      ("taskDescription", .string "g")]
    let disk : Disk := { tree := .folder [("d", .folder [("x.json", .file event.compact.toUTF8)]),
      ("o", .folder [])] }
    let arguments := ["compile", "--data-dir", "d", "--output-dir", "o"]
    let later := (run arguments [] disk).1
    run arguments [] disk = (later, .exit 0 "" "") ∧
      run arguments [] later = (later, .exit 0 "" "") := by
  intro event disk arguments later
  have hw : disk.tree.WellFormed := by
    simp [disk, Node.WellFormed, Node.EntriesWellFormed]
  have h : Invocation.ofArguments arguments = .run (.compile "d" (some "o")) := by
    decide +kernel
  have hrun : run arguments [] disk = (later, .exit 0 "" "") :=
    Prod.ext rfl (by decide +kernel)
  obtain ⟨loaded, bundle, file, hwrote, -, hagain, -⟩ := recompiles_iff_aside hw h hrun
  have hdata : disk.LeadsTo ⟨"d", []⟩ ["d"] := ⟨rfl, _, rfl⟩
  have houtput : disk.LeadsTo ⟨"o", []⟩ ["o"] := ⟨rfl, _, rfl⟩
  obtain ⟨there, hadds⟩ := Bundle.addsFile_of_write hwrote.writes
  have hleads : ∀ {path route}, disk.LeadsTo path route → later.LeadsTo path route := fun h =>
    h.mono hadds.current hadds.keepsFolders
  have hapart : ¬ ["d"] <+: file := by
    rw [route_append_eq (hleads houtput) hwrote.leads]
    simp
  exact ⟨hrun, hagain (aside_of_apart (hleads hdata) hapart
    (hwrote.exists_eventFiles hw houtput) (exists_path_of_folderEvents hwrote.loads))⟩

/-- The same call into the folder itself, where the bundle is listed before the start of the task,
fails the second time. -/
theorem recompile_own_bundle :
    let event : Json := .object [("type", .string "task-start"), ("taskId", .string "t"),
      ("taskDescription", .string "g")]
    let disk : Disk :=
      { tree := .folder [("d", .folder [("x.json", .file event.compact.toUTF8)])] }
    let arguments := ["compile", "--data-dir", "d", "--output-dir", "d"]
    let later := (run arguments [] disk).1
    run arguments [] disk = (later, .exit 0 "" "") ∧
      run arguments [] later = (later, .exit 1 ""
        ("Error: cannot compile d\n\nCaused by:\n    first event is not a task-start record " ++
          "(wap_exact_replay_list_t.json is 'exact_replay')\n")) := by
  intro event disk arguments later
  have hw : disk.tree.WellFormed := by
    simp [disk, Node.WellFormed, Node.EntriesWellFormed]
  have h : Invocation.ofArguments arguments = .run (.compile "d" (some "d")) := by
    decide +kernel
  have hrun : run arguments [] disk = (later, .exit 0 "" "") :=
    Prod.ext rfl (by decide +kernel)
  obtain ⟨path, hfirst⟩ := (run_compile_eq_exit_zero_iff h).mp hrun |>.1
  obtain ⟨loaded, bundle, file, hwrote⟩ := exists_wrote hfirst
  have hloads : (disk.folderEvents ⟨"d", []⟩).toOption.map (fun loaded =>
      (loaded.map LoadedEvent.path, (Bundle.ofLoaded loaded).toOption.map Bundle.taskId)) =
      some ([⟨"d", ["x.json"]⟩], some "t") := by
    decide +kernel
  simp only [hwrote.loads, hwrote.makes, Except.toOption, Option.map_some, Option.some.injEq,
    Prod.mk.injEq] at hloads
  obtain ⟨hpaths, hid⟩ := hloads
  have hleads := hwrote.leads
  rw [hid, Path.join_eq_append] at hleads
  have hahead : Ahead later ⟨"d", []⟩ file loaded := by
    refine ⟨hwrote.exists_eventFiles hw ⟨rfl, _, rfl⟩, _, hleads, fun l hl => ?_⟩
    have hmem := List.mem_map_of_mem (f := LoadedEvent.path) hl
    rw [hpaths] at hmem
    exact ⟨["x.json"], List.mem_singleton.mp hmem, by decide +kernel⟩
  have htype : bundle.replayType.text = "exact_replay" := by
    cases bundle.replayType
    rfl
  refine ⟨hrun, ?_⟩
  rw [run_compile h, Option.getD_some, hwrote.bundleFolder_of_ahead hw hahead, hid, htype]
  exact Prod.ext rfl (by decide +kernel)

end CommandLine

end Retrace
