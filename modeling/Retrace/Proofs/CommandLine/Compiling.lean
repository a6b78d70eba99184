import Retrace.CommandLine.Execution
import Retrace.Proofs.Files.Passage
import Retrace.Proofs.Store.Recording

/-!
Compiling is all or nothing. Whatever can bar a compile bars it before the first change to the
tree, and a compile that goes well adds one file, in a folder that is made with its parents. Only a
failure of the system itself can come between the two.
-/

namespace Retrace.CommandLine

open Files Disk

/-- The events of the folder make up the bundle of a task whose id can name a file. -/
structure Ready (disk : Disk) (dataFolder : String) (bundle : Bundle) : Prop where
  compiled : ∃ loaded, disk.folderEvents ⟨dataFolder, []⟩ = .ok loaded ∧
    Bundle.ofLoaded loaded = .ok bundle
  validTaskId : ValidTaskId bundle.taskId

/-- What bars a compile, the system apart. -/
inductive Barred (disk : Disk) (dataFolder : String) : Refusal → Prop
  | missing (h : disk.at? ⟨dataFolder, []⟩ = none) :
      Barred disk dataFolder (.ofStore (.notFound dataFolder))
  | notAFolder {content : ByteArray} (h : disk.at? ⟨dataFolder, []⟩ = some (.file content)) :
      Barred disk dataFolder (.ofStore (.notADirectory dataFolder))
  | noEventFiles {entries : List (String × Node)}
      (h : disk.at? ⟨dataFolder, []⟩ = some (.folder entries))
      (hfiles : disk.eventFiles ⟨dataFolder, []⟩ = .ok []) :
      Barred disk dataFolder (.ofStore (.noEventFiles dataFolder))
  | notAccepted {loaded : List LoadedEvent} {error : StreamError}
      (hloaded : disk.folderEvents ⟨dataFolder, []⟩ = .ok loaded)
      (h : Bundle.ofLoaded loaded = .error error) :
      Barred disk dataFolder (.ofCompile dataFolder error)
  | invalidTaskId {loaded : List LoadedEvent} {bundle : Bundle}
      (hloaded : disk.folderEvents ⟨dataFolder, []⟩ = .ok loaded)
      (hbundle : Bundle.ofLoaded loaded = .ok bundle) (h : ¬ ValidTaskId bundle.taskId) :
      Barred disk dataFolder (.ofStore (.invalidTaskId bundle.taskId))

/-- A walk, a folder or a file that the system refuses, with the disk as it is then. -/
inductive SystemFailure (disk : Disk) (dataFolder outputFolder : String) :
    Disk → Refusal → Prop
  | walk {entries : List (String × Node)} {error : StoreError}
      (h : disk.at? ⟨dataFolder, []⟩ = some (.folder entries))
      (hfiles : disk.eventFiles ⟨dataFolder, []⟩ = .error error) :
      SystemFailure disk dataFolder outputFolder disk (.ofStore error)
  | folder {bundle : Bundle} {made : Disk} {failure : Failure}
      (hready : Ready disk dataFolder bundle)
      (h : disk.makeFolders ⟨outputFolder, []⟩ = (made, .error failure)) :
      SystemFailure disk dataFolder outputFolder made
        (.ofStore (.ofFailure ⟨outputFolder, []⟩ failure))
  | file {bundle : Bundle} {made : Disk} {path : Path} {failure : Failure}
      (hready : Ready disk dataFolder bundle)
      (hpath : path = Path.join ⟨outputFolder, []⟩ (Bundle.fileName bundle.taskId))
      (hmade : disk.makeFolders ⟨outputFolder, []⟩ = (made, .ok ()))
      (h : made.writeText path bundle.pretty = (made, .error failure)) :
      SystemFailure disk dataFolder outputFolder made (.ofStore (.ofFailure path failure))

/-- What a compile comes to: the disk that it leaves, and how it ends. -/
inductive Compiled (disk : Disk) (dataFolder outputFolder : String) : Disk × Outcome → Prop
  | refused {refusal : Refusal} (h : Barred disk dataFolder refusal) :
      Compiled disk dataFolder outputFolder (disk, .exit 1 "" refusal.text)
  | written {bundle : Bundle} {later : Disk} {there : Route}
      (hready : Ready disk dataFolder bundle)
      (hadds : AddsFile disk later ⟨outputFolder, []⟩ there (Bundle.fileName bundle.taskId)
        bundle.pretty.toUTF8) :
      Compiled disk dataFolder outputFolder (later, .exit 0 "" "")
  | failed {later : Disk} {refusal : Refusal}
      (h : SystemFailure disk dataFolder outputFolder later refusal)
      (hgrows : Grows disk later ⟨outputFolder, []⟩) :
      Compiled disk dataFolder outputFolder (later, .exit 1 "" refusal.text)

/-- How a compile ends. -/
def ending (result : Disk × Except Refusal Path) : Disk × Outcome :=
  match result with
  | (disk, .ok _) => (disk, .exit 0 "" "")
  | (disk, .error refusal) => (disk, .exit 1 "" refusal.text)

variable {disk : Disk} {dataFolder : String}

theorem folderEvents_of_barred {error : StoreError}
    (h : disk.folderEvents ⟨dataFolder, []⟩ = .error error) :
    Barred disk dataFolder (.ofStore error) ∨ ∀ outputFolder,
      SystemFailure disk dataFolder outputFolder disk (.ofStore error) := by
  unfold folderEvents at h
  split at h
  · next hnone =>
      cases h
      exact .inl (.missing hnone)
  · next hfile =>
      cases h
      exact .inl (.notAFolder hfile)
  · next hfolder =>
      cases hfiles : disk.eventFiles ⟨dataFolder, []⟩ with
      | error failure =>
          rw [hfiles] at h
          cases h
          exact .inr fun _ => .walk hfolder hfiles
      | ok files =>
          rw [hfiles] at h
          cases files with
          | nil =>
              cases h
              exact .inl (.noEventFiles hfolder hfiles)
          | cons file files => cases h

theorem bundleFolder_of_folderEvents {error : StoreError}
    (h : disk.folderEvents ⟨dataFolder, []⟩ = .error error) (outputFolder : String) :
    bundleFolder disk dataFolder outputFolder = (disk, .error (.ofStore error)) := by
  rw [bundleFolder, h]

/-- What bars a compile comes before everything that changes the disk. -/
theorem bundleFolder_of_barred {refusal : Refusal} (h : Barred disk dataFolder refusal)
    (outputFolder : String) :
    bundleFolder disk dataFolder outputFolder = (disk, .error refusal) := by
  cases h with
  | missing h =>
      apply bundleFolder_of_folderEvents
      rw [folderEvents, h]
      rfl
  | notAFolder h =>
      apply bundleFolder_of_folderEvents
      rw [folderEvents, h]
      rfl
  | noEventFiles h hfiles =>
      apply bundleFolder_of_folderEvents
      rw [folderEvents, h, hfiles]
      rfl
  | notAccepted hloaded h =>
      rw [bundleFolder, hloaded]
      simp only [h]
  | invalidTaskId hloaded hbundle h =>
      rw [bundleFolder, hloaded]
      simp only [hbundle, Bundle.write, requireTaskId, if_neg h]

theorem Ready.bundle_eq {bundle other : Bundle} (h : Ready disk dataFolder bundle)
    (hother : Ready disk dataFolder other) : other = bundle := by
  obtain ⟨loaded, hloaded, hbundle⟩ := h.compiled
  obtain ⟨others, hothers, hbundle'⟩ := hother.compiled
  rw [hloaded] at hothers
  cases hothers
  exact Except.ok.inj (hbundle'.symm.trans hbundle)

theorem Ready.not_barred {bundle : Bundle} (h : Ready disk dataFolder bundle)
    (refusal : Refusal) : ¬ Barred disk dataFolder refusal := by
  obtain ⟨loaded, hloaded, hbundle⟩ := h.compiled
  intro hbarred
  cases hbarred with
  | missing hnone => simp [folderEvents, hnone] at hloaded
  | notAFolder hfile => simp [folderEvents, hfile] at hloaded
  | noEventFiles hfolder hfiles =>
      simp [folderEvents, hfolder, hfiles, bind, Except.bind] at hloaded
  | notAccepted hsame herror =>
      rw [hloaded] at hsame
      cases hsame
      rw [hbundle] at herror
      cases herror
  | invalidTaskId hsame hother hid =>
      rw [hloaded] at hsame
      cases hsame
      rw [hbundle] at hother
      cases hother
      exact hid h.validTaskId

theorem compiled_of_ready {bundle : Bundle} (h : Ready disk dataFolder bundle)
    (outputFolder : String) :
    Compiled disk dataFolder outputFolder
      (ending (bundleFolder disk dataFolder outputFolder)) := by
  obtain ⟨loaded, hloaded, hbundle⟩ := h.compiled
  have hgrows := grows_makeFolders disk ⟨outputFolder, []⟩
  rw [bundleFolder, hloaded]
  simp only [hbundle, Bundle.write, requireTaskId_eq_ok_iff.mpr h.validTaskId]
  cases hmade : disk.makeFolders ⟨outputFolder, []⟩ with
  | mk made result =>
      rw [hmade] at hgrows
      cases result with
      | error failure => exact .failed (.folder h hmade) hgrows
      | ok _ =>
          dsimp only
          cases hwrite : made.writeText
              (Path.join ⟨outputFolder, []⟩ (Bundle.fileName bundle.taskId)) bundle.pretty with
          | mk later written =>
              cases written with
              | error failure =>
                  obtain rfl := Recording.disk_of_write_error hwrite
                  exact .failed (.file h rfl hmade hwrite) hgrows
              | ok _ =>
                  have hadds : (disk.makeFolders ⟨outputFolder, []⟩).1.write
                      (Path.join ⟨outputFolder, []⟩ (Bundle.fileName bundle.taskId))
                      bundle.pretty.toUTF8 = (later, .ok ()) := by
                    rw [hmade]
                    exact hwrite
                  obtain ⟨there, hadds⟩ := addsFile_of_write hadds
                  exact .written h hadds

theorem compiled_ending (disk : Disk) (dataFolder outputFolder : String) :
    Compiled disk dataFolder outputFolder
      (ending (bundleFolder disk dataFolder outputFolder)) := by
  have hrefused : ∀ refusal, Barred disk dataFolder refusal →
      Compiled disk dataFolder outputFolder
        (ending (bundleFolder disk dataFolder outputFolder)) := by
    intro refusal h
    rw [bundleFolder_of_barred h]
    exact .refused h
  cases hloaded : disk.folderEvents ⟨dataFolder, []⟩ with
  | error error =>
      rcases folderEvents_of_barred hloaded with hbarred | hfailure
      · exact hrefused _ hbarred
      · rw [bundleFolder_of_folderEvents hloaded]
        exact .failed (hfailure outputFolder) ⟨rfl, fun _ => .inl rfl⟩
  | ok loaded =>
      cases hbundle : Bundle.ofLoaded loaded with
      | error error => exact hrefused _ (.notAccepted hloaded hbundle)
      | ok bundle =>
          by_cases hid : ValidTaskId bundle.taskId
          · exact compiled_of_ready ⟨⟨loaded, hloaded, hbundle⟩, hid⟩ outputFolder
          · exact hrefused _ (.invalidTaskId hloaded hbundle hid)

theorem run_compile {arguments : List String} {outputFolder : Option String}
    (h : Invocation.ofArguments arguments = .run (.compile dataFolder outputFolder))
    (env : Environment) :
    run arguments env disk = ending (bundleFolder disk dataFolder
      (outputFolder.getD (Settings.ofEnvironment (env.withNearestFile disk)).outputFolder)) := by
  rw [run, h]
  rfl

/-- A compile that anything but the system bars fails and leaves the disk as it is. Of the others,
those that the system lets pass add the file of the bundle and the folders that were missing on the
way to it, and change nothing else; a failure of the system may leave some of the folders. -/
theorem compile_all_or_nothing {arguments : List String} {dataFolder : String}
    {outputFolder : Option String}
    (h : Invocation.ofArguments arguments = .run (.compile dataFolder outputFolder))
    (env : Environment) (disk : Disk) :
    let settings := Settings.ofEnvironment (env.withNearestFile disk)
    (∀ refusal, Barred disk dataFolder refusal →
        run arguments env disk = (disk, .exit 1 "" refusal.text)) ∧
      Compiled disk dataFolder (outputFolder.getD settings.outputFolder)
        (run arguments env disk) := by
  intro settings
  rw [run_compile h]
  refine ⟨fun refusal hbarred => ?_, compiled_ending _ _ _⟩
  rw [bundleFolder_of_barred hbarred]
  rfl

/-- A folder with the start of a task, compiled into a folder that is missing. -/
theorem compile_all_or_nothing_start :
    let event : Json := .object [("type", .string "task-start"), ("taskId", .string "t"),
      ("taskDescription", .string "g")]
    let disk : Disk :=
      { tree := .folder [("d", .folder [("x.json", .file event.compact.toUTF8)])] }
    let arguments := ["compile", "--data-dir", "d", "--output-dir", "o"]
    Invocation.ofArguments arguments = .run (.compile "d" (some "o")) ∧
      (run arguments [] disk).2 = .exit 0 "" "" ∧
        Compiled disk "d" "o" (run arguments [] disk) := by
  intro event disk arguments
  have h : Invocation.ofArguments arguments = .run (.compile "d" (some "o")) := by
    decide +kernel
  exact ⟨h, by decide +kernel, (compile_all_or_nothing h [] disk).2⟩

end Retrace.CommandLine
