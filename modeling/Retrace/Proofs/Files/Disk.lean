import Retrace.Files.Disk
import Retrace.Proofs.Files.Tree

/-!
Where paths lead while a disk changes. Steps that lead somewhere lead there as long as no folder is
lost, and neither making folders nor writing files loses one; so what was written to a path is read
from it.
-/

namespace Retrace.Files

open Node

namespace Node

/-- Every folder of the first tree is one of the second. -/
def KeepsFolders (tree later : Node) : Prop :=
  ∀ route, tree.IsFolderAt route → later.IsFolderAt route

theorem KeepsFolders.refl (tree : Node) : tree.KeepsFolders tree := fun _ h => h

theorem KeepsFolders.trans {first second third : Node} (h : first.KeepsFolders second)
    (h' : second.KeepsFolders third) : first.KeepsFolders third :=
  fun route hr => h' route (h route hr)

end Node

theorem follow_append (tree : Node) (here : Route) (first second : List Step) :
    follow tree here (first ++ second) =
      (follow tree here first).bind fun there => follow tree there second := by
  induction first generalizing here with
  | nil => rfl
  | cons step rest ih =>
      rw [List.cons_append, follow.eq_def, follow.eq_def tree here (step :: rest)]
      cases tree.at? here with
      | none => rfl
      | some found =>
          cases found with
          | file content => rfl
          | folder entries =>
              cases step with
              | stay => exact ih here
              | up => exact ih here.dropLast
              | down name =>
                  simp only
                  split
                  · rfl
                  · exact ih (here ++ [name])

theorem follow_cons_eq_ok {tree : Node} {here there : Route} {step : Step} {rest : List Step}
    (h : follow tree here (step :: rest) = .ok there) : tree.IsFolderAt here := by
  rw [follow.eq_def] at h
  cases hf : tree.at? here with
  | none => simp [hf] at h
  | some found =>
      cases found with
      | file content => simp [hf] at h
      | folder entries => exact ⟨entries, hf⟩

theorem follow_mono {tree later : Node} (hkeep : tree.KeepsFolders later) {here there : Route}
    {steps : List Step} (h : follow tree here steps = .ok there) :
    follow later here steps = .ok there := by
  induction steps generalizing here with
  | nil => exact h
  | cons step rest ih =>
      have hfolder := follow_cons_eq_ok h
      obtain ⟨entries, he⟩ := hfolder
      obtain ⟨others, ho⟩ := hkeep here ⟨entries, he⟩
      simp only [follow, he] at h
      simp only [follow, ho]
      cases step with
      | stay => exact ih h
      | up => exact ih h
      | down name =>
          simp only at h ⊢
          split at h
          · cases h
          · next hname =>
              rw [if_neg hname]
              exact ih h

/-- Along steps that lead to a folder nothing is made. -/
theorem makeAlong_follow {tree : Node} {here there : Route} {steps : List Step}
    (h : follow tree here steps = .ok there) (hthere : tree.IsFolderAt there)
    (rest : List Step) : makeAlong tree here (steps ++ rest) = makeAlong tree there rest := by
  induction steps generalizing here with
  | nil =>
      cases h
      rfl
  | cons step steps ih =>
      obtain ⟨entries, he⟩ := follow_cons_eq_ok h
      simp only [follow, he] at h
      cases step with
      | stay => exact ih h
      | up => exact ih h
      | down name =>
          simp only at h
          split at h
          · cases h
          · next hname =>
              have hnext : tree.IsFolderAt (here ++ [name]) := by
                cases steps with
                | nil =>
                    cases h
                    exact hthere
                | cons next steps => exact follow_cons_eq_ok h
              obtain ⟨inner, hi⟩ := hnext
              simp only [List.cons_append, makeAlong, if_neg hname, hi]
              exact ih h

namespace Path

theorem steps_append (path : Path) (route : Route) :
    (path.append route).steps = path.steps ++ route.map Step.down := by
  simp [steps, append]

theorem append_append (path : Path) (first second : Route) :
    (path.append first).append second = path.append (first ++ second) := by
  simp [append]

theorem append_inj {path : Path} {first second : Route}
    (h : path.append first = path.append second) : first = second :=
  List.append_cancel_left (congrArg below h)

theorem fileName?_append (path : Path) {route : Route} {name : String}
    (h : route.getLast? = some name) : (path.append route).fileName? = some name := by
  obtain ⟨parent, rfl⟩ := List.getLast?_eq_some_iff.mp h
  simp [fileName?, steps_append]

theorem join_eq_append (path : Path) (name : String) : path.join name = path.append [name] := rfl

theorem lookupSteps_append (path : Path) {route : Route} (h : route ≠ []) :
    (path.append route).lookupSteps = (path.append route).steps := by
  simp [lookupSteps, append, h]

end Path

namespace Disk

theorem start_append (disk : Disk) (path : Path) (route : Route) :
    disk.start (path.append route) = disk.start path := rfl

/-- The steps of a path lead to a folder. -/
def LeadsTo (disk : Disk) (path : Path) (there : Route) : Prop :=
  follow disk.tree (disk.start path) path.steps = .ok there ∧ disk.tree.IsFolderAt there

variable {disk later : Disk} {path : Path} {there route : Route}

theorem follow_lookupSteps (h : follow disk.tree (disk.start path) path.lookupSteps = .ok there) :
    follow disk.tree (disk.start path) path.steps = .ok there := by
  unfold Path.lookupSteps at h
  split at h
  · rw [follow_append] at h
    cases hs : follow disk.tree (disk.start path) path.steps with
    | error failure => simp [hs, Except.bind] at h
    | ok found =>
        simp only [hs, Except.bind] at h
        obtain ⟨entries, he⟩ := follow_cons_eq_ok h
        simp only [follow, he, Except.ok.injEq] at h
        rw [h]
  · exact h

theorem route_eq_ok_iff : disk.route path = .ok there ↔
    path.refusal? = none ∧ follow disk.tree (disk.start path) path.lookupSteps = .ok there := by
  unfold route
  cases path.refusal? <;> simp

/-- Steps to a folder lead there as well with a slash at their end. -/
theorem LeadsTo.route_eq_ok (h : disk.LeadsTo path there) (hrefusal : path.refusal? = none) :
    disk.route path = .ok there := by
  obtain ⟨hfollow, entries, hentries⟩ := h
  refine route_eq_ok_iff.mpr ⟨hrefusal, ?_⟩
  unfold Path.lookupSteps
  split
  · rw [follow_append, hfollow]
    simp only [Except.bind, follow, hentries]
  · exact hfollow

theorem at?_eq_some_iff {node : Node} : disk.at? path = some node ↔
    ∃ there, disk.route path = .ok there ∧ disk.tree.at? there = some node := by
  unfold at? find
  cases disk.route path with
  | error failure => simp [Except.toOption]
  | ok there => cases h : disk.tree.at? there <;> simp [Except.toOption, h]

theorem leadsTo_of_route (h : disk.route path = .ok there) (hfolder : disk.tree.IsFolderAt there) :
    disk.LeadsTo path there :=
  ⟨follow_lookupSteps (route_eq_ok_iff.mp h).2, hfolder⟩

theorem exists_leadsTo {entries : List (String × Node)}
    (h : disk.at? path = some (.folder entries)) :
    ∃ there, disk.LeadsTo path there ∧ disk.route path = .ok there ∧
      disk.tree.at? there = some (.folder entries) := by
  obtain ⟨there, hr, ht⟩ := at?_eq_some_iff.mp h
  exact ⟨there, leadsTo_of_route hr ⟨entries, ht⟩, hr, ht⟩

theorem LeadsTo.mono (h : disk.LeadsTo path there) (hcurrent : later.current = disk.current)
    (hkeep : disk.tree.KeepsFolders later.tree) : later.LeadsTo path there := by
  refine ⟨?_, hkeep there h.2⟩
  rw [start, hcurrent]
  exact follow_mono hkeep h.1

theorem route_mono (h : disk.route path = .ok there) (hcurrent : later.current = disk.current)
    (hkeep : disk.tree.KeepsFolders later.tree) : later.route path = .ok there := by
  obtain ⟨hrefusal, hfollow⟩ := route_eq_ok_iff.mp h
  refine route_eq_ok_iff.mpr ⟨hrefusal, ?_⟩
  rw [start, hcurrent]
  exact follow_mono hkeep hfollow

/-- A name below a path leads into the folder that the path leads to. -/
theorem route_join {name : String} (h : disk.route (path.join name) = .ok route) :
    ∃ there, disk.LeadsTo path there ∧ route = there ++ [name] ∧ tooLong name = false := by
  have hfollow := (route_eq_ok_iff.mp h).2
  rw [Path.join_eq_append, Path.lookupSteps_append path (by simp), Path.steps_append,
    follow_append, start_append] at hfollow
  cases hs : follow disk.tree (disk.start path) path.steps with
  | error failure => simp [hs, Except.bind] at hfollow
  | ok there =>
      simp only [hs, Except.bind, List.map_cons, List.map_nil] at hfollow
      obtain ⟨entries, he⟩ := follow_cons_eq_ok hfollow
      simp only [follow, he] at hfollow
      split at hfollow
      · cases hfollow
      · next hname =>
          cases hfollow
          exact ⟨there, ⟨hs, entries, he⟩, rfl, by simpa using hname⟩

/-- A file that was written into a folder of a disk. -/
structure Written (disk later : Disk) (folder : Route) (name : String) (content : ByteArray) :
    Prop where
  current : later.current = disk.current
  isFolder : disk.tree.IsFolderAt folder
  free : ¬ disk.tree.IsFolderAt (folder ++ [name])
  tree : later.tree = disk.tree.put (folder ++ [name]) (.file content)

theorem Written.keepsFolders {folder : Route} {name : String} {content : ByteArray}
    (h : Written disk later folder name content) : disk.tree.KeepsFolders later.tree := by
  intro route hroute
  rw [h.tree]
  exact isFolderAt_put h.isFolder h.free (.file content) hroute

theorem written_of_write {name : String} {content : ByteArray}
    (h : disk.write (path.join name) content = (later, .ok ())) :
    ∃ folder, disk.route (path.join name) = .ok (folder ++ [name]) ∧
      disk.LeadsTo path folder ∧ Written disk later folder name content := by
  unfold write at h
  cases hr : disk.route (path.join name) with
  | error failure => simp [hr] at h
  | ok route =>
      obtain ⟨folder, hleads, rfl, -⟩ := route_join hr
      simp only [hr] at h
      split at h
      · cases h
      · next hfree =>
          cases h
          refine ⟨folder, rfl, hleads, rfl, hleads.2, ?_, rfl⟩
          rintro ⟨entries, he⟩
          exact hfree entries he

theorem fromUTF8?_toUTF8 (text : String) : String.fromUTF8? text.toUTF8 = some text := by
  have hvalid : text.toUTF8.IsValidUTF8 := text.isValidUTF8
  rw [String.fromUTF8?, dif_pos hvalid]
  rfl

/-- The file that was written to a path is found at it. -/
theorem at?_write {name : String} {content : ByteArray}
    (h : disk.write (path.join name) content = (later, .ok ())) :
    later.at? (path.join name) = some (.file content) := by
  obtain ⟨folder, hroute, -, hwritten⟩ := written_of_write h
  refine at?_eq_some_iff.mpr ⟨_, route_mono hroute hwritten.current hwritten.keepsFolders, ?_⟩
  obtain ⟨entries, he⟩ := hwritten.isFolder
  rw [hwritten.tree]
  exact at?_put_of_folder he name (.file content)

theorem readText?_of_at? {text : String} (h : disk.at? path = some (.file text.toUTF8)) :
    disk.readText? path = some text := by
  rw [readText?, h]
  exact fromUTF8?_toUTF8 text

/-- The text that was written to a path is read from it. -/
theorem readText?_writeText {name : String} {text : String}
    (h : disk.writeText (path.join name) text = (later, .ok ())) :
    later.readText? (path.join name) = some text :=
  readText?_of_at? (at?_write h)

end Disk

end Retrace.Files
