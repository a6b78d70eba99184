import Retrace.Proofs.Files.Frames

/-!
What the steps of a path pass through, and what making folders along them changes: where nothing was
on the way there may be folders afterwards, and if a file can be written at the end there are.
-/

namespace Retrace.Files

open Node

/-- The routes that steps pass through, the first and the last one included. -/
def passes (here : Route) : List Step → List Route
  | [] => [here]
  | .stay :: rest => here :: passes here rest
  | .up :: rest => here :: passes here.dropLast rest
  | .down name :: rest => here :: passes (here ++ [name]) rest

/-- The route is passed, or is on the way to one that is. -/
def OnWay (here : Route) (steps : List Step) (route : Route) : Prop :=
  ∃ passed ∈ passes here steps, route <+: passed

theorem mem_passes_self (here : Route) (steps : List Step) : here ∈ passes here steps := by
  unfold passes
  split <;> exact List.mem_cons_self

namespace Node

theorem peek_empty {route : Route} {seen : Option ByteArray}
    (h : (folder []).peek route = some seen) : route = [] ∧ seen = none := by
  cases route with
  | nil => exact ⟨rfl, (Option.some.inj h).symm⟩
  | cons name rest => cases h

theorem seen_put_empty {route other : Route} {seen : Option ByteArray}
    (h : ((folder []).put route (.folder [])).peek other = some seen) :
    seen = none ∧ other <+: route := by
  induction route generalizing other with
  | nil =>
      obtain ⟨rfl, rfl⟩ := peek_empty h
      exact ⟨rfl, List.prefix_rfl⟩
  | cons name rest ih =>
      cases other with
      | nil => exact ⟨(Option.some.inj h).symm, List.nil_prefix⟩
      | cons first others =>
          rw [put, peek_folder_cons, Entries.lookup_set] at h
          split at h
          · next hfirst =>
              obtain ⟨rfl, hprefix⟩ := ih h
              exact ⟨rfl, List.cons_prefix_cons.mpr ⟨hfirst, hprefix⟩⟩
          · cases h

/-- Putting a folder where nothing is shows only folders that were not there, on the way to it. -/
theorem seen_put {tree : Node} {route : Route} (h : tree.at? route = none) {other : Route}
    {seen : Option ByteArray} (hseen : (tree.put route (.folder [])).peek other = some seen) :
    tree.peek other = some seen ∨ tree.peek other = none ∧ seen = none ∧ other <+: route := by
  induction route generalizing tree other with
  | nil => rw [at?_nil] at h; cases h
  | cons name rest ih =>
      cases tree with
      | file content => exact .inl hseen
      | folder entries =>
          cases other with
          | nil => exact .inl hseen
          | cons first others =>
              rw [put, peek_folder_cons, Entries.lookup_set] at hseen
              rw [peek_folder_cons]
              by_cases hfirst : first = name
              · subst hfirst
                rw [if_pos rfl] at hseen
                rw [List.cons_prefix_cons, eq_self, true_and]
                cases hl : entries.lookup first with
                | none =>
                    rw [hl] at hseen
                    exact .inr ⟨rfl, seen_put_empty hseen⟩
                | some child =>
                    rw [hl] at hseen
                    simp only [at?, hl] at h
                    exact ih h hseen
              · rw [if_neg hfirst] at hseen
                exact .inl hseen

end Node

theorem OnWay.of_rest {here next route : Route} {step : Step} {rest : List Step}
    (h : OnWay next rest route) (hpasses : passes here (step :: rest) = here :: passes next rest) :
    OnWay here (step :: rest) route := by
  obtain ⟨passed, hmem, hprefix⟩ := h
  refine ⟨passed, ?_, hprefix⟩
  rw [hpasses]
  exact List.mem_cons_of_mem _ hmem

/-- Making folders shows only new folders, where nothing was, on the way that the steps take. -/
theorem seen_makeAlong {tree : Node} {here route : Route} {steps : List Step}
    {seen : Option ByteArray} (h : (makeAlong tree here steps).1.peek route = some seen) :
    tree.peek route = some seen ∨
      tree.peek route = none ∧ seen = none ∧ OnWay here steps route := by
  induction steps generalizing tree here with
  | nil => exact .inl h
  | cons step rest ih =>
      cases step with
      | stay => exact (ih h).imp_right (And.imp_right (And.imp_right (OnWay.of_rest · rfl)))
      | up => exact (ih h).imp_right (And.imp_right (And.imp_right (OnWay.of_rest · rfl)))
      | down name =>
          simp only [makeAlong] at h
          split at h
          · exact .inl h
          · split at h
            · exact (ih h).imp_right (And.imp_right (And.imp_right (OnWay.of_rest · rfl)))
            · exact .inl h
            · next hnone =>
                split at h
                · exact .inl h
                · rcases ih h with hput | ⟨hput, rfl, hway⟩
                  · refine (seen_put hnone hput).imp_right ?_
                    rintro ⟨hold, rfl, hprefix⟩
                    exact ⟨hold, rfl, OnWay.of_rest ⟨_, mem_passes_self _ _, hprefix⟩ rfl⟩
                  · refine .inr ⟨?_, rfl, hway.of_rest rfl⟩
                    cases hold : tree.peek route with
                    | none => rfl
                    | some old =>
                        rw [keeps_put hnone (.folder []) route old hold] at hput
                        cases hput

/-- Everything on the way of steps that lead to a folder is a folder. -/
theorem isFolderAt_of_onWay {tree : Node} {here there route : Route} {steps : List Step}
    (h : follow tree here steps = .ok there) (hthere : tree.IsFolderAt there)
    (hway : OnWay here steps route) : tree.IsFolderAt route := by
  have hprefix : ∀ {passed : Route}, tree.IsFolderAt passed → route <+: passed →
      tree.IsFolderAt route := by
    rintro passed hpassed ⟨rest, rfl⟩
    exact isFolderAt_of_append hpassed
  obtain ⟨passed, hmem, hroute⟩ := hway
  refine hprefix ?_ hroute
  induction steps generalizing here with
  | nil =>
      cases h
      rw [List.mem_singleton.mp hmem]
      exact hthere
  | cons step rest ih =>
      have hhere := follow_cons_eq_ok h
      obtain ⟨entries, he⟩ := hhere
      simp only [follow, he] at h
      cases step with
      | stay =>
          rcases List.mem_cons.mp hmem with rfl | hrest
          · exact ⟨entries, he⟩
          · exact ih h hrest
      | up =>
          rcases List.mem_cons.mp hmem with rfl | hrest
          · exact ⟨entries, he⟩
          · exact ih h hrest
      | down name =>
          simp only at h
          split at h
          · cases h
          · rcases List.mem_cons.mp hmem with rfl | hrest
            · exact ⟨entries, he⟩
            · exact ih h hrest

namespace Disk

/-- The steps of the path pass the route, or something below it. -/
def Passes (disk : Disk) (path : Path) (route : Route) : Prop :=
  OnWay (disk.start path) path.steps route

/-- The second disk has what the first one has, and new folders on the way of a path. -/
structure Grows (disk later : Disk) (path : Path) : Prop where
  current : later.current = disk.current
  seen : ∀ route, later.tree.peek route = disk.tree.peek route ∨
    disk.tree.peek route = none ∧ later.tree.peek route = some none ∧ disk.Passes path route

theorem grows_makeFolders (disk : Disk) (path : Path) :
    Grows disk (disk.makeFolders path).1 path := by
  refine ⟨current_makeFolders disk path, fun route => ?_⟩
  cases hseen : (disk.makeFolders path).1.tree.peek route with
  | none =>
      left
      cases hold : disk.tree.peek route with
      | none => rfl
      | some old =>
          rw [keeps_makeFolders disk path route old hold] at hseen
          cases hseen
  | some seen =>
      unfold makeFolders at hseen
      split at hseen
      · exact .inl hseen.symm
      · rcases seen_makeAlong hseen with hold | ⟨hnone, rfl, hway⟩
        · exact .inl hold.symm
        · exact .inr ⟨hnone, rfl, hway⟩

/-- All that differs between the disks is one file of the second, in the folder at a path, and the
folders on the way to it that were missing. -/
structure AddsFile (disk later : Disk) (folder : Path) (there : Route) (name : String)
    (content : ByteArray) : Prop where
  current : later.current = disk.current
  leads : later.LeadsTo folder there
  file : later.tree.peek (there ++ [name]) = some (some content)
  free : disk.tree.peek (there ++ [name]) ≠ some none
  folders : ∀ route, disk.Passes folder route → later.tree.peek route = some none ∧
    (disk.tree.peek route = none ∨ disk.tree.peek route = some none)
  elsewhere : ∀ route, route ≠ there ++ [name] → ¬ disk.Passes folder route →
    later.tree.peek route = disk.tree.peek route

section Added

variable {disk later : Disk} {folder : Path} {there : Route} {name : String}
  {content : ByteArray}

theorem AddsFile.keepsFolders (h : AddsFile disk later folder there name content) :
    disk.tree.KeepsFolders later.tree := by
  intro route hroute
  have hseen := isFolderAt_iff_peek.mp hroute
  rw [isFolderAt_iff_peek]
  by_cases hway : disk.Passes folder route
  · exact (h.folders route hway).1
  · have hne : route ≠ there ++ [name] := by
      rintro rfl
      exact h.free hseen
    rw [h.elsewhere route hne hway, hseen]

/-- Where the folder of the file was there before, every folder was. -/
theorem AddsFile.isFolderAt (h : AddsFile disk later folder there name content)
    (hfolder : disk.LeadsTo folder there) {route : Route} (hroute : later.tree.IsFolderAt route) :
    disk.tree.IsFolderAt route := by
  by_cases hway : disk.Passes folder route
  · exact isFolderAt_of_onWay hfolder.1 hfolder.2 hway
  · rw [isFolderAt_iff_peek] at hroute ⊢
    have hne : route ≠ there ++ [name] := by
      rintro rfl
      rw [h.file] at hroute
      cases hroute
    rwa [h.elsewhere route hne hway] at hroute

/-- All other files are as they were. -/
theorem AddsFile.file_iff (h : AddsFile disk later folder there name content)
    {route : Route} (hne : route ≠ there ++ [name]) {other : ByteArray} :
    later.tree.peek route = some (some other) ↔ disk.tree.peek route = some (some other) := by
  by_cases hway : disk.Passes folder route
  · obtain ⟨hfolder, hold⟩ := h.folders route hway
    rw [hfolder]
    rcases hold with hnone | hfolder
    · simp [hnone]
    · simp [hfolder]
  · rw [h.elsewhere route hne hway]

end Added

theorem addsFile_of_write {disk later : Disk} {folder : Path} {name : String}
    {content : ByteArray}
    (h : (disk.makeFolders folder).1.write (folder.join name) content = (later, .ok ())) :
    ∃ there, AddsFile disk later folder there name content := by
  have hgrows := grows_makeFolders disk folder
  obtain ⟨there, -, hleads, hwritten⟩ := written_of_write h
  have hbelow : Written (disk.makeFolders folder).1 later ([] ++ there) name content := hwritten
  have hpeek : ∀ route, route ≠ there ++ [name] →
      later.tree.peek route = (disk.makeFolders folder).1.tree.peek route := by
    intro route hne
    have hroute := hbelow.peek route
    rwa [if_neg hne] at hroute
  have hpassed : ∀ route, disk.Passes folder route →
      (disk.makeFolders folder).1.tree.IsFolderAt route := by
    intro route hway
    refine isFolderAt_of_onWay hleads.1 hleads.2 ?_
    rw [start, hgrows.current]
    exact hway
  refine ⟨there, ?_⟩
  constructor
  case current => exact hwritten.current.trans hgrows.current
  case leads => exact hleads.mono hwritten.current hwritten.keepsFolders
  case file =>
    have hfile := hbelow.peek (there ++ [name])
    rwa [if_pos rfl] at hfile
  case free =>
    intro hfolder
    have hkept := keeps_makeFolders disk folder _ _ hfolder
    exact hwritten.free (isFolderAt_iff_peek.mpr hkept)
  case folders =>
    intro route hway
    have hfolder := hpassed route hway
    have hne : route ≠ there ++ [name] := by
      rintro rfl
      exact hwritten.free hfolder
    have hseen := isFolderAt_iff_peek.mp hfolder
    refine ⟨(hpeek route hne).trans hseen, ?_⟩
    rcases hgrows.seen route with hsame | ⟨hnone, -, -⟩
    · exact .inr (hsame.symm.trans hseen)
    · exact .inl hnone
  case elsewhere =>
    intro route hne hway
    rw [hpeek route hne]
    rcases hgrows.seen route with hsame | ⟨-, -, hpasses⟩
    · exact hsame
    · exact absurd hpasses hway

end Disk

end Retrace.Files
