import Retrace.Proofs.Files.Growth

/-!
What changes on a disk leave as it is. Making folders keeps everything that was there, wherever its
path leads, and writing a file keeps all other files, so a file is found until one of its own name
is written.
-/

namespace Retrace.Files

open Node

namespace Node

variable {tree later third : Node}

/-- Whatever is seen in the first tree is seen in the second. -/
def Keeps (tree later : Node) : Prop :=
  ∀ route seen, tree.peek route = some seen → later.peek route = some seen

theorem Keeps.refl (tree : Node) : tree.Keeps tree := fun _ _ h => h

theorem Keeps.trans (h : tree.Keeps later) (h' : later.Keeps third) : tree.Keeps third :=
  fun route seen hseen => h' route seen (h route seen hseen)

theorem Keeps.keepsFolders (h : tree.Keeps later) : tree.KeepsFolders later := by
  intro route hroute
  exact isFolderAt_iff_peek.mpr (h route none (isFolderAt_iff_peek.mp hroute))

/-- Putting something where nothing is changes nothing else. -/
theorem keeps_put {route : Route} (h : tree.at? route = none) (new : Node) :
    tree.Keeps (tree.put route new) := by
  induction route generalizing tree with
  | nil => rw [at?_nil] at h; cases h
  | cons name rest ih =>
      cases tree with
      | file content => exact Keeps.refl _
      | folder entries =>
          intro other seen hseen
          cases other with
          | nil => exact hseen
          | cons first others =>
              rw [peek_folder_cons] at hseen
              rw [put, peek_folder_cons, Entries.lookup_set]
              by_cases hfirst : first = name
              · subst hfirst
                cases hl : entries.lookup first with
                | none => rw [hl] at hseen; cases hseen
                | some child =>
                    rw [hl] at hseen
                    simp only [at?, hl] at h
                    rw [if_pos rfl]
                    exact ih h others seen hseen
              · rw [if_neg hfirst]
                exact hseen

end Node

theorem keeps_makeAlong (tree : Node) (here : Route) (steps : List Step) :
    tree.Keeps (makeAlong tree here steps).1 := by
  induction steps generalizing tree here with
  | nil => exact Keeps.refl tree
  | cons step rest ih =>
      cases step with
      | stay => exact ih tree here
      | up => exact ih tree here.dropLast
      | down name =>
          simp only [makeAlong]
          split
          · exact Keeps.refl tree
          · split
            · exact ih tree (here ++ [name])
            · exact Keeps.refl tree
            · next hnone =>
                split
                · exact Keeps.refl tree
                · exact (keeps_put hnone (.folder [])).trans (ih _ _)

theorem wellFormed_makeAlong {tree : Node} (h : tree.WellFormed) (here : Route)
    (steps : List Step) : (makeAlong tree here steps).1.WellFormed := by
  induction steps generalizing tree here with
  | nil => exact h
  | cons step rest ih =>
      cases step with
      | stay => exact ih h here
      | up => exact ih h here.dropLast
      | down name =>
          simp only [makeAlong]
          split
          · exact h
          · split
            · exact ih h (here ++ [name])
            · exact h
            · split
              · exact h
              · exact ih (wellFormed_put h wellFormed_empty _) _

namespace Disk

variable {disk later : Disk} {path : Path} {content old : ByteArray}

theorem wellFormed_makeFolders (h : disk.tree.WellFormed) (path : Path) :
    (disk.makeFolders path).1.tree.WellFormed := by
  unfold makeFolders
  split
  · exact h
  · exact wellFormed_makeAlong h _ _

theorem wellFormed_write (h : disk.tree.WellFormed) (path : Path) (content : ByteArray) :
    (disk.write path content).1.tree.WellFormed := by
  have hfile : (Node.file content).WellFormed := trivial
  unfold write
  split
  · exact h
  · split
    · exact h
    · exact wellFormed_put h hfile _

theorem at?_of_keeps (hcurrent : later.current = disk.current)
    (hkeeps : disk.tree.Keeps later.tree) (h : disk.at? path = some (.file content)) :
    later.at? path = some (.file content) := by
  obtain ⟨there, hroute, hfile⟩ := at?_eq_some_iff.mp h
  refine at?_eq_some_iff.mpr ⟨there, route_mono hroute hcurrent hkeeps.keepsFolders, ?_⟩
  exact peek_eq_file_iff.mp (hkeeps there _ (peek_eq_file_iff.mpr hfile))

/-- Folders that are there are not made again. -/
theorem makeFolders_of_leadsTo {there : Route} (h : disk.LeadsTo path there)
    (hrefusal : path.refusal? = none) : disk.makeFolders path = (disk, .ok ()) := by
  have hmade := makeAlong_follow h.1 h.2 []
  rw [List.append_nil] at hmade
  rw [makeFolders, hrefusal]
  simp only [hmade, makeAlong]

/-- Writing the content that a file has changes nothing. -/
theorem write_of_at? (h : disk.at? path = some (.file content)) :
    disk.write path content = (disk, .ok ()) := by
  obtain ⟨route, hroute, hfile⟩ := at?_eq_some_iff.mp h
  simp only [write, hroute, hfile, put_of_at? hfile]

theorem keeps_makeFolders (disk : Disk) (path : Path) :
    disk.tree.Keeps (disk.makeFolders path).1.tree := by
  unfold makeFolders
  split
  · exact Keeps.refl _
  · exact keeps_makeAlong _ _ _

theorem at?_makeFolders (h : disk.at? path = some (.file content)) (folder : Path) :
    (disk.makeFolders folder).1.at? path = some (.file content) :=
  at?_of_keeps (current_makeFolders disk folder) (keeps_makeFolders disk folder) h

/-- A file stays as it is while a file of another name is written, wherever that one lies. -/
theorem at?_write_of_ne {folder : Path} {name other : String} (hne : name ≠ other)
    (hwrite : disk.write (folder.join other) content = (later, .ok ()))
    (h : disk.at? (path.join name) = some (.file old)) :
    later.at? (path.join name) = some (.file old) := by
  obtain ⟨parent, -, -, hwritten⟩ := written_of_write hwrite
  obtain ⟨route, hroute, hfile⟩ := at?_eq_some_iff.mp h
  obtain ⟨there, -, rfl, -⟩ := route_join hroute
  refine at?_eq_some_iff.mpr
    ⟨_, route_mono hroute hwritten.current hwritten.keepsFolders, peek_eq_file_iff.mp ?_⟩
  have hroutes : there ++ [name] ≠ parent ++ [other] := by
    intro heq
    exact hne (List.cons.inj (List.append_inj_right' heq rfl)).1
  have hbelow : Written disk later ([] ++ parent) other content := hwritten
  have hpeek := hbelow.peek (there ++ [name])
  rw [if_neg hroutes] at hpeek
  exact hpeek.trans (peek_eq_file_iff.mpr hfile)

end Disk

end Retrace.Files
