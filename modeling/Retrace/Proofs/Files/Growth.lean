import Retrace.Proofs.Files.Disk

/-!
What making folders and writing files do below a folder of a tree. That folder keeps its form, and
at each route below it there is seen what was seen before, a new folder, or the new file.
-/

namespace Retrace.Files

open Node

namespace Node

variable {tree later third : Node} {there : Route}

/-- At the route there is a folder in which names differ, all the way down. -/
def HoldsFolder (tree : Node) (there : Route) : Prop :=
  ∃ entries, tree.at? there = some (.folder entries) ∧ (folder entries).WellFormed

theorem HoldsFolder.put (h : tree.HoldsFolder there) {new : Node} (hnew : new.WellFormed)
    (name : String) (rest : Route) : (tree.put (there ++ name :: rest) new).HoldsFolder there := by
  obtain ⟨entries, he, hw⟩ := h
  exact ⟨_, at?_put_below he rfl name rest new, wellFormed_put hw hnew (name :: rest)⟩

/-- The second tree has what the first one has, and below the given route some new folders. -/
structure AddsFolders (tree later : Node) (there : Route) (new : Route → Prop) : Prop where
  keepsFolders : tree.KeepsFolders later
  holdsFolder : tree.HoldsFolder there → later.HoldsFolder there
  seen : ∀ route, later.peek (there ++ route) = tree.peek (there ++ route) ∨
    tree.peek (there ++ route) = none ∧ later.peek (there ++ route) = some none ∧ new route

theorem AddsFolders.refl (tree : Node) (there : Route) (new : Route → Prop) :
    AddsFolders tree tree there new :=
  ⟨KeepsFolders.refl tree, id, fun _ => .inl rfl⟩

theorem AddsFolders.trans {new : Route → Prop} (h : AddsFolders tree later there new)
    (h' : AddsFolders later third there new) : AddsFolders tree third there new := by
  refine ⟨h.keepsFolders.trans h'.keepsFolders, h'.holdsFolder ∘ h.holdsFolder, ?_⟩
  intro route
  rcases h.seen route with hsame | ⟨hnone, hfolder, hnew⟩
  · rw [← hsame]
    exact h'.seen route
  · rcases h'.seen route with hsame | ⟨hgone, -⟩
    · rw [hsame]
      exact .inr ⟨hnone, hfolder, hnew⟩
    · rw [hfolder] at hgone
      cases hgone

theorem AddsFolders.mono {new other : Route → Prop} (h : AddsFolders tree later there new)
    (himp : ∀ route, new route → other route) : AddsFolders tree later there other :=
  ⟨h.keepsFolders, h.holdsFolder,
    fun route => (h.seen route).imp_right fun ⟨hn, hf, hnew⟩ => ⟨hn, hf, himp route hnew⟩⟩

theorem AddsFolders.peek_eq_file_iff {new : Route → Prop} (h : AddsFolders tree later there new)
    {route : Route} {content : ByteArray} :
    later.peek (there ++ route) = some (some content) ↔
      tree.peek (there ++ route) = some (some content) := by
  rcases h.seen route with hsame | ⟨hnone, hfolder, -⟩
  · rw [hsame]
  · rw [hnone, hfolder]
    simp

theorem AddsFolders.isFolderAt {new : Route → Prop} (h : AddsFolders tree later there new)
    {route : Route} (hf : later.IsFolderAt (there ++ route)) :
    tree.IsFolderAt (there ++ route) ∨ new route := by
  rcases h.seen route with hsame | ⟨-, -, hnew⟩
  · left
    rw [isFolderAt_iff_peek, ← hsame]
    exact isFolderAt_iff_peek.mp hf
  · exact .inr hnew

/-- Where nothing is seen nothing is seen below either. -/
theorem peek_append_of_none {route : Route} (h : tree.peek route = none) (rest : Route) :
    tree.peek (route ++ rest) = none := by
  cases hf : tree.at? route with
  | none => simp [peek, at?_append, hf]
  | some found => simp [peek, hf] at h

theorem addsFolders_put {parent : Route} (h : tree.IsFolderAt (there ++ parent)) {name : String}
    (hnone : tree.at? (there ++ parent ++ [name]) = none) :
    AddsFolders tree (tree.put (there ++ parent ++ [name]) (.folder [])) there
      (· = parent ++ [name]) := by
  have hpeek : tree.peek (there ++ parent ++ [name]) = none := by
    rw [peek, hnone]
    rfl
  refine ⟨?_, ?_, ?_⟩
  · intro other hother
    refine isFolderAt_put h ?_ (.folder []) hother
    rintro ⟨entries, he⟩
    rw [hnone] at he
    cases he
  · intro hholds
    rw [List.append_assoc]
    cases parent with
    | nil => exact hholds.put wellFormed_empty name []
    | cons first rest => exact hholds.put wellFormed_empty first (rest ++ [name])
  · intro route
    by_cases hp : (there ++ parent ++ [name]) <+: (there ++ route)
    · rw [List.append_assoc, List.prefix_append_right_inj] at hp
      obtain ⟨rest, rfl⟩ := hp
      have hbelow := peek_put_below h name (.folder []) rest
      have hassoc : there ++ (parent ++ [name] ++ rest) = there ++ parent ++ name :: rest := by
        simp
      have hold : tree.peek (there ++ (parent ++ [name] ++ rest)) = none := by
        have hsplit : there ++ (parent ++ [name] ++ rest) =
            there ++ parent ++ [name] ++ rest := by simp
        rw [hsplit]
        exact peek_append_of_none hpeek rest
      rw [hold, hassoc, hbelow]
      cases rest with
      | nil => exact .inr ⟨rfl, rfl, by simp⟩
      | cons first rest => exact .inl rfl
    · exact .inl (peek_put_elsewhere h name (.folder []) hp)

end Node

theorem not_ok_of_error {failure : Failure} {p : Prop}
    (h : (Except.error failure : Except Failure Unit) = .ok ()) : p := by
  cases h

theorem follow_down_eq {tree : Node} {here there : Route} {names : Route}
    (h : follow tree here (names.map Step.down) = .ok there) : there = here ++ names := by
  induction names generalizing here with
  | nil =>
      cases h
      simp
  | cons name rest ih =>
      obtain ⟨entries, he⟩ := follow_cons_eq_ok h
      simp only [List.map_cons, follow, he] at h
      split at h
      · cases h
      · rw [ih h]
        simp

/-- Steps down that lead somewhere in one tree lead there in another that has something there. -/
theorem follow_down_of_peek {tree other : Node} {here : Route} {names : Route} {target : Route}
    {seen : Option ByteArray} (h : follow other here (names.map Step.down) = .ok target)
    (hseen : tree.peek (here ++ names) = some seen) :
    follow tree here (names.map Step.down) = .ok target := by
  induction names generalizing here with
  | nil => exact h
  | cons first rest ih =>
      obtain ⟨entries, he⟩ := isFolderAt_of_peek_append hseen
      obtain ⟨others, ho⟩ := follow_cons_eq_ok h
      simp only [List.map_cons, follow, ho] at h
      simp only [List.map_cons, follow, he]
      split at h
      · cases h
      · next hname =>
          rw [if_neg hname]
          refine ih h ?_
          rw [List.append_assoc]
          exact hseen

/-- Below a folder only folders along the names are made, and all of them if nothing goes wrong. -/
theorem makeAlong_down {tree : Node} {there done : Route} (names : Route)
    (h : tree.IsFolderAt (there ++ done)) :
    let made := makeAlong tree (there ++ done) (names.map Step.down)
    AddsFolders tree made.1 there (fun route => route <+: done ++ names) ∧
      (made.2 = .ok () → made.1.IsFolderAt (there ++ (done ++ names))) := by
  induction names generalizing tree done with
  | nil =>
      refine ⟨AddsFolders.refl _ _ _, fun _ => ?_⟩
      simpa [makeAlong] using h
  | cons name rest ih =>
      have hassoc : there ++ done ++ [name] = there ++ (done ++ [name]) := by simp
      have hnames : done ++ [name] ++ rest = done ++ name :: rest := by simp
      simp only [List.map_cons, makeAlong]
      split
      · exact ⟨AddsFolders.refl _ _ _, not_ok_of_error⟩
      · split
        · next entries he =>
            rw [hassoc] at he ⊢
            have hnext := ih ⟨entries, he⟩
            rw [hnames] at hnext
            exact hnext
        · exact ⟨AddsFolders.refl _ _ _, not_ok_of_error⟩
        · next hnone =>
            split
            · exact ⟨AddsFolders.refl _ _ _, not_ok_of_error⟩
            · have hput := addsFolders_put h hnone
              obtain ⟨entries, he⟩ := h
              rw [hassoc] at hput ⊢
              have hmade : (tree.put (there ++ (done ++ [name])) (.folder [])).IsFolderAt
                  (there ++ (done ++ [name])) := by
                rw [← hassoc]
                exact ⟨[], at?_put_of_folder he name (.folder [])⟩
              obtain ⟨hrest, hok⟩ := ih hmade
              rw [hnames] at hrest hok
              refine ⟨(hput.mono ?_).trans hrest, hok⟩
              rintro route rfl
              exact ⟨rest, hnames⟩

namespace Disk

variable {disk later : Disk} {path : Path} {there : Route}

theorem LeadsTo.append_eq (h : disk.LeadsTo path there) {names folder : Route}
    (h' : disk.LeadsTo (path.append names) folder) : folder = there ++ names := by
  have hfollow := h'.1
  rw [Path.steps_append, follow_append, start_append, h.1] at hfollow
  exact follow_down_eq hfollow

/-- What leads to a folder below a path leads through the folder at the path. -/
theorem LeadsTo.of_append {names folder : Route} (h : disk.LeadsTo (path.append names) folder) :
    ∃ there, disk.LeadsTo path there ∧ folder = there ++ names := by
  obtain ⟨hfollow, hfolder⟩ := h
  rw [Path.steps_append, follow_append, start_append] at hfollow
  cases hpath : follow disk.tree (disk.start path) path.steps with
  | error failure => simp [hpath, Except.bind] at hfollow
  | ok there =>
      simp only [hpath, Except.bind] at hfollow
      have heq := follow_down_eq hfollow
      refine ⟨there, ⟨hpath, ?_⟩, heq⟩
      cases names with
      | nil =>
          rw [heq, List.append_nil] at hfolder
          exact hfolder
      | cons name rest => exact follow_cons_eq_ok hfollow

/-- Where the names below a folder lead. -/
theorem route_append_eq_ok_iff (h : disk.LeadsTo path there) {names target : Route}
    (hnames : names ≠ []) :
    disk.route (path.append names) = .ok target ↔ (path.append names).refusal? = none ∧
      follow disk.tree there (names.map Step.down) = .ok target := by
  rw [route_eq_ok_iff, Path.lookupSteps_append path hnames, Path.steps_append, follow_append,
    start_append, h.1]
  rfl

theorem route_append_eq (h : disk.LeadsTo path there) {names target : Route}
    (hroute : disk.route (path.append names) = .ok target) : target = there ++ names := by
  have hfollow := follow_lookupSteps (route_eq_ok_iff.mp hroute).2
  rw [Path.steps_append, follow_append, start_append, h.1] at hfollow
  exact follow_down_eq hfollow

/-- Making folders below a folder that a path leads to. -/
theorem makeFolders_append (h : disk.LeadsTo path there) (names : Route) :
    let made := disk.makeFolders (path.append names)
    AddsFolders disk.tree made.1.tree there
        (fun route => route <+: names ∧ (path.append names).refusal? = none) ∧
      (made.2 = .ok () → made.1.tree.IsFolderAt (there ++ names)) := by
  unfold makeFolders
  cases hr : (path.append names).refusal? with
  | some failure => exact ⟨AddsFolders.refl _ _ _, not_ok_of_error⟩
  | none =>
      have hnil : disk.tree.IsFolderAt (there ++ []) := by
        rw [List.append_nil]
        exact h.2
      obtain ⟨hadds, hok⟩ := makeAlong_down names hnil
      rw [Path.steps_append, start_append]
      simp only [makeAlong_follow h.1 h.2]
      rw [List.append_nil] at hadds hok
      exact ⟨hadds.mono fun route hroute => ⟨hroute, trivial⟩, hok⟩

variable {parent : Route} {name : String} {content : ByteArray}

theorem Written.holdsFolder (h : Written disk later (there ++ parent) name content)
    (hholds : disk.tree.HoldsFolder there) : later.tree.HoldsFolder there := by
  have hfile : (Node.file content).WellFormed := trivial
  rw [h.tree, List.append_assoc]
  cases parent with
  | nil => exact hholds.put hfile name []
  | cons first rest => exact hholds.put hfile first (rest ++ [name])

/-- Only at the route of the file something else is seen. -/
theorem Written.peek (h : Written disk later (there ++ parent) name content) (route : Route) :
    later.tree.peek (there ++ route) =
      if route = parent ++ [name] then some (some content)
      else disk.tree.peek (there ++ route) := by
  rw [h.tree]
  by_cases hp : (there ++ parent ++ [name]) <+: (there ++ route)
  · rw [List.append_assoc, List.prefix_append_right_inj] at hp
    obtain ⟨rest, rfl⟩ := hp
    have hbelow := peek_put_below h.isFolder name (.file content) rest
    have hassoc : there ++ (parent ++ [name] ++ rest) = there ++ parent ++ name :: rest := by
      simp
    rw [hassoc, hbelow]
    cases rest with
    | nil =>
        rw [List.append_nil, if_pos rfl]
        rfl
    | cons first rest =>
        rw [if_neg (by simp)]
        cases hold : disk.tree.peek (there ++ parent ++ name :: first :: rest) with
        | none => rfl
        | some found =>
            have hsplit : there ++ parent ++ [name] ++ first :: rest =
                there ++ parent ++ name :: first :: rest := by simp
            rw [← hsplit] at hold
            exact absurd (isFolderAt_of_peek_append hold) h.free
  · have hne : route ≠ parent ++ [name] := by
      rintro rfl
      exact hp (by simp)
    rw [if_neg hne]
    exact peek_put_elsewhere h.isFolder name (.file content) hp

end Disk

end Retrace.Files
