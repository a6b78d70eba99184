import Retrace.Proofs.Files.Order
import Retrace.Proofs.Files.Tree
import Retrace.Store.Listing

/-!
What a listing of a tree has: the route of every file once, in order, and the route of every folder,
among them that of the folder at which a walk stops.
-/

namespace Retrace.Files.Node

theorem entryFiles_eq_map (entries : List (String × Node)) :
    entryFiles entries = entries.map fun entry => (entry.1, entry.2.files) := by
  induction entries with
  | nil => rfl
  | cons entry rest ih => simp [entryFiles, ih]

theorem entryFolders_eq_map (entries : List (String × Node)) :
    entryFolders entries = entries.map fun entry => (entry.1, entry.2.folders) := by
  induction entries with
  | nil => rfl
  | cons entry rest ih => simp [entryFolders, ih]

theorem mem_inNameOrder {entries : List (String × Node)} {list : Node → List Route}
    {route : Route} :
    route ∈ inNameOrder (entries.map fun entry => (entry.1, list entry.2)) ↔
      ∃ name child rest, (name, child) ∈ entries ∧ rest ∈ list child ∧ route = name :: rest := by
  unfold inNameOrder
  constructor
  · intro h
    obtain ⟨⟨name, routes⟩, hentry, hroute⟩ := List.mem_flatMap.mp h
    obtain ⟨⟨n, child⟩, hchild, heq⟩ := List.mem_map.mp (List.mem_mergeSort.mp hentry)
    obtain ⟨rest, hrest, rfl⟩ := List.mem_map.mp hroute
    cases heq
    exact ⟨n, child, rest, hchild, hrest, rfl⟩
  · rintro ⟨name, child, rest, hchild, hrest, rfl⟩
    refine List.mem_flatMap.mpr ⟨(name, list child), List.mem_mergeSort.mpr ?_, ?_⟩
    · exact List.mem_map.mpr ⟨(name, child), hchild, rfl⟩
    · exact List.mem_map.mpr ⟨rest, hrest, rfl⟩

/-- Routes below entries with different names are different if they are below each entry. -/
theorem nodup_flatMap_cons {entries : List (String × List Route)}
    (hn : (entries.map Prod.fst).Nodup) (h : ∀ entry ∈ entries, entry.2.Nodup) :
    (entries.flatMap fun entry => entry.2.map (entry.1 :: ·)).Nodup := by
  have hne : entries.Pairwise fun a b => a.1 ≠ b.1 := List.pairwise_map.mp hn
  rw [List.Nodup, List.pairwise_flatMap]
  refine ⟨fun entry he => ?_, hne.imp fun hab x hx y hy => ?_⟩
  · rw [List.pairwise_map]
    exact (h entry he).imp fun hrest heq => hrest (List.cons.inj heq).2
  · obtain ⟨x, -, rfl⟩ := List.mem_map.mp hx
    obtain ⟨y, -, rfl⟩ := List.mem_map.mp hy
    exact fun heq => hab (List.cons.inj heq).1

/-- The routes below an entry stand before those below the entries with later names. -/
theorem pairwise_inNameOrder {entries : List (String × List Route)}
    (hn : (entries.map Prod.fst).Nodup) (h : ∀ entry ∈ entries, entry.2.Pairwise (· < ·)) :
    (inNameOrder entries).Pairwise (· < ·) := by
  have hperm := List.mergeSort_perm entries nameLe
  have hle : (entries.mergeSort nameLe).Pairwise (nameLe · ·) := by
    refine List.pairwise_mergeSort (fun a b c hab hbc => ?_) (fun a b => ?_) entries
    · simp only [nameLe, decide_eq_true_eq] at hab hbc ⊢
      exact String.le_trans hab hbc
    · simpa only [nameLe, Bool.or_eq_true, decide_eq_true_eq] using String.le_total a.1 b.1
  have hne : (entries.mergeSort nameLe).Pairwise fun a b => a.1 ≠ b.1 :=
    List.pairwise_map.mp ((hperm.map Prod.fst).nodup_iff.mpr hn)
  rw [inNameOrder, List.pairwise_flatMap]
  refine ⟨fun entry he => ?_, (hle.and hne).imp fun ⟨hab, hab'⟩ x hx y hy => ?_⟩
  · rw [List.pairwise_map]
    exact (h entry (hperm.mem_iff.mp he)).imp fun hlt => List.cons_lt_cons_iff.mpr (.inr ⟨rfl, hlt⟩)
  · obtain ⟨x, -, rfl⟩ := List.mem_map.mp hx
    obtain ⟨y, -, rfl⟩ := List.mem_map.mp hy
    have hlt := Std.lt_of_le_of_ne (of_decide_eq_true hab) hab'
    exact List.cons_lt_cons_iff.mpr (.inl hlt)

theorem at?_folder_cons {entries : List (String × Node)}
    (hn : (entries.map Prod.fst).Nodup) {name : String} {rest : Route} {found : Node} :
    (folder entries).at? (name :: rest) = some found ↔
      ∃ child, (name, child) ∈ entries ∧ child.at? rest = some found := by
  simp only [at?]
  constructor
  · intro h
    cases hl : entries.lookup name with
    | none => simp [hl] at h
    | some child =>
        rw [hl] at h
        exact ⟨child, Entries.mem_of_lookup hl, h⟩
  · rintro ⟨child, hmem, h⟩
    rw [Entries.lookup_of_mem hn hmem]
    exact h

theorem mem_files_iff {node : Node} (h : node.WellFormed) {route : Route} :
    route ∈ node.files ↔ ∃ content, node.at? route = some (.file content) := by
  induction node using induct generalizing route with
  | file content =>
      cases route with
      | nil => simp [files]
      | cons name rest => simp [files, at?]
  | folder entries ih =>
      have hentries := entriesWellFormed_iff.mp h.2
      rw [files, entryFiles_eq_map, mem_inNameOrder]
      cases route with
      | nil => simp
      | cons name rest =>
          constructor
          · rintro ⟨_, child, _, hchild, hrest, heq⟩
            obtain ⟨rfl, rfl⟩ := List.cons.inj heq
            obtain ⟨content, hc⟩ := (ih _ hchild (hentries _ hchild)).mp hrest
            exact ⟨content, (at?_folder_cons h.1).mpr ⟨child, hchild, hc⟩⟩
          · rintro ⟨content, hc⟩
            obtain ⟨child, hchild, hc⟩ := (at?_folder_cons h.1).mp hc
            exact ⟨name, child, rest, hchild,
              (ih _ hchild (hentries _ hchild)).mpr ⟨content, hc⟩, rfl⟩

theorem mem_folders_iff {node : Node} (h : node.WellFormed) {route : Route} :
    route ∈ node.folders ↔ node.IsFolderAt route := by
  induction node using induct generalizing route with
  | file content =>
      cases route with
      | nil => simp [folders, IsFolderAt]
      | cons name rest => simp [folders, IsFolderAt, at?]
  | folder entries ih =>
      have hentries := entriesWellFormed_iff.mp h.2
      rw [folders, entryFolders_eq_map, List.mem_cons, mem_inNameOrder]
      cases route with
      | nil => simp [IsFolderAt]
      | cons name rest =>
          constructor
          · rintro (hnil | ⟨_, child, _, hchild, hrest, heq⟩)
            · cases hnil
            · obtain ⟨rfl, rfl⟩ := List.cons.inj heq
              obtain ⟨inner, hi⟩ := (ih _ hchild (hentries _ hchild)).mp hrest
              exact ⟨inner, (at?_folder_cons h.1).mpr ⟨child, hchild, hi⟩⟩
          · rintro ⟨inner, hi⟩
            obtain ⟨child, hchild, hi⟩ := (at?_folder_cons h.1).mp hi
            exact .inr ⟨name, child, rest, hchild,
              (ih _ hchild (hentries _ hchild)).mpr ⟨inner, hi⟩, rfl⟩

/-- A walk stops nowhere if every folder can be opened. -/
theorem closedFolder?_eq_none_iff {node : Node} (h : node.WellFormed) {path : Path} :
    node.closedFolder? path = none ↔
      ∀ route, node.IsFolderAt route → ¬ (path.append route).isTooLong := by
  simp only [closedFolder?, List.find?_eq_none, List.forall_mem_map, mem_folders_iff h]

/-- Where a walk stops there is a folder that cannot be opened. -/
theorem exists_of_closedFolder? {node : Node} (h : node.WellFormed) {path closed : Path}
    (hfirst : node.closedFolder? path = some closed) :
    ∃ route, node.IsFolderAt route ∧ closed = path.append route ∧ closed.isTooLong := by
  obtain ⟨route, hroute, rfl⟩ := List.mem_map.mp (List.mem_of_find?_eq_some hfirst)
  exact ⟨route, (mem_folders_iff h).mp hroute, rfl, List.find?_some hfirst⟩

/-- What is a folder below an entry of a folder. -/
theorem isFolderAt_append_cons_iff {tree : Node} {there : Route} {entries : List (String × Node)}
    (h : tree.at? there = some (.folder entries)) (hn : (entries.map Prod.fst).Nodup)
    {name : String} {rest : Route} :
    tree.IsFolderAt (there ++ name :: rest) ↔
      ∃ child, (name, child) ∈ entries ∧ child.IsFolderAt rest := by
  have hbelow (found : Node) : tree.at? (there ++ name :: rest) = some found ↔
      ∃ child, (name, child) ∈ entries ∧ child.at? rest = some found := by
    rw [at?_append, h]
    exact at?_folder_cons hn
  simp only [IsFolderAt, hbelow]
  constructor
  · rintro ⟨inner, child, hchild, hinner⟩
    exact ⟨child, hchild, inner, hinner⟩
  · rintro ⟨child, hchild, inner, hinner⟩
    exact ⟨inner, child, hchild, hinner⟩

/-- The depth-first walk meets the files in the order of their routes. -/
theorem pairwise_lt_files {node : Node} (h : node.WellFormed) : node.files.Pairwise (· < ·) := by
  induction node using induct with
  | file content => exact List.pairwise_singleton _ _
  | folder entries ih =>
      have hentries := entriesWellFormed_iff.mp h.2
      rw [files, entryFiles_eq_map]
      apply pairwise_inNameOrder
      · rw [List.map_map]
        exact h.1
      · intro entry he
        obtain ⟨⟨name, child⟩, hchild, rfl⟩ := List.mem_map.mp he
        exact ih _ hchild (hentries _ hchild)

theorem nodup_files {node : Node} (h : node.WellFormed) : node.files.Nodup :=
  Route.nodup_of_pairwise_lt (pairwise_lt_files h)

theorem wellFormed_of_at? {node found : Node} {route : Route} (h : node.WellFormed)
    (hf : node.at? route = some found) : found.WellFormed := by
  induction route generalizing node with
  | nil =>
      rw [at?_nil, Option.some.injEq] at hf
      exact hf ▸ h
  | cons name rest ih =>
      cases node with
      | file content => simp [at?] at hf
      | folder entries =>
          obtain ⟨child, hchild, hc⟩ := (at?_folder_cons h.1).mp hf
          exact ih (entriesWellFormed_iff.mp h.2 _ hchild) hc

end Retrace.Files.Node
