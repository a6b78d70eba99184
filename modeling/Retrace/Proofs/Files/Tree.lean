import Retrace.Files.Node
import Retrace.Proofs.Entries

/-!
Trees of files by what is seen at their routes. Putting a node into a folder shows that node at and
below its route and changes nothing elsewhere, so folders stay folders and files keep their content.
-/

namespace Retrace

namespace Files.Node

@[elab_as_elim]
theorem induct {motive : Node → Prop} (file : ∀ content, motive (.file content))
    (folder : ∀ entries, (∀ entry ∈ entries, motive entry.2) → motive (.folder entries))
    (node : Node) : motive node := by
  refine @Node.rec motive (fun entries => ∀ entry ∈ entries, motive entry.2)
    (fun entry => motive entry.2) file folder ?_ ?_ ?_ node
  · exact nofun
  · exact fun entry rest he hr => List.forall_mem_cons.mpr ⟨he, hr⟩
  · exact fun _ _ hn => hn

theorem wellFormed_file (content : ByteArray) : (file content).WellFormed := trivial

theorem wellFormed_empty : (folder []).WellFormed := ⟨List.nodup_nil, trivial⟩

theorem entriesWellFormed_iff {entries : List (String × Node)} :
    EntriesWellFormed entries ↔ ∀ entry ∈ entries, entry.2.WellFormed := by
  induction entries with
  | nil => simp [EntriesWellFormed]
  | cons entry rest ih => simp [EntriesWellFormed, ih]

theorem wellFormed_put {node new : Node} (hnode : node.WellFormed) (hnew : new.WellFormed)
    (route : Route) : (node.put route new).WellFormed := by
  induction route generalizing node with
  | nil => simpa [put] using hnew
  | cons name rest ih =>
      cases node with
      | file content => exact hnode
      | folder entries =>
          have hentries := entriesWellFormed_iff.mp hnode.2
          refine ⟨Entries.nodup_names_set hnode.1, entriesWellFormed_iff.mpr ?_⟩
          intro entry he
          rcases Entries.mem_set he with rfl | hold
          · apply ih
            cases hl : entries.lookup name with
            | none => exact wellFormed_empty
            | some child => exact hentries _ (Entries.mem_of_lookup hl)
          · exact hentries entry hold

/-- Putting a node where it is changes nothing. -/
theorem put_of_at? {node found : Node} {route : Route} (h : node.at? route = some found) :
    node.put route found = node := by
  induction route generalizing node with
  | nil =>
      rw [at?_nil, Option.some.injEq] at h
      rw [h]
      cases found <;> rfl
  | cons name rest ih =>
      cases node with
      | file content => rfl
      | folder entries =>
          simp only [at?] at h
          cases hl : entries.lookup name with
          | none => simp [hl] at h
          | some child =>
              rw [hl] at h
              rw [put, hl, Option.getD_some, ih h, Entries.set_of_lookup hl]

/-- What is seen at a route: nothing, a folder, or a file with its content. -/
def peek (node : Node) (route : Route) : Option (Option ByteArray) :=
  (node.at? route).map content?

def IsFolderAt (node : Node) (route : Route) : Prop :=
  ∃ entries, node.at? route = some (.folder entries)

theorem isFolderAt_iff_peek {node : Node} {route : Route} :
    node.IsFolderAt route ↔ node.peek route = some none := by
  unfold IsFolderAt peek
  cases node.at? route with
  | none => simp
  | some found => cases found <;> simp [content?]

theorem peek_eq_file_iff {node : Node} {route : Route} {content : ByteArray} :
    node.peek route = some (some content) ↔ node.at? route = some (.file content) := by
  unfold peek
  cases node.at? route with
  | none => simp
  | some found => cases found <;> simp [content?]

theorem peek_folder_cons (entries : List (String × Node)) (name : String) (rest : Route) :
    (folder entries).peek (name :: rest) = (entries.lookup name).bind (peek · rest) := by
  simp only [peek, at?]
  cases entries.lookup name <;> rfl

theorem peek_append {node found : Node} {first : Route} (h : node.at? first = some found)
    (second : Route) : node.peek (first ++ second) = found.peek second := by
  simp [peek, at?_append, h]

theorem isFolderAt_append_iff {node found : Node} {first second : Route}
    (h : node.at? first = some found) :
    node.IsFolderAt (first ++ second) ↔ found.IsFolderAt second := by
  rw [isFolderAt_iff_peek, peek_append h, isFolderAt_iff_peek]

/-- Whatever has something below it is a folder. -/
theorem isFolderAt_of_peek_append {node : Node} {first rest : Route} {name : String}
    {seen : Option ByteArray} (h : node.peek (first ++ name :: rest) = some seen) :
    node.IsFolderAt first := by
  cases hf : node.at? first with
  | none => simp [peek, at?_append, hf] at h
  | some found =>
      cases found with
      | folder entries => exact ⟨entries, hf⟩
      | file content => simp [peek, at?_append, hf, at?] at h

theorem isFolderAt_of_peek_below {node : Node} {first rest : Route} (hrest : rest ≠ [])
    {seen : Option ByteArray} (h : node.peek (first ++ rest) = some seen) :
    node.IsFolderAt first := by
  obtain ⟨name, rest, rfl⟩ := List.exists_cons_of_ne_nil hrest
  exact isFolderAt_of_peek_append h

/-- The way to a folder goes through folders. -/
theorem isFolderAt_of_append {node : Node} {first rest : Route}
    (h : node.IsFolderAt (first ++ rest)) : node.IsFolderAt first := by
  cases rest with
  | nil => rwa [List.append_nil] at h
  | cons name rest => exact isFolderAt_of_peek_append (isFolderAt_iff_peek.mp h)

variable {node : Node} {parent : Route}

theorem peek_put_below (h : node.IsFolderAt parent) (name : String) (new : Node)
    (rest : Route) :
    (node.put (parent ++ [name]) new).peek (parent ++ name :: rest) = new.peek rest := by
  obtain ⟨entries, he⟩ := h
  have hfound := at?_put_of_folder he name new
  have hassoc : parent ++ name :: rest = (parent ++ [name]) ++ rest := by simp
  rw [hassoc]
  exact peek_append hfound rest

theorem peek_put_elsewhere (h : node.IsFolderAt parent) (name : String) (new : Node)
    {other : Route} (hother : ¬ (parent ++ [name]) <+: other) :
    (node.put (parent ++ [name]) new).peek other = node.peek other := by
  induction parent generalizing node other with
  | nil =>
      obtain ⟨entries, he⟩ := h
      rw [at?_nil, Option.some.injEq] at he
      subst he
      cases other with
      | nil => rfl
      | cons first rest =>
          have hne : first ≠ name := by
            rintro rfl
            exact hother (by simp)
          rw [List.nil_append, put, peek_folder_cons, peek_folder_cons, Entries.lookup_set,
            if_neg hne]
  | cons step parent ih =>
      obtain ⟨entries, he⟩ := h
      cases node with
      | file content => simp [at?] at he
      | folder others =>
          cases other with
          | nil => rfl
          | cons first rest =>
              rw [List.cons_append, put, peek_folder_cons, peek_folder_cons, Entries.lookup_set]
              by_cases hf : first = step
              · subst hf
                simp only [at?] at he
                cases hl : others.lookup first with
                | none => simp [hl] at he
                | some child =>
                    rw [hl] at he
                    have hrest : ¬ (parent ++ [name]) <+: rest := by
                      intro hp
                      exact hother (by simpa using hp)
                    simpa using ih ⟨entries, he⟩ hrest
              · rw [if_neg hf]

/-- A folder stays a folder when something is put where no folder is. -/
theorem isFolderAt_put (h : node.IsFolderAt parent) {name : String}
    (hfree : ¬ node.IsFolderAt (parent ++ [name])) (new : Node) {other : Route}
    (hother : node.IsFolderAt other) :
    (node.put (parent ++ [name]) new).IsFolderAt other := by
  have hnot : ¬ (parent ++ [name]) <+: other := by
    rintro ⟨rest, rfl⟩
    cases rest with
    | nil => exact hfree (by simpa using hother)
    | cons first rest =>
        exact hfree (isFolderAt_of_peek_append (isFolderAt_iff_peek.mp hother))
  rw [isFolderAt_iff_peek, peek_put_elsewhere h name new hnot]
  exact isFolderAt_iff_peek.mp hother

/-- Below a node of the tree, putting something there is putting it into that node. -/
theorem at?_put_below {tree : Node} {route : Route} (h : tree.at? route = some node)
    (hnode : node.isFolder) (name : String) (rest : Route) (new : Node) :
    (tree.put (route ++ name :: rest) new).at? route = some (node.put (name :: rest) new) := by
  induction route generalizing tree with
  | nil =>
      rw [at?_nil, Option.some.injEq] at h
      subst h
      simp
  | cons step route ih =>
      cases tree with
      | file content => simp [at?] at h
      | folder entries =>
          simp only [at?] at h
          cases hl : entries.lookup step with
          | none => simp [hl] at h
          | some child =>
              rw [hl] at h
              simp only [List.cons_append, put, at?, Entries.lookup_set, if_true, hl,
                Option.getD_some]
              exact ih h

end Files.Node

end Retrace
