/-!
Lists of named entries in the order in which the names were first mentioned. Object members,
attributes and the entries of folders are such lists.
-/

namespace Retrace.Entries

variable {α : Type}

/-- Gives an entry its value: a new name goes to the end, a known one keeps its place. -/
def set (name : String) (value : α) : List (String × α) → List (String × α)
  | [] => [(name, value)]
  | (n, v) :: rest => if n = name then (name, value) :: rest else (n, v) :: set name value rest

theorem names_set (name : String) (value : α) (entries : List (String × α)) :
    (set name value entries).map Prod.fst =
      if name ∈ entries.map Prod.fst then entries.map Prod.fst
      else entries.map Prod.fst ++ [name] := by
  induction entries with
  | nil => simp [set]
  | cons entry rest ih =>
      obtain ⟨n, v⟩ := entry
      by_cases h : n = name
      · simp [set, h]
      · simp only [set, h, if_false, List.map_cons, List.mem_cons, ih]
        by_cases hr : name ∈ rest.map Prod.fst <;> simp [hr, Ne.symm h]

theorem nodup_names_set {name : String} {value : α} {entries : List (String × α)}
    (h : (entries.map Prod.fst).Nodup) : ((set name value entries).map Prod.fst).Nodup := by
  rw [names_set]
  split
  · exact h
  · next hn =>
      rw [List.nodup_append]
      exact ⟨h, by simp, fun a ha b hb hab => hn (by simp_all)⟩

theorem lookup_set (key name : String) (value : α) (entries : List (String × α)) :
    (set name value entries).lookup key =
      if key = name then some value else entries.lookup key := by
  induction entries with
  | nil =>
      by_cases h : key = name
      · simp [set, h]
      · have hb : (key == name) = false := by simpa using h
        simp [set, List.lookup_cons, h, hb]
  | cons entry rest ih =>
      obtain ⟨n, v⟩ := entry
      by_cases hn : n = name
      · subst hn
        by_cases h : key = n
        · simp [set, h]
        · have hb : (key == n) = false := by simpa using h
          simp [set, List.lookup_cons, h, hb]
      · simp only [set, hn, if_false, List.lookup_cons, ih]
        cases hb : key == n with
        | false => rfl
        | true =>
            have h : key = n := by simpa using hb
            simp [h, hn]

end Retrace.Entries
