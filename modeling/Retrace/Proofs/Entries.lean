import Mathlib.Data.List.Induction
import Retrace.Entries

/-!
Which entries a list of named entries has, what is looked up in it, and what it holds after values
have been given one after another.
-/

namespace Retrace.Entries

variable {α : Type}

theorem mem_set {name : String} {value : α} {entries : List (String × α)} {entry : String × α}
    (h : entry ∈ set name value entries) : entry = (name, value) ∨ entry ∈ entries := by
  induction entries with
  | nil => exact .inl (List.mem_singleton.mp h)
  | cons first rest ih =>
      obtain ⟨n, v⟩ := first
      rw [set] at h
      split at h
      · rcases List.mem_cons.mp h with rfl | hr
        · exact .inl rfl
        · exact .inr (List.mem_cons_of_mem _ hr)
      · rcases List.mem_cons.mp h with rfl | hr
        · exact .inr List.mem_cons_self
        · exact (ih hr).imp_right (List.mem_cons_of_mem _)

theorem mem_of_lookup {name : String} {value : α} {entries : List (String × α)}
    (h : entries.lookup name = some value) : (name, value) ∈ entries := by
  obtain ⟨before, after, rfl, -⟩ := List.lookup_eq_some_iff.mp h
  exact List.mem_append_right _ List.mem_cons_self

theorem lookup_of_mem {name : String} {value : α} {entries : List (String × α)}
    (hn : (entries.map Prod.fst).Nodup) (h : (name, value) ∈ entries) :
    entries.lookup name = some value := by
  obtain ⟨before, after, rfl⟩ := List.append_of_mem h
  refine List.lookup_eq_some_iff.mpr ⟨before, after, rfl, fun entry he => bne_iff_ne.mpr ?_⟩
  rw [List.map_append, List.nodup_append] at hn
  exact Ne.symm (hn.2.2 _ (List.mem_map_of_mem he) name List.mem_cons_self)

/-- What is said of the value under a name, where names differ. -/
theorem forall_mem_lookup_iff {entries : List (String × α)}
    (hn : (entries.map Prod.fst).Nodup) {P : String → α → Prop} {names : List String} :
    (∀ name ∈ names, ∀ a ∈ entries.lookup name, P name a) ↔
      ∀ entry ∈ entries, entry.1 ∈ names → P entry.1 entry.2 := by
  constructor
  · intro h entry hentry hname
    exact h entry.1 hname entry.2 (lookup_of_mem hn hentry)
  · intro h name hname a ha
    exact h (name, a) (mem_of_lookup ha) hname

/-- Giving an entry the value that it has changes nothing. -/
theorem set_of_lookup {name : String} {value : α} {entries : List (String × α)}
    (h : entries.lookup name = some value) : set name value entries = entries := by
  induction entries with
  | nil => cases h
  | cons first rest ih =>
      obtain ⟨n, v⟩ := first
      rw [List.lookup_cons] at h
      by_cases hn : n = name
      · subst hn
        rw [beq_self_eq_true] at h
        cases h
        simp [set]
      · rw [beq_false_of_ne (Ne.symm hn)] at h
        rw [set, if_neg hn, ih h]

theorem set_of_notMem {name : String} {entries : List (String × α)}
    (h : name ∉ entries.map Prod.fst) (value : α) :
    set name value entries = entries ++ [(name, value)] := by
  induction entries with
  | nil => rfl
  | cons entry rest ih =>
      rw [List.map_cons, List.mem_cons, not_or] at h
      simp [set, Ne.symm h.1, ih h.2]

theorem eraseDups_append_singleton (names : List String) (name : String) :
    (names ++ [name]).eraseDups =
      if name ∈ names then names.eraseDups else names.eraseDups ++ [name] := by
  rw [List.eraseDups_append]
  by_cases hmem : name ∈ names
  · simp [List.removeAll, hmem]
  · simp [List.removeAll, hmem, List.eraseDups_cons]

section Gathering

variable {β : Type} (name : β → String) (value : β → α)

/-- The entries after every item of a list has given its value to its name. -/
def gather (given : List β) : List (String × α) :=
  given.foldl (fun entries b => set (name b) (value b) entries) []

/-- The value is the one that the last item with the name has given. -/
def LastGiven (given : List β) (key : String) (a : α) : Prop :=
  ∃ before b after, given = before ++ b :: after ∧ name b = key ∧ value b = a ∧
    ∀ later ∈ after, name later ≠ key

variable {name value} {given : List β}

theorem gather_append_singleton (given : List β) (b : β) :
    gather name value (given ++ [b]) = set (name b) (value b) (gather name value given) := by
  rw [gather, List.foldl_append]
  rfl

theorem names_gather (given : List β) :
    (gather name value given).map Prod.fst = (given.map name).eraseDups := by
  induction given using List.reverseRecOn with
  | nil => rfl
  | append_singleton given b ih =>
      rw [gather_append_singleton, names_set, ih, List.map_append, List.map_singleton,
        eraseDups_append_singleton]
      simp only [List.mem_eraseDups]

theorem nodup_names_gather (given : List β) :
    ((gather name value given).map Prod.fst).Nodup := by
  induction given using List.reverseRecOn with
  | nil => exact List.nodup_nil
  | append_singleton given b ih =>
      rw [gather_append_singleton]
      exact nodup_names_set ih

theorem not_lastGiven_nil {key : String} {a : α} : ¬ LastGiven name value [] key a := by
  rintro ⟨before, b, after, hgiven, -⟩
  cases before <;> cases hgiven

theorem LastGiven.append_singleton {b : β} {key : String} {a : α}
    (h : LastGiven name value given key a) (hb : name b ≠ key) :
    LastGiven name value (given ++ [b]) key a := by
  obtain ⟨before, c, after, rfl, hname, hvalue, hlater⟩ := h
  refine ⟨before, c, after ++ [b], by simp, hname, hvalue, ?_⟩
  intro later hmem
  rcases List.mem_append.mp hmem with hmem | hmem
  · exact hlater later hmem
  · rw [List.mem_singleton.mp hmem]
    exact hb

theorem LastGiven.of_append_singleton {b : β} {key : String} {a : α}
    (h : LastGiven name value (given ++ [b]) key a) :
    name b = key ∧ value b = a ∨ name b ≠ key ∧ LastGiven name value given key a := by
  obtain ⟨before, c, after, hgiven, hname, hvalue, hlater⟩ := h
  rcases List.eq_nil_or_concat after with rfl | ⟨after, d, rfl⟩
  · obtain ⟨-, hb⟩ := List.append_inj' hgiven rfl
    cases hb
    exact .inl ⟨hname, hvalue⟩
  · rw [List.concat_eq_append] at hgiven hlater
    rw [← List.cons_append, ← List.append_assoc] at hgiven
    obtain ⟨rfl, hb⟩ := List.append_inj' hgiven rfl
    cases hb
    refine .inr ⟨hlater b (List.mem_append_right _ List.mem_cons_self), ?_⟩
    exact ⟨before, c, after, rfl, hname, hvalue,
      fun later hmem => hlater later (List.mem_append_left _ hmem)⟩

theorem lookup_gather_iff {key : String} {a : α} :
    (gather name value given).lookup key = some a ↔ LastGiven name value given key a := by
  induction given using List.reverseRecOn with
  | nil => exact iff_of_false nofun not_lastGiven_nil
  | append_singleton given b ih =>
      rw [gather_append_singleton, lookup_set]
      by_cases hkey : key = name b
      · rw [if_pos hkey, Option.some_inj]
        constructor
        · intro hvalue
          exact ⟨given, b, [], rfl, hkey.symm, hvalue, nofun⟩
        · intro hlast
          rcases hlast.of_append_singleton with ⟨-, hvalue⟩ | ⟨hne, -⟩
          · exact hvalue
          · exact absurd hkey.symm hne
      · rw [if_neg hkey, ih]
        constructor
        · intro hlast
          exact hlast.append_singleton (Ne.symm hkey)
        · intro hlast
          rcases hlast.of_append_singleton with ⟨hname, -⟩ | ⟨-, hlast⟩
          · exact absurd hname.symm hkey
          · exact hlast

theorem mem_gather_iff {key : String} {a : α} :
    (key, a) ∈ gather name value given ↔ LastGiven name value given key a := by
  rw [← lookup_gather_iff]
  exact ⟨lookup_of_mem (nodup_names_gather given), mem_of_lookup⟩

end Gathering

end Retrace.Entries
