import Retrace.Files.Node

/-!
The order of routes. It is a linear order, so a list that is in order is what sorting gives for
every list with the same routes.
-/

namespace Retrace.Files.Route

theorem le_cons_iff {a b : String} {as bs : Route} :
    le (a :: as) (b :: bs) = true ↔ a < b ∨ a = b ∧ le as bs = true := by
  rw [le]
  split
  · next h =>
      subst h
      simp
  · next h => simp [h]

theorem le_refl (route : Route) : le route route = true := by
  induction route with
  | nil => rfl
  | cons a as ih => exact le_cons_iff.mpr (.inr ⟨rfl, ih⟩)

theorem le_total (first second : Route) : (le first second || le second first) = true := by
  induction first generalizing second with
  | nil => rfl
  | cons a as ih =>
      cases second with
      | nil => rfl
      | cons b bs =>
          rw [Bool.or_eq_true, le_cons_iff, le_cons_iff]
          by_cases hab : a = b
          · subst hab
            simpa [String.lt_irrefl] using ih bs
          · rcases String.le_total a b with h | h
            · exact .inl (.inl (Std.lt_of_le_of_ne h hab))
            · exact .inr (.inl (Std.lt_of_le_of_ne h (Ne.symm hab)))

theorem le_trans (first second third : Route) (h : le first second = true)
    (h' : le second third = true) : le first third = true := by
  induction first generalizing second third with
  | nil => rfl
  | cons a as ih =>
      cases second with
      | nil => cases h
      | cons b bs =>
          cases third with
          | nil => cases h'
          | cons c cs =>
              rw [le_cons_iff] at h h' ⊢
              rcases h with h | ⟨rfl, h⟩
              · rcases h' with h' | ⟨rfl, -⟩
                · exact .inl (String.lt_trans h h')
                · exact .inl h
              · rcases h' with h' | ⟨rfl, h'⟩
                · exact .inl h'
                · exact .inr ⟨rfl, ih bs cs h h'⟩

theorem le_antisymm {first second : Route} (h : le first second = true)
    (h' : le second first = true) : first = second := by
  induction first generalizing second with
  | nil =>
      cases second with
      | nil => rfl
      | cons b bs => cases h'
  | cons a as ih =>
      cases second with
      | nil => cases h
      | cons b bs =>
          rw [le_cons_iff] at h h'
          rcases h with h | ⟨rfl, h⟩
          · rcases h' with h' | ⟨rfl, -⟩
            · exact absurd (String.lt_trans h h') (String.lt_irrefl a)
            · exact absurd h (String.lt_irrefl _)
          · rcases h' with h' | ⟨-, h'⟩
            · exact absurd h' (String.lt_irrefl a)
            · rw [ih h h']

theorem lt_iff {first second : Route} :
    first < second ↔ le first second = true ∧ first ≠ second := by
  induction first generalizing second with
  | nil => cases second <;> simp [le]
  | cons a as ih =>
      cases second with
      | nil => simp [le]
      | cons b bs =>
          simp only [List.cons_lt_cons_iff, le_cons_iff, ih, ne_eq, List.cons.injEq]
          constructor
          · rintro (hab | ⟨rfl, hle, hne⟩)
            · refine ⟨.inl hab, fun h => ?_⟩
              rw [h.1] at hab
              exact String.lt_irrefl b hab
            · exact ⟨.inr ⟨rfl, hle⟩, fun h => hne h.2⟩
          · rintro ⟨hab | ⟨rfl, hle⟩, hne⟩
            · exact .inl hab
            · exact .inr ⟨rfl, hle, fun h => hne ⟨rfl, h⟩⟩

theorem pairwise_sort (routes : List Route) : (sort routes).Pairwise (le · ·) :=
  List.pairwise_mergeSort le_trans le_total routes

/-- Sorting gives the list in order that has the same routes. -/
theorem sort_eq {routes ordered : List Route} (hordered : ordered.Pairwise (le · ·))
    (hroutes : routes.Nodup) (hnodup : ordered.Nodup)
    (hmem : ∀ route, route ∈ routes ↔ route ∈ ordered) : sort routes = ordered := by
  have hperm : (sort routes).Perm ordered :=
    (List.mergeSort_perm routes le).trans ((List.perm_ext_iff_of_nodup hroutes hnodup).mpr hmem)
  exact hperm.eq_of_pairwise (fun _ _ _ _ => le_antisymm) (pairwise_sort routes) hordered

theorem nodup_of_pairwise_lt {routes : List Route} (h : routes.Pairwise (· < ·)) : routes.Nodup :=
  h.imp fun hlt => (lt_iff.mp hlt).2

/-- Sorting gives the strictly increasing list that has the same routes. -/
theorem sort_eq_of_lt {routes ordered : List Route} (hordered : ordered.Pairwise (· < ·))
    (hroutes : routes.Nodup) (hmem : ∀ route, route ∈ routes ↔ route ∈ ordered) :
    sort routes = ordered :=
  sort_eq (hordered.imp fun hlt => (lt_iff.mp hlt).1) hroutes (nodup_of_pairwise_lt hordered) hmem

theorem mem_sort {routes : List Route} {route : Route} : route ∈ sort routes ↔ route ∈ routes :=
  List.mem_mergeSort

theorem nodup_sort {routes : List Route} (h : routes.Nodup) : (sort routes).Nodup :=
  (List.mergeSort_perm routes le).nodup_iff.mpr h

/-- Keeping only some of the routes does not disturb their order. -/
theorem sort_eq_filter {routes others : List Route} {keep : Route → Bool}
    (hroutes : routes.Nodup) (hothers : others.Nodup)
    (h : ∀ route, route ∈ routes ↔ route ∈ others ∧ keep route = true) :
    sort routes = (sort others).filter keep := by
  refine sort_eq ((pairwise_sort others).filter keep) hroutes ((nodup_sort hothers).filter keep) ?_
  intro route
  rw [h, List.mem_filter, mem_sort]

/-- The first route comes before the second and is another one. -/
def isBefore (second first : Route) : Bool := le first second && first != second

/-- The first route comes after the second. -/
def isAfter (second first : Route) : Bool := !le first second

theorem isBefore_iff {first second : Route} :
    isBefore second first = true ↔ le first second = true ∧ first ≠ second := by
  rw [isBefore, Bool.and_eq_true, bne_iff_ne]

theorem isAfter_iff {first second : Route} :
    isAfter second first = true ↔ le first second ≠ true := by
  rw [isAfter, Bool.not_eq_true', ne_eq, Bool.not_eq_true]

theorem le_of_isAfter {first second : Route} (h : isAfter second first = true) :
    le second first = true := by
  have htotal := le_total first second
  rw [Bool.or_eq_true] at htotal
  exact htotal.resolve_left (isAfter_iff.mp h)

theorem ne_of_isAfter {first second : Route} (h : isAfter second first = true) :
    first ≠ second := by
  rintro rfl
  exact isAfter_iff.mp h (le_refl first)

section Around

variable {routes others : List Route} {place : Route}

/-- The routes before and after a place, with the place itself where it is given. -/
def around (place : Route) (here : Bool) (routes : List Route) : List Route :=
  routes.filter (isBefore place) ++ (if here then [place] else []) ++
    routes.filter (isAfter place)

theorem mem_around {here : Bool} {route : Route} :
    route ∈ around place here routes ↔
      route ≠ place ∧ route ∈ routes ∨ route = place ∧ here = true := by
  have hplace : route ∈ (if here then [place] else []) ↔ route = place ∧ here = true := by
    cases here <;> simp
  rw [around, List.mem_append, List.mem_append, hplace, List.mem_filter, List.mem_filter,
    isBefore_iff, isAfter_iff]
  by_cases hroute : route = place
  · subst hroute
    simp [le_refl]
  · by_cases hle : le route place = true <;> simp [hroute, hle]

theorem pairwise_around (h : routes.Pairwise (le · ·)) (here : Bool) :
    (around place here routes).Pairwise (le · ·) := by
  have hbefore : ∀ route ∈ routes.filter (isBefore place) ++ (if here then [place] else []),
      le route place = true := by
    intro route hroute
    rcases List.mem_append.mp hroute with hmem | hmem
    · exact (isBefore_iff.mp (List.mem_filter.mp hmem).2).1
    · cases here with
      | false => cases hmem
      | true => rw [List.mem_singleton.mp hmem, le_refl]
  have hplace : (if here then [place] else []).Pairwise (le · ·) := by
    cases here <;> simp
  refine List.pairwise_append.mpr ⟨List.pairwise_append.mpr ⟨h.filter _, hplace, ?_⟩,
    h.filter _, ?_⟩
  · intro a ha b hb
    cases here with
    | false => cases hb
    | true =>
        rw [List.mem_singleton.mp hb]
        exact hbefore a (List.mem_append_left _ ha)
  · intro a ha b hb
    exact le_trans a place b (hbefore a ha) (le_of_isAfter (List.mem_filter.mp hb).2)

theorem nodup_around (h : routes.Nodup) (here : Bool) : (around place here routes).Nodup := by
  have hplace : ∀ route ∈ (if here then [place] else []), route = place := by
    cases here <;> simp
  have hnodup : (if here then [place] else []).Nodup := by
    cases here <;> simp
  refine List.nodup_append.mpr ⟨List.nodup_append.mpr ⟨h.filter _, hnodup, ?_⟩, h.filter _, ?_⟩
  · rintro a ha b hb rfl
    exact (isBefore_iff.mp (List.mem_filter.mp ha).2).2 (hplace a hb)
  · rintro a ha b hb rfl
    have hafter := (List.mem_filter.mp hb).2
    rcases List.mem_append.mp ha with hbefore | hhere
    · exact isAfter_iff.mp hafter (isBefore_iff.mp (List.mem_filter.mp hbefore).2).1
    · exact ne_of_isAfter hafter (hplace a hhere)

/-- Sorting puts a route between those before and those after it, whatever is known of the others
being what another list has. -/
theorem sort_eq_around (hroutes : routes.Nodup) (hothers : others.Nodup)
    (hsame : ∀ route, route ≠ place → (route ∈ routes ↔ route ∈ others)) :
    sort routes = around place (decide (place ∈ routes)) (sort others) := by
  refine sort_eq (pairwise_around (pairwise_sort others) _) hroutes
    (nodup_around (nodup_sort hothers) _) ?_
  intro route
  rw [mem_around, mem_sort, decide_eq_true_iff]
  by_cases hroute : route = place
  · simp [hroute]
  · simp [hroute, hsame route hroute]

end Around

end Retrace.Files.Route
