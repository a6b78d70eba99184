import Retrace.Proofs.Store.Recording

/-!
What lies below the root of a store after a run of saves: the file of each event that was saved, and
folders for days and for tasks. The run keeps this as long as the clock does not go back and the
numbers have six digits, because then each save that gets a number gets a name of its own.
-/

namespace Retrace

open Files Files.Node

/-- A save that went well. -/
structure Entry where
  moment : Moment
  number : Nat
  id : String
  event : Json

namespace Entry

def name (e : Entry) : String := eventFileName e.moment (UInt64.ofNat e.number)

/-- The file of the event, from the root on. -/
def route (e : Entry) : Route := [e.moment.dayText, e.id, e.name]

/-- The first entry was saved before the second. -/
structure Before (e later : Entry) : Prop where
  moment : e.moment.Precedes later.moment
  number : e.number < later.number

/-- Later files have later names. -/
theorem name_lt {e later : Entry} (he : e.moment.InRange) (hl : later.moment.InRange)
    (h : e.Before later) (hbound : later.number < 1000000) : e.name < later.name := by
  have hsmall : ∀ n, n < 1000000 → (UInt64.ofNat n).toNat = n := fun n hn =>
    UInt64.toNat_ofNat_of_lt' (Nat.lt_trans hn (by decide))
  apply eventFileName_lt he hl h.moment
  · rw [hsmall _ (Nat.lt_trans h.number hbound), hsmall _ hbound]
    exact h.number
  · rw [hsmall _ hbound]
    exact hbound

theorem route_ne {e later : Entry} (he : e.moment.InRange) (hl : later.moment.InRange)
    (h : e.Before later) (hbound : later.number < 1000000) : e.route ≠ later.route := by
  intro heq
  have hsame : e.name = later.name := by
    simpa [route] using (List.cons.inj (List.cons.inj heq).2).2
  have hlt := name_lt he hl h hbound
  rw [hsame] at hlt
  exact String.lt_irrefl _ hlt

end Entry

namespace Recording

/-- The contents of the store are the given entries, which come from the given saves. -/
structure Holds (r : Recording) (there : Route) (calls : List (Moment × Json))
    (entries : List Entry) : Prop where
  root : r.disk.route r.store.root = .ok there
  leads : r.disk.LeadsTo r.store.root there
  folder : r.disk.tree.HoldsFolder there
  files : ∀ route content, r.disk.tree.peek (there ++ route) = some (some content) ↔
    ∃ e ∈ entries, route = e.route ∧ content = e.event.pretty.toUTF8
  folders : ∀ route, r.disk.tree.IsFolderAt (there ++ route) → route.length ≤ 2 ∧
    (route.length = 2 → (r.store.root.append route).refusal? = none)
  next : r.store.next = UInt64.ofNat r.taken
  saved : r.saved = entries.map fun e => (r.store.root.append e.route, e.event)
  numbers : ∀ e ∈ entries, e.number < r.taken
  calls : ∀ e ∈ entries, (e.moment, e.event) ∈ calls
  ids : ∀ e ∈ entries, e.event.get? "taskId" = some (.string e.id) ∧ ValidTaskId e.id
  routes : ∀ e ∈ entries,
    r.disk.route (r.store.root.append e.route) = .ok (there ++ e.route)
  ordered : entries.Pairwise Entry.Before

variable {r : Recording} {there : Route} {calls : List (Moment × Json)} {entries : List Entry}

theorem Holds.mono (h : Holds r there calls entries) {more : List (Moment × Json)}
    (hsub : ∀ call ∈ calls, call ∈ more) : Holds r there more entries :=
  { h with calls := fun e he => hsub _ (h.calls e he) }

theorem Holds.makeFolders (h : Holds r there calls entries) {moment : Moment} {id : String}
    {disk : Disk}
    (hdisk : disk = (r.disk.makeFolders (Store.taskFolder r.store.root moment id)).1) :
    Holds { r with disk } there calls entries := by
  obtain ⟨hadds, -⟩ := Disk.makeFolders_append h.leads [moment.dayText, id]
  have hcurrent := Disk.current_makeFolders r.disk (Store.taskFolder r.store.root moment id)
  rw [← Store.taskFolder_eq, ← hdisk] at hadds
  rw [← hdisk] at hcurrent
  exact
    { h with
      root := Disk.route_mono h.root hcurrent hadds.keepsFolders
      leads := h.leads.mono hcurrent hadds.keepsFolders
      folder := hadds.holdsFolder h.folder
      files := fun route content => hadds.peek_eq_file_iff.trans (h.files route content)
      folders := by
        intro route hroute
        rcases hadds.isFolderAt hroute with hold | ⟨halong, hrefusal⟩
        · exact h.folders route hold
        · refine ⟨halong.length_le, fun hlength => ?_⟩
          rw [halong.eq_of_length hlength, ← Store.taskFolder_eq]
          exact hrefusal
      routes := fun e he => Disk.route_mono (h.routes e he) hcurrent hadds.keepsFolders }

theorem Holds.takeNumber (h : Holds r there calls entries) :
    Holds { r with store := ⟨r.store.root, r.store.next + 1⟩, taken := r.taken + 1 } there calls
      entries :=
  { h with
    next := by rw [h.next, UInt64.ofNat_add]; rfl
    numbers := fun e he => Nat.lt_succ_of_lt (h.numbers e he) }

/-- The files when that of a further entry is there. -/
theorem Holds.files_of_peek (h : Holds r there calls entries) {tree : Node} {new : Entry}
    (hpeek : ∀ route, tree.peek (there ++ route) =
      if route = new.route then some (some new.event.pretty.toUTF8)
      else r.disk.tree.peek (there ++ route))
    (hne : ∀ e ∈ entries, e.route ≠ new.route) (route : Route) (content : ByteArray) :
    tree.peek (there ++ route) = some (some content) ↔
      ∃ e ∈ entries ++ [new], route = e.route ∧ content = e.event.pretty.toUTF8 := by
  rw [hpeek]
  constructor
  · intro hfile
    split at hfile
    · next heq =>
        cases hfile
        exact ⟨_, List.mem_append_right _ List.mem_cons_self, heq, rfl⟩
    · obtain ⟨e, he, hr⟩ := (h.files route content).mp hfile
      exact ⟨e, List.mem_append_left _ he, hr⟩
  · rintro ⟨e, he, rfl, rfl⟩
    rcases List.mem_append.mp he with he | he
    · rw [if_neg (hne e he)]
      exact (h.files _ _).mpr ⟨e, he, rfl, rfl⟩
    · obtain rfl := List.mem_singleton.mp he
      rw [if_pos rfl]

/-- The contents after a file has been written under the next number. -/
theorem Holds.write (h : Holds r there calls entries) {moment : Moment} {event : Json}
    {id : String} (hid : recordedTaskId event = .ok id) (hcall : (moment, event) ∈ calls)
    (hm : moment.InRange) (hrange : ∀ e ∈ entries, e.moment.InRange)
    (hbefore : ∀ e ∈ entries, e.moment.Precedes moment) (htaken : r.taken < 1000000)
    {later : Disk} {path : Path}
    (hpath : path = (Store.taskFolder r.store.root moment id).join
      (eventFileName moment r.store.next))
    (hwrite : r.disk.writeText path event.pretty = (later, .ok ())) :
    Holds
      { store := ⟨r.store.root, r.store.next + 1⟩, disk := later,
        saved := r.saved ++ [(path, event)], taken := r.taken + 1 }
      there calls (entries ++ [⟨moment, r.taken, id, event⟩]) := by
  subst hpath
  obtain ⟨folder, hroute, hleads, hwritten⟩ := Disk.written_of_write hwrite
  rw [Store.taskFolder_eq] at hleads
  obtain rfl := h.leads.append_eq hleads
  have hnew : ([moment.dayText, id] ++ [eventFileName moment r.store.next] : Route) =
      Entry.route ⟨moment, r.taken, id, event⟩ := by
    rw [Entry.route, Entry.name, ← h.next]
    rfl
  have hpath : (Store.taskFolder r.store.root moment id).join
      (eventFileName moment r.store.next) =
        r.store.root.append (Entry.route ⟨moment, r.taken, id, event⟩) := by
    rw [Store.taskFolder_join, ← hnew]
    rfl
  have hne : ∀ e ∈ entries, e.route ≠ Entry.route ⟨moment, r.taken, id, event⟩ := by
    intro e he
    exact Entry.route_ne (hrange e he) hm ⟨hbefore e he, h.numbers e he⟩ htaken
  rw [hpath] at hroute ⊢
  rw [List.append_assoc, hnew] at hroute
  have hpeek := hwritten.peek
  rw [hnew] at hpeek
  obtain ⟨hget, hvalid⟩ := recordedTaskId_eq_ok_iff.mp hid
  constructor
  case root => exact Disk.route_mono h.root hwritten.current hwritten.keepsFolders
  case leads => exact h.leads.mono hwritten.current hwritten.keepsFolders
  case folder => exact hwritten.holdsFolder h.folder
  case files => exact h.files_of_peek hpeek hne
  case folders =>
    intro route hfolder
    rw [isFolderAt_iff_peek, hpeek] at hfolder
    split at hfolder
    · cases hfolder
    · exact h.folders route (isFolderAt_iff_peek.mpr hfolder)
  case next => exact h.takeNumber.next
  case saved => rw [h.saved, List.map_append, List.map_cons, List.map_nil]
  case numbers =>
    refine List.forall_mem_append.mpr ⟨h.takeNumber.numbers, ?_⟩
    exact List.forall_mem_singleton.mpr (Nat.lt_succ_self _)
  case calls =>
    exact List.forall_mem_append.mpr ⟨h.calls, List.forall_mem_singleton.mpr hcall⟩
  case ids =>
    exact List.forall_mem_append.mpr ⟨h.ids, List.forall_mem_singleton.mpr ⟨hget, hvalid⟩⟩
  case routes =>
    refine List.forall_mem_append.mpr ⟨fun e he => ?_, List.forall_mem_singleton.mpr ?_⟩
    · exact Disk.route_mono (h.routes e he) hwritten.current hwritten.keepsFolders
    · exact Disk.route_mono hroute hwritten.current hwritten.keepsFolders
  case ordered =>
    refine List.pairwise_append.mpr ⟨h.ordered, List.pairwise_singleton _ _, fun e he => ?_⟩
    exact List.forall_mem_singleton.mpr ⟨hbefore e he, h.numbers e he⟩

theorem taken_save (r : Recording) (moment : Moment) (event : Json) :
    r.taken ≤ (r.save moment event).taken ∧ (r.save moment event).taken ≤ r.taken + 1 := by
  unfold save
  dsimp only
  split <;> omega

theorem taken_le_saveAll (r : Recording) (calls : List (Moment × Json)) :
    r.taken ≤ (r.saveAll calls).taken := by
  induction calls generalizing r with
  | nil => exact Nat.le_refl _
  | cons call rest ih => exact Nat.le_trans (r.taken_save call.1 call.2).1 (ih _)

theorem taken_saveAll_le (r : Recording) (calls : List (Moment × Json)) :
    (r.saveAll calls).taken ≤ r.taken + calls.length := by
  induction calls generalizing r with
  | nil => exact Nat.le_refl _
  | cons call rest ih =>
      have hfirst := (r.taken_save call.1 call.2).2
      have hrest := ih (r.save call.1 call.2)
      rw [List.length_cons]
      exact Nat.le_trans hrest (by omega)

theorem Holds.save (h : Holds r there calls entries) {moment : Moment} {event : Json}
    (hclock : Chronological ((calls ++ [(moment, event)]).map Prod.fst))
    (htaken : (r.save moment event).taken ≤ 1000000) :
    ∃ more, Holds (r.save moment event) there (calls ++ [(moment, event)]) (entries ++ more) := by
  have hmem : ∀ e ∈ entries, e.moment ∈ calls.map Prod.fst := fun e he =>
    List.mem_map.mpr ⟨_, h.calls e he, rfl⟩
  have hordered := hclock.ordered
  have hinRange := hclock.inRange
  rw [List.map_append] at hordered hinRange
  have hm : moment.InRange := hinRange _ (List.mem_append_right _ List.mem_cons_self)
  have hrange : ∀ e ∈ entries, e.moment.InRange := fun e he =>
    hinRange _ (List.mem_append_left _ (hmem e he))
  have hbefore : ∀ e ∈ entries, e.moment.Precedes moment := fun e he =>
    (List.pairwise_append.mp hordered).2.2 _ (hmem e he) _ List.mem_cons_self
  have hmore : Holds r there (calls ++ [(moment, event)]) entries :=
    h.mono fun call hc => List.mem_append_left _ hc
  have hcall : (moment, event) ∈ calls ++ [(moment, event)] :=
    List.mem_append_right _ List.mem_cons_self
  have houtcome := outcome_save r moment event
  generalize r.save moment event = next at houtcome htaken
  cases houtcome with
  | refused =>
      refine ⟨[], ?_⟩
      rw [List.append_nil]
      exact hmore
  | noFolder hdisk =>
      refine ⟨[], ?_⟩
      rw [List.append_nil]
      exact hmore.makeFolders hdisk
  | noFile hdisk =>
      refine ⟨[], ?_⟩
      rw [List.append_nil]
      exact (hmore.makeFolders hdisk).takeNumber
  | saved hid hdisk hpath hwrite =>
      have hfolders := hmore.makeFolders hdisk
      exact ⟨_, hfolders.write hid hcall hm hrange hbefore htaken hpath hwrite⟩

theorem Holds.saveAll (h : Holds r there calls entries) {more : List (Moment × Json)}
    (hclock : Chronological ((calls ++ more).map Prod.fst))
    (htaken : (r.saveAll more).taken ≤ 1000000) :
    ∃ others, Holds (r.saveAll more) there (calls ++ more) (entries ++ others) := by
  induction more generalizing r calls entries with
  | nil =>
      refine ⟨[], ?_⟩
      rw [List.append_nil, List.append_nil]
      exact h
  | cons call rest ih =>
      have hassoc : calls ++ call :: rest = calls ++ [call] ++ rest := by simp
      rw [hassoc] at hclock ⊢
      have hfirst : Chronological ((calls ++ [call]).map Prod.fst) :=
        hclock.sublist ((List.sublist_append_left (calls ++ [call]) rest).map _)
      obtain ⟨others, hnext⟩ := h.save hfirst
        (Nat.le_trans (taken_le_saveAll _ rest) htaken)
      obtain ⟨last, hlast⟩ := ih hnext hclock htaken
      exact ⟨others ++ last, by rw [← List.append_assoc]; exact hlast⟩

/-- A store over a root that is an empty folder holds nothing yet. -/
theorem Holds.start {root : Path} {disk : Disk} (h : disk.at? root = some (.folder [])) :
    ∃ there, Holds (start root disk) there [] [] := by
  obtain ⟨there, hleads, hroute, hfound⟩ := Disk.exists_leadsTo h
  have hbelow : ∀ route, disk.tree.peek (there ++ route) = (Node.folder []).peek route :=
    peek_append hfound
  refine ⟨there, ?_⟩
  constructor
  case root => exact hroute
  case leads => exact hleads
  case folder => exact ⟨[], hfound, wellFormed_empty⟩
  case files =>
    intro route content
    show disk.tree.peek (there ++ route) = _ ↔ _
    rw [hbelow]
    cases route <;> simp [peek, at?, content?]
  case folders =>
    intro route hfolder
    change disk.tree.IsFolderAt (there ++ route) at hfolder
    rw [isFolderAt_iff_peek, hbelow] at hfolder
    cases route with
    | nil => simp
    | cons name rest => simp [peek, at?] at hfolder
  case next => rfl
  case saved => rfl
  case numbers => exact List.forall_mem_nil _
  case calls => exact List.forall_mem_nil _
  case ids => exact List.forall_mem_nil _
  case routes => exact List.forall_mem_nil _
  case ordered => exact List.Pairwise.nil

end Recording

end Retrace
