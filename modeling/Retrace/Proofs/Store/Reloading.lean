import Mathlib.Data.List.Basic
import Retrace.Proofs.Bundles.Bystanders
import Retrace.Proofs.Files.Listing
import Retrace.Proofs.Files.Order
import Retrace.Proofs.Files.Passage

/-!
Loading a folder again after one file was added to the disk. If the folder leads to the file, the
event that the file is read as stands among the others at its place in the order of the routes, and
whatever was loaded from that file before is gone.
-/

namespace Retrace

open Files Files.Node

namespace Files.Disk

section Added

variable {disk later : Disk} {folder data : Path} {there dataRoute : Route} {name : String}
  {content : ByteArray}

/-- Below a folder that stays, a path leads to a file as before if the file is seen as before. -/
theorem at?_append_eq_file_iff (hcurrent : later.current = disk.current)
    (hkeep : disk.tree.KeepsFolders later.tree) (hdata : disk.LeadsTo data dataRoute)
    {names : Route} (hnames : names ≠ []) {other : ByteArray}
    (hseen : later.tree.peek (dataRoute ++ names) = some (some other) ↔
      disk.tree.peek (dataRoute ++ names) = some (some other)) :
    later.at? (data.append names) = some (.file other) ↔
      disk.at? (data.append names) = some (.file other) := by
  have hlater := hdata.mono hcurrent hkeep
  rw [at?_eq_some_iff, at?_eq_some_iff]
  constructor
  · rintro ⟨target, hroute, hfile⟩
    obtain ⟨hrefusal, hfollow⟩ := (route_append_eq_ok_iff hlater hnames).mp hroute
    obtain rfl := follow_down_eq hfollow
    have hold := hseen.mp (peek_eq_file_iff.mpr hfile)
    refine ⟨_, (route_append_eq_ok_iff hdata hnames).mpr ⟨hrefusal, ?_⟩,
      peek_eq_file_iff.mp hold⟩
    exact follow_down_of_peek hfollow hold
  · rintro ⟨target, hroute, hfile⟩
    have hfollow := ((route_append_eq_ok_iff hdata hnames).mp hroute).2
    obtain rfl := follow_down_eq hfollow
    refine ⟨_, route_mono hroute hcurrent hkeep, ?_⟩
    exact peek_eq_file_iff.mp (hseen.mpr (peek_eq_file_iff.mpr hfile))

theorem AddsFile.at?_eq_file_iff (h : AddsFile disk later folder there name content)
    (hdata : disk.LeadsTo data dataRoute) {names : Route} (hnames : names ≠ [])
    (hne : dataRoute ++ names ≠ there ++ [name]) {other : ByteArray} :
    later.at? (data.append names) = some (.file other) ↔
      disk.at? (data.append names) = some (.file other) :=
  at?_append_eq_file_iff h.current h.keepsFolders hdata hnames (h.file_iff hne)

theorem readEvent?_of_not_file {path : Path}
    (h : ∀ content, disk.at? path ≠ some (.file content)) : disk.readEvent? path = none := by
  have htext : disk.readText? path = none := by
    unfold readText?
    split
    · next hfile => exact absurd hfile (h _)
    · rfl
  rw [readEvent?, htext]

theorem readEvent?_congr {path : Path} (h : ∀ content,
    later.at? path = some (.file content) ↔ disk.at? path = some (.file content)) :
    later.readEvent? path = disk.readEvent? path := by
  by_cases hfile : ∃ content, disk.at? path = some (.file content)
  · obtain ⟨content, hdisk⟩ := hfile
    have hlater := (h content).mpr hdisk
    rw [readEvent?, readEvent?, readText?, readText?, hdisk, hlater]
  · have hdisk : ∀ content, disk.at? path ≠ some (.file content) := not_exists.mp hfile
    have hlater : ∀ content, later.at? path ≠ some (.file content) := fun content hc =>
      hdisk content ((h content).mp hc)
    rw [readEvent?_of_not_file hdisk, readEvent?_of_not_file hlater]

/-- What is loaded from the file at the names below a folder. -/
def load? (disk : Disk) (data : Path) (names : Route) : Option LoadedEvent :=
  (disk.readEvent? (data.append names)).map (⟨data.append names, ·⟩)

theorem readEvents_append (disk : Disk) (data : Path) (routes : List Route) :
    disk.readEvents (routes.map data.append) = routes.filterMap (load? disk data) := by
  rw [readEvents, List.filterMap_map]
  rfl

theorem path_of_load? {names : Route} {l : LoadedEvent} (h : load? disk data names = some l) :
    l.path = data.append names := by
  obtain ⟨e, -, rfl⟩ := Option.map_eq_some_iff.mp h
  rfl

/-- The files of a node that hold events, in no order. -/
def eventRoutes (node : Node) : List Route :=
  node.files.filter fun route => route.getLast?.any isEventFileName

theorem eventFiles_eq (node : Node) : node.eventFiles = Route.sort (eventRoutes node) := rfl

theorem nodup_eventRoutes {node : Node} (h : node.WellFormed) : (eventRoutes node).Nodup :=
  (nodup_files h).filter _

theorem ne_nil_of_mem_eventFiles {entries : List (String × Node)}
    (h : (Node.folder entries).WellFormed) {route : Route}
    (hroute : route ∈ (Node.folder entries).eventFiles) : route ≠ [] := by
  rintro rfl
  have hfile := (List.mem_filter.mp (Route.mem_sort.mp hroute)).1
  obtain ⟨content, hc⟩ := (mem_files_iff h).mp hfile
  cases hc

/-- The added file is no folder, so what leads to it below a folder ends in its name. -/
theorem AddsFile.exists_below (h : AddsFile disk later folder there name content)
    (hfolder : disk.tree.IsFolderAt dataRoute) {below : Route}
    (hbelow : dataRoute ++ below = there ++ [name]) : ∃ parent, below = parent ++ [name] := by
  rcases List.eq_nil_or_concat below with rfl | ⟨parent, last, rfl⟩
  · rw [List.append_nil] at hbelow
    subst hbelow
    exact absurd (isFolderAt_iff_peek.mp hfolder) h.free
  · rw [List.concat_eq_append, ← List.append_assoc] at hbelow
    refine ⟨parent, ?_⟩
    rw [List.concat_eq_append, List.append_inj_right' hbelow rfl]

section Listings

variable {entries others : List (String × Node)}
  (h : AddsFile disk later folder there name content)
  (hw : disk.tree.WellFormed) (hlater : later.tree.WellFormed)
  (hentries : disk.tree.at? dataRoute = some (.folder entries))
  (hothers : later.tree.at? dataRoute = some (.folder others))

include h hw hlater hentries hothers

/-- All other files that hold events are as they were. -/
theorem AddsFile.mem_eventRoutes_iff {route : Route}
    (hne : dataRoute ++ route ≠ there ++ [name]) :
    route ∈ eventRoutes (.folder others) ↔ route ∈ eventRoutes (.folder entries) := by
  have hfiles : ∀ {tree : Node} {entries}, tree.WellFormed →
      tree.at? dataRoute = some (.folder entries) → (route ∈ (Node.folder entries).files ↔
        ∃ content, tree.peek (dataRoute ++ route) = some (some content)) := by
    intro tree entries hw hentries
    rw [mem_files_iff (wellFormed_of_at? hw hentries)]
    refine exists_congr fun content => ?_
    rw [peek_append hentries]
    exact peek_eq_file_iff.symm
  have hsame : route ∈ (Node.folder others).files ↔ route ∈ (Node.folder entries).files := by
    rw [hfiles hlater hothers, hfiles hw hentries]
    exact exists_congr fun content => h.file_iff hne
  rw [eventRoutes, eventRoutes, List.mem_filter, List.mem_filter, hsame]

/-- Before and after the place of the added file the listing is as it was. -/
theorem AddsFile.eventFiles_around (hname : isEventFileName name = true) {below : Route}
    (hbelow : dataRoute ++ below = there ++ [name]) :
    (∃ here, (Node.folder entries).eventFiles =
        Route.around below here (Node.folder entries).eventFiles) ∧
      (Node.folder others).eventFiles =
        Route.around below true (Node.folder entries).eventFiles := by
  have hfolder := nodup_eventRoutes (wellFormed_of_at? hw hentries)
  have hfolder' := nodup_eventRoutes (wellFormed_of_at? hlater hothers)
  obtain ⟨parent, hparent⟩ := h.exists_below ⟨entries, hentries⟩ hbelow
  have hhere : below ∈ eventRoutes (Node.folder others) := by
    refine List.mem_filter.mpr ⟨?_, by simp [hparent, hname]⟩
    rw [mem_files_iff (wellFormed_of_at? hlater hothers)]
    refine ⟨content, peek_eq_file_iff.mp ?_⟩
    rw [← peek_append hothers, hbelow, h.file]
  refine ⟨⟨_, Route.sort_eq_around hfolder hfolder fun _ _ => Iff.rfl⟩, ?_⟩
  have hsame : ∀ route, route ≠ below →
      (route ∈ eventRoutes (.folder others) ↔ route ∈ eventRoutes (.folder entries)) := by
    intro route hroute
    have hne : dataRoute ++ route ≠ there ++ [name] := by
      rw [← hbelow]
      exact fun heq => hroute (List.append_cancel_left heq)
    exact h.mem_eventRoutes_iff hw hlater hentries hothers hne
  have haround := Route.sort_eq_around hfolder' hfolder hsame
  rw [decide_eq_true hhere] at haround
  exact haround

/-- A listing that does not lead to the added file stays as it is. -/
theorem AddsFile.eventFiles_unchanged
    (hne : ∀ route, dataRoute ++ route ≠ there ++ [name]) :
    (Node.folder others).eventFiles = (Node.folder entries).eventFiles := by
  have hfolder := nodup_eventRoutes (wellFormed_of_at? hw hentries)
  have hfolder' := nodup_eventRoutes (wellFormed_of_at? hlater hothers)
  rw [eventFiles_eq, eventFiles_eq]
  refine Route.sort_eq (Route.pairwise_sort _) hfolder' (Route.nodup_sort hfolder) fun route => ?_
  rw [Route.mem_sort]
  exact h.mem_eventRoutes_iff hw hlater hentries hothers (hne route)

end Listings

theorem AddsFile.filterMap_load? (h : AddsFile disk later folder there name content)
    (hdata : disk.LeadsTo data dataRoute) {routes : List Route}
    (hroutes : ∀ route ∈ routes, route ≠ [] ∧ dataRoute ++ route ≠ there ++ [name]) :
    routes.filterMap (load? later data) = routes.filterMap (load? disk data) := by
  refine List.filterMap_congr fun route hroute => ?_
  obtain ⟨hnil, hne⟩ := hroutes route hroute
  rw [load?, load?, readEvent?_congr fun content => h.at?_eq_file_iff hdata hnil hne]

end Added

end Files.Disk

open Files.Disk

/-- What is loaded from a folder before and after a file was added that is read as the event. Either
no names below the folder lead to the file, or it is loaded at its place. -/
inductive Reloaded (later : Disk) (data : Path) (file : Route) (e : Event) :
    List LoadedEvent → List LoadedEvent → Prop
  | unseen {loaded : List LoadedEvent}
      (h : ∀ below, later.route (data.append below) ≠ .ok file) :
      Reloaded later data file e loaded loaded
  | seen {before old after : List LoadedEvent} {below : Route}
      (hroute : later.route (data.append below) = .ok file)
      (honly : ∀ other, later.route (data.append other) = .ok file → other = below)
      (hlast : below.getLast? = file.getLast?)
      (hbefore : ∀ l ∈ before, ∃ route, l.path = data.append route ∧ Route.isBefore below route)
      (hold : ∀ l ∈ old, l.path = data.append below)
      (hafter : ∀ l ∈ after, ∃ route, l.path = data.append route ∧ Route.isAfter below route) :
      Reloaded later data file e (before ++ old ++ after)
        (before ++ [⟨data.append below, e⟩] ++ after)

/-- The file changes nothing about what a folder is compiled to: every folder can be opened, an
event comes before the file, and one that was loaded from the file itself gave no actions. -/
structure Aside (later : Disk) (data : Path) (file : Route) (loaded : List LoadedEvent) : Prop where
  opened : ∃ files, later.eventFiles data = .ok files
  late : ∀ below, later.route (data.append below) = .ok file →
    ∃ l ∈ loaded, ∃ route, l.path = data.append route ∧ Route.isBefore below route
  idle : ∀ l ∈ loaded, later.route l.path = .ok file → l.event.actions = []

/-- The file is listed before everything that was loaded from a folder. -/
structure Ahead (later : Disk) (data : Path) (file : Route) (loaded : List LoadedEvent) : Prop where
  opened : ∃ files, later.eventFiles data = .ok files
  early : ∃ below, later.route (data.append below) = .ok file ∧
    ∀ l ∈ loaded, ∃ route, l.path = data.append route ∧ Route.isAfter below route

section Reloaded

variable {later : Disk} {data : Path} {file : Route} {e : Event}
  {loaded again : List LoadedEvent} {b : Bundle}

/-- A file that is not below the folder is aside. -/
theorem aside_of_apart {dataRoute : Route} (hdata : later.LeadsTo data dataRoute)
    (hapart : ¬ dataRoute <+: file) (hopened : ∃ files, later.eventFiles data = .ok files)
    (hpaths : ∀ l ∈ loaded, ∃ route, l.path = data.append route) :
    Aside later data file loaded := by
  have hnone : ∀ below, later.route (data.append below) ≠ .ok file := fun below hroute =>
    hapart ⟨below, (route_append_eq hdata hroute).symm⟩
  refine ⟨hopened, fun below hroute => absurd hroute (hnone below), fun l hl hroute => ?_⟩
  obtain ⟨route, hpath⟩ := hpaths l hl
  exact absurd (hpath ▸ hroute) (hnone route)

theorem Aside.ne_nil {before old after : List LoadedEvent} {below : Route}
    (h : Aside later data file (before ++ old ++ after))
    (hroute : later.route (data.append below) = .ok file)
    (hold : ∀ l ∈ old, l.path = data.append below)
    (hafter : ∀ l ∈ after, ∃ route, l.path = data.append route ∧ Route.isAfter below route) :
    before ≠ [] := by
  obtain ⟨l, hmem, route, hpath, hbefore⟩ := h.late below hroute
  have hplace := Route.isBefore_iff.mp hbefore
  rw [List.append_assoc] at hmem
  rcases List.mem_append.mp hmem with hmem | hmem
  · exact List.ne_nil_of_mem hmem
  · rcases List.mem_append.mp hmem with hmem | hmem
    · exact absurd (Path.append_inj (hpath.symm.trans (hold l hmem))) hplace.2
    · obtain ⟨other, hother, hlate⟩ := hafter l hmem
      obtain rfl := Path.append_inj (hpath.symm.trans hother)
      exact absurd hplace.1 (Route.isAfter_iff.mp hlate)

/-- The bundle is the same again exactly if the file is aside. -/
theorem Reloaded.ofLoaded_iff (h : Reloaded later data file e loaded again)
    (he : e.IsBystander) (hb : Bundle.ofLoaded loaded = .ok b)
    (hopened : ∃ files, later.eventFiles data = .ok files)
    (hpaths : ∀ l ∈ loaded, ∃ route, l.path = data.append route) :
    Bundle.ofLoaded again = .ok b ↔ Aside later data file loaded := by
  cases h with
  | unseen hnone =>
      refine iff_of_true hb ⟨hopened, fun below hroute => absurd hroute (hnone below), ?_⟩
      intro l hl hroute
      obtain ⟨route, hpath⟩ := hpaths l hl
      rw [hpath] at hroute
      exact absurd hroute (hnone route)
  | @seen before old after below hroute honly hlast hbefore hold hafter =>
      have hl : (⟨data.append below, e⟩ : LoadedEvent).event.IsBystander := he
      rw [Bundle.ofLoaded_bystander_iff hl hb]
      constructor
      · rintro ⟨hne, hidle⟩
        refine ⟨hopened, fun other hother => ?_, fun l hmem hfile => ?_⟩
        · obtain rfl := honly other hother
          obtain ⟨l, hmem⟩ := List.exists_mem_of_ne_nil _ hne
          exact ⟨l, List.mem_append_left _ (List.mem_append_left _ hmem), hbefore l hmem⟩
        · -- Only what was loaded from the file itself has a path that leads to it.
          rw [List.append_assoc] at hmem
          rcases List.mem_append.mp hmem with hmem | hmem
          · obtain ⟨route, hpath, hplace⟩ := hbefore l hmem
            exact absurd (honly route (hpath ▸ hfile)) (Route.isBefore_iff.mp hplace).2
          · rcases List.mem_append.mp hmem with hmem | hmem
            · exact hidle l hmem
            · obtain ⟨route, hpath, hplace⟩ := hafter l hmem
              exact absurd (honly route (hpath ▸ hfile)) (Route.ne_of_isAfter hplace)
      · intro haside
        refine ⟨haside.ne_nil hroute hold hafter, fun l hmem => haside.idle l ?_ ?_⟩
        · exact List.mem_append_left _ (List.mem_append_right _ hmem)
        · rw [hold l hmem, hroute]

/-- A file that is ahead bars the bundle. -/
theorem Reloaded.ofLoaded_of_ahead {name kind : String}
    (h : Reloaded later data file e loaded again) (he : e.kind = .unknown kind)
    (hb : Bundle.ofLoaded loaded = .ok b) (hname : file.getLast? = some name)
    (hahead : Ahead later data file loaded) :
    Bundle.ofLoaded again = .error (.taskStartNotFirst name kind) := by
  obtain ⟨-, place, hplace, hlate⟩ := hahead
  cases h with
  | unseen hnone => exact absurd hplace (hnone place)
  | @seen before old after below hroute honly hlast hbefore hold hafter =>
      obtain rfl := honly place hplace
      have hnot : ∀ l ∈ before ++ old ++ after, ∀ route, l.path = data.append route →
          Route.isAfter place route = true := by
        intro l hl route hpath
        obtain ⟨other, hother, hafter⟩ := hlate l hl
        rwa [Path.append_inj (hpath.symm.trans hother)]
      obtain rfl : before = [] := by
        refine List.eq_nil_iff_forall_not_mem.mpr fun l hl => ?_
        obtain ⟨route, hpath, hearly⟩ := hbefore l hl
        have hmem : l ∈ before ++ old ++ after :=
          List.mem_append_left _ (List.mem_append_left _ hl)
        exact Route.isAfter_iff.mp (hnot l hmem route hpath) (Route.isBefore_iff.mp hearly).1
      obtain rfl : old = [] := by
        refine List.eq_nil_iff_forall_not_mem.mpr fun l hl => ?_
        have hmem : l ∈ [] ++ old ++ after := List.mem_append_left _ hl
        exact Route.ne_of_isAfter (hnot l hmem place (hold l hl)) rfl
      have hlabel : (⟨data.append place, e⟩ : LoadedEvent).label = name := by
        rw [LoadedEvent.label, Path.fileName?_append data (hlast.trans hname), Option.getD_some]
      rw [← hlabel]
      exact Bundle.ofLoaded_cons_bystander he hb

/-- What is loaded the second time is of the same task, if of any. -/
theorem Reloaded.taskId_eq {c : Bundle} (h : Reloaded later data file e loaded again)
    (he : e.IsBystander) (hb : Bundle.ofLoaded loaded = .ok b)
    (hc : Bundle.ofLoaded again = .ok c) : c.taskId = b.taskId := by
  cases h with
  | unseen => rw [Except.ok.inj (hb.symm.trans hc)]
  | @seen before old after below =>
      have hl : (⟨data.append below, e⟩ : LoadedEvent).event.IsBystander := he
      have hne := Bundle.before_ne_nil_of_bystander hl hc
      rw [Bundle.ofLoaded_bystander hl hb hne] at hc
      rw [← Except.ok.inj hc]

end Reloaded

namespace Files.Disk

section Reloaded

variable {disk later : Disk} {folder data : Path} {there dataRoute : Route} {name text : String}
  {e : Event}

/-- A file at names that do not lead to it is not loaded. -/
theorem load?_eq_none {file below : Route} (h : disk.LeadsTo data dataRoute)
    (hfile : dataRoute ++ below = file) (hroute : disk.route (data.append below) ≠ .ok file) :
    load? disk data below = none := by
  have hnot : ∀ content, disk.at? (data.append below) ≠ some (.file content) := by
    intro content hc
    obtain ⟨target, htarget, -⟩ := at?_eq_some_iff.mp hc
    rw [route_append_eq h htarget, hfile] at htarget
    exact hroute htarget
  rw [load?, readEvent?_of_not_file hnot, Option.map_none]

theorem AddsFile.load?_eq_some
    (h : AddsFile disk later folder there name text.toUTF8) (he : Event.ofText text = .ok e)
    {below : Route} (hroute : later.route (data.append below) = .ok (there ++ [name])) :
    load? later data below = some ⟨data.append below, e⟩ := by
  have hfile := at?_eq_some_iff.mpr ⟨_, hroute, peek_eq_file_iff.mp h.file⟩
  rw [load?, readEvent?, readText?_of_at? hfile]
  simp [he, Except.toOption]

section Loads

variable {entries others : List (String × Node)}
  (h : AddsFile disk later folder there name text.toUTF8)
  (hw : disk.tree.WellFormed) (hlater : later.tree.WellFormed)
  (hdata : disk.LeadsTo data dataRoute)
  (hentries : disk.tree.at? dataRoute = some (.folder entries))
  (hothers : later.tree.at? dataRoute = some (.folder others))

include h hw hlater hdata hentries hothers

/-- What is loaded splits at the place of the added file, and only there it changes. -/
theorem AddsFile.loaded_around (hname : isEventFileName name = true) {below : Route}
    (hbelow : dataRoute ++ below = there ++ [name]) :
    ∃ (before after : List LoadedEvent) (here : Bool),
      (Node.folder entries).eventFiles.filterMap (load? disk data) =
          before ++ (if here then [below] else []).filterMap (load? disk data) ++ after ∧
        (Node.folder others).eventFiles.filterMap (load? later data) =
          before ++ [below].filterMap (load? later data) ++ after ∧
        (∀ l ∈ before, ∃ route, l.path = data.append route ∧ Route.isBefore below route) ∧
        ∀ l ∈ after, ∃ route, l.path = data.append route ∧ Route.isAfter below route := by
  obtain ⟨⟨here, haround⟩, haround'⟩ :=
    h.eventFiles_around hw hlater hentries hothers hname hbelow
  have hstays : ∀ keep : Route → Bool, (∀ route, keep route = true → route ≠ below) →
      ((Node.folder entries).eventFiles.filter keep).filterMap (load? later data) =
        ((Node.folder entries).eventFiles.filter keep).filterMap (load? disk data) := by
    intro keep hkeep
    refine h.filterMap_load? hdata fun route hroute => ?_
    obtain ⟨hmem, htrue⟩ := List.mem_filter.mp hroute
    refine ⟨ne_nil_of_mem_eventFiles (wellFormed_of_at? hw hentries) hmem, fun heq => ?_⟩
    exact hkeep route htrue (List.append_cancel_left (heq.trans hbelow.symm))
  have hpaths : ∀ {keep : Route → Bool} {l : LoadedEvent},
      l ∈ ((Node.folder entries).eventFiles.filter keep).filterMap (load? disk data) →
        ∃ route, l.path = data.append route ∧ keep route = true := by
    intro keep l hl
    obtain ⟨route, hroute, hload⟩ := List.mem_filterMap.mp hl
    exact ⟨route, path_of_load? hload, (List.mem_filter.mp hroute).2⟩
  have hloaded := congrArg (List.filterMap (load? disk data)) haround
  have hagain := congrArg (List.filterMap (load? later data)) haround'
  rw [Route.around, List.filterMap_append, List.filterMap_append] at hloaded hagain
  rw [hstays _ fun route hroute => (Route.isBefore_iff.mp hroute).2,
    hstays _ fun route hroute => Route.ne_of_isAfter hroute, if_pos rfl] at hagain
  exact ⟨_, _, here, hloaded, hagain, fun l => hpaths, fun l => hpaths⟩

/-- What no names below the folder lead to is loaded neither time. -/
theorem AddsFile.loaded_unseen (hname : isEventFileName name = true)
    (hnone : ∀ below, later.route (data.append below) ≠ .ok (there ++ [name])) :
    (Node.folder others).eventFiles.filterMap (load? later data) =
      (Node.folder entries).eventFiles.filterMap (load? disk data) := by
  by_cases hplace : ∃ below, dataRoute ++ below = there ++ [name]
  · obtain ⟨below, hbelow⟩ := hplace
    obtain ⟨before, after, here, hloaded, hagain, -, -⟩ :=
      h.loaded_around hw hlater hdata hentries hothers hname hbelow
    have hdisk : disk.route (data.append below) ≠ .ok (there ++ [name]) := fun hok =>
      hnone below (route_mono hok h.current h.keepsFolders)
    have hold : (if here then [below] else []).filterMap (load? disk data) = [] := by
      cases here <;> simp [load?_eq_none hdata hbelow hdisk]
    have hnew := load?_eq_none (hdata.mono h.current h.keepsFolders) hbelow (hnone below)
    rw [hloaded, hagain, hold, List.filterMap_cons_none hnew, List.filterMap_nil]
  · have hne := not_exists.mp hplace
    rw [h.eventFiles_unchanged hw hlater hentries hothers hne]
    refine h.filterMap_load? hdata fun route hroute => ⟨?_, hne route⟩
    exact ne_nil_of_mem_eventFiles (wellFormed_of_at? hw hentries) hroute

theorem AddsFile.reloaded (hname : isEventFileName name = true)
    (he : Event.ofText text = .ok e) :
    Reloaded later data (there ++ [name]) e
      ((Node.folder entries).eventFiles.filterMap (load? disk data))
      ((Node.folder others).eventFiles.filterMap (load? later data)) := by
  by_cases hseen : ∃ below, later.route (data.append below) = .ok (there ++ [name])
  · obtain ⟨below, hroute⟩ := hseen
    have hplace : ∀ {other}, later.route (data.append other) = .ok (there ++ [name]) →
        dataRoute ++ other = there ++ [name] := fun hother =>
      (route_append_eq (hdata.mono h.current h.keepsFolders) hother).symm
    have hlast : below.getLast? = (there ++ [name]).getLast? := by
      obtain ⟨parent, rfl⟩ := h.exists_below ⟨entries, hentries⟩ (hplace hroute)
      rw [List.getLast?_concat, List.getLast?_concat]
    obtain ⟨before, after, here, hloaded, hagain, hbefore, hafter⟩ :=
      h.loaded_around hw hlater hdata hentries hothers hname (hplace hroute)
    rw [hloaded, hagain, List.filterMap_cons_some (h.load?_eq_some he hroute), List.filterMap_nil]
    refine .seen hroute ?_ hlast hbefore ?_ hafter
    · exact fun other hother => List.append_cancel_left ((hplace hother).trans (hplace hroute).symm)
    · intro l hl
      obtain ⟨route, hmem, hload⟩ := List.mem_filterMap.mp hl
      cases here with
      | false => cases hmem
      | true => rw [path_of_load? hload, List.mem_singleton.mp hmem]
  · have hnone := not_exists.mp hseen
    rw [h.loaded_unseen hw hlater hdata hentries hothers hname hnone]
    exact .unseen hnone

end Loads

theorem eventFiles_eq_ok_iff {entries : List (String × Node)} {files : List Path}
    (h : disk.at? data = some (.folder entries)) :
    disk.eventFiles data = .ok files ↔ (Node.folder entries).closedFolder? data = none ∧
      files = (Node.folder entries).eventFiles.map data.append := by
  have hfind : disk.find data = .ok (.folder entries) := Decoding.toOption_eq_some_iff.mp h
  simp only [Disk.eventFiles, hfind, Node.walk]
  cases (Node.folder entries).closedFolder? data with
  | some closed => simp [bind, Except.bind]
  | none => simp [bind, Except.bind, pure, Except.pure, eq_comm]

/-- A walk goes well if every folder that it meets can be opened. -/
theorem exists_eventFiles_iff {entries : List (String × Node)} (hw : disk.tree.WellFormed)
    (h : disk.at? data = some (.folder entries)) :
    (∃ files, disk.eventFiles data = .ok files) ↔
      ∀ route, (Node.folder entries).IsFolderAt route → ¬ (data.append route).isTooLong := by
  obtain ⟨there, -, hentries⟩ := at?_eq_some_iff.mp h
  simp only [eventFiles_eq_ok_iff h, closedFolder?_eq_none_iff (wellFormed_of_at? hw hentries),
    exists_and_left, exists_eq, and_true]

/-- Where the folder of the added file was there before, a walk that went well does so again. -/
theorem AddsFile.exists_eventFiles {content : ByteArray}
    (h : AddsFile disk later folder there name content) (hw : disk.tree.WellFormed)
    (hlater : later.tree.WellFormed) (hfolder : disk.LeadsTo folder there)
    {entries : List (String × Node)} (hentries : disk.at? data = some (.folder entries))
    (hfiles : ∃ files, disk.eventFiles data = .ok files) :
    ∃ files, later.eventFiles data = .ok files := by
  obtain ⟨dataRoute, hroute, hdata⟩ := at?_eq_some_iff.mp hentries
  obtain ⟨others, hothers⟩ := h.keepsFolders dataRoute ⟨entries, hdata⟩
  have hlaterData := at?_eq_some_iff.mpr
    ⟨dataRoute, route_mono hroute h.current h.keepsFolders, hothers⟩
  rw [exists_eventFiles_iff hw hentries] at hfiles
  rw [exists_eventFiles_iff hlater hlaterData]
  intro route hopened
  refine hfiles route ?_
  rw [← isFolderAt_append_iff hothers] at hopened
  exact (isFolderAt_append_iff hdata).mp (h.isFolderAt hfolder hopened)

/-- What is loaded from a folder that a walk can go through. -/
theorem folderEvents_eq_ok_iff {loaded : List LoadedEvent} :
    disk.folderEvents data = .ok loaded ↔ ∃ entries,
      disk.at? data = some (.folder entries) ∧ (∃ files, disk.eventFiles data = .ok files) ∧
        (Node.folder entries).eventFiles ≠ [] ∧
          loaded = (Node.folder entries).eventFiles.filterMap (load? disk data) := by
  constructor
  · intro h
    unfold Disk.folderEvents at h
    split at h
    · cases h
    · cases h
    · next entries hfolder =>
        cases hfiles : disk.eventFiles data with
        | error error =>
            rw [hfiles] at h
            cases h
        | ok files =>
            obtain ⟨-, rfl⟩ := (eventFiles_eq_ok_iff hfolder).mp hfiles
            simp only [hfiles, bind, Except.bind] at h
            split at h
            · cases h
            · next hne =>
                rw [readEvents_append] at h
                cases h
                refine ⟨entries, hfolder, ⟨_, rfl⟩, ?_, rfl⟩
                rintro hnil
                simp [hnil] at hne
  · rintro ⟨entries, hfolder, ⟨files, hfiles⟩, hne, rfl⟩
    obtain ⟨-, rfl⟩ := (eventFiles_eq_ok_iff hfolder).mp hfiles
    simp [Disk.folderEvents, hfolder, hfiles, bind, Except.bind, hne, readEvents_append]

theorem exists_path_of_folderEvents {loaded : List LoadedEvent}
    (h : disk.folderEvents data = .ok loaded) :
    ∀ l ∈ loaded, ∃ route, l.path = data.append route := by
  obtain ⟨entries, -, -, -, rfl⟩ := folderEvents_eq_ok_iff.mp h
  intro l hl
  obtain ⟨route, -, hload⟩ := List.mem_filterMap.mp hl
  exact ⟨route, path_of_load? hload⟩

/-- Loading again after the file was added, if every folder can still be opened. -/
theorem AddsFile.folderEvents (h : AddsFile disk later folder there name text.toUTF8)
    (hw : disk.tree.WellFormed) (hlater : later.tree.WellFormed)
    (hname : isEventFileName name = true) (he : Event.ofText text = .ok e)
    {loaded : List LoadedEvent} (hloaded : disk.folderEvents data = .ok loaded)
    (hopened : ∃ files, later.eventFiles data = .ok files) :
    ∃ again, later.folderEvents data = .ok again ∧
      Reloaded later data (there ++ [name]) e loaded again := by
  obtain ⟨entries, hfolder, -, hsome, rfl⟩ := folderEvents_eq_ok_iff.mp hloaded
  obtain ⟨dataRoute, hdata, hroute, hentries⟩ := exists_leadsTo hfolder
  obtain ⟨others, hothers⟩ := h.keepsFolders dataRoute ⟨entries, hentries⟩
  have hfolder' := at?_eq_some_iff.mpr
    ⟨_, route_mono hroute h.current h.keepsFolders, hothers⟩
  have hsome' : (Node.folder others).eventFiles ≠ [] := by
    obtain ⟨route, hroute⟩ := List.exists_mem_of_ne_nil _ hsome
    by_cases hbelow : dataRoute ++ route = there ++ [name]
    · rw [(h.eventFiles_around hw hlater hentries hothers hname hbelow).2]
      exact List.ne_nil_of_mem (Route.mem_around.mpr (.inr ⟨rfl, rfl⟩))
    · rw [eventFiles_eq, Route.mem_sort] at hroute
      have hmem := (h.mem_eventRoutes_iff hw hlater hentries hothers hbelow).mpr hroute
      exact List.ne_nil_of_mem (Route.mem_sort.mpr hmem)
  exact ⟨_, folderEvents_eq_ok_iff.mpr ⟨others, hfolder', hopened, hsome', rfl⟩,
    h.reloaded hw hlater hdata hentries hothers hname he⟩

end Reloaded

end Files.Disk

end Retrace
