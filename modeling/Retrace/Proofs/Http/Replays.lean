import Retrace.Proofs.Bundles.Labels
import Retrace.Proofs.Http.Addresses
import Retrace.Proofs.Http.Sessions

/-!
The collector end to end: what is answered to a request for the plan of a task, at any point of a
run, in terms of the posts that were accepted before it.
-/

namespace Retrace.Http

open Decoding Files

/-- A run over an empty root, with a clock that never goes back, no more saves than the names of
files can number, and no double in what is posted. -/
structure Orderly (root : Path) (disk : Disk) (requests : List (Clock × Request)) : Prop where
  empty : disk.at? root = some (.folder [])
  clock : Chronological ((saves requests).map Prod.fst)
  taken : ((Recording.start root disk).saveAll (saves requests)).taken ≤ 1000000
  doubleFree : ∀ save ∈ saves requests, save.2.DoubleFree

/-- The response to a request for the plan of a task, in terms of the accepted posts of the task
that are events, each with the response to it. -/
structure Answers (id : String) (posts : List (Response × Event)) (response : Response) :
    Prop where
  notFound : posts = [] → response.status = 404 ∧ response = (Problem.taskNotFound id).response
  /-- The events are named by the files that the posts were told of. -/
  refused : ∀ error, posts ≠ [] → Bundle.ofEvents (posts.map Prod.snd) = .error error →
    ∃ (files : List LoadedEvent) (name : String → String),
      posts = files.map (fun file => (savedResponse file.path, file.event)) ∧
        (∀ i file, files[i]? = some file → name (Labelled.eventLabel i) = file.label) ∧
        response.status = 422 ∧ response = (Problem.compile (error.mapLabels name)).response
  plan : ∀ bundle, Bundle.ofEvents (posts.map Prod.snd) = .ok bundle →
    response = .json 200 bundle.compact ∧ bundle.taskId = id

namespace Orderly

variable {root : Path} {disk : Disk} {requests more : List (Clock × Request)}

theorem of_append (h : Orderly root disk (requests ++ more)) : Orderly root disk requests := by
  obtain ⟨hempty, hclock, htaken, hdouble⟩ := h
  rw [saves_append] at hclock htaken hdouble
  rw [Recording.saveAll_append] at htaken
  constructor
  case empty => exact hempty
  case clock => exact hclock.sublist ((List.sublist_append_left _ _).map _)
  case taken => exact Nat.le_trans (Recording.taken_le_saveAll _ _) htaken
  case doubleFree => exact fun save hsave => hdouble save (List.mem_append_left _ hsave)

theorem recordable (h : Orderly root disk requests) :
    ∀ save ∈ saves requests, Recording.Recordable save.2 := by
  intro save hsave
  obtain ⟨r, -, heq⟩ := List.mem_filterMap.mp hsave
  obtain ⟨event, hpost, rfl⟩ := Option.map_eq_some_iff.mp heq
  obtain ⟨hw, hdepth⟩ := sound_of_posted? hpost
  exact ⟨hw, h.doubleFree _ hsave, hdepth⟩

theorem events (h : Orderly root disk requests) {id : String} (hid : ValidTaskId id) :
    let r := (Recording.start root disk).saveAll (saves requests)
    r.store.events r.disk id = .ok (r.eventsOf id) :=
  Recording.events_of_valid h.empty h.clock h.taken h.recordable hid

end Orderly

namespace Collector

variable {c : Collector} {id : String}

/-- A GET of a spelling of an id is for the plan of the task, and changes nothing. -/
theorem handle_planTarget {request : Request} {piece : List Char}
    (hmethod : request.method = "GET") (htarget : request.target = planTarget piece)
    {bytes : List UInt8} (hpiece : Encodes piece bytes) (c : Collector) (clock : Clock) :
    c.handle clock request = (c, c.replayResponse (String.ofList piece)) := by
  have hallows : (Endpoint.exactReplay (String.ofList piece)).allows request.method = true := by
    rw [hmethod]
    rfl
  have hhead : request.method ≠ "HEAD" := by
    rw [hmethod]
    decide
  have hendpoint := hpiece.ofTarget?_planTarget
  rw [← htarget] at hendpoint
  exact handle_of_allows hendpoint hallows hhead c clock

theorem replayResponse_congr {other : Collector} {id piece : String}
    (hpiece : decodePiece? piece = some id)
    (h : c.store.events c.disk id = other.store.events other.disk id) :
    c.replayResponse piece = other.replayResponse piece := by
  simp only [replayResponse, hpiece, replay, h]

/-- What is answered for the plan of a task, by any method, depends on what is loaded for it. -/
theorem handle_congr (c other : Collector) {id piece : String} {request : Request}
    (htarget : Endpoint.ofTarget? request.target = some (.exactReplay piece))
    (hpiece : decodePiece? piece = some id)
    (h : c.store.events c.disk id = other.store.events other.disk id) (clock : Clock) :
    (c.handle clock request).2 = (other.handle clock request).2 := by
  have hresponse := replayResponse_congr hpiece h
  unfold handle
  by_cases hoptions : request.method = "OPTIONS"
  · rw [if_pos hoptions, if_pos hoptions]
  · rw [if_neg hoptions, if_neg hoptions, htarget]
    simp only [dispatch, hresponse]
    split
    · rfl
    · rfl

theorem replay_of_events {file : LoadedEvent} {files : List LoadedEvent}
    (h : c.store.events c.disk id = .ok (file :: files)) :
    c.replay id = (Bundle.ofLoaded (file :: files)).mapError .compile := by
  simp only [replay, h]
  cases Bundle.ofLoaded (file :: files) with
  | error error => rfl
  | ok bundle => rfl

theorem answers_replayResponse {piece : String} (hpiece : decodePiece? piece = some id)
    {files : List LoadedEvent} (hevents : c.store.events c.disk id = .ok files)
    (htasks : ∀ file ∈ files, file.event.taskId = some id) :
    Answers id (files.map fun file => (savedResponse file.path, file.event))
      (c.replayResponse piece) := by
  have hposts : (files.map fun file => (savedResponse file.path, file.event)).map Prod.snd =
      (files.map LoadedEvent.labelled).map Labelled.event := by
    rw [List.map_map, List.map_map]
    rfl
  obtain ⟨name, hname, hbundle⟩ := Labelled.bundle_eq_mapError (files.map LoadedEvent.labelled)
  rw [← hposts] at hbundle
  cases files with
  | nil =>
      have hresponse : c.replayResponse piece = (Problem.taskNotFound id).response := by
        simp only [replayResponse, hpiece, replay, hevents]
      rw [hresponse]
      exact ⟨fun _ => ⟨rfl, rfl⟩, fun _ hne => absurd rfl hne, nofun⟩
  | cons first rest =>
      have hreplay := replay_of_events hevents
      rw [Bundle.ofLoaded, hbundle] at hreplay
      constructor
      case notFound => exact nofun
      case refused =>
        intro error _ herror
        rw [herror] at hreplay
        change c.replay id = .error (.compile (error.mapLabels name)) at hreplay
        have hresponse : c.replayResponse piece =
            (Problem.compile (error.mapLabels name)).response := by
          simp only [replayResponse, hpiece, hreplay]
        refine ⟨first :: rest, name, rfl, fun i file hfile => ?_, ?_, hresponse⟩
        · apply hname i file.labelled
          rw [List.getElem?_map, hfile, Option.map_some]
        · rw [hresponse]
          rfl
      case plan =>
        intro bundle hok
        rw [hok] at hreplay hbundle
        change c.replay id = .ok bundle at hreplay
        have hresponse : c.replayResponse piece = .json 200 bundle.compact := by
          simp only [replayResponse, hpiece, hreplay]
        refine ⟨hresponse, ?_⟩
        obtain ⟨l, hl, htask⟩ := Labelled.exists_taskId_of_bundle hbundle
        obtain ⟨file, hfile, rfl⟩ := List.mem_map.mp hl
        exact Option.some.inj (htask.symm.trans (htasks file hfile))

end Collector

/-- At any point of a run a GET for the plan of a task changes nothing and is answered from the
posts of the task that were accepted so far, and only a further one of them changes the answer. -/
theorem answers_plan {root : Path} {disk : Disk} {earlier later : List (Clock × Request)}
    (h : Orderly root disk (earlier ++ later)) {id : String} (hid : ValidTaskId id)
    {piece : List Char} (hpiece : Encodes piece id.toUTF8.toList) {request : Request}
    (hmethod : request.method = "GET") (htarget : request.target = planTarget piece)
    (clock : Clock) :
    let s := (Session.start root disk).run earlier
    let t := s.run later
    (s.collector.handle clock request).1 = s.collector ∧
      Answers id (s.eventsOf id) (s.collector.handle clock request).2 ∧
      ((∀ exchange ∈ t.exchanges.drop s.exchanges.length, ∀ event,
          accepted? exchange = some event → event.namedTask? ≠ some id) →
        (t.collector.handle clock request).2 = (s.collector.handle clock request).2) := by
  intro s t
  let r := (Recording.start root disk).saveAll (saves earlier)
  have hs : s.Follows r := (Session.Follows.start root disk).run earlier
  have hevents : r.store.events r.disk id = .ok (r.eventsOf id) := h.of_append.events hid
  have hreply := Collector.handle_planTarget hmethod htarget hpiece
  rw [hreply s.collector clock, hreply t.collector clock]
  refine ⟨rfl, ?_, fun hquiet => ?_⟩
  · have htasks : ∀ file ∈ r.eventsOf id, file.event.taskId = some id :=
      fun file hfile => Recording.taskId_of_mem_eventsOf hfile
    rw [hs.eventsOf id, hs.collector]
    exact Collector.answers_replayResponse hpiece.decodePiece? hevents htasks
  · have ht : t.Follows (r.saveAll (saves later)) := hs.run later
    have hsame : r.eventsOf id = (r.saveAll (saves later)).eventsOf id := by
      have hposts : t.eventsOf id = s.eventsOf id := Session.eventsOf_run hquiet
      rw [hs.eventsOf, ht.eventsOf] at hposts
      have hlength := congrArg List.length hposts
      rw [List.length_map, List.length_map] at hlength
      exact (r.eventsOf_saveAll (saves later) id).eq_of_length hlength.symm
    have hlater := h.events hid
    rw [saves_append, Recording.saveAll_append] at hlater
    apply Collector.replayResponse_congr hpiece.decodePiece?
    rw [hs.collector, ht.collector]
    exact hlater.trans (by rw [hevents, hsame])

/-- A post and a GET that spells the id with an escape. -/
theorem answers_plan_escaped :
    let root : Path := ⟨"data", []⟩
    let disk : Disk := { tree := .folder [("data", .folder [])] }
    let clock : Clock := ⟨⟨2025, 1, 31, 23, 59, 59, 999999999⟩, ⟨2025, 1, 31, 22, 59, 59, 0⟩⟩
    let event : Json := .object [("taskId", .string "t"), ("type", .string "task-start")]
    let post : Request :=
      { method := "POST", target := "/action-data", contentType := some "application/json",
        body := event.compact.toUTF8 }
    let get : Request := { method := "GET", target := planTarget ['%', '7', '4'] }
    let s := (Session.start root disk).run [(clock, post)]
    Orderly root disk ([(clock, post)] ++ []) ∧ ValidTaskId "t" ∧
      Encodes ['%', '7', '4'] "t".toUTF8.toList ∧ (s.eventsOf "t").length = 1 ∧
      Answers "t" (s.eventsOf "t") (s.collector.handle clock get).2 := by
  intro root disk clock event post get s
  have hevent : Recording.Recordable event :=
    ⟨⟨(by decide : ["taskId", "type"].Nodup), trivial, trivial, trivial⟩,
      ⟨trivial, trivial, trivial⟩, (by decide : 1 ≤ nestingLimit)⟩
  have hpost : post.posted? = some event := by
    apply posted?_compact hevent rfl (by decide) (by decide +kernel) rfl
    decide +kernel
  have hsaves : saves [(clock, post)] = [(clock.wall, event)] := by
    simp [saves, hpost]
  have hpiece : Encodes ['%', '7', '4'] "t".toUTF8.toList := by
    have hbytes : "t".toUTF8.toList = [UInt8.ofNat (7 * 16 + 4)] := by
      decide +kernel
    rw [hbytes]
    exact .escaped rfl rfl .nil
  have hvalid : ValidTaskId "t" := by
    decide
  have hroute : (disk.route root).toOption = some ["data"] := by
    decide +kernel
  have horderly : Orderly root disk ([(clock, post)] ++ []) := by
    rw [List.append_nil]
    constructor
    case empty =>
      exact Disk.at?_eq_some_iff.mpr ⟨["data"], toOption_eq_some_iff.mp hroute, rfl⟩
    case clock =>
      rw [hsaves]
      decide
    case taken =>
      rw [hsaves]
      exact Nat.le_trans (Recording.taken_saveAll_le _ _) (by decide)
    case doubleFree =>
      rw [hsaves]
      exact List.forall_mem_singleton.mpr hevent.doubleFree
  have hlength : (s.eventsOf "t").length = 1 := by
    have hs := (Session.Follows.start root disk).run [(clock, post)]
    rw [hsaves] at hs
    rw [hs.eventsOf, List.length_map]
    decide +kernel
  exact ⟨horderly, hvalid, hpiece, hlength,
    (answers_plan horderly hvalid hpiece rfl rfl clock).2.1⟩

end Retrace.Http
