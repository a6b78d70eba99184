import Retrace.Http.Collector
import Retrace.Proofs.Json.Soundness
import Retrace.Proofs.Store.Recall

/-!
Runs of requests to one collector. What a run does to the store is what the saves of its posted
events do, and a post is accepted exactly if its event was saved.
-/

namespace Retrace.Http

open Decoding Files

/-- The event that a request asks to store. -/
def Request.posted? (request : Request) : Option Json :=
  if request.method = "POST" ∧ Endpoint.ofTarget? request.target = some .actionData then
    (postedEvent request).toOption
  else none

/-- The saves that the requests come to. -/
def saves (requests : List (Clock × Request)) : List (Moment × Json) :=
  requests.filterMap fun r => r.2.posted?.map (r.1.wall, ·)

/-- The event of a request that was answered with success. -/
def accepted? (exchange : Request × Response) : Option Json :=
  if exchange.2.status = 200 then exchange.1.posted? else none

/-- A collector with the requests that it has answered. -/
structure Session where
  collector : Collector
  exchanges : List (Request × Response) := []

namespace Session

def start (root : Path) (disk : Disk) : Session := { collector := ⟨{ root }, disk⟩ }

def answer (s : Session) (clock : Clock) (request : Request) : Session :=
  let result := s.collector.handle clock request
  { collector := result.1, exchanges := s.exchanges ++ [(request, result.2)] }

def run (s : Session) (requests : List (Clock × Request)) : Session :=
  requests.foldl (fun s r => s.answer r.1 r.2) s

/-- The accepted events with the responses to them, in the order of the requests. -/
def accepted (s : Session) : List (Response × Json) :=
  s.exchanges.filterMap fun exchange => (accepted? exchange).map (exchange.2, ·)

/-- The accepted events of a task, as far as they can be read as events. -/
def eventsOf (s : Session) (id : String) : List (Response × Event) :=
  (s.accepted.filter fun post => post.2.namedTask? = some id).filterMap fun post =>
    (Event.ofJson post.2).toOption.map (post.1, ·)

end Session

theorem sound_of_firstJson? {body : ByteArray} {v : Json} (h : firstJson? body = some v) :
    Sound nestingLimit v := by
  unfold firstJson? at h
  split at h
  · next document rest hread =>
      have hfit := (Document.readsFit _).value hread
      exact sound_json hfit (toOption_eq_some_iff.mp h)
  · cases h

/-- A posted event is as the reader of its text promises. -/
theorem sound_of_posted? {request : Request} {event : Json} (h : request.posted? = some event) :
    Sound nestingLimit event := by
  unfold Request.posted? at h
  split at h
  · rw [toOption_eq_some_iff] at h
    unfold postedEvent at h
    split at h
    · cases h
    · split at h
      · cases h
      · split at h
        · cases h
        · next members hfirst =>
            cases h
            exact sound_of_firstJson? hfirst
        · cases h
  · cases h

theorem firstJson?_compact {v : Json} (hw : v.WellFormed) (hf : v.DoubleFree)
    (hd : v.depth ≤ nestingLimit) : firstJson? v.compact.toUTF8 = some v := by
  have hadmits : Origin.Admits (.text nestingLimit) v.depth := hd
  have hread := Json.Layout.readFirst_text Json.Layout.isBlank_compact hw hf 0
  have hdecoded := json_ofJson hw hadmits
  rw [Json.Layout.text_compact] at hread
  rw [firstJson?, Text.leading, Disk.fromUTF8?_toUTF8, Json.compact]
  simp only [String.toList_ofList, hread, hdecoded]
  rfl

/-- What can be recorded can be posted: its text is a request to store it. -/
theorem posted?_compact {members : Json.Members}
    (hevent : Recording.Recordable (.object members)) {request : Request}
    (hmethod : request.method = "POST")
    (htarget : Endpoint.ofTarget? request.target = some .actionData)
    (htype : announcesJson request.contentType = true)
    (hbody : request.body = (Json.object members).compact.toUTF8)
    (hsize : request.body.size ≤ bodyLimit) : request.posted? = some (.object members) := by
  have hfirst := firstJson?_compact hevent.wellFormed hevent.doubleFree hevent.depth
  rw [Request.posted?, if_pos ⟨hmethod, htarget⟩, postedEvent, if_neg (not_not_intro htype),
    if_neg (Nat.not_lt.mpr hsize), hbody, hfirst]
  rfl

namespace Collector

/-- A request that posts no event changes nothing. -/
theorem handle_of_posted?_eq_none {request : Request} (h : request.posted? = none)
    (c : Collector) (clock : Clock) : (c.handle clock request).1 = c := by
  unfold handle
  split
  · rfl
  · split
    · rfl
    · next endpoint he =>
        split
        · next hallows =>
            cases endpoint with
            | health => rfl
            | exactReplay piece => rfl
            | actionData =>
                have hpost : request.method = "POST" := beq_iff_eq.mp hallows
                rw [Request.posted?, if_pos ⟨hpost, he⟩] at h
                show (c.receive clock.wall request).1 = c
                unfold receive
                cases hevent : postedEvent request with
                | error problem => rfl
                | ok event =>
                    rw [hevent] at h
                    cases h
        · rfl

/-- A request that its endpoint allows is answered there. -/
theorem handle_of_allows {request : Request} {endpoint : Endpoint}
    (htarget : Endpoint.ofTarget? request.target = some endpoint)
    (hallows : endpoint.allows request.method = true) (hhead : request.method ≠ "HEAD")
    (c : Collector) (clock : Clock) :
    c.handle clock request = c.dispatch clock request endpoint := by
  have hoptions : request.method ≠ "OPTIONS" := by
    intro h
    rw [h] at hallows
    cases endpoint <;> cases hallows
  rw [handle, if_neg hoptions, htarget]
  simp only [hallows, if_true, if_neg hhead]

/-- A request that posts an event is a save of it. -/
theorem handle_of_posted? {request : Request} {event : Json}
    (h : request.posted? = some event) (c : Collector) (clock : Clock) :
    let result := c.store.save clock.wall event c.disk
    c.handle clock request = (⟨result.1, result.2.1⟩,
      match result.2.2 with
      | .ok path => savedResponse path
      | .error error => (Problem.store error).response) := by
  unfold Request.posted? at h
  split at h
  · next hpost =>
      obtain ⟨hmethod, htarget⟩ := hpost
      rw [toOption_eq_some_iff] at h
      have hallows : Endpoint.actionData.allows request.method = true := by
        rw [hmethod]
        rfl
      have hhead : request.method ≠ "HEAD" := by
        rw [hmethod]
        decide
      rw [handle_of_allows htarget hallows hhead, dispatch, receive, h]
      dsimp only
      obtain ⟨store, disk, saved⟩ := c.store.save clock.wall event c.disk
      cases saved with
      | error error => rfl
      | ok path => rfl
  · cases h

end Collector

theorem Problem.status_response_ne (problem : Problem) : problem.response.status ≠ 200 := by
  show problem.status ≠ 200
  unfold status
  split <;> decide

theorem saves_append (requests more : List (Clock × Request)) :
    saves (requests ++ more) = saves requests ++ saves more :=
  List.filterMap_append

namespace Session

variable {s : Session} {r : Recording}

theorem accepted_answer (s : Session) (clock : Clock) (request : Request) :
    (s.answer clock request).accepted = s.accepted ++
      ((accepted? (request, (s.collector.handle clock request).2)).map
        ((s.collector.handle clock request).2, ·)).toList := by
  rw [accepted, accepted, answer, List.filterMap_append]
  apply congrArg
  cases haccepted : accepted? (request, (s.collector.handle clock request).2) with
  | none => simp [haccepted]
  | some event => simp [haccepted]

/-- The session has done to its collector what the recording has done, and has accepted what the
recording has saved. -/
structure Follows (s : Session) (r : Recording) : Prop where
  collector : s.collector = ⟨r.store, r.disk⟩
  accepted : s.accepted = r.saved.map fun save => (savedResponse save.1, save.2)

theorem Follows.start (root : Path) (disk : Disk) :
    (start root disk).Follows (Recording.start root disk) :=
  ⟨rfl, rfl⟩

theorem Follows.answer (h : s.Follows r) (clock : Clock) (request : Request) :
    (s.answer clock request).Follows (r.saveAll (saves [(clock, request)])) := by
  cases hpost : request.posted? with
  | none =>
      have hsaves : saves [(clock, request)] = [] := by
        simp [saves, hpost]
      have hkept := Collector.handle_of_posted?_eq_none hpost s.collector clock
      have haccepted : accepted? (request, (s.collector.handle clock request).2) = none := by
        simp [accepted?, hpost]
      rw [hsaves]
      constructor
      case collector => exact hkept.trans h.collector
      case accepted =>
        rw [accepted_answer, haccepted, Option.map_none, Option.toList_none, List.append_nil]
        exact h.accepted
  | some event =>
      have hsaves : saves [(clock, request)] = [(clock.wall, event)] := by
        simp [saves, hpost]
      have hsave := Collector.handle_of_posted? hpost s.collector clock
      rw [h.collector] at hsave
      rw [hsaves]
      constructor
      case collector =>
        show (s.collector.handle clock request).1 = _
        rw [h.collector, hsave]
        rfl
      case accepted =>
        rw [accepted_answer, h.collector, hsave, h.accepted]
        show _ = List.map _ (r.saved ++ _)
        rw [List.map_append]
        congr 1
        cases (r.store.save clock.wall event r.disk).2.2 with
        | error error =>
            have hrefused := Problem.status_response_ne (.store error)
            simp [accepted?, hrefused, Except.toOption]
        | ok path =>
            have hok : (savedResponse path).status = 200 := rfl
            simp [accepted?, hok, hpost, Except.toOption]

theorem Follows.run (h : s.Follows r) (requests : List (Clock × Request)) :
    (s.run requests).Follows (r.saveAll (saves requests)) := by
  induction requests generalizing s r with
  | nil => exact h
  | cons first rest ih =>
      have hrest := ih (h.answer first.1 first.2)
      rw [← Recording.saveAll_append, ← saves_append] at hrest
      exact hrest

theorem Follows.eventsOf (h : s.Follows r) (id : String) :
    s.eventsOf id =
      (r.eventsOf id).map fun file => (savedResponse file.path, file.event) := by
  rw [Session.eventsOf, h.accepted, Recording.eventsOf, List.filter_map, List.filterMap_map,
    List.map_filterMap]
  apply congrArg (List.filterMap · _)
  funext save
  rw [Function.comp_apply]
  cases (Event.ofJson save.2).toOption with
  | none => rfl
  | some event => rfl

theorem exchanges_run (s : Session) (requests : List (Clock × Request)) :
    s.exchanges <+: (s.run requests).exchanges := by
  induction requests generalizing s with
  | nil => exact List.prefix_rfl
  | cons first rest ih =>
      have hfirst : s.exchanges <+: (s.answer first.1 first.2).exchanges :=
        List.prefix_append s.exchanges _
      exact hfirst.trans (ih (s.answer first.1 first.2))

/-- Without an accepted event of a task its events stay as they are. -/
theorem eventsOf_run {requests : List (Clock × Request)} {id : String}
    (h : ∀ exchange ∈ (s.run requests).exchanges.drop s.exchanges.length, ∀ event,
      accepted? exchange = some event → event.namedTask? ≠ some id) :
    (s.run requests).eventsOf id = s.eventsOf id := by
  obtain ⟨more, hmore⟩ := s.exchanges_run requests
  rw [← hmore, List.drop_left] at h
  have hnone : (more.filterMap fun exchange => (accepted? exchange).map (exchange.2, ·)).filter
      (fun post => decide (post.2.namedTask? = some id)) = [] := by
    refine List.filter_eq_nil_iff.mpr fun post hpost => ?_
    obtain ⟨exchange, hexchange, heq⟩ := List.mem_filterMap.mp hpost
    obtain ⟨event, hevent, rfl⟩ := Option.map_eq_some_iff.mp heq
    simpa using h exchange hexchange event hevent
  rw [Session.eventsOf, Session.eventsOf, accepted, accepted, ← hmore, List.filterMap_append,
    List.filter_append, hnone, List.append_nil]

end Session

end Retrace.Http
