import Mmids.Reactors.Handlers

/-! The futures set of `Actor::run` against the rest of the state, in every reachable actor:
the two receivers are always awaited, every pending request has an executor future, and every
cache entry counts exactly its pending keep-alive watchers. -/

set_option autoImplicit false

namespace Mmids.Reactors

variable {Body : Type} {executor : ReactorExecutor Body}

theorem countP_erase_add {future : PendingFuture} {futures : List PendingFuture}
    (member : future ∈ futures) (p : PendingFuture → Bool) :
    futures.countP p = (futures.erase future).countP p + if p future then 1 else 0 := by
  rw [(List.perm_cons_erase member).countP_eq, List.countP_cons]

/-! ## The receivers -/

/-- The loop re-arms each receiver exactly when it hands one out. -/
theorem receivers_armed {actor : Actor Body} (reachable : Reachable executor actor) :
    actor.futures.count .waitForRequest = 1 ∧
      actor.futures.count .waitForWorkflowManagerEvent = 1 := by
  refine Reachable.invariant (fun _ => by simp [Actor.new]) ?request ?response ?event ?closed
    reachable
  case request =>
    rintro actor streamName channel keepAlive - ⟨requests, events⟩ member
    simp [List.count_erase_self, requests, events]
  case response =>
    rintro actor streamName workflow keepAlive - ⟨requests, events⟩ member -
    simp only [Actor.handleExecutorResponse_futures, Actor.take_futures]
    split_ifs <;> simp [requests, events]
  case event =>
    rintro actor channel - ⟨requests, events⟩ member
    simp [List.count_erase_self, requests, events]
  case closed =>
    rintro actor receiver streamName - ⟨requests, events⟩ member
    simp [requests, events]

/-- Exactly one future owns the request inbox and exactly one the event hub subscription; so
`futures.next()` never yields `None` and the loop only ends through a `break` arm. -/
theorem receivers_always_awaited {actor : Actor Body} (reachable : Reachable executor actor) :
    actor.futures.count .waitForRequest = 1 ∧
      actor.futures.count .waitForWorkflowManagerEvent = 1 ∧ actor.futures ≠ [] := by
  obtain ⟨requests, events⟩ := receivers_armed reachable
  exact ⟨requests, events, List.ne_nil_of_mem
    (List.count_pos_iff.mp (show 0 < actor.futures.count .waitForRequest by omega))⟩

theorem resolved_receivers_awaited :
    resolved.futures.count .waitForRequest = 1 ∧
      resolved.futures.count .waitForWorkflowManagerEvent = 1 ∧ resolved.futures ≠ [] :=
  receivers_always_awaited resolved_reachable

/-! ## The pending-request table -/

def Event.reply : Event Body → Option (ResponseChannel × Option String)
  | .replied channel response => some (channel, response)
  | _ => none

/-- The replies sent on response channels, in order. -/
def replies (log : List (Event Body)) : List (ResponseChannel × Option String) :=
  log.filterMap Event.reply

@[simp] theorem replies_nil : replies ([] : List (Event Body)) = [] := rfl

@[simp] theorem replies_cons (event : Event Body) (log : List (Event Body)) :
    replies (event :: log) = event.reply.toList ++ replies log := by
  cases found : event.reply <;> simp [replies, List.filterMap_cons, found]

@[simp] theorem replies_append (log log' : List (Event Body)) :
    replies (log ++ log') = replies log ++ replies log' := List.filterMap_append _ _ _

@[simp] theorem replies_sendToManager (actor : Actor Body) (streamName : String)
    (request : WorkflowManagerRequest Body) : replies (actor.sendToManager streamName request) = [] := by
  unfold Actor.sendToManager; split <;> rfl

theorem mem_erase_of_stream_ne {futures : List PendingFuture} {future : PendingFuture}
    {streamName : String} {keepAlive : KeepAliveChannel}
    (different : future ≠ .waitForExecutorResponse streamName keepAlive)
    (member : .waitForExecutorResponse streamName keepAlive ∈ futures) :
    .waitForExecutorResponse streamName keepAlive ∈ futures.erase future :=
  (List.mem_erase_of_ne (Ne.symm different)).mpr member

theorem requests_awaited {actor : Actor Body} (reachable : Reachable executor actor) :
    ∀ streamName, (actor.activeRequests streamName).isSome →
      ∃ keepAlive, .waitForExecutorResponse streamName keepAlive ∈ actor.futures := by
  refine Reachable.invariant (fun _ => by simp [Actor.new]) ?request ?response ?event ?closed
    reachable
  case request =>
    rintro actor streamName channel keepAlive - awaited - other active
    by_cases same : other = streamName
    · exact ⟨keepAlive, by simp [same]⟩
    · obtain ⟨keepAlive', member⟩ := awaited other (by simpa [same] using active)
      exact ⟨keepAlive', by simp [member]⟩
  case response =>
    rintro actor streamName workflow keepAlive - awaited - - other active
    have same : other ≠ streamName := by rintro rfl; simp at active
    obtain ⟨keepAlive', member⟩ := awaited other (by simpa [same] using active)
    refine ⟨keepAlive', ?_⟩
    rw [Actor.handleExecutorResponse_futures]
    exact List.mem_append_left _ (mem_erase_of_stream_ne (by simp [Ne.symm same]) member)
  case event =>
    rintro actor channel - awaited - other active
    obtain ⟨keepAlive', member⟩ := awaited other (by simpa using active)
    exact ⟨keepAlive', by simp [member]⟩
  case closed =>
    rintro actor receiver streamName - awaited - other active
    obtain ⟨keepAlive', member⟩ := awaited other (by simpa using active)
    exact ⟨keepAlive', by simp [member]⟩

/-- A reply channel in the pending table is never stranded: an executor future for its stream
is pending, and the completion of any such future removes the entry and sends exactly one
reply, on that channel. -/
theorem pending_request_answered {actor : Actor Body} (reachable : Reachable executor actor)
    {streamName : String} {channel : ResponseChannel}
    (active : actor.activeRequests streamName = some channel) :
    (∃ keepAlive, .waitForExecutorResponse streamName keepAlive ∈ actor.futures) ∧
      ∀ keepAlive workflow next,
        (actor.take (.waitForExecutorResponse streamName keepAlive)).turn
          (.executorResponseReceived streamName workflow keepAlive) = some next →
        next.activeRequests streamName = none ∧
          replies next.log = replies actor.log ++ [(channel, workflow.map (·.name))] := by
  refine ⟨requests_awaited reachable streamName (by simp [active]), ?_⟩
  rintro keepAlive workflow next turned
  cases Option.some.inj turned
  have active' : (actor.take (.waitForExecutorResponse streamName keepAlive)).activeRequests
      streamName = some channel := active
  cases workflow with
  | none => simp [Actor.handleExecutorResponse_none_log _ active', Event.reply]
  | some workflow =>
    simp only [Actor.handleExecutorResponse_some_log _ active']
    split_ifs <;> simp [Event.reply]

theorem requested_camA_answered :
    (∃ keepAlive, .waitForExecutorResponse "camA" keepAlive ∈ requested.futures) ∧
      ∀ keepAlive workflow next,
        (requested.take (.waitForExecutorResponse "camA" keepAlive)).turn
          (.executorResponseReceived "camA" workflow keepAlive) = some next →
        next.activeRequests "camA" = none ∧
          replies next.log = replies requested.log ++ [(⟨1⟩, workflow.map (·.name))] :=
  pending_request_answered requested_reachable (by decide)

/-! ## Keep-alive watchers and counts -/

def PendingFuture.watchedStream : PendingFuture → Option String
  | .notifyWhenKeepAliveClosed _ streamName => some streamName
  | _ => none

/-- The pending keep-alive watchers of `streamName`. -/
def watchers (futures : List PendingFuture) (streamName : String) : Nat :=
  futures.countP fun future => future.watchedStream = some streamName

@[simp] theorem watchers_append (futures futures' : List PendingFuture) (streamName : String) :
    watchers (futures ++ futures') streamName = watchers futures streamName + watchers futures' streamName :=
  List.countP_append _ _ _

@[simp] theorem watchers_cons (future : PendingFuture) (futures : List PendingFuture)
    (streamName : String) : watchers (future :: futures) streamName =
      watchers futures streamName + if future.watchedStream = some streamName then 1 else 0 := by
  simp [watchers, List.countP_cons]

@[simp] theorem watchers_nil (streamName : String) : watchers [] streamName = 0 := rfl

@[simp] theorem watchers_erase_of_unwatched {future : PendingFuture} {futures : List PendingFuture}
    (member : future ∈ futures) (unwatched : future.watchedStream = none) (streamName : String) :
    watchers (futures.erase future) streamName = watchers futures streamName := by
  simp [watchers, countP_erase_add member, unwatched]

theorem watchers_erase_watcher {receiver : KeepAliveChannel} {streamName : String}
    {futures : List PendingFuture} (member : .notifyWhenKeepAliveClosed receiver streamName ∈ futures)
    (other : String) : watchers futures other =
      watchers (futures.erase (.notifyWhenKeepAliveClosed receiver streamName)) other +
        if streamName = other then 1 else 0 := by
  simp [watchers, countP_erase_add member, PendingFuture.watchedStream]

/-- `cached_workflows` holds a stream exactly while a keep-alive watcher of it is pending, and its
`keep_alive_count` is the number of them. -/
def KeepAliveCounted (actor : Actor Body) : Prop :=
  ∀ streamName, (streamName ∈ actor.cachedWorkflows ↔ 0 < watchers actor.futures streamName) ∧
    ∀ cache, actor.cachedWorkflows.lookup streamName = some cache →
      cache.keepAliveCount = watchers actor.futures streamName

theorem KeepAliveCounted.take {actor : Actor Body} (counted : KeepAliveCounted actor)
    {future : PendingFuture} (member : future ∈ actor.futures)
    (unwatched : future.watchedStream = none) : KeepAliveCounted (actor.take future) :=
  fun other => by simpa [member, unwatched] using counted other

theorem keepAliveCounted_bump {actor : Actor Body} (counted : KeepAliveCounted actor)
    (streamName : String) (workflow : WorkflowDefinition Body) (receiver : KeepAliveChannel) :
    KeepAliveCounted { actor with
      cachedWorkflows := Actor.bump actor.cachedWorkflows streamName workflow
      futures := actor.futures ++ [.notifyWhenKeepAliveClosed receiver streamName] } := by
  intro other
  by_cases same : other = streamName
  · subst same
    obtain ⟨cached, count⟩ := counted other
    cases found : actor.cachedWorkflows.lookup other with
    | none =>
      have : watchers actor.futures other = 0 := by
        simpa [← AList.lookup_isSome, found] using cached
      simp [found, this, PendingFuture.watchedStream]
    | some cache => simp [found, count cache found, PendingFuture.watchedStream]
  · simpa [same, PendingFuture.watchedStream, Ne.symm same] using counted other

theorem keepAliveCounted_release {actor : Actor Body} (counted : KeepAliveCounted actor)
    {receiver : KeepAliveChannel} {streamName : String}
    (member : .notifyWhenKeepAliveClosed receiver streamName ∈ actor.futures) :
    KeepAliveCounted ((actor.take (.notifyWhenKeepAliveClosed receiver streamName)).handleKeepAliveClosed
      streamName) := by
  have taken := watchers_erase_watcher member
  have pending : 0 < watchers actor.futures streamName := by
    have := taken streamName; simp at this; omega
  obtain ⟨cache, found⟩ : ∃ cache, actor.cachedWorkflows.lookup streamName = some cache :=
    Option.isSome_iff_exists.mp (AList.lookup_isSome.mpr ((counted streamName).1.mpr pending))
  have count := (counted streamName).2 cache found
  have found' : (actor.take (.notifyWhenKeepAliveClosed receiver streamName)).cachedWorkflows.lookup
      streamName = some cache := found
  intro other
  rw [Actor.handleKeepAliveClosed_futures, Actor.take_futures]
  have released := taken other
  by_cases same : other = streamName
  · subst same
    by_cases last : cache.keepAliveCount - 1 = 0
    · rw [(Actor.handleKeepAliveClosed_of_last found' last).1]
      simp at released ⊢
      omega
    · rw [(Actor.handleKeepAliveClosed_of_remaining found' last).1]
      simp at released ⊢
      omega
  · simp only [Ne.symm same, if_false, Nat.add_zero] at released
    simpa [← AList.lookup_isSome, same, ← released] using counted other

/-- In every reachable actor a stream is cached exactly while keep-alive watchers of it are
pending, and its `keep_alive_count` is their number, so at least one: the decrement of
`handle_keep_alive_closed` never underflows and its uncached branch is never taken. -/
theorem keep_alive_count_matches_watchers {actor : Actor Body}
    (reachable : Reachable executor actor) (streamName : String) :
    (streamName ∈ actor.cachedWorkflows ↔ 0 < watchers actor.futures streamName) ∧
      ∀ cache, actor.cachedWorkflows.lookup streamName = some cache →
        cache.keepAliveCount = watchers actor.futures streamName ∧ 1 ≤ cache.keepAliveCount := by
  have counted : KeepAliveCounted actor := by
    refine Reachable.invariant (fun _ _ => by simp [Actor.new, PendingFuture.watchedStream])
      ?request ?response ?event ?closed
      reachable
    case request =>
      rintro actor streamName channel keepAlive - counted member other
      simpa [member, PendingFuture.watchedStream] using counted other
    case response =>
      rintro actor streamName workflow keepAlive - counted member -
      have taken := counted.take member rfl
      cases active : (actor.take (.waitForExecutorResponse streamName keepAlive)).activeRequests
        streamName with
      | none => rwa [Actor.handleExecutorResponse_of_inactive _ active]
      | some channel =>
        intro other
        cases workflow with
        | none => simpa [active] using taken other
        | some workflow =>
          simpa [active] using keepAliveCounted_bump taken streamName workflow keepAlive other
    case event =>
      rintro actor channel - counted member other
      simpa [member, PendingFuture.watchedStream] using counted other
    case closed =>
      rintro actor receiver streamName - counted member
      exact keepAliveCounted_release counted member
  refine ⟨(counted streamName).1, fun cache found => ?_⟩
  have count := (counted streamName).2 cache found
  have cached := (counted streamName).1.mp (AList.lookup_isSome.mp (by simp [found]))
  exact ⟨count, by omega⟩

theorem resolved_camA_counted :
    ("camA" ∈ resolved.cachedWorkflows ↔ 0 < watchers resolved.futures "camA") ∧
      ∀ cache, resolved.cachedWorkflows.lookup "camA" = some cache →
        cache.keepAliveCount = watchers resolved.futures "camA" ∧ 1 ≤ cache.keepAliveCount :=
  keep_alive_count_matches_watchers resolved_reachable "camA"

end Mmids.Reactors
