import Mmids.Reactors.Requesters

/-! Requests for one stream that never overlap, the use `reactors/reactor.rs` handles as intended:
each `CreateWorkflowNameForStream` arrives when no earlier request for its stream is still
unanswered. Then each stream has at most one executor call in flight, the one of its unanswered
request, so every executor response answers the request that made the call, and a workflow it
returns makes the reactor watch that request's own keep-alive channel. -/

set_option autoImplicit false

namespace Mmids.Reactors

variable {Body : Type} {executor : ReactorExecutor Body}

def ReactorRequest.streamName : ReactorRequest → String
  | .createWorkflowNameForStream streamName _ _ => streamName

def ReactorRequest.keepAliveChannel : ReactorRequest → KeepAliveChannel
  | .createWorkflowNameForStream _ _ keepAliveChannel => keepAliveChannel

/-- The request for `streamName` not answered yet after `results`: the last result touching its
pending entry, when that is a request. -/
def openRequest (streamName : String) (results : List (FutureResult Body)) :
    Option ReactorRequest :=
  results.foldl (fun unanswered result =>
    if result.pendingStream = some streamName then result.request else unanswered) none

section
variable {streamName : String} {results : List (FutureResult Body)} {result : FutureResult Body}

@[simp] theorem openRequest_append_singleton :
    openRequest streamName (results ++ [result]) =
      if result.pendingStream = some streamName then result.request
      else openRequest streamName results := by
  simp [openRequest]

theorem pending_eq_openRequest :
    (results.foldl Requesters.handle Requesters.empty).pending streamName =
      (openRequest streamName results).map ReactorRequest.responseChannel := by
  induction results using List.reverseRecOn with
  | nil => rfl
  | append_singleton results result ih =>
    rw [List.foldl_append, List.foldl_cons, List.foldl_nil, openRequest_append_singleton]
    split
    · rename_i touched
      match result, touched with
      | .requestReceived (.createWorkflowNameForStream _ _ _), rfl =>
        exact Function.update_same _ _ _
      | .executorResponseReceived _ _ _, rfl => exact answer_pending_self
    · rename_i untouched
      rw [handle_pending_of_untouched untouched, ih]

theorem openRequest_streamName {request : ReactorRequest}
    (unanswered : openRequest streamName results = some request) :
    request.streamName = streamName := by
  induction results using List.reverseRecOn with
  | nil => cases unanswered
  | append_singleton results result ih =>
    rw [openRequest_append_singleton] at unanswered
    split at unanswered
    · rename_i touched
      match result, touched with
      | .requestReceived (.createWorkflowNameForStream _ _ _), rfl =>
        cases unanswered
        rfl
      | .executorResponseReceived _ _ _, rfl => cases unanswered
    · exact ih unanswered

end

/-- Requests for one stream never overlap: each arrives when no earlier request for its stream
is unanswered. -/
def Sequential (results : List (FutureResult Body)) : Prop :=
  ∀ before request after, results = before ++ .requestReceived request :: after →
    openRequest request.streamName before = none

theorem Sequential.of_append {results more : List (FutureResult Body)}
    (sequential : Sequential (results ++ more)) : Sequential results :=
  fun before request after split => sequential before request (after ++ more) (by simp [split])

/-- The executor calls in flight: for each stream, one for the keep-alive channel of its
unanswered request, and none for any other. -/
def InFlight (results : List (FutureResult Body)) (futures : List PendingFuture) : Prop :=
  ∀ streamName keepAlive, futures.count (.waitForExecutorResponse streamName keepAlive) =
    if (openRequest streamName results).map ReactorRequest.keepAliveChannel = some keepAlive then 1
    else 0

theorem InFlight.open_of_mem {results : List (FutureResult Body)} {futures : List PendingFuture}
    (inFlight : InFlight results futures) {streamName : String} {keepAlive : KeepAliveChannel}
    (member : .waitForExecutorResponse streamName keepAlive ∈ futures) :
    (openRequest streamName results).map ReactorRequest.keepAliveChannel = some keepAlive := by
  have counted := inFlight streamName keepAlive
  have pending := List.count_pos_iff.mpr member
  split at counted
  · assumption
  · omega

theorem count_erase_of_ne {futures : List PendingFuture} (future : PendingFuture)
    (other : ∀ streamName keepAlive, future ≠ .waitForExecutorResponse streamName keepAlive)
    (streamName : String) (keepAlive : KeepAliveChannel) :
    (futures.erase future).count (.waitForExecutorResponse streamName keepAlive) =
      futures.count (.waitForExecutorResponse streamName keepAlive) := by
  rw [List.count_erase, if_neg (by simpa using other streamName keepAlive), Nat.sub_zero]

theorem count_singleton_of_ne (future : PendingFuture)
    (other : ∀ streamName keepAlive, future ≠ .waitForExecutorResponse streamName keepAlive)
    (streamName : String) (keepAlive : KeepAliveChannel) :
    [future].count (.waitForExecutorResponse streamName keepAlive) = 0 :=
  List.count_eq_zero.mpr (by simpa using Ne.symm (other streamName keepAlive))

/-- Every arm of the loop keeps the executor calls in flight, given that a request arrives only
for a stream with no unanswered request. -/
theorem InFlight.step {results : List (FutureResult Body)} {actor next : Actor Body}
    {future : PendingFuture} {result : FutureResult Body}
    (inFlight : InFlight results actor.futures) (member : future ∈ actor.futures)
    (completes : Completes executor future result)
    (turned : (actor.take future).turn result = some next)
    (sequential : Sequential (results ++ [result])) :
    InFlight (results ++ [result]) next.futures := by
  intro streamName keepAlive
  have old := inFlight streamName keepAlive
  cases completes with
  | requestReceived request =>
    obtain ⟨streamName', channel, keepAlive'⟩ := request
    cases turned
    have idle : openRequest streamName' results = none := sequential results _ [] rfl
    rw [Actor.handleRequest_futures, Actor.push_futures, Actor.take_futures, List.count_append,
      List.count_append, count_erase_of_ne .waitForRequest (by simp),
      count_singleton_of_ne .waitForRequest (by simp), old, openRequest_append_singleton]
    by_cases same : streamName' = streamName
    · subst same
      simp [idle, FutureResult.pendingStream, FutureResult.request, ReactorRequest.keepAliveChannel,
        List.count_singleton]
    · simp [same, FutureResult.pendingStream, List.count_singleton]
  | executorResponseReceived resolves =>
    rename_i streamName' keepAlive' workflow
    cases turned
    have flying := inFlight.open_of_mem member
    have pushed : (if ((actor.take (.waitForExecutorResponse streamName' keepAlive')).activeRequests
          streamName').isSome ∧ workflow.isSome then
        [PendingFuture.notifyWhenKeepAliveClosed keepAlive' streamName'] else []).count
          (.waitForExecutorResponse streamName keepAlive) = 0 := by
      split <;> simp
    rw [Actor.handleExecutorResponse_futures, List.count_append, pushed, Nat.add_zero,
      Actor.take_futures, List.count_erase, old, openRequest_append_singleton]
    by_cases same : streamName' = streamName
    · subst same
      by_cases sameKeepAlive : keepAlive' = keepAlive
      · subst sameKeepAlive
        simp [flying, FutureResult.pendingStream, FutureResult.request]
      · have other : (openRequest streamName' results).map ReactorRequest.keepAliveChannel ≠
            some keepAlive := by rw [flying]; simpa using sameKeepAlive
        simp [other, FutureResult.pendingStream, FutureResult.request, sameKeepAlive]
    · simp [same, FutureResult.pendingStream]
  | workflowManagerEventReceived event =>
    obtain ⟨channel⟩ := event
    cases turned
    rw [Actor.handleWorkflowManagerEvent_futures, Actor.push_futures, Actor.take_futures,
      List.count_append, List.count_append, count_erase_of_ne .waitForWorkflowManagerEvent (by simp),
      count_singleton_of_ne .waitForWorkflowManagerEvent (by simp),
      count_singleton_of_ne (.notifyWorkflowManagerGone channel) (by simp),
      openRequest_append_singleton]
    simpa [FutureResult.pendingStream] using old
  | keepAliveChannelClosed receiver streamName' =>
    cases turned
    rw [Actor.handleKeepAliveClosed_futures, Actor.take_futures,
      count_erase_of_ne (.notifyWhenKeepAliveClosed receiver streamName') (by simp),
      openRequest_append_singleton]
    simpa [FutureResult.pendingStream] using old
  | allRequestConsumersGone | eventHubGone | workflowManagerGone => cases turned

theorem Run.inFlight {results : List (FutureResult Body)} {actor : Actor Body}
    (run : Run executor results actor) (sequential : Sequential results) :
    InFlight results actor.futures := by
  induction run with
  | new name => intro streamName keepAlive; rfl
  | step _ member completes turned ih =>
    exact (ih sequential.of_append).step member completes turned sequential

theorem Run.last {results : List (FutureResult Body)} {result : FutureResult Body}
    {actor : Actor Body} (run : Run executor (results ++ [result]) actor) :
    ∃ previous future, Run executor results previous ∧ future ∈ previous.futures ∧
      Completes executor future result ∧ (previous.take future).turn result = some actor := by
  generalize trace : results ++ [result] = all at run
  cases run with
  | new => simp at trace
  | step run member completes turned =>
    obtain ⟨rfl, last⟩ := List.append_inj' trace rfl
    cases List.singleton_inj.mp last
    exact ⟨_, _, run, member, completes, turned⟩

/-- When requests for one stream never overlap, every executor response answers the unanswered
request for its stream, which is the request that made the call: the reply goes to that request's
channel and, when a workflow is returned, the reactor watches that request's own keep-alive
channel. -/
theorem sequential_response_answers_own_request {results : List (FutureResult Body)}
    {actor : Actor Body} {streamName : String} {workflow : Option (WorkflowDefinition Body)}
    {keepAlive : KeepAliveChannel}
    (run : Run executor (results ++ [.executorResponseReceived streamName workflow keepAlive]) actor)
    (sequential : Sequential (results ++ [.executorResponseReceived streamName workflow keepAlive])) :
    ∃ channel, openRequest streamName results =
        some (.createWorkflowNameForStream streamName channel keepAlive) ∧
      (channel, workflow.map WorkflowDefinition.name) ∈ replies actor.log ∧
      ∀ definition, workflow = some definition →
        .notifyWhenKeepAliveClosed keepAlive streamName ∈ actor.futures := by
  obtain ⟨previous, future, run', member, completes, turned⟩ := run.last
  cases completes
  have flying := (run'.inFlight sequential.of_append).open_of_mem member
  obtain ⟨⟨streamName', channel, keepAlive'⟩, unanswered, same⟩ := Option.map_eq_some'.mp flying
  have stream : streamName = streamName' := (openRequest_streamName unanswered).symm
  have keeper : keepAlive = keepAlive' := same.symm
  subst stream keeper
  have pending :
      (results.foldl Requesters.handle Requesters.empty).pending streamName = some channel := by
    rw [pending_eq_openRequest, unanswered]; rfl
  have active : (previous.take (.waitForExecutorResponse streamName keepAlive)).activeRequests
      streamName = some channel := by
    rw [← pending, ← run'.requesters_eq]; rfl
  refine ⟨channel, unanswered, ?_, fun definition returned => ?_⟩
  · rw [show replies actor.log = _ from congrArg Requesters.replies run.requesters_eq,
      List.foldl_append, List.foldl_cons, List.foldl_nil, mem_handle_replies]
    exact .inr ⟨streamName, workflow, keepAlive, channel, rfl, pending, rfl⟩
  · cases turned
    subst returned
    rw [Actor.handleExecutorResponse_some_futures _ active]
    exact List.mem_append_right _ (List.mem_singleton_self _)

theorem resolved_sequential : Sequential
    ([.requestReceived (.createWorkflowNameForStream "camA" ⟨1⟩ ⟨1⟩),
      .executorResponseReceived "camA" (some ⟨"wfA", ()⟩) ⟨1⟩] : List (FutureResult Unit)) := by
  intro before request after split
  rcases before with _ | ⟨first, _ | ⟨second, rest⟩⟩
  · rfl
  · simp at split
  · simp at split

theorem resolved_answers_own_request :
    Sequential ([.requestReceived (.createWorkflowNameForStream "camA" ⟨1⟩ ⟨1⟩),
      .executorResponseReceived "camA" (some ⟨"wfA", ()⟩) ⟨1⟩] : List (FutureResult Unit)) ∧
    ∃ channel, openRequest "camA"
        ([.requestReceived (.createWorkflowNameForStream "camA" ⟨1⟩ ⟨1⟩)] : List (FutureResult Unit)) =
        some (.createWorkflowNameForStream "camA" channel ⟨1⟩) ∧
      (channel, (some ⟨"wfA", ()⟩ : Option (WorkflowDefinition Unit)).map WorkflowDefinition.name) ∈
        replies resolved.log ∧
      ∀ definition : WorkflowDefinition Unit, some ⟨"wfA", ()⟩ = some definition →
        .notifyWhenKeepAliveClosed ⟨1⟩ "camA" ∈ resolved.futures :=
  ⟨resolved_sequential, sequential_response_answers_own_request
    (resolved_run : Run anyResult ([.requestReceived (.createWorkflowNameForStream "camA" ⟨1⟩ ⟨1⟩)] ++
      [.executorResponseReceived "camA" (some ⟨"wfA", ()⟩) ⟨1⟩]) resolved) resolved_sequential⟩

end Mmids.Reactors
