import Mmids.Reactors.Actor

/-! Runs of `Actor::run`. `futures.next()` may hand out any pending future, and each future may
complete with any result its async fn can produce; the executor's results are those its contract
allows. A reachable actor is one `Actor::new` can get to through turns of the loop that do not
break. -/

set_option autoImplicit false

namespace Mmids.Reactors

variable {Body : Type}

/-- The results each pending future can complete with, one case per async fn of the source. -/
inductive Completes (executor : ReactorExecutor Body) : PendingFuture → FutureResult Body → Prop
  | requestReceived (request : ReactorRequest) :
      Completes executor .waitForRequest (.requestReceived request)
  | allRequestConsumersGone : Completes executor .waitForRequest .allRequestConsumersGone
  | executorResponseReceived {streamName : String} {keepAliveChannel : KeepAliveChannel}
      {workflow : Option (WorkflowDefinition Body)} (resolves : executor streamName workflow) :
      Completes executor (.waitForExecutorResponse streamName keepAliveChannel)
        (.executorResponseReceived streamName workflow keepAliveChannel)
  | workflowManagerEventReceived (event : WorkflowManagerEvent) :
      Completes executor .waitForWorkflowManagerEvent (.workflowManagerEventReceived event)
  | eventHubGone : Completes executor .waitForWorkflowManagerEvent .eventHubGone
  | workflowManagerGone (sender : ManagerHandle) :
      Completes executor (.notifyWorkflowManagerGone sender) .workflowManagerGone
  | keepAliveChannelClosed (receiver : KeepAliveChannel) (streamName : String) :
      Completes executor (.notifyWhenKeepAliveClosed receiver streamName)
        (.keepAliveChannelClosed streamName)

/-- A turn of the loop that does not break. -/
inductive Step (executor : ReactorExecutor Body) (actor : Actor Body) : Actor Body → Prop
  | turn {future : PendingFuture} {result : FutureResult Body} {next : Actor Body} :
      future ∈ actor.futures → Completes executor future result →
      (actor.take future).turn result = some next → Step executor actor next

inductive Reachable (executor : ReactorExecutor Body) : Actor Body → Prop
  | new (name : String) : Reachable executor (Actor.new name)
  | step {actor next : Actor Body} :
      Reachable executor actor → Step executor actor next → Reachable executor next

/-- Invariant induction: what holds of every new actor and survives each arm of the loop that
does not break holds of every reachable actor. One case per arm, with the future it consumed. -/
@[elab_as_elim] theorem Reachable.invariant {executor : ReactorExecutor Body}
    {P : Actor Body → Prop} (new : ∀ name, P (Actor.new name))
    (request : ∀ actor streamName channel keepAlive, Reachable executor actor → P actor →
      .waitForRequest ∈ actor.futures →
      P (((actor.take .waitForRequest).push .waitForRequest).handleRequest
        (.createWorkflowNameForStream streamName channel keepAlive)))
    (response : ∀ actor streamName workflow keepAlive, Reachable executor actor → P actor →
      .waitForExecutorResponse streamName keepAlive ∈ actor.futures → executor streamName workflow →
      P ((actor.take (.waitForExecutorResponse streamName keepAlive)).handleExecutorResponse
        streamName workflow keepAlive))
    (event : ∀ actor channel, Reachable executor actor → P actor →
      .waitForWorkflowManagerEvent ∈ actor.futures →
      P (((actor.take .waitForWorkflowManagerEvent).push .waitForWorkflowManagerEvent)
        |>.handleWorkflowManagerEvent (.workflowManagerRegistered channel)))
    (closed : ∀ actor receiver streamName, Reachable executor actor → P actor →
      .notifyWhenKeepAliveClosed receiver streamName ∈ actor.futures →
      P ((actor.take (.notifyWhenKeepAliveClosed receiver streamName)).handleKeepAliveClosed
        streamName))
    {actor : Actor Body} (reachable : Reachable executor actor) : P actor := by
  induction reachable with
  | new name => exact new name
  | step reachable step ih =>
    obtain ⟨member, completes, turned⟩ := step
    cases completes with
    | requestReceived request =>
      obtain ⟨streamName, channel, keepAlive⟩ := request
      cases Option.some.inj turned
      exact request _ _ _ _ reachable ih member
    | executorResponseReceived resolves =>
      cases Option.some.inj turned
      exact response _ _ _ _ reachable ih member resolves
    | workflowManagerEventReceived event' =>
      obtain ⟨channel⟩ := event'
      cases Option.some.inj turned
      exact event _ _ reachable ih member
    | keepAliveChannelClosed =>
      cases Option.some.inj turned
      exact closed _ _ _ reachable ih member
    | allRequestConsumersGone | eventHubGone | workflowManagerGone => cases turned

/-! ## The first scenario of the spec, as a run

`requested` is `r1` once it has received a request for `camA`, with response channel and
keep-alive 1; `resolved` is `requested` once the executor has resolved `camA` to `wfA`; `managed`
is `resolved` once workflow manager 1 has registered and been sent the cache. -/

def anyResult : ReactorExecutor Body := fun _ _ => True

def requested : Actor Unit :=
  (((Actor.new "r1").take .waitForRequest).push .waitForRequest).handleRequest
    (.createWorkflowNameForStream "camA" ⟨1⟩ ⟨1⟩)

def resolved : Actor Unit :=
  (requested.take (.waitForExecutorResponse "camA" ⟨1⟩)).handleExecutorResponse "camA"
    (some ⟨"wfA", ()⟩) ⟨1⟩

theorem requested_reachable : Reachable anyResult requested :=
  .step (.new "r1") (.turn (by decide) (.requestReceived _) rfl)

def managed : Actor Unit :=
  ((resolved.take .waitForWorkflowManagerEvent).push .waitForWorkflowManagerEvent)
    |>.handleWorkflowManagerEvent (.workflowManagerRegistered ⟨1⟩)

theorem resolved_reachable : Reachable anyResult resolved :=
  .step requested_reachable (.turn (by decide) (.executorResponseReceived trivial) rfl)

theorem managed_reachable : Reachable anyResult managed :=
  .step resolved_reachable (.turn (by decide) (.workflowManagerEventReceived _) rfl)

end Mmids.Reactors
