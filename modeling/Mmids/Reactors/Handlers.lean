import Mmids.Reactors.Execution

/-! What each handler of `Actor` does to each part of the state. Later proofs rewrite with these
and never unfold a handler. -/

set_option autoImplicit false

namespace Mmids.Reactors

variable {Body : Type}

namespace Actor

variable (actor : Actor Body)

/-! ## `handle_request` -/

section
variable (streamName : String) (channel : ResponseChannel) (keepAlive : KeepAliveChannel)

@[simp] theorem handleRequest_futures :
    (actor.handleRequest (.createWorkflowNameForStream streamName channel keepAlive)).futures =
      actor.futures ++ [.waitForExecutorResponse streamName keepAlive] := rfl
@[simp] theorem handleRequest_activeRequests :
    (actor.handleRequest (.createWorkflowNameForStream streamName channel keepAlive)).activeRequests =
      Function.update actor.activeRequests streamName (some channel) := rfl
@[simp] theorem handleRequest_workflowManager :
    (actor.handleRequest
      (.createWorkflowNameForStream streamName channel keepAlive)).workflowManager =
      actor.workflowManager := rfl
@[simp] theorem handleRequest_cachedWorkflows :
    (actor.handleRequest
      (.createWorkflowNameForStream streamName channel keepAlive)).cachedWorkflows =
      actor.cachedWorkflows := rfl
@[simp] theorem handleRequest_log :
    (actor.handleRequest (.createWorkflowNameForStream streamName channel keepAlive)).log =
      actor.log := rfl
@[simp] theorem handleRequest_name :
    (actor.handleRequest (.createWorkflowNameForStream streamName channel keepAlive)).name =
      actor.name := rfl

end

/-! ## `handle_executor_response` -/

section
variable {actor} {streamName : String} (keepAlive : KeepAliveChannel)

/-- A response with no pending request is dropped: no reply, no cache change, no send. -/
theorem handleExecutorResponse_of_inactive (inactive : actor.activeRequests streamName = none)
    (workflow : Option (WorkflowDefinition Body)) :
    actor.handleExecutorResponse streamName workflow keepAlive = actor := by
  simp [handleExecutorResponse, inactive]

@[simp] theorem handleExecutorResponse_activeRequests (workflow : Option (WorkflowDefinition Body)) :
    (actor.handleExecutorResponse streamName workflow keepAlive).activeRequests =
      Function.update actor.activeRequests streamName none := by
  unfold handleExecutorResponse
  split <;> rename_i found
  · rw [← found, Function.update_eq_self]
  · cases workflow <;> simp

@[simp] theorem handleExecutorResponse_workflowManager
    (workflow : Option (WorkflowDefinition Body)) :
    (actor.handleExecutorResponse streamName workflow keepAlive).workflowManager =
      actor.workflowManager := by
  unfold handleExecutorResponse
  split
  · rfl
  · cases workflow <;> simp

@[simp] theorem handleExecutorResponse_name (workflow : Option (WorkflowDefinition Body)) :
    (actor.handleExecutorResponse streamName workflow keepAlive).name = actor.name := by
  unfold handleExecutorResponse
  split
  · rfl
  · cases workflow <;> simp

/-- A response arms a keep-alive watcher exactly when it answers a pending request with a
workflow. -/
theorem handleExecutorResponse_futures (workflow : Option (WorkflowDefinition Body)) :
    (actor.handleExecutorResponse streamName workflow keepAlive).futures = actor.futures ++
      if (actor.activeRequests streamName).isSome ∧ workflow.isSome then
        [.notifyWhenKeepAliveClosed keepAlive streamName] else [] := by
  unfold handleExecutorResponse
  split <;> rename_i found
  · simp [found]
  · cases workflow <;> simp [found]

variable {channel : ResponseChannel} (active : actor.activeRequests streamName = some channel)
include active

@[simp] theorem handleExecutorResponse_none_futures :
    (actor.handleExecutorResponse streamName none keepAlive).futures = actor.futures := by
  simp [handleExecutorResponse, active]
@[simp] theorem handleExecutorResponse_none_cachedWorkflows :
    (actor.handleExecutorResponse streamName none keepAlive).cachedWorkflows =
      actor.cachedWorkflows := by
  simp [handleExecutorResponse, active]
@[simp] theorem handleExecutorResponse_none_log :
    (actor.handleExecutorResponse streamName none keepAlive).log =
      actor.log ++ [.replied channel none] := by
  simp [handleExecutorResponse, active]

variable (workflow : WorkflowDefinition Body)

@[simp] theorem handleExecutorResponse_some_futures :
    (actor.handleExecutorResponse streamName (some workflow) keepAlive).futures =
      actor.futures ++ [.notifyWhenKeepAliveClosed keepAlive streamName] := by
  simp [handleExecutorResponse, active]
@[simp] theorem handleExecutorResponse_some_cachedWorkflows :
    (actor.handleExecutorResponse streamName (some workflow) keepAlive).cachedWorkflows =
      bump actor.cachedWorkflows streamName workflow := by
  simp [handleExecutorResponse, active]
theorem handleExecutorResponse_some_log :
    (actor.handleExecutorResponse streamName (some workflow) keepAlive).log =
      actor.log ++ (if streamName ∈ actor.cachedWorkflows then [] else [.inserted streamName]) ++
        actor.sendToManager streamName
          ⟨streamRequestId actor.name streamName, .upsertWorkflow workflow⟩ ++
        [.replied channel (some workflow.name)] := by
  simp [handleExecutorResponse, active, sendToManager]

end

/-! ## `handle_workflow_manager_event` -/

section
variable (channel : ManagerHandle)

@[simp] theorem handleWorkflowManagerEvent_futures :
    (actor.handleWorkflowManagerEvent (.workflowManagerRegistered channel)).futures =
      actor.futures ++ [.notifyWorkflowManagerGone channel] := rfl
@[simp] theorem handleWorkflowManagerEvent_activeRequests :
    (actor.handleWorkflowManagerEvent (.workflowManagerRegistered channel)).activeRequests =
      actor.activeRequests := rfl
@[simp] theorem handleWorkflowManagerEvent_workflowManager :
    (actor.handleWorkflowManagerEvent (.workflowManagerRegistered channel)).workflowManager =
      some channel := rfl
@[simp] theorem handleWorkflowManagerEvent_cachedWorkflows :
    (actor.handleWorkflowManagerEvent (.workflowManagerRegistered channel)).cachedWorkflows =
      actor.cachedWorkflows := rfl
/-- Registration replays the cache: one catch-up upsert of each entry's definition. -/
theorem handleWorkflowManagerEvent_log :
    (actor.handleWorkflowManagerEvent (.workflowManagerRegistered channel)).log =
      actor.log ++ .registered channel :: actor.catchUp channel := rfl
@[simp] theorem handleWorkflowManagerEvent_name :
    (actor.handleWorkflowManagerEvent (.workflowManagerRegistered channel)).name = actor.name := rfl

end

/-! ## `handle_keep_alive_closed` -/

section
variable (streamName : String)

theorem handleKeepAliveClosed_of_uncached (uncached : actor.cachedWorkflows.lookup streamName = none) :
    actor.handleKeepAliveClosed streamName = actor := by
  simp [handleKeepAliveClosed, uncached]

@[simp] theorem handleKeepAliveClosed_futures :
    (actor.handleKeepAliveClosed streamName).futures = actor.futures := by
  unfold handleKeepAliveClosed; split
  · rfl
  · dsimp only; split <;> rfl
@[simp] theorem handleKeepAliveClosed_activeRequests :
    (actor.handleKeepAliveClosed streamName).activeRequests = actor.activeRequests := by
  unfold handleKeepAliveClosed; split
  · rfl
  · dsimp only; split <;> rfl
@[simp] theorem handleKeepAliveClosed_workflowManager :
    (actor.handleKeepAliveClosed streamName).workflowManager = actor.workflowManager := by
  unfold handleKeepAliveClosed; split
  · rfl
  · dsimp only; split <;> rfl
@[simp] theorem handleKeepAliveClosed_name :
    (actor.handleKeepAliveClosed streamName).name = actor.name := by
  unfold handleKeepAliveClosed; split
  · rfl
  · dsimp only; split <;> rfl

/-- A closure touches only its own stream's cache entry. -/
@[simp] theorem handleKeepAliveClosed_lookup_ne {other : String} (different : other ≠ streamName) :
    (actor.handleKeepAliveClosed streamName).cachedWorkflows.lookup other =
      actor.cachedWorkflows.lookup other := by
  unfold handleKeepAliveClosed; split
  · rfl
  · dsimp only; split
    · exact AList.lookup_erase_ne different
    · exact AList.lookup_insert_ne different

variable {actor streamName} {cache : CachedWorkflow Body}
  (found : actor.cachedWorkflows.lookup streamName = some cache)
include found

/-- The last keep-alive of a stream: stop its workflow on the current manager, drop the entry. -/
theorem handleKeepAliveClosed_of_last (last : cache.keepAliveCount - 1 = 0) :
    (actor.handleKeepAliveClosed streamName).cachedWorkflows =
        actor.cachedWorkflows.erase streamName ∧
      (actor.handleKeepAliveClosed streamName).log = actor.log ++
        actor.sendToManager streamName ⟨fromReactor, .stopWorkflow cache.definition.name⟩ ++
        [.removed streamName cache.definition] := by
  simp [handleKeepAliveClosed, found, last]

theorem handleKeepAliveClosed_of_remaining (remaining : cache.keepAliveCount - 1 ≠ 0) :
    (actor.handleKeepAliveClosed streamName).cachedWorkflows =
        actor.cachedWorkflows.insert streamName
          { cache with keepAliveCount := cache.keepAliveCount - 1 } ∧
      (actor.handleKeepAliveClosed streamName).log = actor.log := by
  simp [handleKeepAliveClosed, found, remaining]

end

end Actor

end Mmids.Reactors
