import Mathlib.Data.List.AList

/-! The reactor of `reactors/reactor.rs`: its requests, the futures `Actor::run` waits on, the
actor's state and its handlers. Channels are known by their identity only. The actor's log is
what it sends, in order; the `registered`, `inserted` and `removed` entries and the stream of a
`sent` entry are ghost data recording what the code does internally, so that statements about a
run can name a registration or a cache lifetime. -/

set_option autoImplicit false

namespace Mmids.Reactors

/-- The receive end of a requester's keep-alive one-shot channel, and below the send end of its
response channel and a manager's request sender, each known by its identity. -/
structure KeepAliveChannel where
  id : Nat
  deriving DecidableEq, Repr

structure ResponseChannel where
  id : Nat
  deriving DecidableEq, Repr

structure ManagerHandle where
  id : Nat
  deriving DecidableEq, Repr

/-- `WorkflowDefinition` is declared outside these sources; the reactor reads its `name` and
carries the rest, here `body`, untouched. -/
structure WorkflowDefinition (Body : Type) where
  name : String
  body : Body
  deriving DecidableEq, Repr

inductive ReactorRequest where
  | createWorkflowNameForStream (streamName : String) (responseChannel : ResponseChannel)
      (keepAliveChannel : KeepAliveChannel)
  deriving DecidableEq, Repr

inductive WorkflowManagerEvent where
  | workflowManagerRegistered (channel : ManagerHandle)
  deriving DecidableEq, Repr

inductive WorkflowManagerRequestOperation (Body : Type) where
  | upsertWorkflow (definition : WorkflowDefinition Body)
  | stopWorkflow (name : String)
  deriving DecidableEq, Repr

structure WorkflowManagerRequest (Body : Type) where
  requestId : String
  operation : WorkflowManagerRequestOperation Body
  deriving DecidableEq, Repr

/-- What a future of the loop completes with. The receivers that `RequestReceived` and
`WorkflowManagerEventReceived` hand back are implicit: the loop re-arms them by pushing the
waiting future again. -/
inductive FutureResult (Body : Type) where
  | allRequestConsumersGone
  | eventHubGone
  | workflowManagerGone
  | requestReceived (request : ReactorRequest)
  | executorResponseReceived (streamName : String) (workflow : Option (WorkflowDefinition Body))
      (keepAliveChannel : KeepAliveChannel)
  | workflowManagerEventReceived (event : WorkflowManagerEvent)
  | keepAliveChannelClosed (streamName : String)
  deriving DecidableEq, Repr

/-- The futures in `Actor.futures`, one constructor per async fn that builds them. -/
inductive PendingFuture where
  | waitForRequest
  | waitForExecutorResponse (streamName : String) (keepAliveChannel : KeepAliveChannel)
  | waitForWorkflowManagerEvent
  | notifyWorkflowManagerGone (sender : ManagerHandle)
  | notifyWhenKeepAliveClosed (receiver : KeepAliveChannel) (streamName : String)
  deriving DecidableEq, Repr

structure CachedWorkflow (Body : Type) where
  definition : WorkflowDefinition Body
  keepAliveCount : Nat
  deriving DecidableEq, Repr

inductive Event (Body : Type) where
  | subscribed
  | sent (handle : ManagerHandle) (stream : String) (request : WorkflowManagerRequest Body)
  | replied (channel : ResponseChannel) (response : Option String)
  | registered (handle : ManagerHandle)
  | inserted (stream : String)
  | removed (stream : String) (definition : WorkflowDefinition Body)
  deriving DecidableEq, Repr

/-- The executor's contract: the results `get_workflow(stream_name)` may resolve to. -/
def ReactorExecutor (Body : Type) : Type := String → Option (WorkflowDefinition Body) → Prop

/-- The actor's state. A `HashMap` has no order, so the maps are modelled without one: an
update of `cached_workflows` in place is an `AList.insert` of the new entry. -/
structure Actor (Body : Type) where
  name : String
  futures : List PendingFuture
  activeRequests : String → Option ResponseChannel
  workflowManager : Option ManagerHandle
  cachedWorkflows : AList (fun _ : String => CachedWorkflow Body)
  log : List (Event Body)

def streamRequestId (name streamName : String) : String :=
  "reactor_" ++ name ++ "_stream_" ++ streamName

def cacheCatchupRequestId (name : String) : String :=
  "reactor_" ++ name ++ "_cache_catchup"

def fromReactor : String := "from_reactor"

variable {Body : Type}

namespace Actor

/-- `Actor::new`: wait for requests, subscribe to workflow manager events and wait for them. -/
def new (name : String) : Actor Body where
  name := name
  futures := [.waitForRequest, .waitForWorkflowManagerEvent]
  activeRequests := fun _ => none
  workflowManager := none
  cachedWorkflows := ∅
  log := [.subscribed]

section
variable (actor : Actor Body)

def push (future : PendingFuture) : Actor Body :=
  { actor with futures := actor.futures ++ [future] }

@[simp] theorem push_futures (future : PendingFuture) :
    (actor.push future).futures = actor.futures ++ [future] := rfl
@[simp] theorem push_activeRequests (future : PendingFuture) :
    (actor.push future).activeRequests = actor.activeRequests := rfl
@[simp] theorem push_workflowManager (future : PendingFuture) :
    (actor.push future).workflowManager = actor.workflowManager := rfl
@[simp] theorem push_cachedWorkflows (future : PendingFuture) :
    (actor.push future).cachedWorkflows = actor.cachedWorkflows := rfl
@[simp] theorem push_log (future : PendingFuture) : (actor.push future).log = actor.log := rfl
@[simp] theorem push_name (future : PendingFuture) : (actor.push future).name = actor.name := rfl

/-- `futures.next()` handing out `future`: it leaves the set. -/
def take (future : PendingFuture) : Actor Body :=
  { actor with futures := actor.futures.erase future }

@[simp] theorem take_futures (future : PendingFuture) :
    (actor.take future).futures = actor.futures.erase future := rfl
@[simp] theorem take_activeRequests (future : PendingFuture) :
    (actor.take future).activeRequests = actor.activeRequests := rfl
@[simp] theorem take_workflowManager (future : PendingFuture) :
    (actor.take future).workflowManager = actor.workflowManager := rfl
@[simp] theorem take_cachedWorkflows (future : PendingFuture) :
    (actor.take future).cachedWorkflows = actor.cachedWorkflows := rfl
@[simp] theorem take_log (future : PendingFuture) : (actor.take future).log = actor.log := rfl
@[simp] theorem take_name (future : PendingFuture) : (actor.take future).name = actor.name := rfl

def emit (events : List (Event Body)) : Actor Body :=
  { actor with log := actor.log ++ events }

@[simp] theorem emit_futures (events : List (Event Body)) :
    (actor.emit events).futures = actor.futures := rfl
@[simp] theorem emit_activeRequests (events : List (Event Body)) :
    (actor.emit events).activeRequests = actor.activeRequests := rfl
@[simp] theorem emit_workflowManager (events : List (Event Body)) :
    (actor.emit events).workflowManager = actor.workflowManager := rfl
@[simp] theorem emit_cachedWorkflows (events : List (Event Body)) :
    (actor.emit events).cachedWorkflows = actor.cachedWorkflows := rfl
@[simp] theorem emit_log (events : List (Event Body)) :
    (actor.emit events).log = actor.log ++ events := rfl
@[simp] theorem emit_name (events : List (Event Body)) :
    (actor.emit events).name = actor.name := rfl

/-- A send on the current manager handle, dropped while there is none. -/
def sendToManager (streamName : String) (request : WorkflowManagerRequest Body) :
    List (Event Body) :=
  match actor.workflowManager with
  | some manager => [.sent manager streamName request]
  | none => []

end

@[simp] theorem sendToManager_of_none {actor : Actor Body} (none : actor.workflowManager = none)
    (streamName : String) (request : WorkflowManagerRequest Body) :
    actor.sendToManager streamName request = [] := by
  simp [sendToManager, none]

@[simp] theorem sendToManager_of_some {actor : Actor Body} {manager : ManagerHandle}
    (current : actor.workflowManager = some manager) (streamName : String)
    (request : WorkflowManagerRequest Body) :
    actor.sendToManager streamName request = [.sent manager streamName request] := by
  simp [sendToManager, current]

def handleRequest (actor : Actor Body) : ReactorRequest → Actor Body
  | .createWorkflowNameForStream streamName responseChannel keepAliveChannel =>
    { actor with
      activeRequests := Function.update actor.activeRequests streamName (some responseChannel) }
      |>.push (.waitForExecutorResponse streamName keepAliveChannel)

/-- The cache update of `handle_executor_response`: replace the definition and count one more
keep-alive, or insert the stream with a count of one. -/
def bump (cachedWorkflows : AList (fun _ : String => CachedWorkflow Body)) (streamName : String)
    (workflow : WorkflowDefinition Body) : AList (fun _ : String => CachedWorkflow Body) :=
  match cachedWorkflows.lookup streamName with
  | some cache => cachedWorkflows.insert streamName
      { cache with definition := workflow, keepAliveCount := cache.keepAliveCount + 1 }
  | none => cachedWorkflows.insert streamName ⟨workflow, 1⟩

section
variable (cachedWorkflows : AList (fun _ : String => CachedWorkflow Body)) (streamName : String)
  (workflow : WorkflowDefinition Body)

@[simp] theorem bump_lookup_self :
    (bump cachedWorkflows streamName workflow).lookup streamName =
      some ⟨workflow, ((cachedWorkflows.lookup streamName).map (·.keepAliveCount)).getD 0 + 1⟩ := by
  unfold bump
  split <;> rename_i found <;> simp [found]

@[simp] theorem bump_lookup_ne {other : String} (different : other ≠ streamName) :
    (bump cachedWorkflows streamName workflow).lookup other = cachedWorkflows.lookup other := by
  unfold bump
  split <;> simp [different]

@[simp] theorem mem_bump (other : String) :
    other ∈ bump cachedWorkflows streamName workflow ↔ other = streamName ∨ other ∈ cachedWorkflows := by
  unfold bump
  split <;> simp

end

def handleExecutorResponse (actor : Actor Body) (streamName : String)
    (workflow : Option (WorkflowDefinition Body)) (keepAliveChannel : KeepAliveChannel) :
    Actor Body :=
  match actor.activeRequests streamName with
  | none => actor
  | some channel =>
    let actor := { actor with
      activeRequests := Function.update actor.activeRequests streamName none }
    match workflow with
    | some workflow =>
      let actor : Actor Body := { actor with
        cachedWorkflows := bump actor.cachedWorkflows streamName workflow
        log := actor.log ++
          if streamName ∈ actor.cachedWorkflows then [] else [Event.inserted streamName] }
      let actor := actor.push (.notifyWhenKeepAliveClosed keepAliveChannel streamName)
      actor.emit (actor.sendToManager streamName
          ⟨streamRequestId actor.name streamName, .upsertWorkflow workflow⟩ ++
        [.replied channel (some workflow.name)])
    | none => actor.emit [.replied channel none]

/-- The loop of `handle_workflow_manager_event` over `cached_workflows.values()`: one catch-up
upsert of each cached definition, sent on the new handle. -/
def catchUp (actor : Actor Body) (channel : ManagerHandle) : List (Event Body) :=
  actor.cachedWorkflows.entries.map fun entry =>
    .sent channel entry.1 ⟨cacheCatchupRequestId actor.name, .upsertWorkflow entry.2.definition⟩

def handleWorkflowManagerEvent (actor : Actor Body) : WorkflowManagerEvent → Actor Body
  | .workflowManagerRegistered channel =>
    let actor := actor.push (.notifyWorkflowManagerGone channel)
    { actor with
      log := actor.log ++ .registered channel :: actor.catchUp channel
      workflowManager := some channel }

def handleKeepAliveClosed (actor : Actor Body) (streamName : String) : Actor Body :=
  match actor.cachedWorkflows.lookup streamName with
  | none => actor
  | some cache =>
    let keepAliveCount := cache.keepAliveCount - 1
    if keepAliveCount = 0 then
      let actor := actor.emit (actor.sendToManager streamName
        ⟨fromReactor, .stopWorkflow cache.definition.name⟩)
      { actor with
        cachedWorkflows := actor.cachedWorkflows.erase streamName
        log := actor.log ++ [.removed streamName cache.definition] }
    else
      { actor with
        cachedWorkflows := actor.cachedWorkflows.insert streamName
          { cache with keepAliveCount := keepAliveCount } }

/-- One arm of `Actor::run`'s loop on the result `futures.next()` produced; `none` is `break`. -/
def turn (actor : Actor Body) : FutureResult Body → Option (Actor Body)
  | .allRequestConsumersGone => none
  | .eventHubGone => none
  | .workflowManagerGone => none
  | .keepAliveChannelClosed streamName => some (actor.handleKeepAliveClosed streamName)
  | .requestReceived request => some ((actor.push .waitForRequest).handleRequest request)
  | .executorResponseReceived streamName workflow keepAliveChannel =>
    some (actor.handleExecutorResponse streamName workflow keepAliveChannel)
  | .workflowManagerEventReceived event =>
    some ((actor.push .waitForWorkflowManagerEvent).handleWorkflowManagerEvent event)

end Actor

end Mmids.Reactors
