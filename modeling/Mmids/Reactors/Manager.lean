import Mathlib.Data.Finset.Basic
import Mmids.Reactors.Futures

/-! The workflow manager handle. A registration arms a `notify_workflow_manager_gone` future that
stays pending for as long as the loop runs, and the loop breaks when any of them completes, the
superseded handles' included. While a handle is current, the workflow names it has been told to
run since its registration are the cached ones, for executors that name workflows by stream. -/

set_option autoImplicit false

namespace Mmids.Reactors

variable {Body : Type} {executor : ReactorExecutor Body}

def Event.registration : Event Body → Option ManagerHandle
  | .registered handle => some handle
  | _ => none

/-- The handles delivered by `WorkflowManagerRegistered`, in order. -/
def registrations (log : List (Event Body)) : List ManagerHandle :=
  log.filterMap Event.registration

@[simp] theorem registrations_nil : registrations ([] : List (Event Body)) = [] := rfl

@[simp] theorem registrations_cons (event : Event Body) (log : List (Event Body)) :
    registrations (event :: log) = event.registration.toList ++ registrations log := by
  cases found : event.registration <;> simp [registrations, List.filterMap_cons, found]

@[simp] theorem registrations_append (log log' : List (Event Body)) :
    registrations (log ++ log') = registrations log ++ registrations log' :=
  List.filterMap_append _ _ _

@[simp] theorem registrations_sendToManager (actor : Actor Body) (streamName : String)
    (request : WorkflowManagerRequest Body) :
    registrations (actor.sendToManager streamName request) = [] := by
  unfold Actor.sendToManager; split <;> rfl

@[simp] theorem registrations_catchUp (actor : Actor Body) (channel : ManagerHandle) :
    registrations (actor.catchUp channel) = [] := by
  simp [Actor.catchUp, registrations, List.filterMap_map, Function.comp_def, Event.registration]

/-! ## Manager-gone signals -/

/-- Each registration of a handle arms one manager-gone future for it, and no turn that goes on
consumes one. -/
theorem manager_gone_armed {actor : Actor Body} (reachable : Reachable executor actor)
    (handle : ManagerHandle) :
    actor.futures.count (.notifyWorkflowManagerGone handle) =
      (registrations actor.log).count handle := by
  refine Reachable.invariant (fun _ => by simp [Actor.new, Event.registration]) ?request ?response
    ?event ?closed reachable
  case request =>
    rintro actor streamName channel keepAlive - armed -
    simpa using armed
  case response =>
    rintro actor streamName workflow keepAlive - armed - -
    cases active : (actor.take (.waitForExecutorResponse streamName keepAlive)).activeRequests
      streamName with
    | none =>
      rw [Actor.handleExecutorResponse_of_inactive _ active]
      simpa using armed
    | some channel =>
      cases workflow with
      | none => simpa [active, Event.registration] using armed
      | some workflow =>
        rw [Actor.handleExecutorResponse_some_log _ active, Actor.handleExecutorResponse_futures]
        split_ifs <;> simpa [Event.registration] using armed
  case event =>
    rintro actor channel - armed -
    rw [Actor.handleWorkflowManagerEvent_log]
    by_cases same : handle = channel
    · subst same; simpa [Event.registration] using armed
    · simpa [Event.registration, same, Ne.symm same] using armed
  case closed =>
    rintro actor receiver streamName - armed -
    cases found : (actor.take (.notifyWhenKeepAliveClosed receiver streamName)).cachedWorkflows.lookup
      streamName with
    | none =>
      rw [Actor.handleKeepAliveClosed_of_uncached _ _ found]
      simpa using armed
    | some cache =>
      by_cases last : cache.keepAliveCount - 1 = 0
      · rw [Actor.handleKeepAliveClosed_futures, (Actor.handleKeepAliveClosed_of_last found last).2]
        simpa [Event.registration] using armed
      · rw [Actor.handleKeepAliveClosed_futures, (Actor.handleKeepAliveClosed_of_remaining found last).2]
        simpa using armed

/-- Every handle ever registered, the current one or a superseded one, keeps a pending
manager-gone future, and whatever it completes with, `Actor::run` breaks out of its loop: the
actor ends, and no request, executor response, keep-alive closure or registration is handled
after. -/
theorem workflow_manager_gone_ends_run {actor : Actor Body} (reachable : Reachable executor actor)
    {handle : ManagerHandle} (registered : handle ∈ registrations actor.log) :
    .notifyWorkflowManagerGone handle ∈ actor.futures ∧
      ∀ result, Completes executor (.notifyWorkflowManagerGone handle) result →
        (actor.take (.notifyWorkflowManagerGone handle)).turn result = none := by
  refine ⟨?_, fun result completes => ?_⟩
  · rw [← List.count_pos_iff, manager_gone_armed reachable]
    exact List.count_pos_iff.mpr registered
  · cases completes
    rfl

theorem managed_gone_ends_run :
    .notifyWorkflowManagerGone ⟨1⟩ ∈ managed.futures ∧
      ∀ result, Completes anyResult (.notifyWorkflowManagerGone ⟨1⟩) result →
        (managed.take (.notifyWorkflowManagerGone ⟨1⟩)).turn result = none :=
  workflow_manager_gone_ends_run managed_reachable (by decide)

/-- A manager-gone signal does not leave the loop running: after the registration of
`managed`, its completion has no next state. -/
theorem manager_gone_keeps_running_fails :
    ¬ ∀ actor : Actor Unit, Reachable anyResult actor → ∀ handle,
      .notifyWorkflowManagerGone handle ∈ actor.futures →
      ∃ next, (actor.take (.notifyWorkflowManagerGone handle)).turn .workflowManagerGone = some next := by
  intro survives
  obtain ⟨next, turned⟩ := survives managed managed_reachable ⟨1⟩ (by decide)
  cases turned

/-! ## What a current manager has been told to run -/

def Event.sentOn (handle : ManagerHandle) : Event Body → Option (WorkflowManagerRequestOperation Body)
  | .sent handle' _ request => if handle' = handle then some request.operation else none
  | _ => none

def operationsOn (handle : ManagerHandle) (log : List (Event Body)) :
    List (WorkflowManagerRequestOperation Body) :=
  log.filterMap (Event.sentOn handle)

@[simp] theorem operationsOn_nil (handle : ManagerHandle) :
    operationsOn handle ([] : List (Event Body)) = [] := rfl

@[simp] theorem operationsOn_cons (handle : ManagerHandle) (event : Event Body)
    (log : List (Event Body)) :
    operationsOn handle (event :: log) = (event.sentOn handle).toList ++ operationsOn handle log := by
  cases found : event.sentOn handle <;> simp [operationsOn, List.filterMap_cons, found]

@[simp] theorem operationsOn_append (handle : ManagerHandle) (log log' : List (Event Body)) :
    operationsOn handle (log ++ log') = operationsOn handle log ++ operationsOn handle log' :=
  List.filterMap_append _ _ _

/-- The workflow names a manager runs once it has applied `operations` in order, starting from
`running`: an upsert adds the definition's name, a stop removes the name. -/
def replay (running : Finset String) : List (WorkflowManagerRequestOperation Body) → Finset String
  | [] => running
  | .upsertWorkflow definition :: rest => replay (insert definition.name running) rest
  | .stopWorkflow name :: rest => replay (running.erase name) rest

theorem replay_append (running : Finset String)
    (operations operations' : List (WorkflowManagerRequestOperation Body)) :
    replay running (operations ++ operations') = replay (replay running operations) operations' := by
  induction operations generalizing running with
  | nil => rfl
  | cons operation rest ih => cases operation <;> exact ih _

theorem replay_upserts (running : Finset String) (definitions : List (WorkflowDefinition Body)) :
    replay running (definitions.map .upsertWorkflow) =
      running ∪ (definitions.map (·.name)).toFinset := by
  induction definitions generalizing running with
  | nil => simp [replay]
  | cons definition rest ih =>
    simp only [List.map_cons, replay, ih, List.toFinset_cons]
    ext name; simp [or_left_comm]

def cachedNames (cachedWorkflows : AList (fun _ : String => CachedWorkflow Body)) : Finset String :=
  (cachedWorkflows.entries.map (·.2.definition.name)).toFinset

section
variable {cachedWorkflows : AList (fun _ : String => CachedWorkflow Body)}

theorem mem_cachedNames {name : String} :
    name ∈ cachedNames cachedWorkflows ↔ ∃ streamName cache,
      cachedWorkflows.lookup streamName = some cache ∧ cache.definition.name = name := by
  simp only [cachedNames, List.mem_toFinset, List.mem_map]
  exact ⟨fun ⟨entry, member, named⟩ => ⟨entry.1, entry.2, AList.mem_lookup_iff.mpr member, named⟩,
    fun ⟨streamName, cache, found, named⟩ =>
      ⟨⟨streamName, cache⟩, AList.mem_lookup_iff.mp found, named⟩⟩

theorem cachedNames_bump {streamName : String} {workflow : WorkflowDefinition Body}
    (renamed : ∀ cache, cachedWorkflows.lookup streamName = some cache →
      cache.definition.name = workflow.name) :
    cachedNames (Actor.bump cachedWorkflows streamName workflow) =
      insert workflow.name (cachedNames cachedWorkflows) := by
  ext name
  simp only [mem_cachedNames, Finset.mem_insert]
  constructor
  · rintro ⟨other, cache, found, rfl⟩
    by_cases same : other = streamName
    · subst same; simp at found; simp [← found]
    · exact .inr ⟨other, cache, by simpa [same] using found, rfl⟩
  · rintro (rfl | ⟨other, cache, found, rfl⟩)
    · exact ⟨streamName, _, Actor.bump_lookup_self _ _ _, rfl⟩
    · by_cases same : other = streamName
      · subst same; exact ⟨other, _, Actor.bump_lookup_self _ _ _, (renamed cache found).symm⟩
      · exact ⟨other, cache, by simpa [same] using found, rfl⟩

theorem cachedNames_insert_of_lookup {streamName : String} {cache : CachedWorkflow Body}
    (found : cachedWorkflows.lookup streamName = some cache) (keepAliveCount : Nat) :
    cachedNames (cachedWorkflows.insert streamName { cache with keepAliveCount := keepAliveCount }) =
      cachedNames cachedWorkflows := by
  ext name
  simp only [mem_cachedNames]
  constructor
  · rintro ⟨other, cache', found', rfl⟩
    by_cases same : other = streamName
    · subst same; simp at found'; exact ⟨other, cache, found, by simp [← found']⟩
    · exact ⟨other, cache', by simpa [same] using found', rfl⟩
  · rintro ⟨other, cache', found', rfl⟩
    by_cases same : other = streamName
    · subst same
      rw [found] at found'; cases found'
      exact ⟨other, _, AList.lookup_insert _, rfl⟩
    · exact ⟨other, cache', by simpa [same] using found', rfl⟩

theorem cachedNames_erase {streamName : String} {cache : CachedWorkflow Body}
    (found : cachedWorkflows.lookup streamName = some cache)
    (alone : ∀ other cache', cachedWorkflows.lookup other = some cache' → other ≠ streamName →
      cache'.definition.name ≠ cache.definition.name) :
    cachedNames (cachedWorkflows.erase streamName) =
      (cachedNames cachedWorkflows).erase cache.definition.name := by
  ext name
  simp only [mem_cachedNames, Finset.mem_erase]
  constructor
  · rintro ⟨other, cache', found', rfl⟩
    have same : other ≠ streamName := by rintro rfl; simp at found'
    rw [AList.lookup_erase_ne same] at found'
    exact ⟨alone other cache' found' same, other, cache', found', rfl⟩
  · rintro ⟨different, other, cache', found', rfl⟩
    have same : other ≠ streamName := by rintro rfl; rw [found] at found'; cases found'; exact different rfl
    exact ⟨other, cache', by rwa [AList.lookup_erase_ne same], rfl⟩

end

/-- The events since the latest registration, all of them while there was none. -/
def sinceRegistration (log : List (Event Body)) : List (Event Body) :=
  log.foldl (fun since event => if event.registration.isSome then [] else since ++ [event]) []

theorem foldl_since_of_unregistered (since events : List (Event Body))
    (unregistered : registrations events = []) :
    events.foldl (fun since event => if event.registration.isSome then [] else since ++ [event])
      since = since ++ events := by
  induction events generalizing since with
  | nil => simp
  | cons event rest ih =>
    cases found : event.registration with
    | none => simp_all
    | some handle => simp [found] at unregistered

theorem sinceRegistration_append {events : List (Event Body)} (log : List (Event Body))
    (unregistered : registrations events = []) :
    sinceRegistration (log ++ events) = sinceRegistration log ++ events := by
  rw [sinceRegistration, List.foldl_append, foldl_since_of_unregistered _ _ unregistered]; rfl

theorem sinceRegistration_registered {events : List (Event Body)} (log : List (Event Body))
    (handle : ManagerHandle) (unregistered : registrations events = []) :
    sinceRegistration (log ++ .registered handle :: events) = events := by
  rw [sinceRegistration, List.foldl_append, List.foldl_cons,
    foldl_since_of_unregistered _ _ unregistered]
  simp [Event.registration]

@[simp] theorem operationsOn_sendToManager (handle : ManagerHandle) (actor : Actor Body)
    (streamName : String) (request : WorkflowManagerRequest Body) :
    operationsOn handle (actor.sendToManager streamName request) =
      if actor.workflowManager = some handle then [request.operation] else [] := by
  cases current : actor.workflowManager with
  | none => simp [Actor.sendToManager, current]
  | some manager =>
    by_cases same : manager = handle <;> simp [Actor.sendToManager, current, Event.sentOn, same]

@[simp] theorem operationsOn_catchUp (actor : Actor Body) (channel : ManagerHandle) :
    operationsOn channel (actor.catchUp channel) =
      (actor.cachedWorkflows.entries.map (·.2.definition)).map .upsertWorkflow := by
  simp only [Actor.catchUp, operationsOn, List.filterMap_map, List.map_map]
  induction actor.cachedWorkflows.entries <;> simp_all [Event.sentOn]

/-- Every cached definition is one the executor resolved its stream to. -/
theorem cached_definition_resolved {actor : Actor Body} (reachable : Reachable executor actor) :
    ∀ streamName cache, actor.cachedWorkflows.lookup streamName = some cache →
      executor streamName (some cache.definition) := by
  refine Reachable.invariant (fun _ => by simp [Actor.new]) ?request ?response ?event ?closed
    reachable
  case request =>
    rintro actor streamName channel keepAlive - resolved - other cache found
    exact resolved other cache (by simpa using found)
  case response =>
    rintro actor streamName workflow keepAlive - resolved - resolves other cache found
    cases active : (actor.take (.waitForExecutorResponse streamName keepAlive)).activeRequests
      streamName with
    | none =>
      rw [Actor.handleExecutorResponse_of_inactive _ active] at found
      exact resolved other cache found
    | some channel =>
      cases workflow with
      | none => exact resolved other cache (by simpa [active] using found)
      | some workflow =>
        rw [Actor.handleExecutorResponse_some_cachedWorkflows _ active] at found
        by_cases same : other = streamName
        · subst same; simp at found; simpa [← found] using resolves
        · exact resolved other cache (by simpa [same] using found)
  case event =>
    rintro actor channel - resolved - other cache found
    exact resolved other cache (by simpa using found)
  case closed =>
    rintro actor receiver streamName - resolved - other cache found
    by_cases same : other = streamName
    · subst same
      cases found' : (actor.take (.notifyWhenKeepAliveClosed receiver other)).cachedWorkflows.lookup
        other with
      | none =>
        rw [Actor.handleKeepAliveClosed_of_uncached _ _ found'] at found
        exact resolved other cache found
      | some cache' =>
        by_cases last : cache'.keepAliveCount - 1 = 0
        · simp [(Actor.handleKeepAliveClosed_of_last found' last).1] at found
        · rw [(Actor.handleKeepAliveClosed_of_remaining found' last).1] at found
          simp only [AList.lookup_insert, Option.some.injEq] at found
          simpa [← found] using resolved other cache' found'
    · exact resolved other cache (by simpa [same] using found)

section
variable {workflowName : String → String}
  (named : ∀ streamName definition, executor streamName (some definition) →
    definition.name = workflowName streamName)
include named

theorem cached_name_eq {actor : Actor Body} (reachable : Reachable executor actor)
    {streamName : String} {cache : CachedWorkflow Body}
    (found : actor.cachedWorkflows.lookup streamName = some cache) :
    cache.definition.name = workflowName streamName :=
  named _ _ (cached_definition_resolved reachable streamName cache found)

end

/-! `namedResolved`: workflow manager 1 registers with `r1`, which then resolves `camA` to the
workflow `camA`, for an executor that names each stream's workflow after it. `sharedResolved`:
`managed` once `camB` is requested and resolved to a workflow also named `wfA`. -/

def namedAfterStream : ReactorExecutor Unit := fun streamName workflow =>
  ∀ definition ∈ workflow, definition.name = streamName

def namedRegistered : Actor Unit :=
  (((Actor.new "r1").take .waitForWorkflowManagerEvent).push .waitForWorkflowManagerEvent)
    |>.handleWorkflowManagerEvent (.workflowManagerRegistered ⟨1⟩)

def namedRequested : Actor Unit :=
  ((namedRegistered.take .waitForRequest).push .waitForRequest).handleRequest
    (.createWorkflowNameForStream "camA" ⟨1⟩ ⟨1⟩)

def namedResolved : Actor Unit :=
  (namedRequested.take (.waitForExecutorResponse "camA" ⟨1⟩)).handleExecutorResponse "camA"
    (some ⟨"camA", ()⟩) ⟨1⟩

theorem namedResolved_reachable : Reachable namedAfterStream namedResolved :=
  .step (.step (.step (.new "r1") (.turn (by decide) (.workflowManagerEventReceived _) rfl))
    (.turn (by decide) (.requestReceived _) rfl))
    (.turn (by decide) (.executorResponseReceived fun _ found => by cases found; rfl) rfl)

def sharedRequested : Actor Unit :=
  ((managed.take .waitForRequest).push .waitForRequest).handleRequest
    (.createWorkflowNameForStream "camB" ⟨2⟩ ⟨2⟩)

def sharedResolved : Actor Unit :=
  (sharedRequested.take (.waitForExecutorResponse "camB" ⟨2⟩)).handleExecutorResponse
    "camB" (some ⟨"wfA", ()⟩) ⟨2⟩

/-- Two streams resolved to workflows of one name: when the first is released, the stop removes
the name from what the manager runs while the second stream still caches it. -/
def sharedNameReleased : Actor Unit :=
  (sharedResolved.take (.notifyWhenKeepAliveClosed ⟨1⟩ "camA")).handleKeepAliveClosed "camA"

theorem sharedNameReleased_reachable : Reachable anyResult sharedNameReleased :=
  .step (.step (.step managed_reachable (.turn (by decide) (.requestReceived _) rfl))
    (.turn (by decide) (.executorResponseReceived trivial) rfl))
    (.turn (by decide) (.keepAliveChannelClosed _ _) rfl)

end Mmids.Reactors
