import Mmids.Reactors.Manager

/-! What the reactor sends a workflow manager. Each request is one of the three of the source,
with its request id, about a definition the executor resolved for the stream. -/

set_option autoImplicit false

namespace Mmids.Reactors

variable {Body : Type} {executor : ReactorExecutor Body}

theorem mem_sendToManager {actor : Actor Body} {handle : ManagerHandle}
    {streamName other : String} {request request' : WorkflowManagerRequest Body}
    (member : .sent handle streamName request ∈ actor.sendToManager other request') :
    actor.workflowManager = some handle ∧ streamName = other ∧ request = request' := by
  unfold Actor.sendToManager at member
  split at member <;> simp_all

theorem mem_catchUp {actor : Actor Body} {channel handle : ManagerHandle} {streamName : String}
    {request : WorkflowManagerRequest Body}
    (member : .sent handle streamName request ∈ actor.catchUp channel) :
    handle = channel ∧ ∃ cache, actor.cachedWorkflows.lookup streamName = some cache ∧
      request = ⟨cacheCatchupRequestId actor.name, .upsertWorkflow cache.definition⟩ := by
  obtain ⟨entry, listed, same⟩ := List.mem_map.mp member
  simp only [Event.sent.injEq] at same
  obtain ⟨rfl, rfl, rfl⟩ := same
  exact ⟨rfl, entry.2, AList.mem_lookup_iff.mpr listed, rfl⟩

/-! ## What one turn appends to the log -/

/-- What a turn of the loop from `actor` to `next` appends to the log: requests that are each the
upsert answering an executor response or the stop of a release, or a registration followed by its
catch-up. -/
structure Appended (executor : ReactorExecutor Body) (actor next : Actor Body)
    (added : List (Event Body)) : Prop where
  logged : next.log = actor.log ++ added
  named : next.name = actor.name
  sends : (∀ handle streamName request, .sent handle streamName request ∈ added →
      ∃ definition, executor streamName (some definition) ∧
        (request = ⟨streamRequestId actor.name streamName, .upsertWorkflow definition⟩ ∨
          request = ⟨fromReactor, .stopWorkflow definition.name⟩)) ∨
    ∃ channel, added = .registered channel :: actor.catchUp channel

theorem Appended.of_take {actor next : Actor Body} {future : PendingFuture}
    {added : List (Event Body)} (appended : Appended executor (actor.take future) next added) :
    Appended executor actor next added :=
  ⟨appended.logged, appended.named, appended.sends⟩

theorem Appended.unchanged {actor next : Actor Body} (logged : next.log = actor.log)
    (named : next.name = actor.name) : Appended executor actor next [] :=
  ⟨by simp [logged], named, .inl (by simp)⟩

theorem Appended.handleExecutorResponse (actor : Actor Body) {streamName : String}
    {workflow : Option (WorkflowDefinition Body)} (resolves : executor streamName workflow)
    (keepAlive : KeepAliveChannel) :
    ∃ added, Appended executor actor (actor.handleExecutorResponse streamName workflow keepAlive)
      added := by
  cases active : actor.activeRequests streamName with
  | none =>
    rw [Actor.handleExecutorResponse_of_inactive _ active]
    exact ⟨[], .unchanged rfl rfl⟩
  | some channel =>
    cases workflow with
    | none => exact ⟨_, Actor.handleExecutorResponse_none_log _ active, by simp, .inl (by simp)⟩
    | some workflow =>
      refine ⟨_, ((Actor.handleExecutorResponse_some_log _ active workflow).trans
        (List.append_assoc _ _ _)).trans (List.append_assoc _ _ _), by simp, .inl ?_⟩
      intro handle other request member
      simp only [List.mem_append, List.mem_singleton, reduceCtorEq, or_false] at member
      rcases member with inserted | upsert
      · split_ifs at inserted <;> simp at inserted
      · obtain ⟨-, rfl, rfl⟩ := mem_sendToManager upsert
        exact ⟨workflow, resolves, .inl rfl⟩

theorem Appended.handleKeepAliveClosed (actor : Actor Body)
    (resolved : ∀ streamName cache, actor.cachedWorkflows.lookup streamName = some cache →
      executor streamName (some cache.definition))
    (streamName : String) :
    ∃ added, Appended executor actor (actor.handleKeepAliveClosed streamName) added := by
  cases found : actor.cachedWorkflows.lookup streamName with
  | none =>
    rw [Actor.handleKeepAliveClosed_of_uncached _ _ found]
    exact ⟨[], .unchanged rfl rfl⟩
  | some cache =>
    by_cases last : cache.keepAliveCount - 1 = 0
    · refine ⟨_, (Actor.handleKeepAliveClosed_of_last found last).2.trans (List.append_assoc _ _ _),
        by simp, .inl ?_⟩
      intro handle other request member
      simp only [List.mem_append, List.mem_singleton, reduceCtorEq, or_false] at member
      obtain ⟨-, rfl, rfl⟩ := mem_sendToManager member
      exact ⟨cache.definition, resolved _ cache found, .inr rfl⟩
    · exact ⟨[], .unchanged (Actor.handleKeepAliveClosed_of_remaining found last).2 (by simp)⟩

/-- Every turn that does not break appends to the log as `Appended` says. -/
theorem Reachable.appended {actor next : Actor Body} (reachable : Reachable executor actor)
    (step : Step executor actor next) : ∃ added, Appended executor actor next added := by
  obtain ⟨member, completes, turned⟩ := step
  cases completes with
  | requestReceived request =>
    obtain ⟨streamName, channel, keepAlive⟩ := request
    cases Option.some.inj turned
    exact ⟨[], .unchanged rfl rfl⟩
  | executorResponseReceived resolves =>
    cases Option.some.inj turned
    obtain ⟨added, appended⟩ := Appended.handleExecutorResponse (actor.take _) resolves _
    exact ⟨added, appended.of_take⟩
  | workflowManagerEventReceived event =>
    obtain ⟨channel⟩ := event
    cases Option.some.inj turned
    exact ⟨_, Actor.handleWorkflowManagerEvent_log _ channel, rfl, .inr ⟨channel, rfl⟩⟩
  | keepAliveChannelClosed receiver streamName =>
    cases Option.some.inj turned
    have resolved : ∀ streamName cache,
        (actor.take (.notifyWhenKeepAliveClosed receiver streamName)).cachedWorkflows.lookup
          streamName = some cache → executor streamName (some cache.definition) :=
      cached_definition_resolved reachable
    obtain ⟨added, appended⟩ :=
      Appended.handleKeepAliveClosed (actor.take (.notifyWhenKeepAliveClosed receiver streamName))
        resolved streamName
    exact ⟨added, appended.of_take⟩
  | allRequestConsumersGone | eventHubGone | workflowManagerGone => cases turned

/-- Every request the reactor has sent a manager about a stream is one of its three: the upsert
answering an executor response, the catch-up upsert of a registration, or the stop of a release,
each with its request id and about a definition the executor resolved for that stream. -/
theorem sent_requests_resolved {actor : Actor Body} (reachable : Reachable executor actor) :
    ∀ handle streamName request, .sent handle streamName request ∈ actor.log →
      ∃ definition, executor streamName (some definition) ∧
        (request = ⟨streamRequestId actor.name streamName, .upsertWorkflow definition⟩ ∨
          request = ⟨cacheCatchupRequestId actor.name, .upsertWorkflow definition⟩ ∨
          request = ⟨fromReactor, .stopWorkflow definition.name⟩) := by
  induction reachable with
  | new name => simp [Actor.new]
  | step reachable step ih =>
    obtain ⟨added, ⟨logged, named, sends⟩⟩ := reachable.appended step
    intro handle streamName request member
    rw [logged, List.mem_append] at member
    rw [named]
    rcases member with old | new
    · exact ih handle streamName request old
    rcases sends with sends | ⟨channel, rfl⟩
    · obtain ⟨definition, resolves, request_eq⟩ := sends handle streamName request new
      exact ⟨definition, resolves, request_eq.imp_right .inr⟩
    · rcases List.mem_cons.mp new with registered | caught
      · cases registered
      · obtain ⟨-, cache, found, rfl⟩ := mem_catchUp caught
        exact ⟨cache.definition, cached_definition_resolved reachable streamName cache found,
          .inr (.inl rfl)⟩

def namedUpsert : WorkflowManagerRequest Unit :=
  ⟨streamRequestId "r1" "camA", .upsertWorkflow ⟨"camA", ()⟩⟩

theorem namedResolved_sent_requests_resolved :
    ∃ definition, namedAfterStream "camA" (some definition) ∧
      (namedUpsert = ⟨streamRequestId namedResolved.name "camA", .upsertWorkflow definition⟩ ∨
        namedUpsert = ⟨cacheCatchupRequestId namedResolved.name, .upsertWorkflow definition⟩ ∨
        namedUpsert = ⟨fromReactor, .stopWorkflow definition.name⟩) :=
  sent_requests_resolved namedResolved_reachable ⟨1⟩ "camA" namedUpsert (by decide)

end Mmids.Reactors
