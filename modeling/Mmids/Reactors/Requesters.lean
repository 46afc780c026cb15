import Mmids.Reactors.Manager

/-! The requester's side of `reactors/reactor.rs`. A requester sends `CreateWorkflowNameForStream`
and waits on its response channel. What it sees, the pending table `active_requests` and the
replies sent on response channels, depends on nothing but the results the loop handled, in order:
it is a fold of `Requesters.handle` over them. A `Run` records those results; forgetting them
gives back `Reachable`. Each request of the source makes its own one-shot channel, so the results
that need it assume that no two requests received share a response channel. -/

set_option autoImplicit false

namespace Mmids.Reactors

variable {Body : Type} {executor : ReactorExecutor Body}

/-- A run of `Actor::run`'s loop from `Actor::new`, with the results `futures.next()` produced, in
order. -/
inductive Run (executor : ReactorExecutor Body) : List (FutureResult Body) → Actor Body → Prop
  | new (name : String) : Run executor [] (Actor.new name)
  | step {results : List (FutureResult Body)} {actor next : Actor Body} {future : PendingFuture}
      {result : FutureResult Body} : Run executor results actor → future ∈ actor.futures →
      Completes executor future result → (actor.take future).turn result = some next →
      Run executor (results ++ [result]) next

theorem Run.reachable {results : List (FutureResult Body)} {actor : Actor Body}
    (run : Run executor results actor) : Reachable executor actor := by
  induction run with
  | new name => exact .new name
  | step _ member completes turned ih => exact .step ih ⟨member, completes, turned⟩

/-- Recording the results changes nothing of which actors a run reaches. -/
theorem reachable_iff_run {actor : Actor Body} :
    Reachable executor actor ↔ ∃ results, Run executor results actor := by
  refine ⟨fun reachable => ?_, fun ⟨_, run⟩ => run.reachable⟩
  induction reachable with
  | new name => exact ⟨[], .new name⟩
  | step _ step ih =>
    obtain ⟨results, run⟩ := ih
    obtain ⟨member, completes, turned⟩ := step
    exact ⟨_, .step run member completes turned⟩

theorem Run.resolves {results : List (FutureResult Body)} {actor : Actor Body}
    (run : Run executor results actor) {streamName : String}
    {workflow : Option (WorkflowDefinition Body)} {keepAlive : KeepAliveChannel}
    (handled : .executorResponseReceived streamName workflow keepAlive ∈ results) :
    executor streamName workflow := by
  induction run with
  | new => cases handled
  | step _ _ completes _ ih =>
    rcases List.mem_append.mp handled with old | new
    · exact ih old
    · cases List.mem_singleton.mp new
      cases completes with
      | executorResponseReceived resolves => exact resolves

/-! ## The requests received -/

def ReactorRequest.responseChannel : ReactorRequest → ResponseChannel
  | .createWorkflowNameForStream _ responseChannel _ => responseChannel

def FutureResult.request : FutureResult Body → Option ReactorRequest
  | .requestReceived request => some request
  | _ => none

def received (results : List (FutureResult Body)) : List ReactorRequest :=
  results.filterMap FutureResult.request

@[simp] theorem received_nil : received ([] : List (FutureResult Body)) = [] := rfl

@[simp] theorem received_append (results results' : List (FutureResult Body)) :
    received (results ++ results') = received results ++ received results' :=
  List.filterMap_append _ _ _

@[simp] theorem received_cons (result : FutureResult Body) (results : List (FutureResult Body)) :
    received (result :: results) = result.request.toList ++ received results := by
  cases found : result.request <;> simp [received, List.filterMap_cons, found]

def FutureResult.pendingStream : FutureResult Body → Option String
  | .requestReceived (.createWorkflowNameForStream streamName _ _) => some streamName
  | .executorResponseReceived streamName _ _ => some streamName
  | _ => none

/-! ## What requesters see -/

/-- The pending table and the replies sent on response channels, in order. -/
structure Requesters where
  pending : String → Option ResponseChannel
  replies : List (ResponseChannel × Option String)

def Requesters.empty : Requesters := ⟨fun _ => none, []⟩

def Requesters.answer (requesters : Requesters) (streamName : String)
    (workflow : Option (WorkflowDefinition Body)) : Requesters :=
  match requesters.pending streamName with
  | some channel => ⟨Function.update requesters.pending streamName none,
      requesters.replies ++ [(channel, workflow.map WorkflowDefinition.name)]⟩
  | none => requesters

/-- One arm of the loop as requesters see it: a request records its response channel under its
stream, dropping any other; an executor response is answered. Nothing else touches either. -/
def Requesters.handle (requesters : Requesters) : FutureResult Body → Requesters
  | .requestReceived (.createWorkflowNameForStream streamName channel _) =>
    { requesters with pending := Function.update requesters.pending streamName (some channel) }
  | .executorResponseReceived streamName workflow _ => requesters.answer streamName workflow
  | _ => requesters

def Actor.requesters (actor : Actor Body) : Requesters := ⟨actor.activeRequests, replies actor.log⟩

@[simp] theorem Actor.take_requesters (actor : Actor Body) (future : PendingFuture) :
    (actor.take future).requesters = actor.requesters := rfl

theorem replies_catchUp (actor : Actor Body) (channel : ManagerHandle) :
    replies (actor.catchUp channel) = [] := by
  simp [Actor.catchUp, replies, List.filterMap_map, Function.comp_def, Event.reply]

theorem replies_handleKeepAliveClosed (actor : Actor Body) (streamName : String) :
    replies (actor.handleKeepAliveClosed streamName).log = replies actor.log := by
  cases found : actor.cachedWorkflows.lookup streamName with
  | none => rw [Actor.handleKeepAliveClosed_of_uncached _ _ found]
  | some cache =>
    by_cases last : cache.keepAliveCount - 1 = 0
    · simp [(Actor.handleKeepAliveClosed_of_last found last).2, Event.reply]
    · rw [(Actor.handleKeepAliveClosed_of_remaining found last).2]

theorem requesters_turn {actor next : Actor Body} {result : FutureResult Body}
    (turned : actor.turn result = some next) : next.requesters = actor.requesters.handle result := by
  cases result with
  | allRequestConsumersGone | eventHubGone | workflowManagerGone => cases turned
  | keepAliveChannelClosed streamName =>
    cases turned
    simp [Actor.requesters, Requesters.handle, replies_handleKeepAliveClosed]
  | requestReceived request =>
    obtain ⟨streamName, channel, keepAlive⟩ := request
    cases turned
    simp [Actor.requesters, Requesters.handle]
  | workflowManagerEventReceived event =>
    obtain ⟨channel⟩ := event
    cases turned
    simp [Actor.requesters, Requesters.handle, Actor.handleWorkflowManagerEvent_log, replies_catchUp,
      Event.reply]
  | executorResponseReceived streamName workflow keepAlive =>
    cases turned
    cases active : actor.activeRequests streamName with
    | none => simp [Actor.handleExecutorResponse_of_inactive _ active, Actor.requesters,
        Requesters.handle, Requesters.answer, active]
    | some channel =>
      cases workflow with
      | none => simp [Actor.requesters, Requesters.handle, Requesters.answer, active, Event.reply]
      | some workflow =>
        simp [Actor.requesters, Requesters.handle, Requesters.answer, active,
          Actor.handleExecutorResponse_some_log _ active, Event.reply]
        split_ifs <;> simp [Event.reply]

/-- Over every run, the pending table and the replies are the fold of `Requesters.handle` over
the results handled: the request path reads nothing of the cache, the manager handle or the
futures set. -/
theorem Run.requesters_eq {results : List (FutureResult Body)} {actor : Actor Body}
    (run : Run executor results actor) :
    actor.requesters = results.foldl Requesters.handle Requesters.empty := by
  induction run with
  | new name => rfl
  | step _ _ _ turned ih =>
    rw [requesters_turn turned, Actor.take_requesters, ih, List.foldl_append]
    rfl

/-! ## The request table over any sequence of results -/

section
variable {streamName : String} {channel : ResponseChannel} {requesters : Requesters}
  {workflow : Option (WorkflowDefinition Body)}

@[simp] theorem answer_pending_self :
    (requesters.answer streamName workflow).pending streamName = none := by
  unfold Requesters.answer
  split
  · exact Function.update_same _ _ _
  · assumption

theorem answer_pending_ne {other : String} (different : other ≠ streamName) :
    (requesters.answer streamName workflow).pending other = requesters.pending other := by
  unfold Requesters.answer
  split
  · exact Function.update_noteq different _ _
  · rfl

theorem mem_answer_replies {reply : ResponseChannel × Option String} :
    reply ∈ (requesters.answer streamName workflow).replies ↔ reply ∈ requesters.replies ∨
      ∃ channel, requesters.pending streamName = some channel ∧
        reply = (channel, workflow.map WorkflowDefinition.name) := by
  unfold Requesters.answer
  split <;> rename_i pending <;> simp [pending]

theorem answer_replies_of_pending (workflow : Option (WorkflowDefinition Body))
    (pending : requesters.pending streamName = some channel) :
    (requesters.answer streamName workflow).replies =
      requesters.replies ++ [(channel, workflow.map WorkflowDefinition.name)] := by
  simp [Requesters.answer, pending]

theorem answer_pending_eq_some {other : String} {channel' : ResponseChannel} :
    (requesters.answer streamName workflow).pending other = some channel' ↔
      other ≠ streamName ∧ requesters.pending other = some channel' := by
  by_cases same : other = streamName
  · subst same; simp
  · simp [answer_pending_ne same, same]

theorem handle_request_pending_eq_some {keepAlive : KeepAliveChannel} {other : String}
    {channel' : ResponseChannel} :
    (requesters.handle (.requestReceived (.createWorkflowNameForStream streamName channel keepAlive) :
      FutureResult Body)).pending other = some channel' ↔
      other = streamName ∧ channel = channel' ∨
        other ≠ streamName ∧ requesters.pending other = some channel' := by
  by_cases same : other = streamName
  · subst same; simp [Requesters.handle]
  · simp [Requesters.handle, same]

theorem handle_pending_of_untouched {result : FutureResult Body}
    (untouched : result.pendingStream ≠ some streamName) :
    (requesters.handle result).pending streamName = requesters.pending streamName := by
  match result, untouched with
  | .requestReceived (.createWorkflowNameForStream _ _ _), untouched =>
    exact Function.update_noteq (fun same => untouched (congrArg some same.symm)) _ _
  | .executorResponseReceived _ _ _, untouched =>
    exact answer_pending_ne (fun same => untouched (congrArg some same.symm))
  | .allRequestConsumersGone, _ | .eventHubGone, _ | .workflowManagerGone, _
  | .workflowManagerEventReceived _, _ | .keepAliveChannelClosed _, _ => rfl

theorem foldl_pending_of_untouched {results : List (FutureResult Body)}
    (untouched : ∀ result ∈ results, result.pendingStream ≠ some streamName) :
    (results.foldl Requesters.handle requesters).pending streamName =
      requesters.pending streamName := by
  induction results generalizing requesters with
  | nil => rfl
  | cons result results ih =>
    rw [List.foldl_cons, ih fun other member => untouched other (List.mem_cons_of_mem _ member),
      handle_pending_of_untouched (untouched result (List.mem_cons_self _ _))]

theorem mem_handle_replies {result : FutureResult Body} {reply : ResponseChannel × Option String} :
    reply ∈ (requesters.handle result).replies ↔ reply ∈ requesters.replies ∨
      ∃ streamName workflow keepAlive channel,
        result = .executorResponseReceived streamName workflow keepAlive ∧
          requesters.pending streamName = some channel ∧
            reply = (channel, workflow.map WorkflowDefinition.name) := by
  cases result with
  | executorResponseReceived streamName workflow keepAlive =>
    simp only [Requesters.handle, mem_answer_replies]
    exact or_congr_right ⟨fun ⟨channel, pending, same⟩ =>
      ⟨streamName, workflow, keepAlive, channel, rfl, pending, same⟩,
      fun ⟨_, _, _, channel, same, pending, reply⟩ => by cases same; exact ⟨channel, pending, reply⟩⟩
  | requestReceived request => obtain ⟨⟩ := request; simp [Requesters.handle]
  | _ => simp [Requesters.handle]

theorem replies_prefix_handle (result : FutureResult Body) :
    requesters.replies <+: (requesters.handle result).replies := by
  match result with
  | .requestReceived (.createWorkflowNameForStream _ _ _) => exact List.prefix_refl _
  | .executorResponseReceived streamName workflow _ =>
    show requesters.replies <+: (requesters.answer streamName workflow).replies
    unfold Requesters.answer
    split
    · exact List.prefix_append _ _
    · exact List.prefix_refl _
  | .allRequestConsumersGone | .eventHubGone | .workflowManagerGone
  | .workflowManagerEventReceived _ | .keepAliveChannelClosed _ => exact List.prefix_refl _

theorem replies_prefix_foldl (requesters : Requesters) (results : List (FutureResult Body)) :
    requesters.replies <+: (results.foldl Requesters.handle requesters).replies := by
  induction results generalizing requesters with
  | nil => exact List.prefix_refl _
  | cons result results ih => exact (replies_prefix_handle result).trans (ih _)

theorem pending_split {results : List (FutureResult Body)}
    (pending : (results.foldl Requesters.handle Requesters.empty).pending streamName = some channel) :
    ∃ before keepAlive between,
      results = before ++
        .requestReceived (.createWorkflowNameForStream streamName channel keepAlive) :: between ∧
      ∀ result ∈ between, result.pendingStream ≠ some streamName := by
  induction results using List.reverseRecOn with
  | nil => cases pending
  | append_singleton results result ih =>
    rw [List.foldl_append, List.foldl_cons, List.foldl_nil] at pending
    by_cases touched : result.pendingStream = some streamName
    · match result, touched with
      | .requestReceived (.createWorkflowNameForStream _ channel' keepAlive), rfl =>
        simp only [Requesters.handle, Function.update_same, Option.some.injEq] at pending
        subst pending
        exact ⟨results, keepAlive, [], rfl, by simp⟩
      | .executorResponseReceived _ _ _, rfl =>
        simp [Requesters.handle] at pending
    · obtain ⟨before, keepAlive, between, rfl, untouched⟩ :=
        ih (by rwa [handle_pending_of_untouched touched] at pending)
      refine ⟨before, keepAlive, between ++ [result], by simp, fun other member => ?_⟩
      rcases List.mem_append.mp member with old | new
      · exact untouched other old
      · exact List.mem_singleton.mp new ▸ touched

theorem replies_split {results : List (FutureResult Body)} {response : Option String}
    (replied : (channel, response) ∈ (results.foldl Requesters.handle Requesters.empty).replies) :
    ∃ before streamName keepAlive between workflow keepAlive' after,
      results = before ++
        .requestReceived (.createWorkflowNameForStream streamName channel keepAlive) :: between ++
          .executorResponseReceived streamName workflow keepAlive' :: after ∧
      (∀ result ∈ between, result.pendingStream ≠ some streamName) ∧
      response = workflow.map WorkflowDefinition.name := by
  induction results using List.reverseRecOn with
  | nil => cases replied
  | append_singleton results result ih =>
    rw [List.foldl_append, List.foldl_cons, List.foldl_nil, mem_handle_replies] at replied
    rcases replied with old | ⟨streamName, workflow, keepAlive', channel', rfl, pending, same⟩
    · obtain ⟨before, streamName, keepAlive, between, workflow, keepAlive', after, rfl, untouched,
        named⟩ := ih old
      exact ⟨before, streamName, keepAlive, between, workflow, keepAlive', after ++ [result],
        by simp, untouched, named⟩
    · obtain ⟨rfl, rfl⟩ := Prod.mk.inj same
      obtain ⟨before, keepAlive, between, rfl, untouched⟩ := pending_split pending
      exact ⟨before, streamName, keepAlive, between, workflow, keepAlive', [], by simp, untouched, rfl⟩

theorem replies_of_split (requesters : Requesters) {before between after : List (FutureResult Body)}
    {keepAlive keepAlive' : KeepAliveChannel}
    (untouched : ∀ result ∈ between, result.pendingStream ≠ some streamName) :
    (channel, workflow.map WorkflowDefinition.name) ∈
      ((before ++ .requestReceived (.createWorkflowNameForStream streamName channel keepAlive) ::
        between ++ .executorResponseReceived streamName workflow keepAlive' :: after).foldl
          Requesters.handle requesters).replies := by
  simp only [List.append_assoc, List.cons_append, List.foldl_append, List.foldl_cons]
  refine (replies_prefix_foldl _ after).subset (mem_handle_replies.mpr (.inr
    ⟨streamName, workflow, keepAlive', channel, rfl, ?_, rfl⟩))
  rw [foldl_pending_of_untouched untouched]
  exact Function.update_same _ _ _

end

/-! ## Fresh response channels -/

theorem request_channel_ne {results : List (FutureResult Body)} {channel : ResponseChannel}
    (unused : channel ∉ (received results).map ReactorRequest.responseChannel) :
    ∀ result ∈ results, result.request.map ReactorRequest.responseChannel ≠ some channel := by
  intro result member same
  obtain ⟨request, handed, rfl⟩ := Option.map_eq_some'.mp same
  exact unused (List.mem_map_of_mem _ (List.mem_filterMap.mpr ⟨result, member, handed⟩))

/-- The request table when response channels are fresh: no channel replied twice, a pending
channel not replied and pending under the stream it was requested for, and every replied channel
that of a request received. -/
structure Requesters.Fresh (requesters : Requesters) (requests : List ReactorRequest) : Prop where
  replied_once : (requesters.replies.map Prod.fst).Nodup
  pending_unreplied : ∀ streamName channel, requesters.pending streamName = some channel →
    channel ∉ requesters.replies.map Prod.fst
  pending_requested : ∀ streamName channel, requesters.pending streamName = some channel →
    ∃ keepAlive, .createWorkflowNameForStream streamName channel keepAlive ∈ requests
  replied_requested : ∀ channel ∈ requesters.replies.map Prod.fst,
    channel ∈ requests.map ReactorRequest.responseChannel

section
variable {requesters : Requesters} {requests : List ReactorRequest}

theorem Requesters.Fresh.request (fresh : requesters.Fresh requests) {streamName : String}
    {channel : ResponseChannel} (keepAlive : KeepAliveChannel)
    (new : channel ∉ requests.map ReactorRequest.responseChannel) :
    (requesters.handle (.requestReceived (.createWorkflowNameForStream streamName channel keepAlive) :
      FutureResult Body)).Fresh
        (requests ++ [.createWorkflowNameForStream streamName channel keepAlive]) := by
  refine ⟨fresh.replied_once, fun other channel' pending => ?_, fun other channel' pending => ?_,
    fun channel' replied => ?_⟩
  · rcases handle_request_pending_eq_some.mp pending with ⟨-, rfl⟩ | ⟨-, pending⟩
    · exact fun replied => new (fresh.replied_requested _ replied)
    · exact fresh.pending_unreplied other channel' pending
  · rcases handle_request_pending_eq_some.mp pending with ⟨rfl, rfl⟩ | ⟨-, pending⟩
    · exact ⟨keepAlive, by simp⟩
    · obtain ⟨keepAlive', requested⟩ := fresh.pending_requested other channel' pending
      exact ⟨keepAlive', List.mem_append_left _ requested⟩
  · exact List.map_append _ _ _ ▸ List.mem_append_left _ (fresh.replied_requested channel' replied)

theorem Requesters.Fresh.answer (fresh : requesters.Fresh requests)
    (unique : (requests.map ReactorRequest.responseChannel).Nodup) (streamName : String)
    (workflow : Option (WorkflowDefinition Body)) :
    (requesters.answer streamName workflow).Fresh requests := by
  cases pending : requesters.pending streamName with
  | none => simpa [Requesters.answer, pending] using fresh
  | some channel =>
    have held : ∀ other, requesters.pending other = some channel → other = streamName :=
      fun other held => by
        obtain ⟨keepAlive, requested⟩ := fresh.pending_requested streamName channel pending
        obtain ⟨keepAlive', requested'⟩ := fresh.pending_requested other channel held
        cases List.inj_on_of_nodup_map unique requested' requested rfl
        rfl
    have replies := answer_replies_of_pending workflow pending
    refine ⟨?_, fun other channel' pending' => ?_, fun other channel' pending' => ?_,
      fun channel' replied => ?_⟩
    · rw [replies, List.map_append]
      exact fresh.replied_once.append (List.nodup_singleton _)
        (List.disjoint_singleton.mpr (fresh.pending_unreplied streamName channel pending))
    · obtain ⟨different, pending'⟩ := answer_pending_eq_some.mp pending'
      have moved : channel' ≠ channel := by rintro rfl; exact different (held other pending')
      simpa [replies, moved] using fresh.pending_unreplied other channel' pending'
    · exact fresh.pending_requested other channel' (answer_pending_eq_some.mp pending').2
    · simp only [replies, List.map_append, List.mem_append, List.map_cons, List.map_nil,
        List.mem_singleton] at replied
      rcases replied with old | rfl
      · exact fresh.replied_requested channel' old
      · obtain ⟨keepAlive, requested⟩ := fresh.pending_requested streamName channel' pending
        exact List.mem_map_of_mem _ requested

theorem Requesters.Fresh.handle (fresh : requesters.Fresh requests) (result : FutureResult Body)
    (unique : ((requests ++ result.request.toList).map ReactorRequest.responseChannel).Nodup) :
    (requesters.handle result).Fresh (requests ++ result.request.toList) := by
  match result with
  | .requestReceived (.createWorkflowNameForStream streamName channel keepAlive) =>
    simp only [List.map_append, List.nodup_append, FutureResult.request, Option.toList] at unique
    exact fresh.request keepAlive fun used => unique.2.2 used (List.mem_singleton_self _)
  | .executorResponseReceived streamName workflow _ =>
    simpa [FutureResult.request] using fresh.answer (by simpa [FutureResult.request] using unique)
      streamName workflow
  | .allRequestConsumersGone | .eventHubGone | .workflowManagerGone
  | .workflowManagerEventReceived _ | .keepAliveChannelClosed _ =>
    simpa [FutureResult.request] using fresh

end

theorem fresh_foldl {results : List (FutureResult Body)}
    (unique : ((received results).map ReactorRequest.responseChannel).Nodup) :
    (results.foldl Requesters.handle Requesters.empty).Fresh (received results) := by
  induction results using List.reverseRecOn with
  | nil => exact ⟨List.nodup_nil, (fun _ _ none => by cases none), (fun _ _ none => by cases none),
      fun _ replied => by cases replied⟩
  | append_singleton results result ih =>
    have received_last : received (results ++ [result]) = received results ++ result.request.toList :=
      by simp
    rw [received_last] at unique ⊢
    rw [List.foldl_append, List.foldl_cons, List.foldl_nil]
    exact (ih (List.map_append _ _ _ ▸ unique).of_append_left).handle result unique

/-- Where `channel` can still be answered from: it is pending only under `holder`, if any, and
not replied yet. -/
def Requesters.Unanswered (requesters : Requesters) (channel : ResponseChannel)
    (holder : Option String) : Prop :=
  (∀ streamName, requesters.pending streamName = some channel → holder = some streamName) ∧
    channel ∉ requesters.replies.map Prod.fst

section
variable {requesters : Requesters} {channel : ResponseChannel} {holder : Option String}

theorem Requesters.Unanswered.handle (unanswered : requesters.Unanswered channel holder)
    {result : FutureResult Body}
    (other : result.request.map ReactorRequest.responseChannel ≠ some channel)
    (unheld : ∀ streamName workflow keepAlive,
      result = .executorResponseReceived streamName workflow keepAlive → holder ≠ some streamName) :
    (requesters.handle result).Unanswered channel holder := by
  obtain ⟨held, unreplied⟩ := unanswered
  match result with
  | .requestReceived (.createWorkflowNameForStream streamName channel' _) =>
    refine ⟨fun other' pending => ?_, unreplied⟩
    rcases handle_request_pending_eq_some.mp pending with ⟨-, rfl⟩ | ⟨-, pending⟩
    · exact (other rfl).elim
    · exact held other' pending
  | .executorResponseReceived streamName workflow _ =>
    have unanswerable : requesters.pending streamName ≠ some channel :=
      fun pending => unheld _ _ _ rfl (held streamName pending)
    refine ⟨fun other' pending => held other' (answer_pending_eq_some.mp pending).2,
      fun replied => ?_⟩
    obtain ⟨reply, member, rfl⟩ := List.mem_map.mp replied
    rcases mem_answer_replies.mp member with old | ⟨channel', pending, rfl⟩
    · exact unreplied (List.mem_map_of_mem _ old)
    · exact unanswerable pending
  | .allRequestConsumersGone | .eventHubGone | .workflowManagerGone
  | .workflowManagerEventReceived _ | .keepAliveChannelClosed _ => exact ⟨held, unreplied⟩

theorem Requesters.Unanswered.foldl (unanswered : requesters.Unanswered channel holder)
    {results : List (FutureResult Body)}
    (others : ∀ result ∈ results, result.request.map ReactorRequest.responseChannel ≠ some channel)
    (unheld : ∀ result ∈ results, ∀ streamName workflow keepAlive,
      result = .executorResponseReceived streamName workflow keepAlive → holder ≠ some streamName) :
    (results.foldl Requesters.handle requesters).Unanswered channel holder := by
  induction results generalizing requesters with
  | nil => exact unanswered
  | cons result results ih =>
    exact ih (unanswered.handle (others result (List.mem_cons_self _ _))
      (unheld result (List.mem_cons_self _ _)))
      (fun result member => others result (List.mem_cons_of_mem _ member))
      (fun result member => unheld result (List.mem_cons_of_mem _ member))

theorem Requesters.Fresh.unanswered {requests : List ReactorRequest}
    (fresh : requesters.Fresh requests) (new : channel ∉ requests.map ReactorRequest.responseChannel)
    (streamName : String) (keepAlive : KeepAliveChannel) :
    (requesters.handle (.requestReceived (.createWorkflowNameForStream streamName channel keepAlive) :
      FutureResult Body)).Unanswered channel (some streamName) := by
  refine ⟨fun other pending => ?_, fun replied => new (fresh.replied_requested channel replied)⟩
  rcases handle_request_pending_eq_some.mp pending with ⟨rfl, -⟩ | ⟨-, pending⟩
  · rfl
  · obtain ⟨keepAlive', requested⟩ := fresh.pending_requested other channel pending
    exact absurd (List.mem_map_of_mem _ requested) new

theorem Requesters.Unanswered.overwrite {streamName : String}
    (unanswered : requesters.Unanswered channel (some streamName)) {channel' : ResponseChannel}
    (different : channel' ≠ channel) (keepAlive : KeepAliveChannel) :
    (requesters.handle (.requestReceived (.createWorkflowNameForStream streamName channel' keepAlive) :
      FutureResult Body)).Unanswered channel none := by
  refine ⟨fun other pending => ?_, unanswered.2⟩
  rcases handle_request_pending_eq_some.mp pending with ⟨-, rfl⟩ | ⟨moved, pending⟩
  · exact (different rfl).elim
  · exact absurd (Option.some.inj (unanswered.1 other pending)).symm moved

end

/-! ## Overlapping requests for one stream

`overlapRequested` is `namedRegistered` asked for `camA` twice, with response channels and
keep-alives 1 and 2, before the executor has answered either request: the second entry of
`active_requests` replaces the first. In `overlapAnswered` the first executor call returns `wfA`
and answers on the second response channel; in `overlapOrphaned` the second call returns `wfA`
too and finds no pending request; in `overlapReleased` the first keep-alive closes. -/

def overlapRequested : Actor Unit :=
  ((((namedRegistered.take .waitForRequest).push .waitForRequest).handleRequest
    (.createWorkflowNameForStream "camA" ⟨1⟩ ⟨1⟩)).take .waitForRequest).push .waitForRequest
    |>.handleRequest (.createWorkflowNameForStream "camA" ⟨2⟩ ⟨2⟩)

def overlapAnswered : Actor Unit :=
  (overlapRequested.take (.waitForExecutorResponse "camA" ⟨1⟩)).handleExecutorResponse "camA"
    (some ⟨"wfA", ()⟩) ⟨1⟩

def overlapOrphaned : Actor Unit :=
  (overlapAnswered.take (.waitForExecutorResponse "camA" ⟨2⟩)).handleExecutorResponse "camA"
    (some ⟨"wfA", ()⟩) ⟨2⟩

def overlapReleased : Actor Unit :=
  (overlapOrphaned.take (.notifyWhenKeepAliveClosed ⟨1⟩ "camA")).handleKeepAliveClosed "camA"

theorem overlapReleased_reachable : Reachable anyResult overlapReleased :=
  .step (.step (.step (.step (.step (.step (.new "r1")
    (.turn (by decide) (.workflowManagerEventReceived _) rfl))
    (.turn (by decide) (.requestReceived _) rfl)) (.turn (by decide) (.requestReceived _) rfl))
    (.turn (by decide) (.executorResponseReceived trivial) rfl))
    (.turn (by decide) (.executorResponseReceived trivial) rfl))
    (.turn (by decide) (.keepAliveChannelClosed _ _) rfl)

/-- With two requests for `camA` in flight, the second executor result is neither counted nor
watched, although the reply `wfA` went to the second requester; closing the first keep-alive then
stops `wfA` and drops `camA` while the second keep-alive was never closed. -/
theorem overlapping_request_uncounted :
    Reachable anyResult overlapReleased ∧
      (overlapAnswered.take (.waitForExecutorResponse "camA" ⟨2⟩)).turn
        (.executorResponseReceived "camA" (some ⟨"wfA", ()⟩) ⟨2⟩) = some overlapOrphaned ∧
      overlapAnswered.cachedWorkflows.lookup "camA" = some ⟨⟨"wfA", ()⟩, 1⟩ ∧
      overlapOrphaned.cachedWorkflows.lookup "camA" = some ⟨⟨"wfA", ()⟩, 1⟩ ∧
      .notifyWhenKeepAliveClosed ⟨2⟩ "camA" ∉ overlapReleased.futures ∧
      replies overlapReleased.log = [(⟨2⟩, some "wfA")] ∧
      .sent ⟨1⟩ "camA" ⟨fromReactor, .stopWorkflow "wfA"⟩ ∈ overlapReleased.log ∧
      "camA" ∉ overlapReleased.cachedWorkflows :=
  ⟨overlapReleased_reachable, rfl, by decide, by decide, by decide, by decide, by decide,
    by decide⟩

/-! ## Replies over a run -/

/-- Over every run, a response channel gets a reply exactly when a request carrying it was the
last request for its stream before an executor response for that stream; the reply is the name of
that response's workflow, which the executor's contract allows for the stream. -/
theorem replied_iff_answered_request {results : List (FutureResult Body)} {actor : Actor Body}
    (run : Run executor results actor) (channel : ResponseChannel) (response : Option String) :
    (channel, response) ∈ replies actor.log ↔
      ∃ before streamName keepAlive between workflow keepAlive' after,
        results = before ++
          .requestReceived (.createWorkflowNameForStream streamName channel keepAlive) :: between ++
            .executorResponseReceived streamName workflow keepAlive' :: after ∧
        (∀ result ∈ between, result.pendingStream ≠ some streamName) ∧
        executor streamName workflow ∧ response = workflow.map WorkflowDefinition.name := by
  rw [show replies actor.log = _ from congrArg Requesters.replies run.requesters_eq]
  constructor
  · intro replied
    obtain ⟨before, streamName, keepAlive, between, workflow, keepAlive', after, split, untouched,
      named⟩ := replies_split replied
    exact ⟨before, streamName, keepAlive, between, workflow, keepAlive', after, split, untouched,
      run.resolves (by simp [split] :
        FutureResult.executorResponseReceived streamName workflow keepAlive' ∈ results), named⟩
  · rintro ⟨before, streamName, keepAlive, between, workflow, keepAlive', after, rfl, untouched, -,
      rfl⟩
    exact replies_of_split _ untouched

theorem resolved_run : Run anyResult
    [.requestReceived (.createWorkflowNameForStream "camA" ⟨1⟩ ⟨1⟩),
      .executorResponseReceived "camA" (some ⟨"wfA", ()⟩) ⟨1⟩] resolved :=
  .step (.step (.new "r1") (by decide) (.requestReceived _) rfl) (by decide)
    (.executorResponseReceived trivial) rfl

theorem resolved_replied_iff_answered :
    ((⟨1⟩, some "wfA") ∈ replies resolved.log ↔
      ∃ before streamName keepAlive between workflow keepAlive' after,
        ([.requestReceived (.createWorkflowNameForStream "camA" ⟨1⟩ ⟨1⟩),
            .executorResponseReceived "camA" (some ⟨"wfA", ()⟩) ⟨1⟩] : List (FutureResult Unit)) =
          before ++ .requestReceived (.createWorkflowNameForStream streamName ⟨1⟩ keepAlive) ::
            between ++ .executorResponseReceived streamName workflow keepAlive' :: after ∧
        (∀ result ∈ between, result.pendingStream ≠ some streamName) ∧
        anyResult streamName workflow ∧ some "wfA" = workflow.map WorkflowDefinition.name) :=
  replied_iff_answered_request resolved_run ⟨1⟩ (some "wfA")

/-- With fresh response channels, no requester is replied to twice over any run. -/
theorem replies_once_per_channel {results : List (FutureResult Body)} {actor : Actor Body}
    (run : Run executor results actor)
    (fresh : ((received results).map ReactorRequest.responseChannel).Nodup) :
    ((replies actor.log).map Prod.fst).Nodup := by
  rw [show replies actor.log = _ from congrArg Requesters.replies run.requesters_eq]
  exact (fresh_foldl fresh).replied_once

/-- With fresh response channels, a requester whose stream gets another request before any
executor response for it is never replied to: its channel is dropped from the table. -/
theorem overwritten_request_never_answered {results : List (FutureResult Body)}
    {actor : Actor Body} (run : Run executor results actor)
    (fresh : ((received results).map ReactorRequest.responseChannel).Nodup)
    (before between after : List (FutureResult Body)) {streamName : String}
    {channel channel' : ResponseChannel} {keepAlive keepAlive' : KeepAliveChannel}
    (split : results = before ++
      .requestReceived (.createWorkflowNameForStream streamName channel keepAlive) :: between ++
        .requestReceived (.createWorkflowNameForStream streamName channel' keepAlive') :: after)
    (unanswered : ∀ result ∈ between, ∀ workflow keepAlive'',
      result ≠ .executorResponseReceived streamName workflow keepAlive'') :
    channel ∉ (replies actor.log).map Prod.fst := by
  have channels : (received results).map ReactorRequest.responseChannel =
      (received before).map ReactorRequest.responseChannel ++ channel ::
        ((received between).map ReactorRequest.responseChannel ++ channel' ::
          (received after).map ReactorRequest.responseChannel) := by
    simp [split, FutureResult.request, ReactorRequest.responseChannel]
  rw [channels, List.nodup_middle, List.nodup_cons] at fresh
  obtain ⟨unused, distinct⟩ := fresh
  simp only [List.mem_append, List.mem_cons, not_or] at unused
  obtain ⟨beforeUnused, betweenUnused, different, afterUnused⟩ := unused
  rw [show replies actor.log = _ from congrArg Requesters.replies run.requesters_eq, split]
  simp only [List.append_assoc, List.cons_append, List.foldl_append, List.foldl_cons]
  refine (Requesters.Unanswered.foldl (((Requesters.Unanswered.foldl ((fresh_foldl
    (distinct.sublist (List.sublist_append_left _ _))).unanswered beforeUnused streamName keepAlive)
    (request_channel_ne betweenUnused) ?_).overwrite (Ne.symm different) keepAlive'))
    (request_channel_ne afterUnused) (fun _ _ _ _ _ _ => by simp)).2
  rintro result member other workflow keepAlive'' rfl same
  cases same
  exact unanswered _ member workflow keepAlive'' rfl

theorem overlapOrphaned_run : Run anyResult
    [.workflowManagerEventReceived (.workflowManagerRegistered ⟨1⟩),
      .requestReceived (.createWorkflowNameForStream "camA" ⟨1⟩ ⟨1⟩),
      .requestReceived (.createWorkflowNameForStream "camA" ⟨2⟩ ⟨2⟩),
      .executorResponseReceived "camA" (some ⟨"wfA", ()⟩) ⟨1⟩,
      .executorResponseReceived "camA" (some ⟨"wfA", ()⟩) ⟨2⟩] overlapOrphaned :=
  .step (.step (.step (.step (.step (.new "r1") (by decide) (.workflowManagerEventReceived _) rfl)
    (by decide) (.requestReceived _) rfl) (by decide) (.requestReceived _) rfl) (by decide)
    (.executorResponseReceived trivial) rfl) (by decide) (.executorResponseReceived trivial) rfl

theorem overlapOrphaned_replies_once : ((received ([.workflowManagerEventReceived
      (.workflowManagerRegistered ⟨1⟩),
      .requestReceived (.createWorkflowNameForStream "camA" ⟨1⟩ ⟨1⟩),
      .requestReceived (.createWorkflowNameForStream "camA" ⟨2⟩ ⟨2⟩),
      .executorResponseReceived "camA" (some ⟨"wfA", ()⟩) ⟨1⟩,
      .executorResponseReceived "camA" (some ⟨"wfA", ()⟩) ⟨2⟩] : List (FutureResult Unit))).map
        ReactorRequest.responseChannel).Nodup ∧
    ((replies overlapOrphaned.log).map Prod.fst).Nodup :=
  ⟨by decide, replies_once_per_channel overlapOrphaned_run (by decide)⟩

theorem overlapOrphaned_first_never_answered : ((received ([.workflowManagerEventReceived
      (.workflowManagerRegistered ⟨1⟩),
      .requestReceived (.createWorkflowNameForStream "camA" ⟨1⟩ ⟨1⟩),
      .requestReceived (.createWorkflowNameForStream "camA" ⟨2⟩ ⟨2⟩),
      .executorResponseReceived "camA" (some ⟨"wfA", ()⟩) ⟨1⟩,
      .executorResponseReceived "camA" (some ⟨"wfA", ()⟩) ⟨2⟩] : List (FutureResult Unit))).map
        ReactorRequest.responseChannel).Nodup ∧
    (⟨1⟩ : ResponseChannel) ∉ (replies overlapOrphaned.log).map Prod.fst :=
  ⟨by decide, overwritten_request_never_answered overlapOrphaned_run (by decide)
    [.workflowManagerEventReceived (.workflowManagerRegistered ⟨1⟩)] []
    [.executorResponseReceived "camA" (some ⟨"wfA", ()⟩) ⟨1⟩,
      .executorResponseReceived "camA" (some ⟨"wfA", ()⟩) ⟨2⟩] rfl (fun _ member => by cases member)⟩

end Mmids.Reactors
