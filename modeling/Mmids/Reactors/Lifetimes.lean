import Mmids.Reactors.Manager

/-! Cache lifetimes of a stream and the requests sent about it. A lifetime runs from the
insertion of the stream into `cached_workflows` to its removal. On every handle, the requests
about the stream within one lifetime are upserts followed by at most one stop, the stop comes
after an upsert of the definition removed, and a current handle's latest upsert is the cached
definition. -/

set_option autoImplicit false

namespace Mmids.Reactors

variable {Body : Type} {executor : ReactorExecutor Body}

def Event.marks (streamName : String) : Event Body → Bool
  | .inserted stream | .removed stream _ => decide (stream = streamName)
  | _ => false

def Event.sentAbout (handle : ManagerHandle) (streamName : String) :
    Event Body → Option (WorkflowManagerRequestOperation Body)
  | .sent handle' stream request =>
    if handle' = handle ∧ stream = streamName then some request.operation else none
  | _ => none

/-- The operations about `streamName` sent on `handle`, in order. -/
def operationsAbout (handle : ManagerHandle) (streamName : String) (log : List (Event Body)) :
    List (WorkflowManagerRequestOperation Body) :=
  log.filterMap (Event.sentAbout handle streamName)

@[simp] theorem operationsAbout_nil (handle : ManagerHandle) (streamName : String) :
    operationsAbout handle streamName ([] : List (Event Body)) = [] := rfl

@[simp] theorem operationsAbout_cons (handle : ManagerHandle) (streamName : String)
    (event : Event Body) (log : List (Event Body)) :
    operationsAbout handle streamName (event :: log) =
      (event.sentAbout handle streamName).toList ++ operationsAbout handle streamName log := by
  cases found : event.sentAbout handle streamName <;>
    simp [operationsAbout, List.filterMap_cons, found]

@[simp] theorem operationsAbout_append (handle : ManagerHandle) (streamName : String)
    (log log' : List (Event Body)) :
    operationsAbout handle streamName (log ++ log') =
      operationsAbout handle streamName log ++ operationsAbout handle streamName log' :=
  List.filterMap_append _ _ _

/-- The lifetimes of one stream in a log read up to some point: the closed ones, each with the
definition removed at its end, and the events of the one still open. -/
structure Lifetimes (Body : Type) where
  closed : List (List (Event Body) × WorkflowDefinition Body)
  current : Option (List (Event Body))

def Lifetimes.extend (lifetimes : Lifetimes Body) (event : Event Body) : Lifetimes Body :=
  ⟨lifetimes.closed, lifetimes.current.map (· ++ [event])⟩

def Lifetimes.record (streamName : String) (lifetimes : Lifetimes Body) :
    Event Body → Lifetimes Body
  | .inserted stream =>
    if stream = streamName then ⟨lifetimes.closed, some []⟩ else lifetimes.extend (.inserted stream)
  | .removed stream definition =>
    if stream = streamName then
      ⟨lifetimes.closed ++ (lifetimes.current.map (·, definition)).toList, none⟩
    else lifetimes.extend (.removed stream definition)
  | event => lifetimes.extend event

/-- The lifetimes of `streamName` in `log`. -/
def lifetimesOf (streamName : String) (log : List (Event Body)) : Lifetimes Body :=
  log.foldl (Lifetimes.record streamName) ⟨[], none⟩

theorem lifetimesOf_append (streamName : String) (log log' : List (Event Body)) :
    lifetimesOf streamName (log ++ log') = log'.foldl (Lifetimes.record streamName)
      (lifetimesOf streamName log) := List.foldl_append _ _ _ _

theorem record_of_unmarked {streamName : String} (lifetimes : Lifetimes Body) {event : Event Body}
    (unmarked : event.marks streamName = false) :
    lifetimes.record streamName event = lifetimes.extend event := by
  cases event <;> simp_all [Lifetimes.record, Event.marks]

theorem foldl_record_unmarked {streamName : String} (lifetimes : Lifetimes Body)
    {events : List (Event Body)} (unmarked : ∀ event ∈ events, event.marks streamName = false) :
    events.foldl (Lifetimes.record streamName) lifetimes =
      ⟨lifetimes.closed, lifetimes.current.map (· ++ events)⟩ := by
  induction events generalizing lifetimes with
  | nil => cases lifetimes; simp
  | cons event rest ih =>
    simp only [List.foldl_cons, record_of_unmarked _ (unmarked event (by simp)),
      ih _ fun event member => unmarked event (by simp [member])]
    simp [Lifetimes.extend, Option.map_map, Function.comp_def]

theorem closed_foldl_record (streamName : String) (lifetimes : Lifetimes Body)
    (events : List (Event Body)) :
    ∃ more, (events.foldl (Lifetimes.record streamName) lifetimes).closed =
      lifetimes.closed ++ more := by
  induction events generalizing lifetimes with
  | nil => exact ⟨[], by simp⟩
  | cons event rest ih =>
    obtain ⟨more, grown⟩ := ih (lifetimes.record streamName event)
    obtain ⟨first, recorded⟩ : ∃ first,
        (lifetimes.record streamName event).closed = lifetimes.closed ++ first := by
      cases event <;> simp only [Lifetimes.record, Lifetimes.extend] <;> (try split) <;>
        first | exact ⟨[], (List.append_nil _).symm⟩ | exact ⟨_, rfl⟩
    exact ⟨first ++ more, by rw [List.foldl_cons, grown, recorded, List.append_assoc]⟩

@[simp] theorem record_inserted_self (streamName : String) (lifetimes : Lifetimes Body) :
    lifetimes.record streamName (.inserted streamName) = ⟨lifetimes.closed, some []⟩ := by
  simp [Lifetimes.record]

@[simp] theorem record_removed_self (streamName : String) (lifetimes : Lifetimes Body)
    (definition : WorkflowDefinition Body) :
    lifetimes.record streamName (.removed streamName definition) =
      ⟨lifetimes.closed ++ (lifetimes.current.map (·, definition)).toList, none⟩ := by
  simp [Lifetimes.record]

theorem mem_closed_of_split {streamName : String} {before during after : List (Event Body)}
    {definition : WorkflowDefinition Body}
    (unmarked : ∀ event ∈ during, event.marks streamName = false) :
    (during, definition) ∈ (lifetimesOf streamName
      (before ++ .inserted streamName :: during ++ .removed streamName definition :: after)).closed := by
  simp only [lifetimesOf, List.foldl_append, List.foldl_cons, record_inserted_self,
    foldl_record_unmarked _ unmarked, record_removed_self]
  obtain ⟨more, grown⟩ := closed_foldl_record streamName
    ⟨(List.foldl (Lifetimes.record streamName) ⟨[], none⟩ before).closed ++ [(during, definition)],
      none⟩ after
  simp [grown]

theorem current_of_split {streamName : String} {before during : List (Event Body)}
    (unmarked : ∀ event ∈ during, event.marks streamName = false) :
    (lifetimesOf streamName (before ++ .inserted streamName :: during)).current = some during := by
  simp [lifetimesOf, List.foldl_append, foldl_record_unmarked _ unmarked]

theorem lifetimesOf_append_unmarked {streamName : String} (log : List (Event Body))
    {events : List (Event Body)} (unmarked : ∀ event ∈ events, event.marks streamName = false) :
    lifetimesOf streamName (log ++ events) = ⟨(lifetimesOf streamName log).closed,
      (lifetimesOf streamName log).current.map (· ++ events)⟩ := by
  rw [lifetimesOf_append, foldl_record_unmarked _ unmarked]

theorem filterMap_key_eq_dlookup {β : Type} {γ : Type} (value : β → γ) (streamName : String) :
    ∀ entries : List (Σ _ : String, β), entries.NodupKeys →
      entries.filterMap (fun entry => if entry.1 = streamName then some (value entry.2) else none) =
        ((entries.dlookup streamName).map value).toList
  | [], _ => rfl
  | ⟨key, entry⟩ :: rest, distinct => by
    rw [List.nodupKeys_cons] at distinct
    have rest_eq := filterMap_key_eq_dlookup value streamName rest distinct.2
    by_cases same : key = streamName
    · subst same
      rw [List.dlookup_eq_none.mpr distinct.1] at rest_eq
      simp [List.filterMap_cons, List.dlookup_cons_eq, rest_eq]
    · simp [List.filterMap_cons, same, List.dlookup_cons_ne rest ⟨key, entry⟩ (Ne.symm same), rest_eq]

theorem operationsAbout_catchUp (actor : Actor Body) (channel handle : ManagerHandle)
    (streamName : String) : operationsAbout handle streamName (actor.catchUp channel) =
      if channel = handle then
        ((actor.cachedWorkflows.lookup streamName).map fun cache => .upsertWorkflow cache.definition).toList
      else [] := by
  simp only [Actor.catchUp, operationsAbout, List.filterMap_map]
  split_ifs with same
  · rw [AList.lookup, ← filterMap_key_eq_dlookup _ _ _ actor.cachedWorkflows.nodupKeys]
    congr 1; funext entry; simp [Event.sentAbout, same]
  · simp [Event.sentAbout, same]

theorem unmarked_catchUp (actor : Actor Body) (channel : ManagerHandle) (streamName : String) :
    ∀ event ∈ actor.catchUp channel, event.marks streamName = false := by
  intro event member
  obtain ⟨entry, -, rfl⟩ := List.mem_map.mp member
  rfl

theorem unmarked_sendToManager (actor : Actor Body) (streamName other : String)
    (request : WorkflowManagerRequest Body) :
    ∀ event ∈ actor.sendToManager other request, event.marks streamName = false := by
  unfold Actor.sendToManager; split <;> simp [Event.marks]

theorem unmarked_sendToManager_replied (actor : Actor Body) (streamName other : String)
    (request : WorkflowManagerRequest Body) (channel : ResponseChannel) (reply : Option String) :
    ∀ event ∈ actor.sendToManager other request ++ [.replied channel reply],
      event.marks streamName = false := by
  intro event member
  rcases List.mem_append.mp member with sent | replied
  · exact unmarked_sendToManager actor streamName other request event sent
  · rw [List.mem_singleton.mp replied]; rfl

@[simp] theorem operationsAbout_sendToManager (actor : Actor Body) (handle : ManagerHandle)
    (streamName other : String) (request : WorkflowManagerRequest Body) :
    operationsAbout handle streamName (actor.sendToManager other request) =
      if actor.workflowManager = some handle ∧ other = streamName then [request.operation] else [] := by
  cases current : actor.workflowManager with
  | none => simp [Actor.sendToManager, current]
  | some manager =>
    by_cases same : manager = handle <;> by_cases about : other = streamName <;>
      simp [Actor.sendToManager, current, Event.sentAbout, same, about]

/-! ## The lifetime law as an invariant -/

/-- The lifetime law of one stream on one handle, for a log and the state it led to. -/
structure LifetimesLawful (handle : ManagerHandle) (streamName : String) (actor : Actor Body) :
    Prop where
  current_iff_cached :
    (lifetimesOf streamName actor.log).current.isSome ↔ streamName ∈ actor.cachedWorkflows
  current_upserts : ∀ during, (lifetimesOf streamName actor.log).current = some during →
    ∃ upserted : List (WorkflowDefinition Body),
      operationsAbout handle streamName during = upserted.map .upsertWorkflow
  current_latest : ∀ during cache, (lifetimesOf streamName actor.log).current = some during →
    actor.workflowManager = some handle → actor.cachedWorkflows.lookup streamName = some cache →
    (operationsAbout handle streamName during).getLast? = some (.upsertWorkflow cache.definition)
  closed_lawful : ∀ during definition,
    (during, definition) ∈ (lifetimesOf streamName actor.log).closed →
    ∃ upserted : List (WorkflowDefinition Body),
      operationsAbout handle streamName during = upserted.map .upsertWorkflow ∨
        operationsAbout handle streamName during =
            upserted.map .upsertWorkflow ++ [.stopWorkflow definition.name] ∧
          upserted.getLast? = some definition

variable {handle : ManagerHandle} {streamName : String}

theorem LifetimesLawful.extend {actor next : Actor Body}
    (lawful : LifetimesLawful handle streamName actor) {events : List (Event Body)}
    (logged : next.log = actor.log ++ events)
    (unmarked : ∀ event ∈ events, event.marks streamName = false)
    (upserts : ∃ more : List (WorkflowDefinition Body),
      operationsAbout handle streamName events = more.map .upsertWorkflow)
    (cached : streamName ∈ next.cachedWorkflows ↔ streamName ∈ actor.cachedWorkflows)
    (latest : ∀ during cache, (lifetimesOf streamName actor.log).current = some during →
      next.workflowManager = some handle → next.cachedWorkflows.lookup streamName = some cache →
      (operationsAbout handle streamName (during ++ events)).getLast? =
        some (.upsertWorkflow cache.definition)) :
    LifetimesLawful handle streamName next := by
  have extended : lifetimesOf streamName next.log = ⟨(lifetimesOf streamName actor.log).closed,
      (lifetimesOf streamName actor.log).current.map (· ++ events)⟩ := by
    rw [logged, lifetimesOf_append_unmarked _ unmarked]
  refine ⟨?_, ?_, ?_, ?_⟩ <;> rw [extended]
  · simpa using lawful.current_iff_cached.trans cached.symm
  · intro during' extended
    obtain ⟨during, current, rfl⟩ := Option.map_eq_some'.mp extended
    obtain ⟨upserted, ops⟩ := lawful.current_upserts during current
    obtain ⟨more, ops'⟩ := upserts
    exact ⟨upserted ++ more, by simp [ops, ops']⟩
  · intro during' cache extended
    obtain ⟨during, current, rfl⟩ := Option.map_eq_some'.mp extended
    exact latest during cache current
  · exact lawful.closed_lawful

theorem LifetimesLawful.remove {actor next : Actor Body}
    (lawful : LifetimesLawful handle streamName actor) {cache : CachedWorkflow Body}
    (found : actor.cachedWorkflows.lookup streamName = some cache)
    (logged : next.log = actor.log ++ actor.sendToManager streamName
      ⟨fromReactor, .stopWorkflow cache.definition.name⟩ ++ [.removed streamName cache.definition])
    (removed : next.cachedWorkflows = actor.cachedWorkflows.erase streamName) :
    LifetimesLawful handle streamName next := by
  obtain ⟨during, current⟩ := Option.isSome_iff_exists.mp
    (lawful.current_iff_cached.mpr (AList.lookup_isSome.mp (by simp [found])))
  obtain ⟨upserted, ops⟩ := lawful.current_upserts during current
  have closing := lifetimesOf_append_unmarked actor.log
    (unmarked_sendToManager actor streamName streamName ⟨fromReactor, .stopWorkflow cache.definition.name⟩)
  have closed : lifetimesOf streamName next.log = ⟨(lifetimesOf streamName actor.log).closed ++
      [(during ++ actor.sendToManager streamName ⟨fromReactor, .stopWorkflow cache.definition.name⟩,
        cache.definition)], none⟩ := by
    rw [logged, lifetimesOf_append, List.foldl_cons, List.foldl_nil, closing, record_removed_self,
      current]
    rfl
  refine ⟨?_, ?_, ?_, ?_⟩ <;> rw [closed]
  · simp [removed]
  · simp
  · simp
  intro during' definition member
  rcases List.mem_append.mp member with old | new
  · exact lawful.closed_lawful during' definition old
  · simp only [Option.map_some', Option.toList_some, List.mem_singleton, Prod.mk.injEq] at new
    obtain ⟨rfl, rfl⟩ := new
    refine ⟨upserted, ?_⟩
    by_cases current_handle : actor.workflowManager = some handle
    · have last := lawful.current_latest during cache current current_handle found
      rw [ops, List.getLast?_map] at last
      exact .inr ⟨by simp [ops, current_handle, Event.sentAbout], by simpa using last⟩
    · exact .inl (by simp [ops, current_handle])

theorem LifetimesLawful.new (name : String) :
    LifetimesLawful handle streamName (Actor.new name : Actor Body) := by
  have empty : lifetimesOf streamName (Actor.new name : Actor Body).log = ⟨[], none⟩ := rfl
  exact ⟨by rw [empty]; simp [Actor.new], by simp [empty], by simp [empty], by simp [empty]⟩

theorem LifetimesLawful.congr {actor next : Actor Body}
    (lawful : LifetimesLawful handle streamName actor) (logged : next.log = actor.log)
    (cached : next.cachedWorkflows = actor.cachedWorkflows)
    (current : next.workflowManager = actor.workflowManager) :
    LifetimesLawful handle streamName next := by
  obtain ⟨iff_cached, upserts, latest, closed⟩ := lawful
  exact ⟨by rw [logged, cached]; exact iff_cached, by rw [logged]; exact upserts,
    by rw [logged, cached, current]; exact latest, by rw [logged]; exact closed⟩

theorem LifetimesLawful.take {actor : Actor Body} (lawful : LifetimesLawful handle streamName actor)
    (future : PendingFuture) : LifetimesLawful handle streamName (actor.take future) :=
  lawful.congr rfl rfl rfl

theorem LifetimesLawful.push {actor : Actor Body} (lawful : LifetimesLawful handle streamName actor)
    (future : PendingFuture) : LifetimesLawful handle streamName (actor.push future) :=
  lawful.congr rfl rfl rfl

theorem LifetimesLawful.insert {actor next : Actor Body}
    (lawful : LifetimesLawful handle streamName actor) {events : List (Event Body)}
    (logged : next.log = actor.log ++ .inserted streamName :: events)
    (unmarked : ∀ event ∈ events, event.marks streamName = false)
    (upserts : ∃ more : List (WorkflowDefinition Body),
      operationsAbout handle streamName events = more.map .upsertWorkflow)
    (cached : streamName ∈ next.cachedWorkflows)
    (latest : ∀ cache, next.workflowManager = some handle →
      next.cachedWorkflows.lookup streamName = some cache →
      (operationsAbout handle streamName events).getLast? = some (.upsertWorkflow cache.definition)) :
    LifetimesLawful handle streamName next := by
  have opened : lifetimesOf streamName next.log =
      ⟨(lifetimesOf streamName actor.log).closed, some events⟩ := by
    rw [logged, lifetimesOf_append, List.foldl_cons, record_inserted_self,
      foldl_record_unmarked _ unmarked]
    simp
  refine ⟨?_, ?_, ?_, ?_⟩ <;> rw [opened]
  · simpa using cached
  · rintro during ⟨⟩; exact upserts
  · rintro during cache ⟨⟩; exact latest cache
  · exact lawful.closed_lawful

theorem LifetimesLawful.handleExecutorResponse {actor : Actor Body}
    (lawful : LifetimesLawful handle streamName actor) (responded : String)
    (workflow : Option (WorkflowDefinition Body)) (keepAlive : KeepAliveChannel) :
    LifetimesLawful handle streamName (actor.handleExecutorResponse responded workflow keepAlive) := by
  cases active : actor.activeRequests responded with
  | none => rwa [Actor.handleExecutorResponse_of_inactive _ active]
  | some channel =>
    cases workflow with
    | none =>
      refine lawful.extend (Actor.handleExecutorResponse_none_log _ active) (by simp [Event.marks])
        ⟨[], by simp [Event.sentAbout]⟩ (by simp [active]) fun during cache current manager found => ?_
      simpa [Event.sentAbout] using lawful.current_latest during cache current
        (by simpa using manager) (by simpa [active] using found)
    | some workflow =>
      have logged := Actor.handleExecutorResponse_some_log keepAlive active workflow
      simp only [List.append_assoc] at logged
      have cachedWorkflows :=
        Actor.handleExecutorResponse_some_cachedWorkflows keepAlive active workflow
      have unmarked := unmarked_sendToManager_replied actor streamName responded
        ⟨streamRequestId actor.name responded, .upsertWorkflow workflow⟩ channel (some workflow.name)
      by_cases same : responded = streamName
      · subst same
        have upserts : operationsAbout handle responded (actor.sendToManager responded
            ⟨streamRequestId actor.name responded, .upsertWorkflow workflow⟩ ++
              [.replied channel (some workflow.name)]) =
            (if actor.workflowManager = some handle then [workflow] else []).map .upsertWorkflow := by
          split_ifs <;> simp [*, Event.sentAbout]
        have latest : ∀ cache,
            (actor.handleExecutorResponse responded (some workflow) keepAlive).workflowManager =
              some handle →
            (actor.handleExecutorResponse responded (some workflow) keepAlive).cachedWorkflows.lookup
              responded = some cache →
            (operationsAbout handle responded (actor.sendToManager responded
              ⟨streamRequestId actor.name responded, .upsertWorkflow workflow⟩ ++
                [.replied channel (some workflow.name)])).getLast? =
              some (.upsertWorkflow cache.definition) := by
          intro cache manager found
          simp only [Actor.handleExecutorResponse_workflowManager] at manager
          simp only [cachedWorkflows, Actor.bump_lookup_self, Option.some.injEq] at found
          rw [upserts, if_pos manager, ← found]
          rfl
        by_cases member : responded ∈ actor.cachedWorkflows
        · rw [if_pos member, List.nil_append] at logged
          exact lawful.extend logged unmarked ⟨_, upserts⟩ (by simp [cachedWorkflows, member])
            fun during cache _ manager found => by
              rw [operationsAbout_append, List.getLast?_append, latest cache manager found]; rfl
        · rw [if_neg member, List.singleton_append] at logged
          exact lawful.insert logged unmarked ⟨_, upserts⟩ (by simp [cachedWorkflows]) latest
      · have quiet : operationsAbout handle streamName
            (if responded ∈ actor.cachedWorkflows then [] else [(.inserted responded : Event Body)]) =
              [] := by
          split_ifs <;> rfl
        refine lawful.extend logged (fun event found => ?_) ⟨[], by simp [quiet, same, Event.sentAbout]⟩
          (by simp [cachedWorkflows, Ne.symm same]) fun during cache current manager found => ?_
        · rcases List.mem_append.mp found with inserted | rest
          · split_ifs at inserted <;> simp at inserted; simp [inserted, Event.marks, same]
          · exact unmarked event rest
        · have found' : actor.cachedWorkflows.lookup streamName = some cache := by
            simpa [cachedWorkflows, Ne.symm same] using found
          simpa [quiet, same, Event.sentAbout] using
            lawful.current_latest during cache current (by simpa using manager) found'

theorem LifetimesLawful.handleWorkflowManagerEvent {actor : Actor Body}
    (lawful : LifetimesLawful handle streamName actor) (channel : ManagerHandle) :
    LifetimesLawful handle streamName
      (actor.handleWorkflowManagerEvent (.workflowManagerRegistered channel)) := by
  refine lawful.extend (Actor.handleWorkflowManagerEvent_log actor channel) ?_
    ⟨if channel = handle then ((actor.cachedWorkflows.lookup streamName).map (·.definition)).toList
      else [], ?_⟩ (by simp) fun during cache _ manager found => ?_
  · rintro event (_ | ⟨_, member⟩)
    · rfl
    · exact unmarked_catchUp actor channel streamName event member
  · simp only [operationsAbout_cons, operationsAbout_catchUp]
    cases actor.cachedWorkflows.lookup streamName <;> split_ifs <;> simp [Event.sentAbout, *]
  · simp only [Actor.handleWorkflowManagerEvent_workflowManager, Option.some.injEq] at manager
    simp only [Actor.handleWorkflowManagerEvent_cachedWorkflows] at found
    simp [operationsAbout_catchUp, Event.sentAbout, manager, found]

theorem LifetimesLawful.handleKeepAliveClosed {actor : Actor Body}
    (lawful : LifetimesLawful handle streamName actor) (closed : String) :
    LifetimesLawful handle streamName (actor.handleKeepAliveClosed closed) := by
  cases found : actor.cachedWorkflows.lookup closed with
  | none => rwa [Actor.handleKeepAliveClosed_of_uncached _ _ found]
  | some cache =>
    by_cases last : cache.keepAliveCount - 1 = 0
    · obtain ⟨erased, logged⟩ := Actor.handleKeepAliveClosed_of_last found last
      by_cases same : closed = streamName
      · subst same
        exact lawful.remove found logged erased
      · refine lawful.extend (logged.trans (List.append_assoc _ _ _)) (fun event member => ?_)
          ⟨[], by simp [same, Event.sentAbout]⟩ (by simp [erased, Ne.symm same])
          fun during cache' current manager found' => ?_
        · rcases List.mem_append.mp member with sent | removed
          · exact unmarked_sendToManager actor streamName closed _ event sent
          · simp only [List.mem_singleton] at removed
            simp [removed, Event.marks, same]
        · have found'' : actor.cachedWorkflows.lookup streamName = some cache' := by
            simpa [erased, Ne.symm same] using found'
          simpa [same, Event.sentAbout] using
            lawful.current_latest during cache' current (by simpa using manager) found''
    · obtain ⟨inserted, logged⟩ := Actor.handleKeepAliveClosed_of_remaining found last
      have member : closed ∈ actor.cachedWorkflows := AList.lookup_isSome.mp (by simp [found])
      refine lawful.extend (logged.trans (List.append_nil _).symm) (by simp) ⟨[], rfl⟩
        (by by_cases same : streamName = closed <;> simp [inserted, same, member])
        fun during cache' current manager found' => ?_
      rw [List.append_nil]
      by_cases same : closed = streamName
      · subst same
        simp only [inserted, AList.lookup_insert, Option.some.injEq] at found'
        simpa [← found'] using lawful.current_latest during cache current (by simpa using manager) found
      · have found'' : actor.cachedWorkflows.lookup streamName = some cache' := by
          simpa [inserted, AList.lookup_insert_ne (Ne.symm same)] using found'
        exact lawful.current_latest during cache' current (by simpa using manager) found''

/-- The lifetime law holds in every reachable state, for every handle and stream. -/
theorem lifetimes_lawful {actor : Actor Body} (reachable : Reachable executor actor)
    (handle : ManagerHandle) (streamName : String) : LifetimesLawful handle streamName actor := by
  refine Reachable.invariant (fun _ => .new _) ?request ?response ?event ?closed reachable
  case request =>
    rintro actor streamName' channel keepAlive - lawful -
    exact lawful.congr rfl rfl rfl
  case response =>
    rintro actor responded workflow keepAlive - lawful - -
    exact (lawful.take _).handleExecutorResponse responded workflow keepAlive
  case event =>
    rintro actor channel - lawful -
    exact ((lawful.take _).push _).handleWorkflowManagerEvent channel
  case closed =>
    rintro actor receiver closed - lawful -
    exact (lawful.take _).handleKeepAliveClosed closed

/-! ## Requests about a stream within one lifetime -/

/-- Within one cache lifetime of a stream, the requests about it sent on a handle are upserts
then at most one stop, and a stop comes right after an upsert of the definition removed. While the
lifetime is open and the handle current, the latest of them upserts the cached definition. -/
theorem lifetime_requests_ordered {actor : Actor Body} (reachable : Reachable executor actor)
    (handle : ManagerHandle) (streamName : String) :
    (∀ before during after definition,
      actor.log = before ++ .inserted streamName :: during ++ .removed streamName definition :: after →
      (∀ event ∈ during, event.marks streamName = false) →
      ∃ upserted : List (WorkflowDefinition Body),
        operationsAbout handle streamName during = upserted.map .upsertWorkflow ∨
          operationsAbout handle streamName during =
              upserted.map .upsertWorkflow ++ [.stopWorkflow definition.name] ∧
            upserted.getLast? = some definition) ∧
    (∀ before during, actor.log = before ++ .inserted streamName :: during →
      (∀ event ∈ during, event.marks streamName = false) →
      (∃ upserted : List (WorkflowDefinition Body),
        operationsAbout handle streamName during = upserted.map .upsertWorkflow) ∧
      (actor.workflowManager = some handle → ∃ cache,
        actor.cachedWorkflows.lookup streamName = some cache ∧
          (operationsAbout handle streamName during).getLast? =
            some (.upsertWorkflow cache.definition))) := by
  obtain ⟨cached, upserts, latest, closed⟩ := lifetimes_lawful reachable handle streamName
  refine ⟨fun before during after definition split unmarked => ?_,
    fun before during split unmarked => ?_⟩
  · rw [split] at closed
    exact closed during definition (mem_closed_of_split unmarked)
  · rw [split] at cached upserts latest
    have current : (lifetimesOf streamName (before ++ .inserted streamName :: during)).current =
        some during := current_of_split unmarked
    refine ⟨upserts during current, fun manager => ?_⟩
    obtain ⟨cache, found⟩ := Option.isSome_iff_exists.mp
      (AList.lookup_isSome.mpr (cached.mp (by simp [current])))
    exact ⟨cache, found, latest during cache current manager found⟩

theorem sharedNameReleased_camA_lifetime_ordered :
    (∃ before during after,
      sharedNameReleased.log =
        before ++ .inserted "camA" :: during ++ .removed "camA" ⟨"wfA", ()⟩ :: after ∧
      (∀ event ∈ during, event.marks "camA" = false) ∧
      operationsAbout ⟨1⟩ "camA" during = [.upsertWorkflow ⟨"wfA", ()⟩, .stopWorkflow "wfA"]) ∧
    (∀ before during after definition,
      sharedNameReleased.log =
        before ++ .inserted "camA" :: during ++ .removed "camA" definition :: after →
      (∀ event ∈ during, event.marks "camA" = false) →
      ∃ upserted : List (WorkflowDefinition Unit),
        operationsAbout ⟨1⟩ "camA" during = upserted.map .upsertWorkflow ∨
          operationsAbout ⟨1⟩ "camA" during =
              upserted.map .upsertWorkflow ++ [.stopWorkflow definition.name] ∧
            upserted.getLast? = some definition) ∧
    (∀ before during, sharedNameReleased.log = before ++ .inserted "camA" :: during →
      (∀ event ∈ during, event.marks "camA" = false) →
      (∃ upserted : List (WorkflowDefinition Unit),
        operationsAbout ⟨1⟩ "camA" during = upserted.map .upsertWorkflow) ∧
      (sharedNameReleased.workflowManager = some ⟨1⟩ → ∃ cache,
        sharedNameReleased.cachedWorkflows.lookup "camA" = some cache ∧
          (operationsAbout ⟨1⟩ "camA" during).getLast? = some (.upsertWorkflow cache.definition))) :=
  ⟨⟨[.subscribed], [.replied ⟨1⟩ (some "wfA"), .registered ⟨1⟩,
      .sent ⟨1⟩ "camA" ⟨cacheCatchupRequestId "r1", .upsertWorkflow ⟨"wfA", ()⟩⟩, .inserted "camB",
      .sent ⟨1⟩ "camB" ⟨streamRequestId "r1" "camB", .upsertWorkflow ⟨"wfA", ()⟩⟩,
      .replied ⟨2⟩ (some "wfA"), .sent ⟨1⟩ "camA" ⟨fromReactor, .stopWorkflow "wfA"⟩], [],
      by decide, by decide, by decide⟩,
    lifetime_requests_ordered sharedNameReleased_reachable ⟨1⟩ "camA"⟩

end Mmids.Reactors
