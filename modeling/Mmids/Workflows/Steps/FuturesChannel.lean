import Mathlib.Logic.Relation

/-! The task that `WorkflowStepFuturesChannel::send_on_unbounded_recv` and
`send_on_unbounded_recv_cancellable` spawn, with the channels it selects on. Each turn of its loop
runs the arm of one ready branch of the `tokio::select!`: the receiver, the cancellation token
(cancellable variant only) and `closed()` of the runner channels. Between turns the senders, the
token's owner and the workflow runner act in any order. Results are pure values here, and what a
result reports to the runner is left out: only the order of `send_step_future_result` calls is
modelled. -/

set_option autoImplicit false

namespace Mmids.Workflows.Steps

variable {Message Result : Type}

/-- The callbacks of a spawned receive loop. `onCancelled` is present exactly when the loop also
selects on a cancellation token. -/
structure RecvLoop (Message Result : Type) where
  onRecv : Message → Result
  onClosed : Result
  onCancelled : Option Result

def sendOnUnboundedRecv (onRecv : Message → Result) (onClosed : Result) :
    RecvLoop Message Result :=
  ⟨onRecv, onClosed, none⟩

def sendOnUnboundedRecvCancellable (onRecv : Message → Result) (onClosed onCancelled : Result) :
    RecvLoop Message Result :=
  ⟨onRecv, onClosed, some onCancelled⟩

structure RunnerChannels where
  stepFutureResultClosed : Bool
  mediaResultClosed : Bool
  deriving DecidableEq, Repr

/-- `WorkflowStepFuturesChannel::closed`: only one runner channel open counts as closed. -/
def RunnerChannels.closed (runner : RunnerChannels) : Bool :=
  runner.stepFutureResultClosed || runner.mediaResultClosed

inductive RunnerChannels.Close : RunnerChannels → RunnerChannels → Prop
  | stepFutureResult {runner : RunnerChannels} :
      RunnerChannels.Close runner { runner with stepFutureResultClosed := true }
  | mediaResult {runner : RunnerChannels} :
      RunnerChannels.Close runner { runner with mediaResultClosed := true }

/-- The spawned task and the channels around it. `buffer` is what the unbounded channel holds and
`results` what the task has passed to `send_step_future_result`, in order; `sent` records every
message the channel accepted. The task owns the receiver, so it is dropped when `running` ends. -/
structure Spawned (Message Result : Type) where
  buffer : List Message
  sendersDropped : Bool
  cancelled : Bool
  runner : RunnerChannels
  running : Bool
  results : List Result
  sent : List Message
  deriving DecidableEq, Repr

/-- A task just spawned. Messages sent, senders dropped or a token cancelled before the spawn are
steps of the world from here. -/
def Spawned.start : Spawned Message Result :=
  ⟨[], false, false, ⟨false, false⟩, true, [], []⟩

def Spawned.sendStepFutureResult (spawned : Spawned Message Result) (result : Result) :
    Spawned Message Result :=
  { spawned with results := spawned.results ++ [result] }

inductive Branch (Message : Type) where
  | recv (message : Option Message)
  | cancelled
  | closed
  deriving DecidableEq, Repr

/-- When a branch's future completes: `recv()` yields the oldest buffered message, and `None` only
once the buffer is empty and every sender is dropped. -/
def RecvLoop.Ready (recvLoop : RecvLoop Message Result) (spawned : Spawned Message Result) :
    Branch Message → Prop
  | .recv (some message) => spawned.buffer.head? = some message
  | .recv none => spawned.buffer = [] ∧ spawned.sendersDropped = true
  | .cancelled => recvLoop.onCancelled.isSome ∧ spawned.cancelled = true
  | .closed => spawned.runner.closed = true

def RecvLoop.turn (recvLoop : RecvLoop Message Result) (spawned : Spawned Message Result) :
    Branch Message → Spawned Message Result
  | .recv (some message) =>
    { spawned with buffer := spawned.buffer.tail }.sendStepFutureResult (recvLoop.onRecv message)
  | .recv none => { spawned.sendStepFutureResult recvLoop.onClosed with running := false }
  | .cancelled =>
    match recvLoop.onCancelled with
    | some onCancelled => { spawned.sendStepFutureResult onCancelled with running := false }
    | none => spawned
  | .closed => { spawned with running := false }

/-- A step of the system: a turn of the task's loop on a ready branch, or an act of the world. A
send succeeds while a sender is alive and the receiver is not yet dropped. -/
inductive RecvLoop.Step (recvLoop : RecvLoop Message Result) :
    Spawned Message Result → Spawned Message Result → Prop
  | select {spawned : Spawned Message Result} (branch : Branch Message) :
      spawned.running = true → recvLoop.Ready spawned branch →
      recvLoop.Step spawned (recvLoop.turn spawned branch)
  | send {spawned : Spawned Message Result} (message : Message) :
      spawned.sendersDropped = false → spawned.running = true →
      recvLoop.Step spawned
        { spawned with buffer := spawned.buffer ++ [message], sent := spawned.sent ++ [message] }
  | dropSenders {spawned : Spawned Message Result} :
      recvLoop.Step spawned { spawned with sendersDropped := true }
  | cancel {spawned : Spawned Message Result} :
      recvLoop.Step spawned { spawned with cancelled := true }
  | closeRunner {spawned : Spawned Message Result} {runner : RunnerChannels} :
      spawned.runner.Close runner → recvLoop.Step spawned { spawned with runner := runner }

/-! ## What the task passes on -/

/-- The law of what the task has passed on, given the messages it received and the results after
them: received and buffered messages make up all sent ones, in order; one `on_recv` result per
message received comes first; what follows is nothing, the cancellation result, or the closing
result once every sender is gone and the buffer is drained; and only an ended loop has any. -/
structure RecvLoop.Lawful (recvLoop : RecvLoop Message Result) (spawned : Spawned Message Result)
    (received : List Message) (final : List Result) : Prop where
  fifo : spawned.sent = received ++ spawned.buffer
  results : spawned.results = received.map recvLoop.onRecv ++ final
  final_cases : final = [] ∨
    (∃ onCancelled, recvLoop.onCancelled = some onCancelled ∧ final = [onCancelled]) ∨
    (final = [recvLoop.onClosed] ∧ spawned.sendersDropped = true ∧ spawned.buffer = [])
  ended : final ≠ [] → spawned.running = false

variable {recvLoop : RecvLoop Message Result}

theorem RecvLoop.Lawful.final_of_running {spawned : Spawned Message Result}
    {received : List Message} {final : List Result} (lawful : recvLoop.Lawful spawned received final)
    (running : spawned.running = true) : final = [] := by
  by_contra nonempty
  simp [lawful.ended nonempty] at running

theorem RecvLoop.Lawful.turn {spawned : Spawned Message Result} {received : List Message}
    {final : List Result} (lawful : recvLoop.Lawful spawned received final)
    (running : spawned.running = true) {branch : Branch Message}
    (ready : recvLoop.Ready spawned branch) :
    ∃ received' final', recvLoop.Lawful (recvLoop.turn spawned branch) received' final' := by
  have nothing := lawful.final_of_running running
  subst nothing
  obtain ⟨fifo, results, -, -⟩ := lawful
  match branch, ready with
  | .recv (some message), (ready : spawned.buffer.head? = some message) =>
    obtain ⟨rest, buffered⟩ := List.head?_eq_some_iff.mp ready
    refine ⟨received ++ [message], [], ⟨?_, ?_, .inl rfl, by simp⟩⟩ <;>
      simp [RecvLoop.turn, Spawned.sendStepFutureResult, fifo, results, buffered]
  | .recv none, (ready : spawned.buffer = [] ∧ spawned.sendersDropped = true) =>
    exact ⟨received, [recvLoop.onClosed], ⟨fifo, by simp [RecvLoop.turn,
      Spawned.sendStepFutureResult, results], .inr (.inr ⟨rfl, ready.2, ready.1⟩), fun _ => rfl⟩⟩
  | .cancelled, (ready : recvLoop.onCancelled.isSome ∧ spawned.cancelled = true) =>
    obtain ⟨onCancelled, present⟩ := Option.isSome_iff_exists.mp ready.1
    refine ⟨received, [onCancelled], ⟨?_, ?_, .inr (.inl ⟨onCancelled, present, rfl⟩), ?_⟩⟩ <;>
      simp [RecvLoop.turn, present, Spawned.sendStepFutureResult, fifo, results]
  | .closed, _ => exact ⟨received, [], ⟨fifo, results, .inl rfl, fun nonempty => absurd rfl nonempty⟩⟩

theorem RecvLoop.Lawful.step {spawned next : Spawned Message Result} {received : List Message}
    {final : List Result} (lawful : recvLoop.Lawful spawned received final)
    (step : recvLoop.Step spawned next) : ∃ received' final', recvLoop.Lawful next received' final' := by
  cases step with
  | select _ running ready => exact lawful.turn running ready
  | send message _ running =>
    have nothing := lawful.final_of_running running
    subst nothing
    exact ⟨received, [], ⟨by simp [lawful.fifo], by simpa using lawful.results, .inl rfl, by simp⟩⟩
  | dropSenders =>
    exact ⟨received, final, ⟨lawful.fifo, lawful.results, lawful.final_cases.imp_right
      (Or.imp_right fun ⟨closed, _, drained⟩ => ⟨closed, rfl, drained⟩), lawful.ended⟩⟩
  | cancel | closeRunner _ =>
    exact ⟨received, final, ⟨lawful.fifo, lawful.results, lawful.final_cases, lawful.ended⟩⟩

theorem RecvLoop.Step.of_ended {spawned next : Spawned Message Result}
    (step : recvLoop.Step spawned next) (ended : spawned.running = false) :
    next.results = spawned.results ∧ next.sent = spawned.sent ∧ next.running = false := by
  cases step with
  | select _ running | send _ _ running => simp [ended] at running
  | dropSenders | cancel | closeRunner _ => exact ⟨rfl, rfl, ended⟩

theorem RecvLoop.frozen_of_ended {spawned later : Spawned Message Result}
    (runs : Relation.ReflTransGen recvLoop.Step spawned later) (ended : spawned.running = false) :
    later.results = spawned.results ∧ later.sent = spawned.sent := by
  suffices frozen : later.results = spawned.results ∧ later.sent = spawned.sent ∧
      later.running = false from ⟨frozen.1, frozen.2.1⟩
  induction runs with
  | refl => exact ⟨rfl, rfl, ended⟩
  | tail _ step ih =>
    obtain ⟨results, sent, stopped⟩ := step.of_ended ih.2.2
    exact ⟨results.trans ih.1, sent.trans ih.2.1, stopped⟩

/-- In every run, the task has passed on one `on_recv` result per message received, the messages
received being an in-order prefix of those sent, and then nothing, the cancellation result (only
with a token), or the closing result, which comes only once every sender is dropped and every
message sent was received. After a final result nothing more is passed on and no message is
sent. -/
theorem results_received_then_final {spawned : Spawned Message Result}
    (reachable : Relation.ReflTransGen recvLoop.Step .start spawned) :
    ∃ received final, received <+: spawned.sent ∧
      spawned.results = received.map recvLoop.onRecv ++ final ∧
      (final = [] ∨
        (∃ onCancelled, recvLoop.onCancelled = some onCancelled ∧ final = [onCancelled]) ∨
        (final = [recvLoop.onClosed] ∧ spawned.sendersDropped = true ∧ received = spawned.sent)) ∧
      (final ≠ [] → ∀ later, Relation.ReflTransGen recvLoop.Step spawned later →
        later.results = spawned.results ∧ later.sent = spawned.sent) := by
  have lawful : ∃ received final, recvLoop.Lawful spawned received final := by
    induction reachable with
    | refl => exact ⟨[], [], ⟨rfl, rfl, .inl rfl, fun nonempty => absurd rfl nonempty⟩⟩
    | tail _ step ih =>
      obtain ⟨received, final, lawful⟩ := ih
      exact lawful.step step
  obtain ⟨received, final, ⟨fifo, results, final_cases, ended⟩⟩ := lawful
  refine ⟨received, final, ⟨spawned.buffer, fifo.symm⟩, results, ?_,
    fun nonempty _ runs => RecvLoop.frozen_of_ended runs (ended nonempty)⟩
  rcases final_cases with none | cancelled | ⟨closed, dropped, drained⟩
  · exact .inl none
  · exact .inr (.inl cancelled)
  · exact .inr (.inr ⟨closed, dropped, by simp [fifo, drained]⟩)

def echoCancellable : RecvLoop Nat Nat := sendOnUnboundedRecvCancellable id 100 200

def echoCancelled : Spawned Nat Nat := ⟨[], false, true, ⟨false, false⟩, false, [1, 200], [1]⟩

theorem echoCancelled_reachable : Relation.ReflTransGen echoCancellable.Step .start echoCancelled :=
  .tail (.tail (.tail (.single (.send 1 rfl rfl)) (.select (.recv (some 1)) rfl rfl)) .cancel)
    (.select .cancelled rfl ⟨rfl, rfl⟩)

theorem echoCancelled_received_then_final :
    ∃ received final, received <+: echoCancelled.sent ∧
      echoCancelled.results = received.map echoCancellable.onRecv ++ final ∧
      (final = [] ∨
        (∃ onCancelled, echoCancellable.onCancelled = some onCancelled ∧ final = [onCancelled]) ∨
        (final = [echoCancellable.onClosed] ∧ echoCancelled.sendersDropped = true ∧
          received = echoCancelled.sent)) ∧
      (final ≠ [] → ∀ later, Relation.ReflTransGen echoCancellable.Step echoCancelled later →
        later.results = echoCancelled.results ∧ later.sent = echoCancelled.sent) :=
  results_received_then_final echoCancelled_reachable

/-! ## `send_on_watch_recv` -/

structure WatchLoop (Message Result : Type) where
  onRecv : Message → Result
  onClosed : Result

def sendOnWatchRecv (onRecv : Message → Result) (onClosed : Result) : WatchLoop Message Result :=
  ⟨onRecv, onClosed⟩

/-- A `tokio::sync::watch` channel and the task watching it. The channel holds its latest `value`
and counts sends in `version`; `seen` is the version the receiver last marked seen, and
`borrowing` the arm between `changed()` returning `Ok` and its `borrow()`, while the sender may
still send. `values` records the value of each version, the initial one first. -/
structure Watched (Message Result : Type) where
  value : Message
  version : Nat
  seen : Nat
  senderDropped : Bool
  runner : RunnerChannels
  borrowing : Bool
  running : Bool
  results : List Result
  values : List Message
  deriving DecidableEq, Repr

/-- The task spawned on a receiver of a channel whose values so far are `history` then `latest`,
the receiver having marked version `seen` seen: any version up to the latest, so a value sent
before the spawn may still be unseen. -/
def Watched.start (history : List Message) (latest : Message) (seen : Fin (history.length + 1)) :
    Watched Message Result :=
  ⟨latest, history.length, seen, false, ⟨false, false⟩, false, true, [], history ++ [latest]⟩

inductive WatchBranch where
  | changed (ok : Bool)
  | closed
  deriving DecidableEq, Repr

def Watched.Ready (watched : Watched Message Result) : WatchBranch → Prop
  | .changed true => watched.version ≠ watched.seen
  | .changed false => watched.version = watched.seen ∧ watched.senderDropped = true
  | .closed => watched.runner.closed = true

def WatchLoop.turn (watchLoop : WatchLoop Message Result) (watched : Watched Message Result) :
    WatchBranch → Watched Message Result
  | .changed true => { watched with seen := watched.version, borrowing := true }
  | .changed false =>
    { watched with results := watched.results ++ [watchLoop.onClosed], running := false }
  | .closed => { watched with running := false }

def WatchLoop.borrow (watchLoop : WatchLoop Message Result) (watched : Watched Message Result) :
    Watched Message Result :=
  { watched with borrowing := false, results := watched.results ++ [watchLoop.onRecv watched.value] }

/-- A step of the watch task and the world around it. A send fails once the receiver is
dropped. -/
inductive WatchLoop.Step (watchLoop : WatchLoop Message Result) :
    Watched Message Result → Watched Message Result → Prop
  | select {watched : Watched Message Result} (branch : WatchBranch) :
      watched.running = true → watched.borrowing = false → watched.Ready branch →
      watchLoop.Step watched (watchLoop.turn watched branch)
  | borrow {watched : Watched Message Result} :
      watched.borrowing = true → watchLoop.Step watched (watchLoop.borrow watched)
  | send {watched : Watched Message Result} (message : Message) :
      watched.senderDropped = false → watched.running = true →
      watchLoop.Step watched { watched with
        value := message, version := watched.version + 1, values := watched.values ++ [message] }
  | dropSender {watched : Watched Message Result} :
      watchLoop.Step watched { watched with senderDropped := true }
  | closeRunner {watched : Watched Message Result} {runner : RunnerChannels} :
      watched.runner.Close runner → watchLoop.Step watched { watched with runner := runner }

def lastVersion (spawnSeen : Nat) (observed : List (Nat × Message)) : Nat :=
  ((observed.map Prod.fst).getLast?).getD spawnSeen

/-- The law of the watch task spawned on a receiver that had seen version `spawnSeen`, given the
versions and values it passed on and the results after them: the channel's history, the versions
passed on in order, each after `spawnSeen` and at most the current one, the receiver caught up
with the last of them between turns, and at most the closing result at the end, once the sender is
gone and the latest version was passed on. -/
structure WatchLoop.Lawful (watchLoop : WatchLoop Message Result) (spawnSeen : Nat)
    (watched : Watched Message Result) (observed : List (Nat × Message)) (final : List Result) :
    Prop where
  history : watched.values.length = watched.version + 1 ∧
    watched.values[watched.version]? = some watched.value
  seen_le : watched.seen ≤ watched.version
  seen_from : spawnSeen ≤ watched.seen
  borrowing : watched.borrowing = true → spawnSeen < watched.seen ∧ watched.running = true
  observed_values : ∀ p ∈ observed,
    spawnSeen < p.1 ∧ p.1 ≤ watched.version ∧ watched.values[p.1]? = some p.2
  ordered : (observed.map Prod.fst).Pairwise (· ≤ ·)
  caught_up : watched.borrowing = false → watched.seen ≤ lastVersion spawnSeen observed
  results : watched.results = observed.map (watchLoop.onRecv ∘ Prod.snd) ++ final
  final_cases : final = [] ∨ (final = [watchLoop.onClosed] ∧ watched.senderDropped = true ∧
    lastVersion spawnSeen observed = watched.version)
  ended : final ≠ [] → watched.running = false

variable {watchLoop : WatchLoop Message Result} {spawnSeen : Nat}

theorem WatchLoop.Lawful.final_of_running {watched : Watched Message Result}
    {observed : List (Nat × Message)} {final : List Result}
    (lawful : watchLoop.Lawful spawnSeen watched observed final) (running : watched.running = true) :
    final = [] := by
  by_contra nonempty
  simp [lawful.ended nonempty] at running

theorem lastVersion_le {observed : List (Nat × Message)} {version : Nat}
    (spawned : spawnSeen ≤ version) (bounded : ∀ p ∈ observed, p.1 ≤ version) :
    lastVersion spawnSeen observed ≤ version := by
  unfold lastVersion
  cases last : (observed.map Prod.fst).getLast? with
  | none => exact spawned
  | some v =>
    obtain ⟨p, member, rfl⟩ := List.mem_map.mp (List.mem_of_getLast?_eq_some last)
    exact bounded p member

theorem WatchLoop.Lawful.borrow {watched : Watched Message Result}
    {observed : List (Nat × Message)} {final : List Result}
    (lawful : watchLoop.Lawful spawnSeen watched observed final) (borrowing : watched.borrowing = true) :
    watchLoop.Lawful spawnSeen (watchLoop.borrow watched)
      (observed ++ [(watched.version, watched.value)]) [] := by
  obtain ⟨seen, running⟩ := lawful.borrowing borrowing
  have nothing := lawful.final_of_running running
  subst nothing
  refine ⟨lawful.history, lawful.seen_le, lawful.seen_from, (fun borrowing => by cases borrowing),
    ?_, ?_, ?_, ?_, .inl rfl, fun nonempty => absurd rfl nonempty⟩
  · simp only [List.mem_append, List.mem_singleton]
    rintro p (old | rfl)
    · exact lawful.observed_values p old
    · exact ⟨by have := lawful.seen_le; omega, Nat.le_refl _, lawful.history.2⟩
  · simp only [List.map_append, List.map_cons, List.map_nil, List.pairwise_append,
      List.pairwise_singleton, List.mem_singleton, forall_eq, true_and]
    exact ⟨lawful.ordered, fun v member => by
      obtain ⟨p, old, rfl⟩ := List.mem_map.mp member
      exact (lawful.observed_values p old).2.1⟩
  · intro _
    simpa [lastVersion] using lawful.seen_le
  · simp [WatchLoop.borrow, lawful.results]

theorem WatchLoop.Lawful.turn {watched : Watched Message Result}
    {observed : List (Nat × Message)} {final : List Result}
    (lawful : watchLoop.Lawful spawnSeen watched observed final) (running : watched.running = true)
    (idle : watched.borrowing = false) {branch : WatchBranch} (ready : watched.Ready branch) :
    ∃ final', watchLoop.Lawful spawnSeen (watchLoop.turn watched branch) observed final' := by
  have nothing := lawful.final_of_running running
  subst nothing
  obtain ⟨history, seen_le, seen_from, -, observed_values, ordered, caught_up, results, -, -⟩ :=
    lawful
  match branch, ready with
  | .changed true, (ready : watched.version ≠ watched.seen) =>
    exact ⟨[], history, Nat.le_refl _, by show spawnSeen ≤ watched.version; omega,
      fun _ => ⟨by show spawnSeen < watched.version; omega, running⟩, observed_values, ordered,
      (fun busy => by cases busy), results, .inl rfl, fun nonempty => absurd rfl nonempty⟩
  | .changed false, (ready : watched.version = watched.seen ∧ watched.senderDropped = true) =>
    have last : lastVersion spawnSeen observed = watched.version :=
      Nat.le_antisymm (lastVersion_le (by omega) fun p member => (observed_values p member).2.1)
        (ready.1 ▸ caught_up idle)
    exact ⟨[watchLoop.onClosed], history, seen_le, seen_from,
      (fun busy => by simp [WatchLoop.turn, idle] at busy), observed_values, ordered, caught_up,
      by simp [WatchLoop.turn, results], .inr ⟨rfl, ready.2, last⟩, fun _ => rfl⟩
  | .closed, _ =>
    exact ⟨[], history, seen_le, seen_from, (fun busy => by simp [WatchLoop.turn, idle] at busy),
      observed_values, ordered, caught_up, results, .inl rfl, fun nonempty => absurd rfl nonempty⟩

theorem WatchLoop.Lawful.step {watched next : Watched Message Result}
    {observed : List (Nat × Message)} {final : List Result}
    (lawful : watchLoop.Lawful spawnSeen watched observed final)
    (step : watchLoop.Step watched next) :
    ∃ observed' final', watchLoop.Lawful spawnSeen next observed' final' := by
  cases step with
  | select _ running idle ready =>
    obtain ⟨final', lawful'⟩ := lawful.turn running idle ready
    exact ⟨observed, final', lawful'⟩
  | borrow borrowing => exact ⟨_, [], lawful.borrow borrowing⟩
  | send message _ running =>
    have nothing := lawful.final_of_running running
    subst nothing
    obtain ⟨⟨length, current⟩, seen_le, seen_from, borrowing, observed_values, ordered, caught_up,
      results, -, -⟩ := lawful
    refine ⟨observed, [], ⟨⟨by simp [length], by simp [List.getElem?_append_right, length]⟩,
      by simp only; omega, seen_from, borrowing, fun p member => ?_, ordered, caught_up, results,
      .inl rfl, fun nonempty => absurd rfl nonempty⟩⟩
    obtain ⟨positive, bounded, value⟩ := observed_values p member
    exact ⟨positive, by simp only; omega, by rw [List.getElem?_append_left (by omega), value]⟩
  | dropSender =>
    exact ⟨observed, final, ⟨lawful.history, lawful.seen_le, lawful.seen_from, lawful.borrowing,
      lawful.observed_values, lawful.ordered, lawful.caught_up, lawful.results,
      lawful.final_cases.imp_right fun ⟨closed, _, last⟩ => ⟨closed, rfl, last⟩, lawful.ended⟩⟩
  | closeRunner _ =>
    exact ⟨observed, final, ⟨lawful.history, lawful.seen_le, lawful.seen_from, lawful.borrowing,
      lawful.observed_values, lawful.ordered, lawful.caught_up, lawful.results,
      lawful.final_cases, lawful.ended⟩⟩

theorem WatchLoop.Step.of_ended {watched next : Watched Message Result}
    (step : watchLoop.Step watched next) (ended : watched.running = false)
    (idle : watched.borrowing = false) :
    next.results = watched.results ∧ next.running = false ∧ next.borrowing = false := by
  cases step with
  | select _ running | send _ _ running => simp [ended] at running
  | borrow borrowing => simp [idle] at borrowing
  | dropSender | closeRunner _ => exact ⟨rfl, ended, idle⟩

theorem WatchLoop.Step.values_prefix {watched next : Watched Message Result}
    (step : watchLoop.Step watched next) : watched.values <+: next.values := by
  cases step with
  | send => exact List.prefix_append _ _
  | select branch => rcases branch with ⟨_ | _⟩ | _ <;> exact List.prefix_refl _
  | borrow | dropSender | closeRunner _ => exact List.prefix_refl _

theorem WatchLoop.values_prefix {watched later : Watched Message Result}
    (runs : Relation.ReflTransGen watchLoop.Step watched later) : watched.values <+: later.values := by
  induction runs with
  | refl => exact List.prefix_refl _
  | tail _ step ih => exact ih.trans step.values_prefix

def echoWatch : WatchLoop Nat Nat := sendOnWatchRecv id 0

def echoWatchClosed : Watched Nat Nat :=
  ⟨5, 1, 1, true, ⟨false, false⟩, false, false, [5, 0], [0, 5]⟩

theorem echoWatchClosed_reachable :
    Relation.ReflTransGen echoWatch.Step (.start [0] 5 0) echoWatchClosed :=
  .tail (.tail (.tail (.single (.select (.changed true) rfl rfl (by decide : 1 ≠ 0)))
    (.borrow rfl)) .dropSender) (.select (.changed false) rfl rfl ⟨rfl, rfl⟩)

/-- The task `send_on_future_completion` spawns and the future it awaits; `output` is what the
future completed with, once it has. The future is dropped with the task. -/
structure Awaiting (Result : Type) where
  output : Option Result
  runner : RunnerChannels
  running : Bool
  results : List Result
  deriving DecidableEq, Repr

def Awaiting.start : Awaiting Result := ⟨none, ⟨false, false⟩, true, []⟩

inductive Awaiting.Step : Awaiting Result → Awaiting Result → Prop
  | completed {awaiting : Awaiting Result} {result : Result} :
      awaiting.running = true → awaiting.output = some result →
      Awaiting.Step awaiting { awaiting with results := awaiting.results ++ [result], running := false }
  | closed {awaiting : Awaiting Result} :
      awaiting.running = true → awaiting.runner.closed = true →
      Awaiting.Step awaiting { awaiting with running := false }
  | complete {awaiting : Awaiting Result} (result : Result) :
      awaiting.running = true → awaiting.output = none →
      Awaiting.Step awaiting { awaiting with output := some result }
  | closeRunner {awaiting : Awaiting Result} {runner : RunnerChannels} :
      awaiting.runner.Close runner → Awaiting.Step awaiting { awaiting with runner := runner }

end Mmids.Workflows.Steps
