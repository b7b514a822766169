import Gloc.Channel.Ownership

/-!
# Both ends inside a select

Whether both ends of a channel may be inside a `select` is left open in
`try_send`.  If nobody makes a blocking call, nobody ever waits, and no flag but
the readiness flags of the attempts ever changes.  Such a channel is a buffer of
`N` elements: an attempt that gets hold of the mutex fails only if the buffer is
full or empty.  On a synchronous channel nothing comes through; and where the
assertions are active, an attempt to send aborts if the last attempt to receive
has found nothing.
-/

namespace Gloc.Channel

open Gloc.Transition

universe u v

variable {Thread : Type u} {T : Type v}

def AllAttempts (programs : Thread → List (Op T)) : Prop :=
  ∀ thread, ∀ op ∈ programs thread, op.blocking = false

/-- What an attempt does with a buffer of `N` elements, where an attempt to send may be
known to abort. -/
def bufferAttempt (N : Nat) (aborts : Bool) (me : Thread) (queue : List (Thread × T)) :
    Phase T → Option (Except Assertion (Option (Event Thread T) × List (Thread × T)))
  | .trySend u => some <|
      if aborts then .error .notTryReady
      else if queue.length < N then .ok (some (.enqueued me u), queue ++ [(me, u)])
      else .ok (some (.returned me (.trySent false)), queue)
  | .tryRecvPtr => some <|
      match queue with
      | [] => .ok (some (.returned me (.tryReceived none)), [])
      | front :: rest => .ok (some (.dequeued me false front), rest)
  | _ => none

theorem bufferAttempt_error_iff {N : Nat} {aborts : Bool} {me : Thread}
    {queue : List (Thread × T)} {phase : Phase T} {site : Assertion} :
    bufferAttempt N aborts me queue phase = some (.error site) ↔
      aborts = true ∧ site = .notTryReady ∧ ∃ u, phase = .trySend u := by
  cases phase with
  | trySend u =>
      cases aborts with
      | true => simp [bufferAttempt, eq_comm]
      | false =>
          by_cases room : queue.length < N
          · simp [bufferAttempt, room]
          · simp [bufferAttempt, room]
  | tryRecvPtr => cases queue <;> simp [bufferAttempt]
  | _ => simp [bufferAttempt]

/-- An attempt to receive that gets hold of the mutex finds nothing, or something. -/
def misses : Label Thread T → Option Bool
  | (.lock _, some (.returned _ (.tryReceived none))) => some true
  | (.lock _, some (.dequeued _ _ _)) => some false
  | _ => none

/-- The last attempt to receive that has got hold of the mutex has found nothing. -/
def missed (labels : List (Label Thread T)) : Bool :=
  (labels.filterMap misses).getLast? = some true

theorem missed_snoc (labels : List (Label Thread T)) (label : Label Thread T) :
    missed (labels ++ [label]) = (misses label).getD (missed labels) := by
  cases heard : misses label with
  | none => simp [missed, heard]
  | some nothing => cases nothing <;> simp [missed, heard]

/-- The data members of a channel on which nobody makes a blocking call. -/
structure Buffering (N : Nat) (c : Chan Thread T) : Prop where
  sendDone : c.isSendDone = true
  trySendDone : c.isTrySendDone = true
  recvReady : c.isRecvReady = false
  bounded : c.queue.length ≤ N

def Phase.attempting (phase : Phase T) : Prop :=
  phase = .idle ∨ phase.selecting = true

namespace Phase.attempting

variable {phase : Phase T}

theorem wake (attempting : phase.attempting) : phase.wake.attempting := by
  rcases attempting with rfl | selecting
  · exact .inl rfl
  · exact .inr ((selecting_wake phase).trans selecting)

theorem notifies {next : Phase T} {cv : Cv} {result : Option (Result T)}
    (attempting : phase.attempting) (due : phase.notifies = some (cv, next, result)) :
    next.attempting := by
  rcases attempting with rfl | selecting
  · cases due
  · cases phase with
    | trySendReturn =>
        cases due
        exact .inl rfl
    | tryRecvReturn =>
        cases due
        exact .inl rfl
    | trySend => cases due
    | tryRecvPtr => cases due
    | _ => cases selecting

theorem not_waitsOn (attempting : phase.attempting) (cv : Cv) : ¬ phase.waitsOn cv := by
  intro waits
  rcases attempting with rfl | selecting
  · cases waits
  · cases phase with
    | sendBeginWait => cases selecting
    | sendEndWait => cases selecting
    | recvWait => cases selecting
    | _ => cases waits

end Phase.attempting

namespace Buffering

variable {N : Nat} {c : Chan Thread T}

theorem init : Buffering N (Chan.init : Chan Thread T) where
  sendDone := rfl
  trySendDone := rfl
  recvReady := rfl
  bounded := Nat.zero_le N

theorem acceptsTry_iff (buffering : Buffering N c) : c.acceptsTry N ↔ c.queue.length < N := by
  constructor
  · rintro ⟨-, -, bounded, last⟩
    by_contra full
    have ready := last (by omega)
    rw [buffering.recvReady] at ready
    cases ready
  · intro room
    exact ⟨buffering.sendDone, buffering.trySendDone, room.le, fun full => absurd full room.ne⟩

theorem critical (buffering : Buffering N c) {thread : Thread} {phase next : Phase T}
    {after : Chan Thread T} {event : Option (Event Thread T)}
    (stretch : Critical N thread phase c event next after) (attempting : phase.attempting) :
    next.attempting ∧ Buffering N after ∧
      after.isTryRecvReady = (misses (.lock thread, event)).getD c.isTryRecvReady ∧
      (enqueued event.toList ≠ [] → 0 < N) := by
  cases stretch with
  | tryRefuse =>
      refine ⟨.inl rfl, ?_, rfl, fun some => absurd rfl some⟩
      exact ⟨buffering.sendDone, buffering.trySendDone, buffering.recvReady, buffering.bounded⟩
  | @tryEnqueue u _ accepts =>
      have room := buffering.acceptsTry_iff.mp accepts
      refine ⟨.inr rfl, ⟨buffering.sendDone, decide_eq_true room, buffering.recvReady, ?_⟩, rfl,
        fun _ => Nat.zero_lt_of_lt room⟩
      change (c.queue ++ [(thread, u)]).length ≤ N
      rw [List.length_append]
      exact room
  | tryRecvMiss =>
      refine ⟨.inl rfl, ?_, rfl, fun some => absurd rfl some⟩
      exact ⟨buffering.sendDone, buffering.trySendDone, buffering.recvReady, buffering.bounded⟩
  | tryRecvTake nonempty =>
      refine ⟨.inr rfl, ⟨buffering.sendDone, rfl, buffering.recvReady, ?_⟩, rfl,
        fun some => absurd rfl some⟩
      have bounded := buffering.bounded
      rw [nonempty] at bounded
      exact (Nat.le_succ _).trans bounded
  | recvTake receiving =>
      rcases attempting with idle | selecting
      · rcases receiving with rfl | rfl <;> cases idle
      · rcases receiving with rfl | rfl <;> cases selecting
  | _ => rcases attempting with idle | selecting <;> first | cases idle | cases selecting

end Buffering

structure Selected (N : Nat) (labels : List (Label Thread T)) (c : Clients Thread T) : Prop where
  programs : AllAttempts c.rest
  phases : ∀ thread, (c.system.phase thread).attempting
  buffering : Buffering N c.system.chan
  tryRecvReady : c.system.chan.isTryRecvReady = missed labels
  enqueues : enqueued (trace labels) ≠ [] → 0 < N

namespace Selected

variable {N : Nat} {labels : List (Label Thread T)} {c next : Clients Thread T}
  {asserts : Asserts} {programs : Thread → List (Op T)}

theorem init (attempts : AllAttempts programs) : Selected N [] (.init programs) where
  programs := attempts
  phases _ := .inl rfl
  buffering := .init
  tryRecvReady := rfl
  enqueues some := absurd rfl some

variable [DecidableEq Thread] [Fintype Thread]

theorem step {label : Label Thread T} (selected : Selected N labels c)
    (taken : Clients.Step asserts N c label next) : Selected N (labels ++ [label]) next := by
  have programs : AllAttempts next.rest := fun thread op membership =>
    selected.programs thread op (taken.mem_rest membership)
  rcases next with ⟨after, rest⟩
  rcases label with ⟨action, event⟩
  obtain ⟨follows, moved, -⟩ := taken
  have moved : System.Moves N c.system action event after := System.Step.moves moved
  have phases : ∀ thread, (after.phase thread).attempting := by
    refine moved.forall_phase Phase.attempting (.inl rfl) ?_ ?_ ?_ ?_ selected.phases
    · rintro thread op rfl
      obtain ⟨later, left⟩ := follows
      have attempt := selected.programs thread op (by simp [left])
      cases op with
      | trySend => exact .inr rfl
      | tryRecvPtr => exact .inr rfl
      | _ => cases attempt
    · exact fun stretch => (selected.buffering.critical stretch (selected.phases _)).1
    · exact fun due attempting => attempting.notifies due
    · exact Phase.attempting.wake
  have enqueues : (enqueued event.toList ≠ [] → 0 < N) →
      enqueued (trace (labels ++ [(action, event)])) ≠ [] → 0 < N := by
    intro now some
    rw [trace_append, trace_single, enqueued_append] at some
    by_cases before : enqueued (trace labels) = []
    · rw [before, List.nil_append] at some
      exact now some
    · exact selected.enqueues before
  have silent : (∀ thread, action ≠ .lock thread) → misses (action, event) = none ∧
      enqueued event.toList = [] := by
    intro outside
    have unheard : misses (action, event) = none := by
      cases action with
      | lock thread => exact absurd rfl (outside thread)
      | _ => rfl
    cases event with
    | none => exact ⟨unheard, rfl⟩
    | some seen =>
        rcases moved.calls_or_returns outside seen rfl with ⟨op, rfl⟩ | ⟨result, rfl⟩
        · exact ⟨unheard, rfl⟩
        · exact ⟨unheard, rfl⟩
  cases action with
  | lock thread =>
      cases moved with
      | lock stretch =>
          obtain ⟨-, buffering, tryRecvReady, now⟩ :=
            selected.buffering.critical stretch (selected.phases thread)
          refine ⟨programs, phases, buffering, ?_, enqueues now⟩
          rw [missed_snoc, ← selected.tryRecvReady]
          exact tryRecvReady
  | _ =>
      obtain ⟨chan, -⟩ := moved.settled settled_betweenScopes (by simp)
      obtain ⟨heard, nothing⟩ := silent (by simp)
      refine ⟨programs, phases, ?_, ?_, enqueues fun some => absurd nothing some⟩
      · exact chan ▸ selected.buffering
      · rw [missed_snoc, heard, Option.getD_none, ← selected.tryRecvReady]
        exact congrArg Chan.isTryRecvReady chan

theorem of_reaches (attempts : AllAttempts programs)
    (run : Clients.Reaches asserts N programs labels c) : Selected N labels c :=
  Execution.invariant (Selected N) (init attempts) (fun _ selected taken => selected.step taken) run

/-- With the mutex an attempt does what it does with a buffer, unless it is to send and
aborts because the last attempt to receive has found nothing. -/
theorem step_lock (selected : Selected N labels c) (thread : Thread) :
    (c.system.step asserts N (.lock thread)).map
        (Except.map fun outcome => (outcome.1, outcome.2.chan.queue)) =
      bufferAttempt N (asserts .notTryReady && missed labels) thread c.system.chan.queue
        (c.system.phase thread) := by
  have buffering := selected.buffering
  have attempting := selected.phases thread
  rw [← selected.tryRecvReady, System.step, Option.map_map]
  generalize c.system.phase thread = phase at attempting
  generalize c.system.chan = chan at buffering
  cases phase with
  | trySend u =>
      rw [stretch, Chan.trySend_eq, bufferAttempt, Asserts.assert, Bool.not_not]
      cases asserts .notTryReady && chan.isTryRecvReady with
      | true => rfl
      | false =>
          by_cases room : chan.queue.length < N
          · simp only [if_pos (buffering.acceptsTry_iff.mpr room), if_pos room]
            rfl
          · simp only [if_neg fun accepts => room (buffering.acceptsTry_iff.mp accepts),
              if_neg room]
            rfl
  | tryRecvPtr =>
      rw [stretch]
      cases nonempty : chan.queue with
      | nil =>
          rw [Chan.tryRecvPtr_nil nonempty, ← nonempty]
          simp [bufferAttempt, Except.map, nonempty]
      | cons front rest =>
          have bounded := buffering.bounded
          have room : chan.isFull N = false := (chan.isFull_eq_false_iff N).mpr bounded
          rw [nonempty, List.length_cons] at bounded
          rw [Chan.tryRecvPtr_cons nonempty, Asserts.assert_passes fun _ => by simp [room],
            Asserts.assert_passes fun _ => by simp [buffering.sendDone],
            Asserts.assert_passes fun _ => by simp [room],
            Asserts.assert_passes fun _ => by simpa using (Nat.le_of_succ_le bounded)]
          rfl
  | idle => rfl
  | trySendReturn => rfl
  | tryRecvReturn => rfl
  | _ => rcases attempting with idle | selecting <;> first | cases idle | cases selecting

/-- Only an attempt to send can abort, and only after a receive that has found nothing. -/
theorem safe_iff (selected : Selected N labels c) :
    c.Safe asserts N ↔ asserts .notTryReady = true → missed labels = true →
      ∀ thread u, c.system.phase thread ≠ .trySend u := by
  have aborts : ∀ thread site, c.system.step asserts N (.lock thread) = some (.error site) ↔
      (asserts .notTryReady && missed labels) = true ∧ site = .notTryReady ∧
        ∃ u, c.system.phase thread = .trySend u := by
    intro thread site
    rw [← bufferAttempt_error_iff, ← selected.step_lock, Option.map_eq_some_iff]
    constructor
    · exact fun failed => ⟨_, failed, rfl⟩
    · rintro ⟨outcome, taken, failed⟩
      rw [taken, (Asserts.map_eq_error_iff ..).mp failed]
  constructor
  · intro safe active nothing thread u standing
    apply safe (.lock thread) .notTryReady
    rw [aborts, active, nothing]
    exact ⟨rfl, rfl, u, standing⟩
  · intro calm action site failed
    obtain ⟨thread, rfl, -⟩ := System.step_error failed
    obtain ⟨both, -, u, standing⟩ := (aborts thread site).mp failed
    rw [Bool.and_eq_true] at both
    exact calm both.1 both.2 thread u standing

theorem ended_of_quiescent (selected : Selected N labels c) (quiescent : c.Quiescent asserts N)
    (thread : Thread) : c.Ended thread := by
  rcases quiescent.ended_or_parked thread with ended | ⟨cv, parked⟩
  · exact ended
  · exact absurd parked ((selected.phases thread).not_waitsOn cv)

end Selected

/-- A channel whose both ends are inside a `select` is a buffer of `N` elements: with the
mutex, every attempt does at every moment of every run what it does with such a buffer.
So nothing comes through a synchronous channel.  An assertion is about to fail exactly
where one is active, an attempt to send is under way and the last attempt to receive has
found nothing; without it all threads get to the end of their programs. -/
theorem attempts_buffer [DecidableEq Thread] [Fintype Thread] {asserts : Asserts} {N : Nat}
    {programs : Thread → List (Op T)} {labels : List (Label Thread T)} {c : Clients Thread T}
    (attempts : AllAttempts programs) (run : Clients.Reaches asserts N programs labels c) :
    (∀ thread, (c.system.step asserts N (.lock thread)).map
        (Except.map fun outcome => (outcome.1, outcome.2.chan.queue)) =
      bufferAttempt N (asserts .notTryReady && missed labels) thread c.system.chan.queue
        (c.system.phase thread)) ∧
    c.system.chan.queue.length ≤ N ∧
    (N = 0 → enqueued (trace labels) = []) ∧
    (c.Safe asserts N ↔ asserts .notTryReady = true → missed labels = true →
      ∀ thread u, c.system.phase thread ≠ .trySend u) ∧
    (asserts .notTryReady = false → ∀ budget, Inevitable (Clients.Step asserts N)
      (fun label => label.1.isSpurious = true) (fun c => ∀ thread, c.Ended thread) budget c) := by
  have selected := Selected.of_reaches attempts run
  refine ⟨selected.step_lock, selected.buffering.bounded, fun synchronous => ?_,
    selected.safe_iff, fun inactive budget => ?_⟩
  · by_contra some
    exact absurd synchronous (selected.enqueues some).ne'
  · refine Clients.inevitable (fun reached => ?_) (fun reached quiescent => ?_) run budget
    · rw [(Selected.of_reaches attempts reached).safe_iff, inactive]
      exact fun active => absurd active Bool.false_ne_true
    · exact (Selected.of_reaches attempts reached).ended_of_quiescent quiescent

/-- After an attempt to receive that has found nothing, an attempt to send aborts. -/
theorem attempts_buffer_polled :
    ∃ (labels : List (Label Bool Nat)) (c : Clients Bool Nat),
      Clients.Reaches .active 1 (fun thread => if thread then [.tryRecvPtr] else [.trySend 7])
        labels c ∧ ¬ c.Safe .active 1 := by
  have run := Clients.execution_of_replay .active 1
    (.init fun thread : Bool => if thread then [Op.tryRecvPtr] else [.trySend 7])
    [.call true .tryRecvPtr, .lock true, .call false (.trySend 7)] (fun _ => []) rfl (by decide)
  have attempts : AllAttempts fun thread : Bool =>
      if thread then [Op.tryRecvPtr] else [.trySend 7] := by
    rintro (_ | _) op membership
    · rw [List.mem_singleton.mp membership]
      rfl
    · rw [List.mem_singleton.mp membership]
      rfl
  obtain ⟨-, -, -, safe, -⟩ := attempts_buffer attempts run
  exact ⟨_, _, run, fun calm => safe.mp calm rfl rfl false 7 rfl⟩

end Gloc.Channel
