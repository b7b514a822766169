import Gloc.Channel.Clients
import Gloc.Channel.Schedules

/-!
# Whose element is at the front

The receives assert that nobody takes an element of his own from a full queue.
On a synchronous channel this holds of all threads that use blocking calls
only: the one element belongs to the sender that is held back by it.  On a
buffered channel the sender that is held back owns the last element and not
the first, and a thread that receives after it has sent may well meet its own.
What is compared are `std::thread::id`s, so that an element is also the own one
of a later thread that gets the id of its sender.
-/

namespace Gloc.Channel

open Gloc.Transition

universe u v

variable {Thread : Type u} {T : Type v}

namespace Phase

def selecting : Phase T → Bool
  | .trySend _ | .trySendReturn | .tryRecvPtr | .tryRecvReturn _ _ => true
  | _ => false

def awaiting : Phase T → Bool
  | .recvFirst _ | .recvWait _ | .recvWoken _ => true
  | _ => false

theorem awaiting_of_receiving {phase : Phase T} (receiving : phase.receiving = true) :
    phase.awaiting = true := by
  cases phase <;> first | rfl | cases receiving

theorem awaiting_wake (phase : Phase T) : phase.wake.awaiting = phase.awaiting := by
  cases phase <;> rfl

theorem selecting_wake (phase : Phase T) : phase.wake.selecting = phase.selecting := by
  cases phase <;> rfl

end Phase

def AllBlocking (programs : Thread → List (Op T)) : Prop :=
  ∀ thread, ∀ op ∈ programs thread, op.blocking = true

/-- Whoever is about to take the front of a full queue is not its sender. -/
def TakesForeign (N : Nat) (s : System Thread T) : Prop :=
  ∀ thread front rest, (s.phase thread).receiving = true →
    s.chan.queue = front :: rest → s.chan.queue.length = N + 1 → front.1 ≠ thread

/-- Whoever is between the two scopes of `_send` has enqueued last. -/
def LastSender (s : System Thread T) : Prop :=
  ∀ thread, (s.phase thread).betweenScopes = true →
    ∀ element ∈ s.chan.queue.getLast?, element.1 = thread

structure Unselecting (c : Clients Thread T) : Prop where
  programs : AllBlocking c.rest
  phases : ∀ thread, (c.system.phase thread).selecting = false
  trySendDone : c.system.chan.isTrySendDone = true
  tryRecvReady : c.system.chan.isTryRecvReady = false

section Errors

variable [DecidableEq Thread] {asserts : Asserts} {N : Nat} {me : Thread}

theorem Chan.blockingRecv_notOwnElement {form : RecvForm} {c : Chan Thread T}
    (failed : c.blockingRecv form asserts N me = .error .notOwnElement) :
    ∃ front rest, c.queue = front :: rest ∧ N < c.queue.length ∧ front.1 = me := by
  cases nonempty : c.queue with
  | nil => simp [blockingRecv, nonempty] at failed
  | cons front rest =>
      simp only [blockingRecv_cons nonempty, Asserts.assert_eq_error_iff, reduceCtorEq,
        and_false, or_false, false_or, and_true] at failed
      obtain ⟨-, -, violated⟩ := failed
      simp only [Bool.or_eq_false_iff, Bool.not_eq_false', isFull_eq_true_iff,
        decide_eq_false_iff_not, ne_eq, not_not] at violated
      exact ⟨front, rest, rfl, nonempty ▸ violated.1, violated.2.symm⟩

theorem stretch_notOwnElement {c : Chan Thread T} {phase : Phase T}
    (unselecting : phase.selecting = false)
    (failed : stretch asserts N me c phase = some (.error .notOwnElement)) :
    phase.receiving = true ∧
      ∃ front rest, c.queue = front :: rest ∧ N < c.queue.length ∧ front.1 = me := by
  replace failed := stretch_aborting failed
  cases failed with
  | @sendFirst u failed =>
      rw [Chan.sendFirst] at failed
      split at failed <;> simp at failed
  | recvFirst failed => exact ⟨rfl, Chan.blockingRecv_notOwnElement failed⟩
  | recvWoken failed => exact ⟨rfl, Chan.blockingRecv_notOwnElement failed⟩
  | trySend => cases unselecting
  | tryRecvPtr => cases unselecting

end Errors

namespace Unselecting

variable [DecidableEq Thread] {asserts : Asserts} {N : Nat} {c next : Clients Thread T}
  {programs : Thread → List (Op T)}

omit [DecidableEq Thread] in
theorem init (blocking : AllBlocking programs) : Unselecting (.init programs) where
  programs := blocking
  phases _ := rfl
  trySendDone := rfl
  tryRecvReady := rfl

variable [Fintype Thread]

theorem no_abort (unselecting : Unselecting c) (protocol : Protocol N c.system)
    (foreign : TakesForeign N c.system) (action : Action Thread T) :
    c.system.step asserts N action ≠ some (.error .notOwnElement) := by
  intro failed
  obtain ⟨thread, -, executed⟩ := System.step_error failed
  obtain ⟨receiving, front, rest, nonempty, full, own⟩ :=
    stretch_notOwnElement (unselecting.phases thread) executed
  have bounded := protocol.bounded
  exact foreign thread front rest receiving nonempty (by omega) own

omit [DecidableEq Thread] [Fintype Thread] in
theorem critical {me : Thread} {phase after : Phase T} {d e : Chan Thread T}
    {event : Option (Event Thread T)} (stretch : Critical N me phase d event after e)
    (unselecting : phase.selecting = false) :
    after.selecting = false ∧ (d.isTrySendDone = true → e.isTrySendDone = true) ∧
      (d.isTryRecvReady = false → e.isTryRecvReady = false) := by
  cases stretch <;> first
    | exact ⟨rfl, id, id⟩
    | exact ⟨rfl, fun _ => rfl, fun _ => rfl⟩
    | cases unselecting

theorem step {label : Label Thread T} (unselecting : Unselecting c)
    (taken : Clients.Step asserts N c label next) : Unselecting next := by
  have programs : AllBlocking next.rest := fun thread op membership =>
    unselecting.programs thread op (taken.mem_rest membership)
  rcases label with ⟨action, event⟩
  obtain ⟨follows, moved, -⟩ := taken
  have known := unselecting.phases
  have moved := System.Step.moves moved
  have phases : ∀ thread, (next.system.phase thread).selecting = false := by
    refine moved.forall_phase (fun phase => phase.selecting = false) rfl ?_ ?_ ?_ ?_ known
    · rintro thread op rfl
      obtain ⟨later, left⟩ := follows
      have blocking := unselecting.programs thread op (by simp [left])
      cases op <;> first | rfl | cases blocking
    · exact fun stretch => (critical stretch (known _)).1
    · intro phase cv next result due _
      cases phase <;> cases due <;> rfl
    · exact fun apart => (Phase.selecting_wake _).trans apart
  have flags : next.system.chan.isTrySendDone = true ∧
      next.system.chan.isTryRecvReady = false := by
    cases action with
    | lock thread =>
        generalize next.system = after at moved
        cases moved with
        | lock stretch =>
            obtain ⟨-, trySendDone, tryRecvReady⟩ := critical stretch (known thread)
            exact ⟨trySendDone unselecting.trySendDone, tryRecvReady unselecting.tryRecvReady⟩
    | _ =>
        obtain ⟨chan, -⟩ := moved.settled settled_betweenScopes (by simp)
        rw [chan]
        exact ⟨unselecting.trySendDone, unselecting.tryRecvReady⟩
  exact ⟨programs, phases, flags.1, flags.2⟩

theorem of_reaches {labels : List (Label Thread T)} (blocking : AllBlocking programs)
    (run : Clients.Reaches asserts N programs labels c) : Unselecting c :=
  Execution.invariant (fun _ c => Unselecting c) (init blocking)
    (fun _ unselecting taken => unselecting.step taken) run

end Unselecting

namespace LastSender

variable [DecidableEq Thread] {N : Nat} {s next : System Thread T}

omit [DecidableEq Thread] in
theorem shrink (lastSender : LastSender s)
    (queue : ∀ element ∈ next.chan.queue.getLast?, element ∈ s.chan.queue.getLast?)
    (inside : ∀ thread, (next.phase thread).betweenScopes = true →
      (s.phase thread).betweenScopes = true) : LastSender next :=
  fun thread between element last =>
    lastSender thread (inside thread between) element (queue element last)

theorem critical (protocol : Protocol N s) (lastSender : LastSender s) {me : Thread}
    {phase : Phase T} {c : Chan Thread T} {event : Option (Event Thread T)}
    (stretch : Critical N me (s.phase me) s.chan event phase c) :
    LastSender ({ s with chan := c }.setPhase me phase) := by
  have inside : (phase.betweenScopes = true → (s.phase me).betweenScopes = true) →
      ∀ other, (Function.update s.phase me phase other).betweenScopes = true →
        (s.phase other).betweenScopes = true := by
    intro mine other between
    by_cases same : other = me
    · subst same
      exact mine (by simpa using between)
    · simpa [Function.update_of_ne same] using between
  have popped : ∀ {front : Thread × T} {rest : List (Thread × T)},
      s.chan.queue = front :: rest →
      ∀ element ∈ rest.getLast?, element ∈ s.chan.queue.getLast? := by
    intro front rest nonempty element last
    cases rest with
    | nil => cases last
    | cons second rest => rwa [nonempty, List.getLast?_cons_cons]
  generalize standing : s.phase me = current at stretch inside
  generalize held : s.chan = d at stretch
  cases stretch with
  | sendPark => subst held; exact lastSender.shrink (fun _ => id) (inside (by rintro ⟨⟩))
  | sendEnqueue sendDone =>
      intro other between element last
      by_cases same : other = me
      · simp only [System.setPhase_chan, List.getLast?_append, List.getLast?_singleton,
          Option.some_or, Option.mem_some_iff] at last
        rw [← last, same]
      · rw [System.setPhase_of_ne _ same, protocol.nobody_between (held ▸ sendDone)] at between
        cases between
  | sendHold => subst held; exact lastSender.shrink (fun _ => id) (inside fun _ => rfl)
  | sendFinish => subst held; exact lastSender.shrink (fun _ => id) (inside (by rintro ⟨⟩))
  | recvEnter => subst held; exact lastSender.shrink (fun _ => id) (inside (by rintro ⟨⟩))
  | recvRepark => subst held; exact lastSender.shrink (fun _ => id) (inside (by rintro ⟨⟩))
  | recvTake _ nonempty =>
      subst held
      exact lastSender.shrink (popped nonempty) (inside (by rintro ⟨⟩))
  | tryRefuse => subst held; exact lastSender.shrink (fun _ => id) (inside (by rintro ⟨⟩))
  | tryEnqueue accepts =>
      intro other between
      by_cases same : other = me
      · subst same
        simp [Phase.betweenScopes] at between
      · rw [System.setPhase_of_ne _ same, protocol.nobody_between (held ▸ accepts.1)] at between
        cases between
  | tryRecvMiss => subst held; exact lastSender.shrink (fun _ => id) (inside (by rintro ⟨⟩))
  | tryRecvTake nonempty =>
      subst held
      exact lastSender.shrink (popped nonempty) (inside (by rintro ⟨⟩))

theorem of_reaches [Fintype Thread] {asserts : Asserts} {labels : List (Label Thread T)}
    (run : System.Reaches asserts N labels s) : LastSender s := by
  refine Execution.invariant (fun _ s => LastSender s) (fun _ inside => by cases inside) ?_ run
  rintro _ middle ⟨action, event⟩ last reached lastSender taken
  have moved := taken.moves
  cases action with
  | lock thread =>
      cases moved with
      | lock stretch => exact lastSender.critical (Protocol.of_reaches reached) stretch
  | _ =>
      obtain ⟨chan, phases⟩ := moved.settled settled_betweenScopes (by simp)
      exact lastSender.shrink (by rw [chan]; exact fun _ => id)
        fun thread between => by rwa [phases] at between

end LastSender

section Capacity

variable {N : Nat} {s : System Thread T}

/-- A queue filled by blocking sends holds a sender back, who has enqueued
last. -/
theorem LastSender.of_full (lastSender : LastSender s) (protocol : Protocol N s)
    (trySendDone : s.chan.isTrySendDone = true) (full : s.chan.queue.length = N + 1) :
    ∃ thread, (s.phase thread).betweenScopes = true ∧
      ∀ element ∈ s.chan.queue.getLast?, element.1 = thread := by
  rcases protocol.fullHasSender full with sendOpen | tryOpen
  · obtain ⟨thread, between⟩ := protocol.between sendOpen
    exact ⟨thread, between, lastSender thread between⟩
  · rw [trySendDone] at tryOpen
    cases tryOpen

theorem Phase.not_between_of_receiving {phase : Phase T} (receiving : phase.receiving = true) :
    phase.betweenScopes = false := by
  cases phase <;> first | rfl | cases receiving

theorem LastSender.takesForeign_synchronous (lastSender : LastSender s)
    (protocol : Protocol 0 s) (trySendDone : s.chan.isTrySendDone = true) :
    TakesForeign 0 s := by
  intro thread front rest receiving nonempty full own
  obtain ⟨sender, between, last⟩ := lastSender.of_full protocol trySendDone full
  have alone : rest = [] := by
    rw [nonempty, List.length_cons] at full
    exact List.eq_nil_of_length_eq_zero (by omega)
  have same : front.1 = sender := last front (by simp [nonempty, alone])
  rw [own] at same
  subst same
  rw [Phase.not_between_of_receiving receiving] at between
  cases between

theorem LastSender.takesForeign_subsingleton [Subsingleton Thread]
    (lastSender : LastSender s) (protocol : Protocol N s)
    (trySendDone : s.chan.isTrySendDone = true) : TakesForeign N s := by
  intro thread front rest receiving _ full _
  obtain ⟨sender, between, -⟩ := lastSender.of_full protocol trySendDone full
  rw [Subsingleton.elim sender thread, Phase.not_between_of_receiving receiving] at between
  cases between

end Capacity

/-- Nobody calls a receive while an element of his own is in the queue. -/
def Considerate (c : Clients Thread T) (action : Action Thread T) : Prop :=
  ∀ thread form, action = .call thread (.recv form) →
    ∀ element ∈ c.system.chan.queue, element.1 ≠ thread

def Disowned (s : System Thread T) : Prop :=
  ∀ thread, (s.phase thread).awaiting = true →
    ∀ element ∈ s.chan.queue, element.1 ≠ thread

namespace Disowned

variable [DecidableEq Thread] {N : Nat} {s : System Thread T}

omit [DecidableEq Thread] in
theorem takesForeign (disowned : Disowned s) : TakesForeign N s :=
  fun thread front rest receiving nonempty _ =>
    disowned thread (Phase.awaiting_of_receiving receiving) front (by simp [nonempty])

theorem setPhase {me : Thread} {phase : Phase T} {c : Chan Thread T}
    (disowned : Disowned s)
    (queue : ∀ element ∈ c.queue, element ∈ s.chan.queue ∨ element.1 = me)
    (mine : phase.awaiting = true → (s.phase me).awaiting = true ∧ c.queue = s.chan.queue) :
    Disowned ({ s with chan := c }.setPhase me phase) := by
  intro other awaiting element membership
  by_cases same : other = me
  · subst same
    rw [System.setPhase_self] at awaiting
    obtain ⟨before, kept⟩ := mine awaiting
    exact disowned other before element (kept ▸ membership)
  · rw [System.setPhase_of_ne _ same] at awaiting
    rcases queue element membership with before | own
    · exact disowned other awaiting element before
    · exact fun equal => same (equal ▸ own)

theorem critical {me : Thread} {phase : Phase T} {c : Chan Thread T}
    {event : Option (Event Thread T)} (disowned : Disowned s)
    (stretch : Critical N me (s.phase me) s.chan event phase c) :
    Disowned ({ s with chan := c }.setPhase me phase) := by
  generalize standing : s.phase me = current at stretch
  generalize held : s.chan = d at stretch
  have grown : ∀ {u element}, element ∈ s.chan.queue ++ [(me, u)] →
      element ∈ s.chan.queue ∨ element.1 = me := by
    intro u element membership
    rcases List.mem_append.mp membership with before | added
    · exact .inl before
    · exact .inr (by rw [List.mem_singleton.mp added])
  have shrunk : ∀ {front rest element}, s.chan.queue = front :: rest → element ∈ rest →
      element ∈ s.chan.queue ∨ element.1 = me := by
    intro front rest element nonempty membership
    exact .inl (nonempty ▸ List.mem_cons_of_mem _ membership)
  cases stretch with
  | sendPark => subst held; exact disowned.setPhase (fun _ => .inl) (by rintro ⟨⟩)
  | sendEnqueue =>
      subst held
      exact disowned.setPhase (fun _ => grown) (by rintro ⟨⟩)
  | sendHold => subst held; exact disowned.setPhase (fun _ => .inl) (by rintro ⟨⟩)
  | sendFinish => subst held; exact disowned.setPhase (fun _ => .inl) (by rintro ⟨⟩)
  | recvEnter =>
      subst held
      exact disowned.setPhase (fun _ => .inl) fun _ => ⟨by rw [standing]; rfl, rfl⟩
  | recvRepark =>
      subst held
      exact disowned.setPhase (fun _ => .inl) fun _ => ⟨by rw [standing]; rfl, rfl⟩
  | recvTake _ nonempty =>
      subst held
      exact disowned.setPhase (fun _ => shrunk nonempty) (by rintro ⟨⟩)
  | tryRefuse => subst held; exact disowned.setPhase (fun _ => .inl) (by rintro ⟨⟩)
  | tryEnqueue =>
      subst held
      exact disowned.setPhase (fun _ => grown) (by rintro ⟨⟩)
  | tryRecvMiss => subst held; exact disowned.setPhase (fun _ => .inl) (by rintro ⟨⟩)
  | tryRecvTake nonempty =>
      subst held
      exact disowned.setPhase (fun _ => shrunk nonempty) (by rintro ⟨⟩)

variable [Fintype Thread] {asserts : Asserts} {c next : Clients Thread T}

theorem step {label : Label Thread T} (disowned : Disowned c.system)
    (considerate : Considerate c label.1) (taken : Clients.Step asserts N c label next) :
    Disowned next.system := by
  rcases label with ⟨action, event⟩
  have moved := System.Step.moves taken.2.1
  generalize next.system = after at moved
  cases moved with
  | @call thread op standing =>
      intro other awaiting
      by_cases same : other = thread
      · subst same
        rw [System.setPhase_self] at awaiting
        cases op with
        | recv form => exact considerate other form rfl
        | _ => cases awaiting
      · rw [System.setPhase_of_ne _ same] at awaiting
        exact disowned other awaiting
  | lock stretch => exact disowned.critical stretch
  | refuse => exact disowned.setPhase (fun _ => .inl) (by rintro ⟨⟩)
  | @notify thread woken _ phase _ due may =>
      have woke : Disowned (c.system.wakeOne woken) := by
        cases woken with
        | none => exact disowned
        | some woken =>
            exact disowned.setPhase (fun _ => .inl)
              fun awaiting => ⟨by rwa [Phase.awaiting_wake] at awaiting, rfl⟩
      refine woke.setPhase (fun _ => .inl) fun awaiting => ?_
      generalize c.system.phase thread = current at due
      cases current <;> cases due <;> cases awaiting
  | spurious =>
      exact disowned.setPhase (fun _ => .inl)
        fun awaiting => ⟨by rwa [Phase.awaiting_wake] at awaiting, rfl⟩

end Disowned

section Buffered

variable [DecidableEq Thread] [Fintype Thread]

/-- One thread sends, others fill the queue up, and the first one receives. -/
def sendThenRecv (me other : Thread) (u : T) (spare : Nat) : List (Action Thread T) :=
  System.sendBy me u ++ System.sendsBy other (List.replicate spare u) ++
    System.offerBy other u ++ [.call me (.recv .value)]

omit [Fintype Thread] in
theorem mem_called {thread : Thread} {op : Op T} {actions : List (Action Thread T)} :
    op ∈ Clients.called thread actions ↔ .call thread op ∈ actions := by
  simp only [Clients.called, List.mem_filterMap]
  constructor
  · rintro ⟨action, membership, calls⟩
    cases action with
    | call other op =>
        simp only [Option.ite_none_right_eq_some, Option.some.injEq] at calls
        obtain ⟨rfl, rfl⟩ := calls
        exact membership
    | _ => cases calls
  · intro membership
    exact ⟨_, membership, by simp⟩

theorem exists_takesOwn {N : Nat} {me other : Thread} (different : me ≠ other) (u : T)
    (buffered : 0 < N) (asserts : Asserts) :
    ∃ (programs : Thread → List (Op T)) (labels : List (Label Thread T))
      (c : Clients Thread T), AllBlocking programs ∧
        Clients.Reaches asserts N programs labels c ∧ ¬ TakesForeign N c.system := by
  obtain ⟨spare, rfl⟩ : ∃ spare, N = spare + 1 := ⟨N - 1, by omega⟩
  have mine : System.Follows asserts (spare + 1) (.quiet []) (System.sendBy me u)
      (.quiet [(me, u)]) := System.follows_sendBy (Nat.succ_pos spare) u
  have others : System.Follows asserts (spare + 1) (.quiet [(me, u)])
      (System.sendsBy other (List.replicate spare u))
      (.quiet ([(me, u)] ++ List.replicate spare (other, u))) := by
    rw [← List.map_replicate]
    apply System.follows_sendsBy
    rw [List.length_singleton, List.length_replicate]
    omega
  have room : ([(me, u)] ++ List.replicate spare (other, u)).length ≤ spare + 1 := by
    rw [List.length_append, List.length_singleton, List.length_replicate]
    omega
  have offered : System.Follows asserts (spare + 1) _ (System.offerBy other u) _ :=
    System.follows_offerBy room u
  obtain ⟨full, same⟩ : ∃ full, full = System.alone
      { Chan.holding ([(me, u)] ++ List.replicate spare (other, u) ++ [(other, u)]) with
        isSendDone := false } other .sendNotify := ⟨_, rfl⟩
  have idle : full.phase me = .idle := by
    simp [same, System.alone, different]
  have followed := ((mine.append others).append (same ▸ offered)).append
    (.cons (System.step_call (.recv .value) idle) .nil)
  refine ⟨fun thread => Clients.called thread (sendThenRecv me other u spare), _, _, ?_,
    Clients.execution_of_replay asserts _ (.init _) (sendThenRecv me other u spare)
      (fun _ => []) (Prod.ext rfl followed) (by simp [Clients.init]), ?_⟩
  · intro thread op membership
    have call := mem_called.mp membership
    cases op with
    | send | recv => rfl
    | trySend | tryRecvPtr =>
        simp [sendThenRecv, System.sendsBy, System.sendBy, System.offerBy] at call
  · intro foreign
    refine foreign me (me, u) (List.replicate spare (other, u) ++ [(other, u)]) ?_ ?_ ?_ rfl
    · rw [System.setPhase_self]
      rfl
    · rw [System.setPhase_chan, same]
      rfl
    · rw [System.setPhase_chan, same]
      simp [Chan.holding]

end Buffered

/-- Whatever threads do that use blocking calls only, nobody takes an element of
his own from a full queue, and the assertion that says so does not abort,
exactly if the channel is synchronous (or has no second thread, or nothing to
send).  On any channel it holds in the runs in which nobody calls a receive while
an element of his own is still in the queue. -/
theorem takesForeign_iff_synchronous [DecidableEq Thread] [Fintype Thread] (N : Nat) :
    ((∀ (asserts : Asserts) (programs : Thread → List (Op T))
        (labels : List (Label Thread T)) (c : Clients Thread T), AllBlocking programs →
        Clients.Reaches asserts N programs labels c →
        TakesForeign N c.system ∧
          ∀ action, c.system.step asserts N action ≠ some (.error .notOwnElement)) ↔
      N = 0 ∨ Subsingleton Thread ∨ IsEmpty T) ∧
    (∀ (asserts : Asserts) (programs : Thread → List (Op T))
      (labels : List (Label Thread T)) (c : Clients Thread T), AllBlocking programs →
      Execution (fun c label next => Considerate c label.1 ∧
        Clients.Step asserts N c label next) (.init programs) labels c →
      TakesForeign N c.system ∧
        ∀ action, c.system.step asserts N action ≠ some (.error .notOwnElement)) := by
  refine ⟨⟨fun safe => ?_, fun condition asserts programs labels c blocking run => ?_⟩,
    fun asserts programs labels c blocking run => ?_⟩
  · by_contra condition
    simp only [not_or, not_subsingleton_iff_nontrivial, not_isEmpty_iff] at condition
    obtain ⟨buffered, ⟨me, other, different⟩, ⟨u⟩⟩ := condition
    obtain ⟨programs, labels, c, blocking, run, own⟩ :=
      exists_takesOwn different u (Nat.pos_of_ne_zero buffered) .compiledOut
    exact own (safe _ _ _ _ blocking run).1
  · have unselecting := Unselecting.of_reaches blocking run
    have protocol := Protocol.of_reaches run.system
    have lastSender := LastSender.of_reaches run.system
    have foreign : TakesForeign N c.system := by
      rcases condition with rfl | single | nothing
      · exact lastSender.takesForeign_synchronous protocol unselecting.trySendDone
      · exact lastSender.takesForeign_subsingleton protocol unselecting.trySendDone
      · exact fun _ front _ _ _ _ => nothing.elim front.2
    exact ⟨foreign, unselecting.no_abort protocol foreign⟩
  · have considered : Clients.Reaches asserts N programs labels c ∧ Disowned c.system := by
      refine Execution.invariant (fun labels c =>
        Clients.Reaches asserts N programs labels c ∧ Disowned c.system)
        ⟨.nil, fun _ awaiting => by cases awaiting⟩ ?_ run
      rintro labels middle label last _ ⟨reached, disowned⟩ ⟨considerate, taken⟩
      exact ⟨.snoc reached taken, disowned.step considerate taken⟩
    obtain ⟨reached, disowned⟩ := considered
    exact ⟨disowned.takesForeign, (Unselecting.of_reaches blocking reached).no_abort
      (Protocol.of_reaches reached.system) disowned.takesForeign⟩

/-- A synchronous channel between two threads that each send and receive. -/
theorem takesForeign_iff_synchronous_pair :
    (∀ (labels : List (Label Bool Nat)) (c : Clients Bool Nat),
      Clients.Reaches .active 0 (fun _ => [.send 7, .recv .value]) labels c →
      TakesForeign 0 c.system) ∧
    ¬ ∀ (asserts : Asserts) (programs : Bool → List (Op Nat))
        (labels : List (Label Bool Nat)) (c : Clients Bool Nat), AllBlocking programs →
        Clients.Reaches asserts 1 programs labels c →
        TakesForeign 1 c.system ∧
          ∀ action, c.system.step asserts 1 action ≠ some (.error .notOwnElement) := by
  refine ⟨fun labels c run => ?_, fun safe => ?_⟩
  · have synchronous := @takesForeign_iff_synchronous Bool Nat _ _ 0
    have blocking : AllBlocking fun _ : Bool => [Op.send 7, .recv .value] := by
      intro thread op membership
      simp only [List.mem_cons, List.not_mem_nil, or_false] at membership
      rcases membership with rfl | rfl <;> rfl
    exact (synchronous.1.mpr (.inl rfl) _ _ _ _ blocking run).1
  · have buffered := @takesForeign_iff_synchronous Bool Nat _ _ 1
    rcases buffered.1.mp safe with synchronous | single | nothing
    · cases synchronous
    · exact absurd (single.elim true false) (by decide)
    · exact nothing.elim 7

/-- One thread sends, another one fills the queue of capacity one, and the first
one receives: the process aborts in the assertion. -/
theorem takesOwn_buffered :
    ∃ (labels : List (Label Bool Nat)) (c : Clients Bool Nat),
      Clients.Reaches .active 1
        (fun thread => if thread then [.send 9] else [.send 7, .recv .value]) labels c ∧
      ¬ TakesForeign 1 c.system ∧
      c.system.step .active 1 (.lock false) = some (.error .notOwnElement) := by
  have run := Clients.execution_of_replay .active 1
    (.init fun thread : Bool => if thread then [Op.send 9] else [.send 7, .recv .value])
    [.call false (.send 7), .lock false, .notify false none, .lock false, .notify false none,
      .call true (.send 9), .lock true, .call false (.recv .value)]
    (fun _ => []) rfl (by decide)
  refine ⟨_, _, run, fun foreign => ?_, by rfl⟩
  exact foreign false (false, 7) [(true, 9)] rfl rfl rfl rfl

end Gloc.Channel
