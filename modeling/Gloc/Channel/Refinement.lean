import Gloc.Channel.Flags
import Gloc.Channel.GoChannel

/-!
# The monitor refines the Go channel

The queue of the monitor is the part of the accepted values that has not been
delivered.  A sender between the two scopes of `_send` is the last one to have
been accepted, because `m_is_send_done` keeps every other sender out; when it
finds the queue not full, all but at most `N` of the values up to its own have
been delivered.
-/

namespace Gloc.Channel

open Gloc.Transition

universe u v

variable {Thread : Type u} {T : Type v}

/-- How a state of the monitor represents a state of the Go channel. -/
structure Represents (N : Nat) (s : System Thread T) (go : GoChannel Thread T) : Prop where
  delivered : go.delivered ≤ go.accepted.length
  queue : go.accepted.drop go.delivered = s.chan.queue
  waiting : ∀ thread, (s.phase thread).betweenScopes = true →
    go.ticket thread = go.accepted.length
  completing : ∀ thread, s.phase thread = .sendReturn →
    go.ticket thread ≤ go.delivered + N

namespace Represents

variable {N : Nat} {s next : System Thread T} {go : GoChannel Thread T}

theorem init [DecidableEq Thread] :
    Represents N (System.init : System Thread T) GoChannel.init where
  delivered := Nat.le_refl 0
  queue := rfl
  waiting _ inside := by cases inside
  completing _ standing := by cases standing

theorem length_queue (represents : Represents N s go) :
    go.accepted.length = go.delivered + s.chan.queue.length := by
  have bounded := represents.delivered
  rw [← represents.queue, List.length_drop]
  omega

theorem congr (represents : Represents N s go) (queue : next.chan.queue = s.chan.queue)
    (waiting : ∀ thread, (next.phase thread).betweenScopes = true →
      (s.phase thread).betweenScopes = true)
    (completing : ∀ thread, next.phase thread = .sendReturn →
      s.phase thread = .sendReturn) : Represents N next go where
  delivered := represents.delivered
  queue := by rw [represents.queue, queue]
  waiting thread inside := represents.waiting thread (waiting thread inside)
  completing thread standing := represents.completing thread (completing thread standing)

variable [DecidableEq Thread] {thread : Thread} {c : Chan Thread T} {phase : Phase T}

theorem accept {u : T} (represents : Represents N s go)
    (alone : ∀ other, other ≠ thread → (s.phase other).betweenScopes = false)
    (after : phase ≠ .sendReturn) (queue : c.queue = s.chan.queue ++ [(thread, u)]) :
    ∃ goNext, GoChannel.Step N go (.enqueued thread u) goNext ∧
      Represents N ({ s with chan := c }.setPhase thread phase) goNext := by
  refine ⟨_, .accept, ?_, ?_, ?_, ?_⟩
  · have bounded := represents.delivered
    simp only [List.length_append, List.length_singleton]
    omega
  · rw [List.drop_append_of_le_length represents.delivered, represents.queue]
    exact queue.symm
  · intro other inside
    by_cases equal : other = thread
    · subst equal
      simp
    · rw [System.setPhase_phase, Function.update_of_ne equal, alone other equal] at inside
      cases inside
  · intro other standing
    by_cases equal : other = thread
    · subst equal
      rw [System.setPhase_phase, Function.update_self] at standing
      exact absurd standing after
    · rw [System.setPhase_phase, Function.update_of_ne equal] at standing
      simpa [Function.update_of_ne equal] using represents.completing other standing

theorem deliver {blocking : Bool} {front : Thread × T} {rest : List (Thread × T)}
    (represents : Represents N s go) (nonempty : s.chan.queue = front :: rest)
    (after : phase.insideSend = false) (queue : c.queue = rest) :
    ∃ goNext, GoChannel.Step N go (.dequeued thread blocking front) goNext ∧
      Represents N ({ s with chan := c }.setPhase thread phase) goNext := by
  have counted := represents.length_queue
  have next := represents.queue
  rw [nonempty] at next
  have here : go.accepted[go.delivered]? = some front := by
    rw [← List.head?_drop, next, List.head?_cons]
  rw [nonempty, List.length_cons] at counted
  refine ⟨_, .deliver here, ?_, ?_, ?_, ?_⟩
  · simp only
    omega
  · simp only [System.setPhase_chan]
    rw [queue, ← List.drop_drop, next]
    rfl
  · intro other inside
    by_cases equal : other = thread
    · subst equal
      rw [System.setPhase_phase, Function.update_self] at inside
      cases phase <;> simp [Phase.betweenScopes, Phase.insideSend] at inside after
    · rw [System.setPhase_phase, Function.update_of_ne equal] at inside
      exact represents.waiting other inside
  · intro other standing
    by_cases equal : other = thread
    · subst equal
      rw [System.setPhase_phase, Function.update_self] at standing
      subst standing
      cases after
    · rw [System.setPhase_phase, Function.update_of_ne equal] at standing
      have paced := represents.completing other standing
      simp only
      omega

theorem critical (protocol : Protocol N s) (represents : Represents N s go)
    {event : Option (Event Thread T)}
    (stretch : Critical N thread (s.phase thread) s.chan event phase c) :
    Execution.Answers (GoChannel.Step N) go
      (Represents N ({ s with chan := c }.setPhase thread phase)) event := by
  have unobserved : c.queue = s.chan.queue →
      (phase.betweenScopes = true → (s.phase thread).betweenScopes = true) →
      phase ≠ .sendReturn →
      Represents N ({ s with chan := c }.setPhase thread phase) go := by
    intro queue waiting completing
    refine represents.congr queue (fun other inside => ?_) fun other standing => ?_
    · by_cases equal : other = thread
      · subst equal
        exact waiting (by simpa using inside)
      · simpa [Function.update_of_ne equal] using inside
    · by_cases equal : other = thread
      · subst equal
        exact absurd (by simpa using standing) completing
      · simpa [Function.update_of_ne equal] using standing
  generalize standing : s.phase thread = current at stretch
  generalize held : s.chan = d at stretch
  cases stretch with
  | sendPark => exact unobserved (by rw [held]) (by simp [Phase.betweenScopes]) (by simp)
  | sendEnqueue sendDone =>
      exact represents.accept (fun other _ => protocol.nobody_between (held ▸ sendDone) other)
        (by simp) (by rw [held])
  | sendHold =>
      exact unobserved (by rw [held]) (fun _ => by rw [standing]; rfl) (by simp)
  | sendFinish room =>
      have inside : (s.phase thread).betweenScopes = true := by rw [standing]; rfl
      have last := represents.waiting thread inside
      have counted := represents.length_queue
      refine ⟨represents.delivered, by rw [represents.queue, held]; rfl, ?_, ?_⟩
      · intro other alsoInside
        by_cases equal : other = thread
        · subst equal
          simp [Phase.betweenScopes] at alsoInside
        · rw [System.setPhase_phase, Function.update_of_ne equal] at alsoInside
          exact absurd (protocol.oneSender other thread alsoInside inside) equal
      · intro other completing
        by_cases equal : other = thread
        · subst equal
          rw [last, counted, held]
          omega
        · rw [System.setPhase_phase, Function.update_of_ne equal] at completing
          exact represents.completing other completing
  | recvEnter =>
      exact ⟨go, .silent rfl,
        unobserved (by rw [held]) (by simp [Phase.betweenScopes]) (by simp)⟩
  | recvRepark => exact unobserved (by rw [held]) (by simp [Phase.betweenScopes]) (by simp)
  | recvTake receiving nonempty =>
      exact represents.deliver (held ▸ nonempty) rfl rfl
  | tryRefuse =>
      exact ⟨go, .silent rfl,
        unobserved (by rw [held]) (by simp [Phase.betweenScopes]) (by simp)⟩
  | tryEnqueue accepts =>
      exact represents.accept (fun other _ => protocol.nobody_between (held ▸ accepts.1) other)
        (by simp) (by rw [held]; rfl)
  | tryRecvMiss =>
      exact ⟨go, .silent rfl,
        unobserved (by rw [held]) (by simp [Phase.betweenScopes]) (by simp)⟩
  | tryRecvTake nonempty => exact represents.deliver (held ▸ nonempty) rfl rfl

variable [Fintype Thread] {action : Action Thread T} {event : Option (Event Thread T)}

omit [DecidableEq Thread] [Fintype Thread] in
theorem wake_ne_sendReturn {phase : Phase T} (woken : phase.wake = .sendReturn) :
    phase = .sendReturn := by
  cases phase <;> first | rfl | cases woken

theorem outside (represents : Represents N s go)
    (moved : System.Moves N s action event next)
    (unlocked : ∀ thread, action ≠ .lock thread) : Represents N next go := by
  obtain ⟨chan, phases⟩ := moved.settled settled_betweenScopes unlocked
  refine represents.congr (by rw [chan]) (fun thread inside => by rw [← phases, inside]) ?_
  intro thread standing
  by_cases equal : thread = action.thread
  · subst equal
    cases moved with
    | @call thread op idle => cases op <;> simp [Action.thread, Phase.start] at standing
    | lock => exact absurd rfl (unlocked _)
    | refuse => simp [Action.thread] at standing
    | @notify thread woken cv phase result due may =>
        simp only [Action.thread, System.setPhase_phase, Function.update_self] at standing
        subst standing
        cases current : s.phase thread <;> simp [Phase.notifies, current] at due
    | spurious =>
        simp only [Action.thread, System.setPhase_phase, Function.update_self] at standing
        exact wake_ne_sendReturn standing
  · rcases moved.bystander equal with same | woken
    · rw [← same, standing]
    · exact wake_ne_sendReturn (woken ▸ standing)

theorem step (protocol : Protocol N s) (represents : Represents N s go)
    (moved : System.Moves N s action event next) :
    Execution.Answers (GoChannel.Step N) go (Represents N next) event := by
  cases action with
  | lock thread =>
      cases moved with
      | lock stretch => exact represents.critical protocol stretch
  | notify thread woken =>
      have kept := represents.outside moved (by simp)
      cases moved with
      | @notify _ _ cv phase result due may =>
          cases result with
          | none => exact kept
          | some result =>
              refine ⟨go, ?_, kept⟩
              cases standing : s.phase thread <;> simp [Phase.notifies, standing] at due
              case sendReturn =>
                obtain ⟨rfl, rfl, rfl⟩ := due
                exact .complete (represents.completing thread standing)
              all_goals
                obtain ⟨rfl, rfl, rfl⟩ := due
                exact .silent rfl
  | call thread op =>
      have kept := represents.outside moved (by simp)
      cases moved with
      | call => exact ⟨go, .silent rfl, kept⟩
  | refuse thread =>
      have kept := represents.outside moved (by simp)
      cases moved with
      | @refuse _ result refused =>
          refine ⟨go, .silent ?_, kept⟩
          cases standing : s.phase thread <;> simp [Phase.refused, standing] at refused
          all_goals
            subst refused
            rfl
  | spurious thread =>
      have kept := represents.outside moved (by simp)
      cases moved with
      | spurious => exact kept

end Represents

/-- The observations of every run are a run of the Go channel, and the queue is
what has been accepted there and not yet delivered. -/
theorem observes_goChannel [DecidableEq Thread] [Fintype Thread] {asserts : Asserts}
    {N : Nat} {labels : List (Label Thread T)} {s : System Thread T}
    (run : System.Reaches asserts N labels s) :
    ∃ go, Execution (GoChannel.Step N) GoChannel.init (trace labels) go ∧
      Represents N s go := by
  refine run.simulate Prod.snd (Represents N) ?_ Represents.init
  rintro labels s ⟨action, event⟩ next go reached represents taken
  exact represents.step (Protocol.of_reaches reached) taken.moves

/-- First in, first out: what has been dequeued, followed by what is in the queue,
is what has been enqueued. -/
theorem dequeued_append_queue [DecidableEq Thread] [Fintype Thread] {asserts : Asserts}
    {N : Nat} {labels : List (Label Thread T)} {s : System Thread T}
    (run : System.Reaches asserts N labels s) :
    dequeued (trace labels) ++ s.chan.queue = enqueued (trace labels) := by
  obtain ⟨go, abstractRun, represents⟩ := observes_goChannel run
  have accepted := GoChannel.accepted_eq abstractRun
  rw [GoChannel.init, List.nil_append] at accepted
  rw [(GoChannel.dequeued_eq_take abstractRun).2, ← represents.queue,
    List.take_append_drop, accepted]

namespace Phase

def inFlight : Phase T → Bool
  | .sendNotify | .sendSecond | .sendEndWait | .sendReturn | .trySendReturn => true
  | _ => false

/-- What a receive of either kind has taken and not returned yet. -/
def held : Phase T → Option T
  | .recvReturn _ t _ | .tryRecvReturn t _ => some t
  | _ => none

def offers : Phase T → Option T
  | .sendFirst u | .sendBeginWait u | .trySend u => some u
  | _ => none

@[simp]
theorem inFlight_wake (phase : Phase T) : phase.wake.inFlight = phase.inFlight := by
  cases phase <;> rfl

@[simp]
theorem held_wake (phase : Phase T) : phase.wake.held = phase.held := by
  cases phase <;> rfl

@[simp]
theorem offers_wake (phase : Phase T) : phase.wake.offers = phase.offers := by
  cases phase <;> rfl

end Phase

/-- What a thread has enqueued are the values of its successful calls in program
order, and the value of the call in progress once it is in the queue. -/
structure Accounted [DecidableEq Thread] (thread : Thread) (trace : List (Event Thread T))
    (phase : Phase T) : Prop where
  settled : phase.inFlight = false →
    enqueuedBy thread trace = (ledger thread trace).accepted
  inFlight : phase.inFlight = true →
    enqueuedBy thread trace =
      (ledger thread trace).accepted ++ (ledger thread trace).pending.toList
  offered : ∀ u, phase.offers = some u → (ledger thread trace).pending = some u

namespace Accounted

variable [DecidableEq Thread] {thread : Thread} {past : List (Event Thread T)}
  {phase next : Phase T}

theorem quiet (accounted : Accounted thread past phase)
    (inFlight : next.inFlight = phase.inFlight)
    (offers : ∀ u, next.offers = some u → phase.offers = some u) :
    Accounted thread past next where
  settled standing := accounted.settled (inFlight ▸ standing)
  inFlight standing := accounted.inFlight (inFlight ▸ standing)
  offered u offering := accounted.offered u (offers u offering)

theorem enqueues {u : T} (accounted : Accounted thread past phase)
    (offering : phase.offers = some u) (before : phase.inFlight = false)
    (after : next.inFlight = true) (nothing : next.offers = none) :
    Accounted thread (past ++ [.enqueued thread u]) next where
  settled standing := by simp [after] at standing
  inFlight _ := by
    simp [accounted.settled before, accounted.offered u offering, Ledger.enter]
  offered v offered := by simp [nothing] at offered

theorem unsettled {event : Event Thread T} (accounted : Accounted thread past phase)
    (same : ∀ ledger : Ledger T, ledger.enter thread event = ledger)
    (enqueues : event.enqueues = none) (before : phase.inFlight = false)
    (after : next.inFlight = false) (nothing : next.offers = none) :
    Accounted thread (past ++ [event]) next where
  settled _ := by
    simp [same, enqueuedBy_single_of_none thread _ enqueues, accounted.settled before]
  inFlight standing := by simp [after] at standing
  offered v offered := by simp [nothing] at offered

theorem returns {result : Result T} (accounted : Accounted thread past phase)
    (accepts : phase.inFlight = result.accepts) :
    Accounted thread (past ++ [.returned thread result]) .idle where
  settled _ := by
    have nothing := enqueuedBy_single_of_none thread (.returned thread result) rfl
    cases inFlight : phase.inFlight with
    | true =>
        rw [inFlight] at accepts
        simp [Ledger.enter, ← accepts, nothing, accounted.inFlight inFlight]
    | false =>
        rw [inFlight] at accepts
        simp [Ledger.enter, ← accepts, nothing, accounted.settled inFlight]
  inFlight standing := by cases standing
  offered v offered := by cases offered

theorem calls {op : Op T} (accounted : Accounted thread past .idle) :
    Accounted thread (past ++ [.called thread op]) (.start op) where
  settled _ := by
    have nothing := enqueuedBy_single_of_none thread (.called thread op) rfl
    simp [Ledger.enter, nothing, accounted.settled rfl]
  inFlight standing := by cases op <;> cases standing
  offered u offering := by
    cases op <;> simp [Phase.start, Phase.offers] at offering <;>
      simp [Ledger.enter, Op.offered, offering]

theorem bystander {event : Option (Event Thread T)}
    (accounted : Accounted thread past phase)
    (others : ∀ seen ∈ event, seen.thread ≠ thread)
    (phases : next = phase ∨ next = phase.wake) :
    Accounted thread (past ++ event.toList) next := by
  have same : Accounted thread past next := by
    rcases phases with rfl | rfl
    · exact accounted
    · exact accounted.quiet (by simp) (by simp)
  cases event with
  | none => simpa using same
  | some seen =>
      have different := others seen rfl
      constructor <;>
        simp only [Option.toList_some, enqueuedBy_append, enqueuedBy_single_of_ne different,
          ledger_snoc, Ledger.enter_of_ne different, List.append_nil]
      · exact same.settled
      · exact same.inFlight
      · exact same.offered

theorem unobserved (accounted : Accounted thread past phase)
    (inFlight : next.inFlight = phase.inFlight)
    (offers : ∀ u, next.offers = some u → phase.offers = some u) :
    Accounted thread (past ++ (none : Option (Event Thread T)).toList) next := by
  rw [Option.toList_none, List.append_nil]
  exact accounted.quiet inFlight offers

theorem critical {N : Nat} {c after : Chan Thread T} {event : Option (Event Thread T)}
    (accounted : Accounted thread past phase)
    (stretch : Critical N thread phase c event next after) :
    Accounted thread (past ++ event.toList) next := by
  cases stretch with
  | sendPark => exact accounted.unobserved rfl (by simp [Phase.offers])
  | sendEnqueue => exact accounted.enqueues rfl rfl rfl rfl
  | sendHold => exact accounted.unobserved rfl (by simp [Phase.offers])
  | sendFinish => exact accounted.unobserved rfl (by simp [Phase.offers])
  | recvEnter => exact accounted.unsettled (fun _ => rfl) rfl rfl rfl rfl
  | recvRepark => exact accounted.unobserved rfl (by simp [Phase.offers])
  | recvTake receiving =>
      refine accounted.unsettled (fun _ => rfl) rfl ?_ rfl rfl
      rcases receiving with rfl | rfl <;> rfl
  | tryRefuse => exact accounted.returns rfl
  | tryEnqueue => exact accounted.enqueues rfl rfl rfl rfl
  | tryRecvMiss => exact accounted.returns rfl
  | tryRecvTake => exact accounted.unsettled (fun _ => rfl) rfl rfl rfl rfl

variable [Fintype Thread]

theorem actor {N : Nat} {s t : System Thread T} {action : Action Thread T}
    {event : Option (Event Thread T)}
    (accounted : Accounted action.thread past (s.phase action.thread))
    (moved : System.Moves N s action event t) :
    Accounted action.thread (past ++ event.toList) (t.phase action.thread) := by
  cases moved with
  | @call thread op standing =>
      have idle : Accounted thread past .idle := standing ▸ accounted
      simpa only [Action.thread, System.setPhase_self, Option.toList_some] using idle.calls
  | lock stretch =>
      simpa only [Action.thread, System.setPhase_self] using accounted.critical stretch
  | @refuse thread result refused =>
      simp only [Action.thread, System.setPhase_self] at accounted ⊢
      apply accounted.returns
      cases standing : s.phase thread <;> simp [standing, Phase.refused] at refused
      all_goals
        subst refused
        rfl
  | @notify thread woken cv phase result due may =>
      simp only [Action.thread, System.setPhase_self] at accounted ⊢
      cases standing : s.phase thread <;>
        simp only [standing, Phase.notifies, Option.some.injEq, Prod.mk.injEq,
          reduceCtorEq] at due accounted
      case sendNotify =>
        obtain ⟨rfl, rfl, rfl⟩ := due
        exact accounted.unobserved rfl (by simp [Phase.offers])
      all_goals
        obtain ⟨rfl, rfl, rfl⟩ := due
        exact accounted.returns rfl
  | spurious =>
      simp only [Action.thread, System.setPhase_self] at accounted ⊢
      exact accounted.unobserved (by simp) (by simp)

theorem step {N : Nat} {s t : System Thread T} {action : Action Thread T}
    {event : Option (Event Thread T)} (accounted : Accounted thread past (s.phase thread))
    (moved : System.Moves N s action event t) :
    Accounted thread (past ++ event.toList) (t.phase thread) := by
  by_cases acting : thread = action.thread
  · subst acting
    exact accounted.actor moved
  · exact accounted.bystander (moved.event_of_ne acting) (moved.bystander acting)

theorem of_reaches {asserts : Asserts} {N : Nat} {labels : List (Label Thread T)}
    {s : System Thread T} (run : System.Reaches asserts N labels s) :
    Accounted thread (trace labels) (s.phase thread) := by
  refine Execution.invariant
    (fun labels s => Accounted thread (trace labels) (s.phase thread))
    ⟨fun _ => rfl, fun standing => (by cases standing), fun u offered => by cases offered⟩
    ?_ run
  rintro labels s ⟨action, event⟩ next _ accounted taken
  rw [trace_append, trace_single]
  exact accounted.step taken.moves

omit [Fintype Thread] in
theorem between (accounted : Accounted thread past phase) :
    (ledger thread past).accepted <+: enqueuedBy thread past ∧
      enqueuedBy thread past <+:
        (ledger thread past).accepted ++ (ledger thread past).pending.toList := by
  cases inFlight : phase.inFlight with
  | true =>
      rw [accounted.inFlight inFlight]
      exact ⟨List.prefix_append _ _, List.prefix_rfl⟩
  | false =>
      rw [accounted.settled inFlight]
      exact ⟨List.prefix_rfl, List.prefix_append _ _⟩

end Accounted

/-- What the receives of a thread have returned is what it has taken, but for an
element that is about to be returned. -/
def Handed [DecidableEq Thread] (thread : Thread) (past : List (Event Thread T))
    (phase : Phase T) : Prop :=
  received thread past ++ phase.held.toList = dequeuedBy thread past

namespace Handed

variable [DecidableEq Thread] {thread : Thread} {past events : List (Event Thread T)}
  {phase next : Phase T}

theorem move (handed : Handed thread past phase)
    (same : received thread events ++ next.held.toList =
      phase.held.toList ++ dequeuedBy thread events) : Handed thread (past ++ events) next := by
  unfold Handed at handed ⊢
  rw [received_append, dequeuedBy_append, List.append_assoc, same, ← List.append_assoc, handed]

theorem settle {result : Result T} (handed : Handed thread past phase)
    (value : result.value = phase.held) :
    Handed thread (past ++ [.returned thread result]) .idle := by
  apply handed.move
  rw [received_returned, dequeuedBy_returned, value]
  rfl

theorem critical {N : Nat} {c after : Chan Thread T} {event : Option (Event Thread T)}
    (handed : Handed thread past phase) (stretch : Critical N thread phase c event next after) :
    Handed thread (past ++ event.toList) next := by
  cases stretch with
  | recvTake receiving =>
      rcases receiving with rfl | rfl <;>
        exact handed.move (by rw [Option.toList_some, dequeuedBy_dequeued]; rfl)
  | tryRecvTake => exact handed.move (by rw [Option.toList_some, dequeuedBy_dequeued]; rfl)
  | tryRefuse => exact handed.settle rfl
  | tryRecvMiss => exact handed.settle rfl
  | _ => exact handed.move rfl

variable [Fintype Thread]

theorem actor {N : Nat} {s t : System Thread T} {action : Action Thread T}
    {event : Option (Event Thread T)} (handed : Handed action.thread past (s.phase action.thread))
    (moved : System.Moves N s action event t) :
    Handed action.thread (past ++ event.toList) (t.phase action.thread) := by
  cases moved with
  | @call thread op standing =>
      simp only [Action.thread, System.setPhase_self, Option.toList_some]
      have idle : Handed thread past .idle := standing ▸ handed
      exact idle.move (by cases op <;> rfl)
  | lock stretch =>
      simp only [Action.thread, System.setPhase_self]
      exact handed.critical stretch
  | @refuse thread result refused =>
      simp only [Action.thread, System.setPhase_self] at handed ⊢
      apply handed.settle
      cases standing : s.phase thread <;> rw [standing] at refused <;> cases refused <;> rfl
  | @notify thread woken cv phase result due may =>
      simp only [Action.thread, System.setPhase_self] at handed ⊢
      cases standing : s.phase thread <;> rw [standing] at due handed
      case sendNotify =>
        cases due
        exact handed.move rfl
      all_goals
        cases due <;> exact handed.settle rfl
  | spurious =>
      simp only [Action.thread, System.setPhase_self]
      exact handed.move (by rw [Phase.held_wake]; exact (List.append_nil _).symm)

theorem step {N : Nat} {s t : System Thread T} {action : Action Thread T}
    {event : Option (Event Thread T)} (handed : Handed thread past (s.phase thread))
    (moved : System.Moves N s action event t) :
    Handed thread (past ++ event.toList) (t.phase thread) := by
  by_cases acting : thread = action.thread
  · subst acting
    exact handed.actor moved
  · have same : (t.phase thread).held = (s.phase thread).held := by
      rcases moved.bystander acting with same | woken
      · rw [same]
      · rw [woken, Phase.held_wake]
    apply handed.move
    cases event with
    | none => rw [same]; exact (List.append_nil _).symm
    | some seen =>
        have different := moved.event_of_ne acting seen rfl
        rw [Option.toList_some, received_single_of_ne different,
          dequeuedBy_single_of_ne different, same, List.nil_append, List.append_nil]

end Handed

theorem received_append_held [DecidableEq Thread] [Fintype Thread] {asserts : Asserts} {N : Nat}
    {labels : List (Label Thread T)} {s : System Thread T}
    (run : System.Reaches asserts N labels s) (thread : Thread) :
    received thread (trace labels) ++ (s.phase thread).held.toList =
      dequeuedBy thread (trace labels) := by
  refine Execution.invariant
    (fun labels (s : System Thread T) => Handed thread (trace labels) (s.phase thread)) ?_ ?_ run
  · exact rfl
  · rintro labels s ⟨action, event⟩ next _ handed taken
    rw [trace_append, trace_single]
    exact Handed.step handed taken.moves

/-- The channel refines the abstract Go channel of its capacity, for any number
of threads and under every interleaving.  What has been dequeued, followed by
what is in the queue, is what has been enqueued, in order; what a thread has
dequeued its receives return, in order; every thread's values are enqueued in
its program order; and when the blocking send of the `k`-th value returns, at
least `k - N` values have been dequeued. -/
theorem refines_goChannel [DecidableEq Thread] [Fintype Thread] {asserts : Asserts}
    {N : Nat} {labels : List (Label Thread T)} {s : System Thread T}
    (run : System.Reaches asserts N labels s) :
    (∃ go, Execution (GoChannel.Step N) GoChannel.init (trace labels) go) ∧
    dequeued (trace labels) ++ s.chan.queue = enqueued (trace labels) ∧
    (∀ thread, received thread (trace labels) ++ (s.phase thread).held.toList =
      dequeuedBy thread (trace labels)) ∧
    (∀ thread, (ledger thread (trace labels)).accepted <+:
        enqueuedBy thread (trace labels) ∧
      enqueuedBy thread (trace labels) <+:
        (ledger thread (trace labels)).accepted ++
          (ledger thread (trace labels)).pending.toList) ∧
    (∀ before thread u after, trace labels =
        before ++ [.enqueued thread u] ++ after ++ [.returned thread .sent] →
      (∀ v, Event.enqueued thread v ∉ after) →
      (enqueued (before ++ [.enqueued thread u])).length - N ≤
        (dequeued (before ++ [.enqueued thread u] ++ after)).length) := by
  obtain ⟨go, abstractRun, represents⟩ := observes_goChannel run
  refine ⟨⟨go, abstractRun⟩, dequeued_append_queue run, received_append_held run,
    fun thread => (Accounted.of_reaches run).between, ?_⟩
  intro before thread u after observed quiet
  rw [observed] at abstractRun
  have paced := GoChannel.completion_paced abstractRun quiet
  rw [enqueued_append, List.length_append]
  simp only [enqueued_single, Event.enqueues, Option.toList_some, List.length_singleton]
  omega

/-- A synchronous send of one value: it has returned after its value was
received. -/
theorem refines_goChannel_synchronous :
    ∃ (labels : List (Label Bool Nat)) (s : System Bool Nat),
      System.Reaches .compiledOut 0 labels s ∧
        results false (trace labels) = [.sent] ∧
        dequeued (trace labels) = [(false, 7)] ∧
        dequeued (trace labels) ++ s.chan.queue = enqueued (trace labels) ∧
        received true (trace labels) = dequeuedBy true (trace labels) := by
  have run := System.execution_of_replay .compiledOut 0 (System.init : System Bool Nat)
    [.call false (.send 7), .lock false, .notify false none,
      .call true (.recv .value), .lock true, .notify true none,
      .lock false, .notify false none] rfl
  obtain ⟨-, order, handed, -⟩ := refines_goChannel run
  exact ⟨_, _, run, rfl, rfl, order, (List.append_nil _).symm.trans (handed true)⟩

end Gloc.Channel
