import Gloc.Channel.Impasses
import Gloc.Channel.Schedules

/-!
# How both ends of a channel get in each other's way

If a sending and a receiving thread poll for values that are too close to each
other, there is a schedule under which the assertion fails.  Up to the first of
these values everything comes through; then the receiver polls in vain, and the
sender goes on sending until it gets to an attempt, which it does before it has
to wait.
-/

namespace Gloc.Channel

open Gloc.Transition

universe u v

variable {Thread : Type u} {T : Type v}

theorem Clients.PollingReaches.append_programs [DecidableEq Thread] [Fintype Thread]
    {asserts : Asserts} {N : Nat} {programs : Thread → List (Op T)}
    {labels : List (Label Thread T)} {c : Clients Thread T}
    (run : Clients.PollingReaches asserts N programs labels c)
    (more : Thread → List (Op T)) :
    Clients.PollingReaches asserts N (fun thread => programs thread ++ more thread) labels
      ⟨c.system, fun thread => c.rest thread ++ more thread⟩ := by
  refine run.project (fun c => (⟨c.system, fun thread => c.rest thread ++ more thread⟩ :
    Clients Thread T)) ?_
  rintro c label next ⟨follows, moved, resumed⟩
  refine ⟨follows_append follows more, moved, ?_⟩
  simp only [resumed]
  rw [advance_append follows, retry_append]

section Alone

variable [DecidableEq Thread] [Fintype Thread] {asserts : Asserts} {N : Nat}
  {c d : Chan Thread T} {rest : Thread → List (Op T)} {thread : Thread} {phase next : Phase T}

omit [Fintype Thread] in
theorem System.alone_idle_eq (c : Chan Thread T) (thread other : Thread) :
    alone c thread .idle = alone c other .idle := by
  simp [alone]

theorem Clients.polls_call {op : Op T} {later : List (Op T)} (left : rest thread = op :: later) :
    Clients.Polls asserts N ⟨System.alone c thread .idle, rest⟩
      (.call thread op, some (.called thread op))
      ⟨System.alone c thread (.start op), Function.update rest thread later⟩ := by
  have called : (System.alone c thread .idle).step asserts N (.call thread op) =
      some (.ok (some (.called thread op), System.alone c thread (.start op))) := by
    rw [System.step_call _ (System.alone_phase ..)]
    exact congrArg _ (congrArg _ (congrArg _ (System.alone_setPhase c c ..)))
  refine ⟨⟨later, left⟩, called, ?_⟩
  simp only [advance, left, List.tail_cons]
  rfl

theorem Clients.polls_lock {event : Option (Event Thread T)}
    (executed : stretch asserts N thread c phase = some (.ok (event, next, d)))
    (succeeds : ∀ seen ∈ event, seen.fails = false) :
    Clients.Polls asserts N ⟨System.alone c thread phase, rest⟩ (.lock thread, event)
      ⟨System.alone d thread next, rest⟩ :=
  ⟨trivial, System.step_alone_lock executed, (retry_of_not_fails succeeds).symm⟩

theorem Clients.polls_notify {cv : Cv} {result : Option (Result T)}
    (due : phase.notifies = some (cv, next, result)) :
    Clients.Polls asserts N ⟨System.alone c thread phase, rest⟩
      (.notify thread none, result.map (.returned thread))
      ⟨System.alone c thread next, rest⟩ := by
  have taken := @System.step_alone_notify _ _ _ _ asserts N thread c _ _ _ _ due
  have succeeds := Clients.Futile.succeeds_of_notify (System.Step.moves taken)
  exact ⟨trivial, taken, (retry_of_not_fails succeeds).symm⟩

end Alone

section Abort

variable {asserts : Asserts} {N : Nat} {c : Chan End T} {rest : End → List (Op T)}
  {later : List (Op T)}

theorem polls_send (sendDone : c.isSendDone = true) (trySendDone : c.isTrySendDone = true)
    (unpolled : c.isTrySendReady = false) (room : c.queue.length < N) {u : T}
    (left : rest .sender = .send u :: later) :
    ∃ labels, Execution (Clients.Polls asserts N) ⟨System.alone c .sender .idle, rest⟩ labels
      ⟨System.alone { c with queue := c.queue ++ [(.sender, u)] } .sender .idle,
        Function.update rest .sender later⟩ := by
  have enqueued : stretch asserts N .sender c (.start (.send u)) =
      some (.ok (some (.enqueued .sender u), .sendNotify,
        { c with queue := c.queue ++ [(.sender, u)], isSendDone := false })) := by
    have may := (c.mayEnqueue_eq_true_iff N).mpr ⟨sendDone, trySendDone, room.le⟩
    have passes : asserts .notTryReady = true → (!c.isTryReady) = true := by
      simp [Chan.isTryReady, unpolled]
    rw [Phase.start, stretch, Chan.sendFirst_eq, if_pos may, Asserts.assert_passes passes]
    rfl
  have finished : stretch asserts N .sender
      { c with queue := c.queue ++ [(.sender, u)], isSendDone := false } .sendSecond =
      some (.ok (none, .sendReturn, { c with queue := c.queue ++ [(.sender, u)] })) := by
    have spare : ¬ N < c.queue.length + 1 := Nat.not_lt.mpr room
    simp [stretch, Chan.sendSecond, Chan.isFull, spare, ← sendDone]
  exact ⟨_, ((((Execution.single (Clients.polls_call left)).snoc
    (Clients.polls_lock enqueued (by simp [Event.fails]))).snoc (Clients.polls_notify rfl)).snoc
    (Clients.polls_lock finished (by simp))).snoc (Clients.polls_notify rfl)⟩

theorem polls_sends {values : List T} (sendDone : c.isSendDone = true)
    (trySendDone : c.isTrySendDone = true) (unpolled : c.isTrySendReady = false)
    (room : c.queue.length + values.length ≤ N)
    (left : rest .sender = values.map .send ++ later) :
    ∃ labels, Execution (Clients.Polls asserts N) ⟨System.alone c .sender .idle, rest⟩ labels
      ⟨System.alone { c with queue := c.queue ++ values.map fun u => (.sender, u) } .sender .idle,
        Function.update rest .sender later⟩ := by
  induction values generalizing c rest with
  | nil =>
      have same : Function.update rest .sender later = rest := by
        rw [show later = rest .sender from left.symm, Function.update_eq_self]
      rw [same]
      exact ⟨[], by simpa using .nil⟩
  | cons u values inductionHypothesis =>
      rw [List.length_cons] at room
      have next : rest .sender = .send u :: (values.map .send ++ later) := left
      obtain ⟨early, first⟩ := @polls_send _ asserts N _ _ _ sendDone trySendDone unpolled
        (by omega) _ next
      obtain ⟨late, others⟩ := @inductionHypothesis
        { c with queue := c.queue ++ [(.sender, u)] }
        (Function.update rest .sender (values.map .send ++ later)) sendDone trySendDone unpolled
        (by simp only [List.length_append, List.length_singleton]; omega)
        (Function.update_self ..)
      refine ⟨early ++ late, first.append ?_⟩
      simpa using others

theorem exists_first_attempt {ops : List (Op T)} (sends : ∀ op ∈ ops, op.role = .sender)
    {k : Nat} {u : T} (polls : ops[k]? = some (.trySend u)) :
    ∃ (values : List T) (v : T) (later : List (Op T)),
      ops = values.map .send ++ .trySend v :: later ∧ values.length ≤ k := by
  induction ops generalizing k with
  | nil => cases polls
  | cons op ops inductionHypothesis =>
      have role := sends op List.mem_cons_self
      cases op with
      | trySend v => exact ⟨[], v, ops, rfl, Nat.zero_le _⟩
      | send v =>
          cases k with
          | zero => cases polls
          | succ k =>
              obtain ⟨values, first, later, whole, bound⟩ := inductionHypothesis
                (fun op membership => sends op (List.mem_cons_of_mem _ membership)) polls
              exact ⟨v :: values, first, later, by rw [whole]; rfl, Nat.succ_le_succ bound⟩
      | recv form => cases role
      | tryRecvPtr => cases role

theorem polls_miss (empty : c.queue = []) (left : rest .receiver = .tryRecvPtr :: later) :
    ∃ labels, Execution (Clients.Polls asserts N) ⟨System.alone c .sender .idle, rest⟩ labels
      ⟨System.alone { c with isTryRecvReady := true } .sender .idle, rest⟩ := by
  rw [System.alone_idle_eq _ End.sender .receiver, System.alone_idle_eq _ End.sender .receiver]
  have executed : stretch asserts N .receiver c .tryRecvPtr =
      some (.ok (some (.returned .receiver (.tryReceived none)), .idle,
        { c with isTryRecvReady := true })) := by
    rw [stretch, Chan.tryRecvPtr_nil empty]
    rfl
  have failed : Clients.Polls asserts N
      ⟨System.alone c .receiver .tryRecvPtr, Function.update rest .receiver later⟩
      (.lock .receiver, some (.returned .receiver (.tryReceived none)))
      ⟨System.alone { c with isTryRecvReady := true } .receiver .idle, rest⟩ := by
    refine ⟨trivial, System.step_alone_lock executed, ?_⟩
    simp only [Clients.retry, Clients.advance, Result.fails, if_true, Function.update_self,
      Function.update_idem, System.alone_phase]
    rw [show (Phase.tryRecvPtr : Phase T).due.toList ++ later = rest .receiver from left.symm,
      Function.update_eq_self]
  exact ⟨_, (Execution.single (Clients.polls_call left)).snoc failed⟩

end Abort

/-- Calls that come before any collision are all answered, and then the channel is as it was
in the beginning, except that some receiver may have been ready. -/
theorem exists_before {asserts : Asserts} {N j : Nat} {programs : End → List (Op T)}
    (keeps : KeepEnds programs) (long : ∀ thread, j ≤ (programs thread).length)
    (apart : ¬ Collide (fun thread => (programs thread).take j) N) :
    ∃ labels chan, Clients.PollingReaches asserts N programs labels
        ⟨System.alone chan .sender .idle, fun thread => (programs thread).drop j⟩ ∧
      chan.queue = [] ∧ chan.isSendDone = true ∧ chan.isTrySendDone = true ∧
      chan.isTrySendReady = false := by
  have early : KeepEnds fun thread => (programs thread).take j :=
    fun thread op membership => keeps thread op (List.mem_of_mem_take membership)
  have length : ∀ thread, ((programs thread).take j).length = j :=
    fun thread => List.length_take_of_le (long thread)
  have never : ¬ Collide (fun thread => (programs thread).take j) 0 := by
    rintro ⟨k, polls, i, u, sends, low, high⟩
    exact apart ⟨k, polls, i, u, sends, low, by omega⟩
  obtain ⟨-, -, -, ends⟩ := polls_end_iff early ((length .sender).trans (length .receiver).symm)
    (fun _ => apart) (Execution.nil : Clients.PollingReaches asserts N _ [] _)
  obtain ⟨labels, last, run, ended⟩ := (ends.mpr (.inr never) 0).reachable
  replace run : Clients.PollingReaches asserts N (fun thread => (programs thread).take j)
    labels last := run
  have sent := run.transfers_of_ended early (ended .sender)
  have received := run.transfers_of_ended early (ended .receiver)
  have counted := run.transfers_add early
  rw [length] at sent received
  have empty : last.system.chan.queue = [] := List.eq_nil_of_length_eq_zero (by omega)
  refine ⟨labels, last.system.chan, ?_, empty, ?_, run.trySendDone empty, ?_⟩
  · have whole := run.append_programs fun thread => (programs thread).drop j
    have rest : (fun thread => last.rest thread ++ (programs thread).drop j) =
        fun thread => (programs thread).drop j := by
      funext thread
      rw [(ended thread).2, List.nil_append]
    have idle : last.system = System.alone last.system.chan .sender .idle := by
      have phases : last.system.phase = Function.update (fun _ => .idle) .sender .idle := by
        funext thread
        rw [(ended thread).1, Function.update_apply, ite_self]
      rw [System.alone, ← phases]
    simp only [List.take_append_drop, rest] at whole
    rwa [idle] at whole
  · exact run.sendDone early (by rw [(ended .sender).1]; rfl)
  · by_contra polled
    obtain ⟨i, u, low, -, sends⟩ :=
      (Flagged.of_reaches early run).trySendReady (Bool.eq_true_of_not_eq_false polled)
    have inside := (List.getElem?_eq_some_iff.mp sends).choose
    rw [length] at inside
    omega

/-- If the threads poll for values that are too close to each other, the assertion fails in
some run: the receiver polls in vain, and the sender gets to an attempt before it has to
wait. -/
theorem exists_abort {asserts : Asserts} {N : Nat} {programs : End → List (Op T)}
    (keeps : KeepEnds programs) (active : asserts .notTryReady = true)
    (collide : Collide programs N) :
    ∃ labels c, Clients.PollingReaches asserts N programs labels c ∧ ¬ c.Safe asserts N := by
  classical
  -- before the first of these values everything comes through
  obtain ⟨j, ⟨polls, i, u, sends, low, high⟩, least⟩ :
      ∃ j, CollideAt programs N j ∧ ∀ k < j, ¬ CollideAt programs N k :=
    ⟨Nat.find collide, Nat.find_spec collide, fun k below => Nat.find_min collide below⟩
  have senders := (List.getElem?_eq_some_iff.mp sends).choose
  have receivers := (List.getElem?_eq_some_iff.mp polls).choose
  have apart : ¬ Collide (fun thread => (programs thread).take j) N := by
    rintro ⟨k, polled, l, v, early, within⟩
    simp only [List.getElem?_take] at early polled
    split at polled
    next below =>
      split at early
      next => exact least k below ⟨polled, l, v, early, within⟩
      next => cases early
    next => cases polled
  obtain ⟨labels, chan, run, empty, sendDone, trySendDone, unpolled⟩ :=
    @exists_before _ asserts N j programs keeps
      (fun | .sender => by omega | .receiver => by omega) apart
  have offers : ∀ op ∈ (programs .sender).drop j, op.role = .sender :=
    fun op membership => keeps .sender op (List.mem_of_mem_drop membership)
  have attempt : ((programs .sender).drop j)[i - j]? = some (.trySend u) := by
    rw [List.getElem?_drop, Nat.add_sub_cancel' low, sends]
  obtain ⟨values, v, later, whole, bound⟩ := exists_first_attempt offers attempt
  have receives : (programs .receiver).drop j =
      .tryRecvPtr :: (programs .receiver).drop (j + 1) := by
    rw [List.drop_eq_getElem_cons receivers, (List.getElem?_eq_some_iff.mp polls).choose_spec]
  obtain ⟨missed, miss⟩ := @polls_miss _ asserts N chan
    (fun thread => (programs thread).drop j) _ empty receives
  obtain ⟨sent, send⟩ := @polls_sends _ asserts N { chan with isTryRecvReady := true }
    (fun thread => (programs thread).drop j) _ values sendDone trySendDone unpolled
    (by simp only [empty, List.length_nil]; omega) whole
  refine ⟨_, _, ((run.append miss).append send).snoc
    (Clients.polls_call (Function.update_self ..)), fun safe => ?_⟩
  exact safe _ _ (System.step_trySend_aborts (System.alone_phase ..) active rfl)

/-- In this use of a channel no assertion can fail if and only if the assertion about both
ends is inactive, or the threads never poll for values that are close enough. -/
theorem polls_safe_iff {asserts : Asserts} {N : Nat} {programs : End → List (Op T)}
    (keeps : KeepEnds programs) :
    (∀ labels c, Clients.PollingReaches asserts N programs labels c → c.Safe asserts N) ↔
      (asserts .notTryReady = true → ¬ Collide programs N) := by
  refine ⟨fun safe active collide => ?_, fun apart labels c run => run.safe keeps apart⟩
  obtain ⟨labels, c, run, aborts⟩ := exists_abort keeps active collide
  exact aborts (safe labels c run)

/-- One value is sent by a select and received by a select. -/
def bothSelect : End → List (Op Nat)
  | .sender => [.trySend 7]
  | .receiver => [.tryRecvPtr]

theorem polls_safe_iff_bothSelect :
    ¬ ∀ labels c, Clients.PollingReaches .active 5 bothSelect labels c → c.Safe .active 5 := by
  have keeps : KeepEnds bothSelect := by
    rintro (_ | _) op membership
    · rw [List.mem_singleton.mp membership]
      rfl
    · rw [List.mem_singleton.mp membership]
      rfl
  intro safe
  exact (polls_safe_iff keeps).mp safe rfl ⟨0, rfl, 0, 7, rfl, Nat.le_refl _, Nat.zero_le _⟩

end Gloc.Channel
