import Gloc.Channel.Accounts

/-!
# What is sent is received exactly once

The events of a run say when an element enters and leaves the queue; what the
callers see are the values that go into accepted sends and come out of
receives.  Whatever mix of blocking calls and `select` attempts the threads
make, the two sides balance: nothing is lost, received twice or made up, and
what one thread receives it receives in the order in which it was enqueued.
-/

namespace Gloc.Channel

open Gloc.Transition

universe u v

variable {Thread : Type u} {T : Type v} [DecidableEq Thread]

def Event.takesFrom (thread : Thread) : Event Thread T → Option (Thread × T)
  | .dequeued other _ front => if other = thread then some front else none
  | .called _ _ | .enqueued _ _ | .entered _ | .returned _ _ => none

/-- The elements a thread has taken, with the threads that sent them. -/
def takenBy (thread : Thread) (trace : List (Event Thread T)) : List (Thread × T) :=
  trace.filterMap (Event.takesFrom thread)

theorem map_takenBy (thread : Thread) (trace : List (Event Thread T)) :
    (takenBy thread trace).map Prod.snd = dequeuedBy thread trace := by
  rw [takenBy, dequeuedBy, List.map_filterMap]
  congr 1
  funext event
  cases event with
  | dequeued other blocking front =>
      by_cases same : other = thread <;> simp [Event.takesFrom, Event.takes, same]
  | _ => rfl

theorem takenBy_sublist (thread : Thread) (trace : List (Event Thread T)) :
    (takenBy thread trace).Sublist (dequeued trace) := by
  induction trace with
  | nil => exact .slnil
  | cons event later inductionHypothesis =>
      cases event with
      | dequeued other blocking front =>
          by_cases same : other = thread
          · simpa [takenBy, dequeued, Event.takesFrom, same] using inductionHypothesis
          · have skipped := inductionHypothesis.cons front
            simpa [takenBy, dequeued, Event.takesFrom, same] using skipped
      | _ => exact inductionHypothesis

variable [Fintype Thread]

theorem sum_dequeuedBy (trace : List (Event Thread T)) :
    ∑ thread, (dequeuedBy thread trace : Multiset T) =
      ((dequeued trace).map Prod.snd : List T) := by
  rw [dequeued, List.map_filterMap]
  apply sum_shares Event.thread
  · intro event
    cases event <;> simp [Event.takes, Event.thread]
  · intro event thread different
    cases event <;> simp_all [Event.takes, Event.thread]

theorem sum_enqueuedBy (trace : List (Event Thread T)) :
    ∑ thread, (enqueuedBy thread trace : Multiset T) =
      ((enqueued trace).map Prod.snd : List T) := by
  have shares : ∀ thread, enqueuedBy thread trace = (enqueued trace).filterMap
      fun element => if element.1 = thread then some element.2 else none := by
    intro thread
    rw [enqueuedBy]
    induction enqueued trace with
    | nil => rfl
    | cons element later inductionHypothesis =>
        by_cases same : element.1 = thread <;> simp [same, ← inductionHypothesis]
  have whole : (enqueued trace).map Prod.snd = (enqueued trace).filterMap (some ∘ Prod.snd) :=
    (congrFun List.filterMap_eq_map _).symm
  simp only [shares, whole]
  apply sum_shares Prod.fst
  · simp
  · intro element thread different
    simp [different]

/-- The value of a send in progress, once it is in the queue. -/
def inFlight (thread : Thread) (trace : List (Event Thread T)) (phase : Phase T) : Option T :=
  if phase.inFlight then (ledger thread trace).pending else none

omit [Fintype Thread] in
theorem Accounted.enqueuedBy_eq {thread : Thread} {past : List (Event Thread T)}
    {phase : Phase T} (accounted : Accounted thread past phase) :
    enqueuedBy thread past =
      (ledger thread past).accepted ++ (Channel.inFlight thread past phase).toList := by
  cases flying : phase.inFlight with
  | true =>
      rw [Channel.inFlight, if_pos flying]
      exact accounted.inFlight flying
  | false =>
      rw [Channel.inFlight, if_neg (by simp [flying]), Option.toList_none, List.append_nil]
      exact accounted.settled flying

/-- The values that receives have returned or are about to return, together with
those in the queue, are exactly the values of the sends that have been accepted
or are about to be acknowledged, whoever made them; and every thread receives in
the order in which the values were enqueued.  This holds for all programs of
blocking calls and `select` attempts, at every moment of every run. -/
theorem receives_exactlyOnce {asserts : Asserts} {N : Nat} {programs : Thread → List (Op T)}
    {labels : List (Label Thread T)} {c : Clients Thread T}
    (run : Clients.Reaches asserts N programs labels c) :
    (∀ thread, ∃ taken : List (Thread × T),
      taken.map Prod.snd =
        received thread (trace labels) ++ (c.system.phase thread).held.toList ∧
      taken.Sublist (enqueued (trace labels))) ∧
    (∑ thread, (received thread (trace labels) ++ (c.system.phase thread).held.toList :
        List T) : Multiset T) + (c.system.chan.queue.map Prod.snd : List T) =
      (∑ thread, ((ledger thread (trace labels)).accepted ++
        (inFlight thread (trace labels) (c.system.phase thread)).toList : List T) :
        Multiset T) := by
  have order := dequeued_append_queue run.system
  refine ⟨fun thread => ⟨takenBy thread (trace labels), ?_, ?_⟩, ?_⟩
  · rw [map_takenBy, received_append_held run.system thread]
  · rw [← order]
    exact (takenBy_sublist thread _).trans (List.sublist_append_left _ _)
  · have returned : ∀ thread, received thread (trace labels) ++
        (c.system.phase thread).held.toList = dequeuedBy thread (trace labels) :=
      fun thread => received_append_held run.system thread
    have sent : ∀ thread, (ledger thread (trace labels)).accepted ++
        (inFlight thread (trace labels) (c.system.phase thread)).toList =
          enqueuedBy thread (trace labels) :=
      fun thread => (Accounted.of_reaches run.system).enqueuedBy_eq.symm
    simp only [returned, sent]
    rw [sum_dequeuedBy, sum_enqueuedBy, ← order, List.map_append, Multiset.coe_add]

/-- One value has been taken and not returned, and another one is in the queue while
its send is still in progress. -/
theorem receives_exactlyOnce_inProgress :
    ∃ (labels : List (Label Bool Nat)) (c : Clients Bool Nat),
      Clients.Reaches .active 1
        (fun thread => if thread then [.recv .pointer] else [.trySend 7, .send 8]) labels c ∧
      (c.system.phase true).held = some 7 ∧ c.system.chan.queue = [(false, 8)] ∧
      (∑ thread, (received thread (trace labels) ++ (c.system.phase thread).held.toList :
          List Nat) : Multiset Nat) + (c.system.chan.queue.map Prod.snd : List Nat) =
        (∑ thread, ((ledger thread (trace labels)).accepted ++
          (inFlight thread (trace labels) (c.system.phase thread)).toList : List Nat) :
          Multiset Nat) := by
  have run := Clients.execution_of_replay .active 1
    (.init fun thread : Bool => if thread then [Op.recv .pointer] else [.trySend 7, .send 8])
    [.call false (.trySend 7), .lock false, .notify false none, .call true (.recv .pointer),
      .lock true, .call false (.send 8), .lock false]
    (fun _ => []) rfl (by decide)
  exact ⟨_, _, run, rfl, rfl, (receives_exactlyOnce run).2⟩

end Gloc.Channel
