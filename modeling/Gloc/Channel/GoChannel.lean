import Mathlib.Logic.Function.Basic
import Gloc.Channel.Interface
import Gloc.Transition.Execution

/-!
# The abstract Go channel

A channel of capacity `N` as its users understand it, without a lock, flags or
condition variables.  Values are delivered in the order in which they were
accepted, and the send of the `k`-th value completes only after `k - N` values
have been delivered; with `N = 0` a send completes only after its own value
has been delivered.
-/

namespace Gloc.Channel

open Gloc.Transition

universe u v

/-- The elements accepted so far in order, how many of them have been
delivered, and for each thread the number of the last value it has sent,
counted from one. -/
structure GoChannel (Thread : Type u) (T : Type v) where
  accepted : List (Thread × T)
  delivered : Nat
  ticket : Thread → Nat

/-- Events that are neither an acceptance, nor a delivery, nor the completion
of a blocking send. -/
def Event.silent {Thread : Type u} {T : Type v} : Event Thread T → Bool
  | .enqueued _ _ | .dequeued _ _ _ | .returned _ .sent => false
  | _ => true

namespace GoChannel

variable {Thread : Type u} {T : Type v}

def init : GoChannel Thread T :=
  { accepted := [], delivered := 0, ticket := fun _ => 0 }

variable [DecidableEq Thread]

/-- What a Go channel of capacity `N` allows to happen. -/
inductive Step (N : Nat) :
    GoChannel Thread T → Event Thread T → GoChannel Thread T → Prop where
  | accept {go thread u} :
      Step N go (.enqueued thread u)
        { go with
          accepted := go.accepted ++ [(thread, u)]
          ticket := Function.update go.ticket thread (go.accepted.length + 1) }
  | deliver {go thread blocking front} :
      go.accepted[go.delivered]? = some front →
      Step N go (.dequeued thread blocking front)
        { go with delivered := go.delivered + 1 }
  | complete {go thread} :
      go.ticket thread ≤ go.delivered + N →
      Step N go (.returned thread .sent) go
  | silent {go event} :
      event.silent = true →
      Step N go event go

variable {N : Nat} {go last : GoChannel Thread T} {events : List (Event Thread T)}

theorem accepted_eq (run : Execution (Step N) go events last) :
    last.accepted = go.accepted ++ enqueued events := by
  refine Execution.invariant
    (fun events last => last.accepted = go.accepted ++ enqueued events)
    (by simp) ?_ run
  intro events middle event last _ known taken
  cases taken with
  | accept => simp [known]
  | deliver => simp [known]
  | complete => simp [known]
  | silent quiet => cases event <;> simp [known, Event.silent] at quiet ⊢

/-- First in, first out: what has been delivered is an initial part of what
has been accepted. -/
theorem dequeued_eq_take
    (run : Execution (Step N) (init : GoChannel Thread T) events last) :
    last.delivered ≤ last.accepted.length ∧
      dequeued events = last.accepted.take last.delivered := by
  refine Execution.invariant
    (fun events last => last.delivered ≤ last.accepted.length ∧
      dequeued events = last.accepted.take last.delivered)
    (by simp [init]) ?_ run
  intro events middle event last _ known taken
  obtain ⟨bounded, delivered⟩ := known
  cases taken with
  | accept =>
      refine ⟨by simp; omega, ?_⟩
      simp [delivered, List.take_append_of_le_length bounded]
  | @deliver thread blocking front next =>
      obtain ⟨inside, value⟩ := List.getElem?_eq_some_iff.mp next
      refine ⟨inside, ?_⟩
      rw [dequeued_append, delivered, List.take_succ_eq_append_getElem inside, value]
      simp
  | complete => exact ⟨bounded, by simp [delivered]⟩
  | silent quiet =>
      refine ⟨bounded, ?_⟩
      cases event <;> simp [delivered, Event.silent] at quiet ⊢

theorem ticket_eq {thread : Thread} (run : Execution (Step N) go events last)
    (quiet : ∀ u, Event.enqueued thread u ∉ events) :
    last.ticket thread = go.ticket thread := by
  refine Execution.invariant
    (fun events last => (∀ u, Event.enqueued thread u ∉ events) →
      last.ticket thread = go.ticket thread)
    (fun _ => rfl) ?_ run quiet
  intro events middle event last _ known taken quiet
  have earlier := known fun u membership => quiet u (by simp [membership])
  cases taken with
  | @accept other u =>
      rw [← earlier]
      refine Function.update_of_ne ?_ _ _
      rintro rfl
      exact quiet u (by simp)
  | deliver => exact earlier
  | complete => exact earlier
  | silent => exact earlier

/-- The pace of a Go channel: when the send of the `k`-th value completes,
at least `k - N` values have been delivered. -/
theorem completion_paced {before after : List (Event Thread T)} {thread : Thread} {u : T}
    (run : Execution (Step N) (init : GoChannel Thread T)
      (before ++ [.enqueued thread u] ++ after ++ [.returned thread .sent]) last)
    (quiet : ∀ v, Event.enqueued thread v ∉ after) :
    (enqueued before).length + 1 ≤
      (dequeued (before ++ [.enqueued thread u] ++ after)).length + N := by
  obtain ⟨complete, toComplete, completion⟩ := run.split
  obtain ⟨sent, toSent, waiting⟩ := toComplete.split
  obtain ⟨start, toStart, sending⟩ := toSent.split
  have numbered : sent.ticket thread = (enqueued before).length + 1 := by
    have accepted := accepted_eq toStart
    cases Execution.single_iff.mp sending with
    | accept => simp [accepted, init]
    | silent quiet => cases quiet
  have kept := ticket_eq waiting quiet
  have paced : complete.ticket thread ≤ complete.delivered + N := by
    cases Execution.single_iff.mp completion with
    | complete paced => exact paced
    | silent quiet => cases quiet
  obtain ⟨bounded, delivered⟩ := dequeued_eq_take toComplete
  rw [delivered, List.length_take, Nat.min_eq_left bounded]
  omega

end GoChannel

end Gloc.Channel
