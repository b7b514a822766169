import Gloc.Channel.Scripts

/-!
# Networks that come to an end

A network lies in layers if every channel leads from one layer to a later one
and no process has two inlets.  Nothing can then be in anybody's way: a process
that waits for room waits for a later one, a process that waits for a value
waits for an earlier one, and neither chain goes on for ever.  Whether such a
network comes to its end is therefore a matter of numbers: every process has to
finish by the script, and on every channel as much has to be asked for as is
sent, up to what the channel can hold.
-/

namespace Gloc.Channel

open Gloc.Transition

universe u v

namespace Network

variable {Node : Type u} {Wire : Type v} [DecidableEq Wire]

/-- Every channel leads to a later process, and no process has two inlets. -/
structure Layered (network : Network Node Wire) where
  layer : Node → Nat
  later : ∀ wire, layer (network.source wire) < layer (network.target wire)
  oneInlet : ∀ wire other, network.target wire = network.target other → wire = other

/-- All processes finish, what they ask for is sent, and what they do not ask for does not
fill the channel. -/
structure Script.Balanced {network : Network Node Wire} (script : network.Script) : Prop where
  finished : ∀ node, script.ending node = .finished
  supplied : ∀ wire, script.calls wire ≤ (script.values wire).length
  drained : ∀ wire, (script.values wire).length ≤ script.calls wire + network.capacity wire

theorem Advances.workload_lt [Fintype Wire] {network : Network Node Wire} {asserts : Asserts}
    {happens : network.Happens}
    {before after : (wire : Wire) → Clients End (network.Value wire)}
    (advances : network.Advances asserts happens before after) (caused : ¬ happens.isSpurious) :
    total id (fun wire => (after wire).workload) <
      total id fun wire => (before wire).workload := by
  refine Finset.sum_lt_sum (fun wire _ => ?_) ⟨happens.1, Finset.mem_univ _, ?_⟩
  · by_cases same : wire = happens.1
    · subst same
      exact (advances.taken.workload_lt caused).le
    · exact (congrArg Clients.workload (advances.elsewhere wire same)).le
  · exact advances.taken.workload_lt caused

namespace Follows

variable {network : Network Node Wire} {asserts : Asserts} {script : network.Script}
  {past : List network.Happens} {s : network.State} {acts : Node → List (Act network.Value)}

theorem piped (follows : Follows network asserts script past s acts) (wire : Wire) :
    Piped (script.values wire) (script.calls wire) (trace (happensOn wire past))
      (network.clients s acts wire) :=
  Piped.of_reaches (follows.channels wire)

theorem safe [DecidableEq Node] (follows : Follows network asserts script past s acts)
    (unaborted : ∀ node, script.ending node ≠ .aborted) : network.Safe asserts s := by
  refine ⟨fun node aborts => ?_, fun wire => ?_⟩
  · exact unaborted node ((follows.performs node).of_abort aborts).2
  · exact Piped.safe (follows.channels wire)

theorem ended (follows : Follows network asserts script past s acts) {wire : Wire}
    {thread : End} (finishes : network.instructionAt s wire thread = .finish) :
    (network.clients s acts wire).Ended thread := by
  have done := ((follows.performs _).of_finish finishes).1
  have idle : (s.channel wire).phase thread = .idle := by
    rcases ((s.channel wire).phase thread).idle_or_busy with idle | busy
    · exact idle
    · obtain ⟨act, first, -⟩ := follows.busy wire thread busy
      rw [done] at first
      cases first
  refine ⟨idle, ?_⟩
  rw [clients_rest, done, List.drop_nil]
  cases thread with
  | sender => rfl
  | receiver => rfl

theorem balanced_of_finished (follows : Follows network asserts script past s acts)
    (finished : network.Finished s) : script.Balanced := by
  have numbers := fun wire =>
    Piped.balanced_of_ended (follows.channels wire) fun thread => follows.ended (finished _)
  exact
    { finished := fun node => ((follows.performs node).of_finish (finished node)).2
      supplied := fun wire => (numbers wire).1
      drained := fun wire => (numbers wire).2 }

theorem continues (follows : Follows network asserts script past s acts) {wire : Wire}
    {action : Action End (network.Value wire)} {thread : End} {result : Result (network.Value wire)}
    {t : System End (network.Value wire)}
    (moved : System.Moves (network.capacity wire) (s.channel wire) action
      (some (.returned thread result)) t) :
    ∃ next, Continues (network.instructionAt s wire thread) wire thread result next := by
  obtain ⟨act, first, place⟩ := follows.busy wire thread moved.busy_of_returned
  have left := List.eq_cons_of_mem_head? first
  have performs := follows.performs (network.owner wire thread)
  rw [left] at performs
  have returned := moved.returned.2.2.resolve_left (by
    rw [show (s.channel wire).phase thread = (network.clients s acts wire).system.phase thread
      from rfl, (Piped.unselecting (follows.channels wire)).phases thread]
    decide)
  cases place with
  | send =>
      have producing := (follows.piped wire).sends.producing
      obtain ⟨_, _, next, instructed, same⟩ | ⟨_, _, _, same⟩ := performs.of_cons
      · cases same
        rcases returned with ⟨-, rfl⟩ | ⟨form, u, cv, standing, -⟩
        · exact ⟨next, by rw [instructionAt, instructed]; exact .sent⟩
        · rw [clients, standing] at producing
          cases producing
      · cases same
  | recv =>
      have consuming := (follows.piped wire).receives.consuming
      obtain ⟨_, _, _, _, same⟩ | ⟨_, next, instructed, same⟩ := performs.of_cons
      · cases same
      · cases same
        rcases returned with ⟨standing, -⟩ | ⟨form, u, cv, standing, rfl⟩
        · rw [clients, standing] at consuming
          cases consuming
        · rw [clients, standing] at consuming
          cases form with
          | value => exact ⟨next u, by rw [instructionAt, instructed]; exact .received⟩
          | _ => cases consuming

variable [DecidableEq Node]

theorem exists_step (follows : Follows network asserts script past s acts) {wire : Wire}
    {action : Action End (network.Value wire)}
    {outcome : Except Assertion
      (Option (Event End (network.Value wire)) × System End (network.Value wire))}
    (noCall : ∀ thread op, action ≠ .call thread op)
    (possible : (s.channel wire).step asserts (network.capacity wire) action = some outcome) :
    ∃ event next, network.Step asserts s ⟨wire, action, event⟩ next := by
  cases outcome with
  | error site => exact absurd possible (Piped.safe (follows.channels wire) action site)
  | ok taken =>
      obtain ⟨event, t⟩ := taken
      by_cases returned : ∃ thread result, event = some (.returned thread result)
      · obtain ⟨thread, result, rfl⟩ := returned
        obtain ⟨next, continues⟩ := follows.continues (System.Step.moves possible)
        exact ⟨_, _, .returns possible continues⟩
      · rw [not_exists] at returned
        exact ⟨event, _, .proceed noCall
          (fun thread result same => returned thread ⟨result, same⟩) possible⟩

end Follows

variable [DecidableEq Node]

/-- Nothing but a spurious wake-up can happen. -/
def AtRest (network : Network Node Wire) (asserts : Asserts) (s : network.State) : Prop :=
  ∀ happens next, network.Step asserts s happens next → happens.isSpurious

namespace Follows

variable {network : Network Node Wire} {asserts : Asserts} {script : network.Script}
  {past : List network.Happens} {s : network.State} {acts : Node → List (Act network.Value)}

theorem resting (follows : Follows network asserts script past s acts)
    (atRest : network.AtRest asserts s) (wire : Wire) : (s.channel wire).Resting := by
  have impossible : ∀ action, (∀ thread op, action ≠ .call thread op) →
      action.isSpurious = false →
      (s.channel wire).step asserts (network.capacity wire) action = none := by
    intro action noCall caused
    by_contra possible
    obtain ⟨outcome, possible⟩ := Option.ne_none_iff_exists'.mp possible
    obtain ⟨event, next, taken⟩ := follows.exists_step noCall possible
    have spurious : action.isSpurious = true := atRest _ _ taken
    rw [caused] at spurious
    cases spurious
  intro thread
  apply System.idle_or_parked
  · exact impossible (.lock thread) (by simp) rfl
  · exact fun woken => impossible (.notify thread woken) (by simp) rfl

theorem parked (follows : Follows network asserts script past s acts)
    (atRest : network.AtRest asserts s) {wire : Wire} {thread : End}
    {op : Op (network.Value wire)}
    (calls : Calls (network.instructionAt s wire thread) wire thread op) :
    ∃ cv, ((s.channel wire).phase thread).waitsOn cv := by
  rcases follows.resting atRest wire thread with idle | parked
  · have taken : System.Step asserts (network.capacity wire) (s.channel wire)
        (.call thread op, some (.called thread op))
        ((s.channel wire).setPhase thread (.start op)) := by
      simp only [System.Step, System.step, idle]
    cases atRest _ _ (.call calls taken)
  · exact parked

/-- At rest a process has finished, or it waits at one of its outlets or inlets. -/
theorem waits (follows : Follows network asserts script past s acts)
    (unaborted : ∀ node, script.ending node ≠ .aborted) (atRest : network.AtRest asserts s)
    (node : Node) :
    network.instruction node (s.node node) = .finish ∨
      (∃ wire, network.source wire = node ∧
        ∃ cv, ((s.channel wire).phase .sender).waitsOn cv) ∨
      ∃ wire, network.target wire = node ∧
        ∃ cv, ((s.channel wire).phase .receiver).waitsOn cv := by
  cases instructed : network.instruction node (s.node node) with
  | finish => exact .inl rfl
  | abort => exact absurd instructed ((follows.safe unaborted).1 node)
  | send wire value next =>
      obtain rfl := network.sends instructed
      have calls : Calls (network.instructionAt s wire .sender) wire .sender (.send value) := by
        rw [instructionAt, show network.instruction _ (s.node (network.owner wire .sender)) = _
          from instructed]
        exact .send
      exact .inr (.inl ⟨wire, rfl, follows.parked atRest calls⟩)
  | recv wire next =>
      obtain rfl := network.receives instructed
      have calls : Calls (network.instructionAt s wire .receiver) wire .receiver
          (.recv .value) := by
        rw [instructionAt, show network.instruction _ (s.node (network.owner wire .receiver)) = _
          from instructed]
        exact .recv
      exact .inr (.inr ⟨wire, rfl, follows.parked atRest calls⟩)

variable [Fintype Wire]

/-- What a sender waits for downstream is a later sender, and so on. -/
theorem unblocked (follows : Follows network asserts script past s acts)
    (layered : network.Layered) (balanced : script.Balanced) (atRest : network.AtRest asserts s)
    (wire : Wire) : ¬ ∃ cv, ((s.channel wire).phase .sender).waitsOn cv := by
  induction height : (Finset.univ.sup fun wire => layered.layer (network.target wire)) -
      layered.layer (network.target wire) using Nat.strongRecOn generalizing wire with
  | _ height inductionHypothesis =>
    intro blocked
    obtain ⟨nonempty, room⟩ := Piped.length_of_blocked (follows.channels wire)
      (follows.resting atRest wire) blocked
    have drained := balanced.drained wire
    rcases follows.waits (by simp [balanced.finished]) atRest (network.target wire) with
      finishes | ⟨other, same, blocked⟩ | ⟨other, same, starves⟩
    · have ended : (network.clients s acts wire).Ended .receiver := follows.ended finishes
      have counted := (follows.piped wire).receives.counted
      rw [ended.1, ended.2] at counted
      simp only [Phase.busy, List.length_nil] at counted
      omega
    · have highest := Finset.le_sup (f := fun wire => layered.layer (network.target wire))
        (Finset.mem_univ other)
      have later := layered.later other
      rw [same] at later
      refine inductionHypothesis _ ?_ other rfl blocked
      omega
    · obtain rfl := layered.oneInlet wire other same.symm
      exact nonempty (Piped.length_of_starved (follows.channels wire)
        (follows.resting atRest wire) starves).1

/-- What a receiver waits for upstream is an earlier receiver, and so on. -/
theorem unstarved (follows : Follows network asserts script past s acts)
    (layered : network.Layered) (balanced : script.Balanced) (atRest : network.AtRest asserts s)
    (wire : Wire) : ¬ ∃ cv, ((s.channel wire).phase .receiver).waitsOn cv := by
  induction depth : layered.layer (network.source wire) using Nat.strongRecOn
      generalizing wire with
  | _ depth inductionHypothesis =>
    intro starves
    obtain ⟨-, few, all⟩ := Piped.length_of_starved (follows.channels wire)
      (follows.resting atRest wire) starves
    have supplied := balanced.supplied wire
    rcases follows.waits (by simp [balanced.finished]) atRest (network.source wire) with
      finishes | ⟨other, -, blocked⟩ | ⟨other, same, starves⟩
    · have received := all (follows.ended finishes)
      omega
    · exact follows.unblocked layered balanced atRest other blocked
    · have earlier := layered.later other
      rw [same, depth] at earlier
      exact inductionHypothesis _ earlier other rfl starves

theorem finished_of_atRest (follows : Follows network asserts script past s acts)
    (layered : network.Layered) (balanced : script.Balanced)
    (atRest : network.AtRest asserts s) : network.Finished s := by
  intro node
  rcases follows.waits (by simp [balanced.finished]) atRest node with
    finishes | ⟨wire, -, blocked⟩ | ⟨wire, -, starves⟩
  · exact finishes
  · exact absurd blocked (follows.unblocked layered balanced atRest wire)
  · exact absurd starves (follows.unstarved layered balanced atRest wire)

end Follows

/-- A network in layers comes to its end, whatever the schedule, if and only if its script
is balanced. -/
theorem finishes_iff [Fintype Wire] {network : Network Node Wire} {asserts : Asserts}
    (layered : network.Layered) (script : network.Script) :
    network.Finishes asserts ↔ script.Balanced := by
  constructor
  · rintro ⟨-, inevitable⟩
    obtain ⟨labels, last, run, finished⟩ := (inevitable [] network.init .nil 0).reachable
    obtain ⟨acts, follows⟩ := Follows.of_reaches script run
    exact follows.balanced_of_finished finished
  · intro balanced
    refine ⟨fun past s run => ?_, fun past s run budget => ?_⟩
    · obtain ⟨acts, follows⟩ := Follows.of_reaches script run
      exact follows.safe (by simp [balanced.finished])
    · obtain ⟨acts, follows⟩ := Follows.of_reaches script run
      refine Inevitable.of_measure (fun s bound => ∃ past acts,
        Follows network asserts script past s acts ∧
          total id (fun wire => (network.clients s acts wire).workload) = bound)
        ?_ ?_ ?_ budget ⟨past, acts, follows, rfl⟩
      · rintro s _ happens next ⟨past, acts, follows, -⟩ taken
        obtain ⟨acts', -, later⟩ := follows.step taken
        exact ⟨_, _, acts', later, rfl⟩
      · rintro s _ happens next ⟨past, acts, follows, rfl⟩ caused taken
        obtain ⟨acts', advances, later⟩ := follows.step taken
        exact ⟨_, advances.workload_lt caused, _, acts', later, rfl⟩
      · rintro s _ ⟨past, acts, follows, -⟩ short
        by_contra stuck
        refine short (follows.finished_of_atRest layered balanced fun happens next taken => ?_)
        by_contra caused
        exact stuck ⟨happens, next, caused, taken⟩

end Network

end Gloc.Channel
