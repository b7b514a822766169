import Gloc.Channel.Attempts
import Gloc.Channel.Cases

/-!
# Which case a select does

A case that fails is not without effect: it sets a readiness flag of its channel.
Whether the next case can proceed does not depend on these flags, and neither does
anything that other threads do to the channels in a build with `NDEBUG`.  Hence a
`select` does the first case in its order that is possible at its turn, as if the
cases before it had not been tried.
-/

namespace Gloc.Channel

open Gloc.Transition

universe u v w x

section Discretion

variable {World : Type u} {View : Type v}

/-- A change of the world that does not depend on what cannot be viewed. -/
def Blind (view : World → View) (change : World → World) : Prop :=
  ∀ {world same}, view world = view same → view (change world) = view (change same)

/-- A case that does not depend on what cannot be viewed, and changes nothing else if it
fails. -/
structure Discreet (view : World → View) (tryFunction : TryFunction World) : Prop where
  result : ∀ {world same}, view world = view same →
    (tryFunction world).1 = (tryFunction same).1
  effect : Blind view fun world => (tryFunction world).2
  failure : ∀ {world}, (tryFunction world).1 = false → view (tryFunction world).2 = view world

variable (view : World → View) (tryFunctions : List (TryFunction World))
  (others : Nat → World → World) (start : Nat) (first : World)

/-- The case at this turn fails, in the world as the others have made it. -/
def FailsAt (turn : Nat) : Prop :=
  ∃ tryFunction, tryFunctions[(start + turn) % tryFunctions.length]? = some tryFunction ∧
    (tryFunction (drift others first (turn + 1))).1 = false

/-- The case at this turn succeeds there, all before it fail, and its effect is seen. -/
structure FirstAt (turn : Nat) (after : World) : Prop where
  earlier : ∀ before < turn, FailsAt tryFunctions others start first before
  succeeds : ∃ tryFunction,
    tryFunctions[(start + turn) % tryFunctions.length]? = some tryFunction ∧
    (tryFunction (drift others first (turn + 1))).1 = true ∧
    view after = view (tryFunction (drift others first (turn + 1))).2

/-- All cases that have been tried have failed, and nothing can be seen of them. -/
structure Unseen (trial : Trial World) : Prop where
  fails : ∀ turn < trial.tried.length, FailsAt tryFunctions others start first turn
  world : view trial.world = view (drift others first trial.tried.length)

variable {view tryFunctions others start first} {trial : Trial World}

theorem Unseen.none : Unseen view tryFunctions others start first ⟨[], first⟩ where
  fails _ below := absurd below (Nat.not_lt_zero _)
  world := rfl

variable (discreet : ∀ tryFunction ∈ tryFunctions, Discreet view tryFunction)
  (blind : ∀ turn, Blind view (others turn))

include discreet blind

theorem Unseen.next (unseen : Unseen view tryFunctions others start first trial)
    (nonempty : tryFunctions ≠ []) :
    ∃ succeeded after, tryAt tryFunctions others trial
        ((start + trial.tried.length) % tryFunctions.length) = some (succeeded, after) ∧
      after.tried.length = trial.tried.length + 1 ∧
      if succeeded then
        FirstAt view tryFunctions others start first trial.tried.length after.world
      else Unseen view tryFunctions others start first after := by
  have inside : (start + trial.tried.length) % tryFunctions.length < tryFunctions.length :=
    Nat.mod_lt _ (List.length_pos_of_ne_nil nonempty)
  obtain ⟨tryFunction, stored⟩ :
      ∃ tryFunction, tryFunctions[(start + trial.tried.length) % tryFunctions.length]? =
        some tryFunction := ⟨_, List.getElem?_eq_getElem inside⟩
  have harmless := discreet tryFunction (List.mem_of_getElem? stored)
  have same : view (others trial.tried.length trial.world) =
      view (drift others first (trial.tried.length + 1)) := blind _ unseen.world
  have result := harmless.result same
  have effect := harmless.effect same
  refine ⟨_, _, by rw [tryAt, stored]; rfl, by simp, ?_⟩
  cases succeeded : (tryFunction (others trial.tried.length trial.world)).1 with
  | true =>
      exact ⟨unseen.fails, tryFunction, stored, result.symm.trans succeeded, effect⟩
  | false =>
      have failed := result.symm.trans succeeded
      have unchanged := (harmless.failure succeeded).trans same
      refine ⟨fun turn below => ?_, ?_⟩
      · rw [List.length_append, List.length_singleton, Nat.lt_succ_iff_lt_or_eq] at below
        rcases below with earlier | rfl
        · exact unseen.fails turn earlier
        · exact ⟨tryFunction, stored, failed⟩
      · rw [List.length_append]
        exact unchanged

theorem Unseen.tryOnceFrom {rounds : Nat}
    (unseen : Unseen view tryFunctions others start first trial)
    (remaining : trial.tried.length + rounds = tryFunctions.length) :
    ∃ returned after, tryOnceFrom tryFunctions others start rounds trial.tried.length trial =
        some (returned, after) ∧
      if returned then
        ∃ turn < tryFunctions.length, FirstAt view tryFunctions others start first turn after.world
      else after.tried.length = tryFunctions.length ∧
        Unseen view tryFunctions others start first after := by
  induction rounds generalizing trial with
  | zero => exact ⟨false, trial, rfl, remaining, unseen⟩
  | succ rounds inductionHypothesis =>
      have nonempty : tryFunctions ≠ [] := by
        apply List.ne_nil_of_length_pos
        omega
      obtain ⟨succeeded, after, tried, length, outcome⟩ := unseen.next discreet blind nonempty
      unfold Channel.tryOnceFrom
      rw [tried]
      cases succeeded with
      | true => exact ⟨true, after, rfl, trial.tried.length, by omega, outcome⟩
      | false =>
          rw [← length]
          exact inductionHypothesis outcome (by omega)

omit discreet blind in
theorem wait_succ (random : UInt32) (iterations : Nat) :
    wait tryFunctions others random first (iterations + 1) =
      iterate tryFunctions others (fun _ => true)
        (wait tryFunctions others random first iterations) := rfl

/-- After some iterations of its loop, `wait` has returned with the first case that
succeeds, or all have failed so far. -/
theorem waits_first (nonempty : tryFunctions ≠ []) (random : UInt32) (iterations : Nat) :
    (∃ trial, wait tryFunctions others random first iterations = .returned trial ∧
      ∃ turn < iterations,
        FirstAt view tryFunctions others (random.toNat + 1) first turn trial.world) ∨
    ∃ i trial, wait tryFunctions others random first iterations = .trying i trial ∧
      (i + 1) % tryFunctions.length =
        (random.toNat + 1 + iterations) % tryFunctions.length ∧
      trial.tried.length = iterations ∧
      Unseen view tryFunctions others (random.toNat + 1) first trial := by
  induction iterations with
  | zero => exact .inr ⟨_, _, rfl, rfl, rfl, .none⟩
  | succ iterations inductionHypothesis =>
      rcases inductionHypothesis with ⟨trial, returned, turn, below, success⟩ |
        ⟨i, trial, trying, turn, length, unseen⟩
      · refine .inl ⟨trial, ?_, turn, Nat.lt_succ_of_lt below, success⟩
        rw [wait_succ, returned]
        rfl
      · obtain ⟨succeeded, after, tried, longer, outcome⟩ := unseen.next discreet blind nonempty
        rw [length, ← turn] at tried
        have some : tryFunctions.length ≠ 0 := mt List.length_eq_zero_iff.mp nonempty
        rw [wait_succ, trying, iterate, if_neg some, tried]
        cases succeeded with
        | true => exact .inl ⟨after, rfl, trial.tried.length, by omega, outcome⟩
        | false =>
            refine .inr ⟨_, after, if_pos rfl, ?_, longer.trans (congrArg _ length), outcome⟩
            rw [turn, Nat.mod_add_mod]
            rfl

end Discretion

/-- Some channels, which of their mutexes are free, and what the functions of the cases
work on. -/
structure Channels (Wire : Type u) (Value : Wire → Type v) (Thread : Type w) (Local : Type x) where
  chan : (wire : Wire) → Chan Thread (Value wire)
  isFree : Wire → Bool
  here : Local

namespace Channels

variable {Wire : Type u} {Value : Wire → Type v} {Thread : Type w} {Local : Type x}

/-- All but the readiness flags of attempts -/
def quiet (world : Channels Wire Value Thread Local) : Channels Wire Value Thread Local :=
  { world with chan := fun wire => (world.chan wire).tried false false }

variable [DecidableEq Wire]

theorem quiet_update (world : Channels Wire Value Thread Local) (wire : Wire)
    (c : Chan Thread (Value wire)) (here : Local) :
    quiet { world with chan := Function.update world.chan wire c, here := here } =
      { world.quiet with
        chan := Function.update world.quiet.chan wire (c.tried false false)
        here := here } := by
  simp only [quiet, mk.injEq, and_true]
  funext other
  by_cases same : other = wire
  · subst same
    simp only [Function.update_self]
  · simp only [Function.update_of_ne same]

theorem quiet_flags (world : Channels Wire Value Thread Local) {wire : Wire}
    {c : Chan Thread (Value wire)}
    (same : c.tried false false = (world.chan wire).tried false false) :
    quiet { world with chan := Function.update world.chan wire c } = world.quiet := by
  have updated := quiet_update world wire c world.here
  rw [same] at updated
  rw [updated]
  exact congrArg (fun chan => { world.quiet with chan := chan }) (Function.update_eq_self ..)

def access (Value : Wire → Type v) (Thread : Type w) (Local : Type x) (wire : Wire) :
    Access (Channels Wire Value Thread Local) Thread (Value wire) where
  channel world := world.chan wire
  update chan world := { world with chan := Function.update world.chan wire chan }
  isFree world := world.isFree wire

section Access

variable (wire : Wire) (world : Channels Wire Value Thread Local)

@[simp]
theorem access_channel : (access Value Thread Local wire).channel world = world.chan wire := rfl

@[simp]
theorem access_update (c : Chan Thread (Value wire)) :
    (access Value Thread Local wire).update c world =
      { world with chan := Function.update world.chan wire c } := rfl

@[simp]
theorem access_isFree : (access Value Thread Local wire).isFree world = world.isFree wire := rfl

end Access

end Channels

/-- The cases of a `select`: `send` and `recv`, on any of the channels. -/
inductive Case (Wire : Type u) (Value : Wire → Type v) (Local : Type x) where
  | send (wire : Wire) (t : Value wire) (f : Local → Local)
  | recv (wire : Wire) (f : Value wire → Local → Local)

namespace Case

variable {Wire : Type u} {Value : Wire → Type v} {Thread : Type w} {Local : Type x}
  [DecidableEq Wire] [DecidableEq Thread]

def tryFunction (N : Wire → Nat) (me : Thread) :
    Case Wire Value Local → TryFunction (Channels Wire Value Thread Local)
  | .send wire t f =>
      trySendNullary (Channels.access Value Thread Local wire) (N wire) me t fun world =>
        { world with here := f world.here }
  | .recv wire f =>
      tryRecvUnary (Channels.access Value Thread Local wire) (N wire) me fun t world =>
        { world with here := f t world.here }

/-- The mutex is free, and the channel has room for the value, or a value. -/
def Possible (N : Wire → Nat) (world : Channels Wire Value Thread Local) :
    Case Wire Value Local → Prop
  | .send wire _ _ => world.isFree wire = true ∧ (world.chan wire).acceptsTry (N wire)
  | .recv wire _ => world.isFree wire = true ∧ (world.chan wire).queue ≠ []

/-- A case is done: its value goes to the end of the queue, or the function gets the value
at its front. -/
def perform (N : Wire → Nat) (me : Thread) (world : Channels Wire Value Thread Local) :
    Case Wire Value Local → Channels Wire Value Thread Local
  | .send wire t f =>
      { world with
        chan := Function.update world.chan wire ((world.chan wire).trySent (N wire) me t)
        here := f world.here }
  | .recv wire f =>
      match (world.chan wire).queue with
      | [] => world
      | front :: rest =>
          { world with
            chan := Function.update world.chan wire ((world.chan wire).tryReceived rest)
            here := f front.2 world.here }

section Discretion

variable {N : Wire → Nat} {me : Thread} {world : Channels Wire Value Thread Local}

omit [DecidableEq Thread] in
theorem perform_quiet (case : Case Wire Value Local) :
    (case.perform N me world).quiet = (case.perform N me world.quiet).quiet := by
  cases case with
  | send wire t f =>
      simp only [perform, Channels.quiet_update]
      rfl
  | recv wire f =>
      simp only [perform, show (world.quiet.chan wire).queue = (world.chan wire).queue from rfl]
      cases (world.chan wire).queue with
      | nil => rfl
      | cons front rest =>
          simp only [Channels.quiet_update]
          rfl

/-- A case succeeds if and only if it is possible, and then it is done; otherwise nothing
but a readiness flag is changed. -/
theorem tryFunction_cases (case : Case Wire Value Local) :
    (case.Possible N world ∧ case.tryFunction N me world = (true, case.perform N me world)) ∨
    (¬ case.Possible N world ∧ (case.tryFunction N me world).1 = false ∧
      (case.tryFunction N me world).2.quiet = world.quiet) := by
  cases case with
  | send wire t f =>
      rw [tryFunction, trySendNullary_eq]
      simp only [Channels.access_isFree, Channels.access_channel, Channels.access_update]
      by_cases free : world.isFree wire = true
      · by_cases accepts : (world.chan wire).acceptsTry (N wire)
        · refine .inl ⟨⟨free, accepts⟩, ?_⟩
          simp only [free, accepts, if_true, perform]
        · refine .inr ⟨fun possible => accepts possible.2, ?_⟩
          simp only [free, accepts, if_true, if_false]
          exact ⟨trivial, world.quiet_flags rfl⟩
      · refine .inr ⟨fun possible => free possible.1, ?_⟩
        simp only [free]
        exact ⟨rfl, rfl⟩
  | recv wire f =>
      rw [tryFunction, tryRecvUnary_eq]
      simp only [Channels.access_isFree, Channels.access_channel, Channels.access_update]
      by_cases free : world.isFree wire = true
      · simp only [free, if_true]
        cases nonempty : (world.chan wire).queue with
        | nil =>
            refine .inr ⟨fun possible => possible.2 nonempty, rfl, world.quiet_flags ?_⟩
            simp only [Chan.tried, nonempty]
        | cons front rest =>
            refine .inl ⟨⟨free, by simp [nonempty]⟩, ?_⟩
            rw [perform, nonempty]
      · refine .inr ⟨fun possible => free possible.1, ?_⟩
        simp only [free]
        exact ⟨rfl, rfl⟩

omit [DecidableEq Wire] [DecidableEq Thread] in
theorem possible_quiet (case : Case Wire Value Local) :
    case.Possible N world.quiet ↔ case.Possible N world := by
  cases case <;> rfl

theorem tryFunction_fst (case : Case Wire Value Local) :
    (case.tryFunction N me world).1 = true ↔ case.Possible N world := by
  rcases @tryFunction_cases _ _ _ _ _ _ N me world case with ⟨possible, done⟩ |
    ⟨impossible, failed, -⟩
  · rw [done]
    exact ⟨fun _ => possible, fun _ => rfl⟩
  · rw [failed]
    exact ⟨Bool.noConfusion, fun possible => absurd possible impossible⟩

theorem tryFunction_snd (case : Case Wire Value Local) :
    (case.tryFunction N me world).2.quiet =
      if (case.tryFunction N me world).1 then (case.perform N me world).quiet
      else world.quiet := by
  rcases @tryFunction_cases _ _ _ _ _ _ N me world case with ⟨-, done⟩ | ⟨-, failed, unseen⟩
  · rw [done, if_pos rfl]
  · rw [failed, unseen, if_neg Bool.false_ne_true]

theorem discreet (N : Wire → Nat) (me : Thread) (case : Case Wire Value Local) :
    Discreet Channels.quiet (case.tryFunction N me) := by
  have result : ∀ {world same : Channels Wire Value Thread Local}, world.quiet = same.quiet →
      (case.tryFunction N me world).1 = (case.tryFunction N me same).1 := by
    intro world same alike
    rw [Bool.eq_iff_iff, tryFunction_fst, tryFunction_fst, ← possible_quiet, alike, possible_quiet]
  refine ⟨result, fun {world same} alike => ?_, fun {world} failed => ?_⟩
  · change (case.tryFunction N me world).2.quiet = (case.tryFunction N me same).2.quiet
    rw [tryFunction_snd, tryFunction_snd, result alike, perform_quiet, alike, ← perform_quiet]
  · rw [tryFunction_snd, failed, if_neg Bool.false_ne_true]

end Discretion

end Case

/-- Without assertions, channels that differ in readiness flags only are indistinct. -/
theorem indistinct_iff {Thread : Type u} {T : Type v} {c d : Chan Thread T} :
    Indistinct .compiledOut c d ↔ c.tried false false = d.tried false false := by
  constructor
  · intro indistinct
    cases indistinct with
    | same => rfl
    | flags => rfl
  · intro same
    have flags : d = c.tried d.isTrySendReady d.isTryRecvReady := by
      rcases c with ⟨queue, sendDone, trySendDone, recvReady, trySendReady, tryRecvReady⟩
      rcases d with ⟨queue', sendDone', trySendDone', recvReady', trySendReady', tryRecvReady'⟩
      simp only [Chan.tried, Chan.mk.injEq] at same ⊢
      obtain ⟨rfl, rfl, rfl, rfl, -, -⟩ := same
      exact ⟨rfl, rfl, rfl, rfl, trivial, trivial⟩
    rw [flags]
    exact .flags fun active => absurd active Bool.false_ne_true

/-- What other threads do between two attempts: stretches under the mutexes of the
channels, of any calls.  Then some of the mutexes are free. -/
structure Interlude (Wire : Type u) (Value : Wire → Type v) (Thread : Type w) where
  stretches : List ((wire : Wire) × Thread × Phase (Value wire))
  isFree : Wire → Bool

namespace Interlude

variable {Wire : Type u} {Value : Wire → Type v} {Thread : Type w} {Local : Type x}
  [DecidableEq Wire] [DecidableEq Thread]

/-- What is left of a channel by a stretch that has been completed. -/
def leave (world : Channels Wire Value Thread Local) (wire : Wire) :
    Option (Except Assertion (Stretch Thread (Value wire))) → Channels Wire Value Thread Local
  | some (.ok (_, _, c)) => { world with chan := Function.update world.chan wire c }
  | _ => world

def disturb (N : Wire → Nat) (world : Channels Wire Value Thread Local)
    (intrusion : (wire : Wire) × Thread × Phase (Value wire)) :
    Channels Wire Value Thread Local :=
  leave world intrusion.1 <|
    stretch .compiledOut (N intrusion.1) intrusion.2.1 (world.chan intrusion.1) intrusion.2.2

def apply (N : Wire → Nat) (interlude : Interlude Wire Value Thread)
    (world : Channels Wire Value Thread Local) : Channels Wire Value Thread Local :=
  { interlude.stretches.foldl (disturb N) world with isFree := interlude.isFree }

theorem disturb_blind (N : Wire → Nat)
    (intrusion : (wire : Wire) × Thread × Phase (Value wire)) :
    Blind Channels.quiet fun world : Channels Wire Value Thread Local =>
      disturb N world intrusion := by
  intro world same alike
  rcases intrusion with ⟨wire, other, phase⟩
  have flags : (world.chan wire).tried false false = (same.chan wire).tried false false :=
    congrFun (congrArg Channels.chan alike) wire
  have together : Option.Rel (Alike (SameStretch .compiledOut))
      (stretch .compiledOut (N wire) other (world.chan wire) phase)
      (stretch .compiledOut (N wire) other (same.chan wire) phase) :=
    stretch_alike (indistinct_iff.mpr flags) phase
  change (leave world wire _).quiet = (leave same wire _).quiet
  generalize stretch .compiledOut (N wire) other (world.chan wire) phase = left at together ⊢
  generalize stretch .compiledOut (N wire) other (same.chan wire) phase = right at together ⊢
  cases together with
  | none => exact alike
  | some outcomes =>
      cases outcomes with
      | aborted => exact alike
      | completed results =>
          have here : world.quiet.here = same.quiet.here := congrArg Channels.here alike
          rw [leave, leave, Channels.quiet_update, Channels.quiet_update,
            indistinct_iff.mp results.2.2, alike, show world.here = same.here from here]

theorem apply_blind (N : Wire → Nat) (interlude : Interlude Wire Value Thread) :
    Blind Channels.quiet (apply N interlude : Channels Wire Value Thread Local → _) := by
  have disturbed : ∀ (stretches : List ((wire : Wire) × Thread × Phase (Value wire)))
      (world same : Channels Wire Value Thread Local), world.quiet = same.quiet →
      (stretches.foldl (disturb N) world).quiet = (stretches.foldl (disturb N) same).quiet := by
    intro stretches
    induction stretches with
    | nil => exact fun _ _ => id
    | cons intrusion later inductionHypothesis =>
        intro world same alike
        exact inductionHypothesis _ _ (disturb_blind N intrusion alike)
  intro world same alike
  have together := disturbed interlude.stretches world same alike
  exact congrArg (fun world => { world with isFree := interlude.isFree }) together

end Interlude

section Select

variable {Wire : Type u} {Value : Wire → Type v} {Thread : Type w} {Local : Type x}
  [DecidableEq Wire] [DecidableEq Thread] (N : Wire → Nat) (me : Thread)
  (choices : List (Case Wire Value Local)) (interludes : Nat → Interlude Wire Value Thread)
  (start : Nat) (first : Channels Wire Value Thread Local)

/-- The channels at this turn, as the other threads have made them by themselves -/
def channelsAt (turn : Nat) : Channels Wire Value Thread Local :=
  drift (fun turn => (interludes turn).apply N) first (turn + 1)

def ImpossibleAt (turn : Nat) : Prop :=
  ∃ case, choices[(start + turn) % choices.length]? = some case ∧
    ¬ case.Possible N (channelsAt N interludes first turn)

/-- The case at this turn is the first that is possible, and it is all that has been
done. -/
structure DoneAt (turn : Nat) (after : Channels Wire Value Thread Local) : Prop where
  earlier : ∀ before < turn, ImpossibleAt N choices interludes start first before
  done : ∃ case, choices[(start + turn) % choices.length]? = some case ∧
    case.Possible N (channelsAt N interludes first turn) ∧
    after.quiet = (case.perform N me (channelsAt N interludes first turn)).quiet

variable {N me choices interludes start first}

theorem FailsAt.impossible {turn : Nat}
    (fails : FailsAt (choices.map (Case.tryFunction N me))
      (fun turn => (interludes turn).apply N) start first turn) :
    ImpossibleAt N choices interludes start first turn := by
  obtain ⟨tryFunction, stored, failed⟩ := fails
  rw [List.getElem?_map, List.length_map, Option.map_eq_some_iff] at stored
  obtain ⟨case, stored, rfl⟩ := stored
  refine ⟨case, stored, fun possible => ?_⟩
  rw [← @Case.tryFunction_fst _ _ _ _ _ _ N me] at possible
  cases failed.symm.trans possible

theorem FirstAt.done {turn : Nat} {after : Channels Wire Value Thread Local}
    (success : FirstAt Channels.quiet (choices.map (Case.tryFunction N me))
      (fun turn => (interludes turn).apply N) start first turn after) :
    DoneAt N me choices interludes start first turn after := by
  refine ⟨fun before below => (success.earlier before below).impossible, ?_⟩
  obtain ⟨tryFunction, stored, succeeded, seen⟩ := success.succeeds
  rw [List.getElem?_map, List.length_map, Option.map_eq_some_iff] at stored
  obtain ⟨case, stored, rfl⟩ := stored
  refine ⟨case, stored, case.tryFunction_fst.mp succeeded, ?_⟩
  rw [seen, Case.tryFunction_snd, succeeded, if_pos rfl]
  rfl

end Select

/-- A `select` on channels does the first of its cases, in cyclic order from a random one
on, that is possible at its turn, whatever the other threads do meanwhile.  The attempts
before it have set some readiness flags, which nobody sees; otherwise all channels are as
if this case had been the only one to be tried.  `try_once` goes round once, and does
nothing if no case is possible at its turn; `wait` goes on until there is such a case. -/
theorem select_doesFirst {Wire : Type u} {Value : Wire → Type v} {Thread : Type w}
    {Local : Type x} [DecidableEq Wire] [DecidableEq Thread] (N : Wire → Nat) (me : Thread)
    (choices : List (Case Wire Value Local)) (interludes : Nat → Interlude Wire Value Thread)
    (random : UInt32) (first : Channels Wire Value Thread Local) :
    (∃ returned trial, tryOnce (choices.map (Case.tryFunction N me))
        (fun turn => (interludes turn).apply N) random first = some (returned, trial) ∧
      if returned then
        ∃ turn < choices.length,
          DoneAt N me choices interludes random.toNat first turn trial.world
      else (∀ turn < choices.length, ImpossibleAt N choices interludes random.toNat first turn) ∧
        trial.world.quiet =
          (drift (fun turn => (interludes turn).apply N) first choices.length).quiet) ∧
    (choices ≠ [] → ∀ iterations,
      (∃ trial, wait (choices.map (Case.tryFunction N me))
          (fun turn => (interludes turn).apply N) random first iterations = .returned trial ∧
        ∃ turn < iterations,
          DoneAt N me choices interludes (random.toNat + 1) first turn trial.world) ∨
      ∃ i trial, wait (choices.map (Case.tryFunction N me))
          (fun turn => (interludes turn).apply N) random first iterations = .trying i trial ∧
        ∀ turn < iterations, ImpossibleAt N choices interludes (random.toNat + 1) first turn) := by
  have discreet : ∀ tryFunction ∈ choices.map (Case.tryFunction N me),
      Discreet Channels.quiet tryFunction := by
    intro tryFunction membership
    obtain ⟨case, -, rfl⟩ := List.mem_map.mp membership
    exact case.discreet N me
  have blind := fun turn => @Interlude.apply_blind _ _ _ Local _ _ N (interludes turn)
  constructor
  · have unseen : Unseen Channels.quiet (choices.map (Case.tryFunction N me))
        (fun turn => (interludes turn).apply N) random.toNat first ⟨[], first⟩ := .none
    obtain ⟨returned, trial, tried, outcome⟩ := unseen.tryOnceFrom discreet blind (Nat.zero_add _)
    refine ⟨returned, trial, tried, ?_⟩
    rw [List.length_map] at outcome
    cases returned with
    | true =>
        obtain ⟨turn, below, success⟩ := outcome
        exact ⟨turn, below, success.done⟩
    | false =>
        obtain ⟨round, unseen⟩ := outcome
        rw [← round]
        exact ⟨fun turn below => (unseen.fails turn below).impossible, unseen.world⟩
  · intro nonempty iterations
    have nonempty : choices.map (Case.tryFunction N me) ≠ [] := by
      rwa [Ne, List.map_eq_nil_iff]
    rcases @waits_first _ _ Channels.quiet (choices.map (Case.tryFunction N me))
        (fun turn => (interludes turn).apply N) first discreet blind nonempty random iterations with
      ⟨trial, returned, turn, below, success⟩ | ⟨i, trial, trying, -, length, unseen⟩
    · exact .inl ⟨trial, returned, turn, below, success.done⟩
    · refine .inr ⟨i, trial, trying, ?_⟩
      rw [← length]
      exact fun turn below => (unseen.fails turn below).impossible

def secondFilled : Channels Bool (fun _ => Nat) Unit Nat where
  chan second := { (Chan.init : Chan Unit Nat) with queue := if second then [((), 7)] else [] }
  isFree _ := true
  here := 0

/-- Of two receives the second is done if only its channel holds a value. -/
theorem select_doesFirst_second :
    ∃ trial, tryOnce ([.recv false fun t _ => t, .recv true fun t _ => t].map
        (Case.tryFunction (fun _ => 1) ())) (fun _ => (⟨[], fun _ => true⟩ : Interlude _ _ _).apply
          fun _ => 1) 0 secondFilled = some (true, trial) ∧
      trial.world.here = 7 := by
  obtain ⟨⟨returned, trial, tried, outcome⟩, -⟩ := select_doesFirst (fun _ : Bool => 1) ()
    [.recv false fun t _ => t, .recv true fun t _ => t]
    (fun _ => ⟨[], fun _ => true⟩) 0 secondFilled
  cases returned with
  | true =>
      obtain ⟨turn, below, success⟩ := outcome
      obtain ⟨case, stored, possible, seen⟩ := success.done
      have here := congrArg Channels.here seen
      refine ⟨trial, tried, ?_⟩
      obtain rfl | rfl : turn = 0 ∨ turn = 1 := Nat.le_one_iff_eq_zero_or_eq_one.mp
        (Nat.le_of_lt_succ below)
      · cases stored
        exact absurd rfl possible.2
      · cases stored
        exact here
  | false =>
      obtain ⟨case, stored, impossible⟩ := outcome.1 1 (by decide)
      cases stored
      exact absurd ⟨rfl, List.cons_ne_nil ((), 7) []⟩ impossible

end Gloc.Channel
