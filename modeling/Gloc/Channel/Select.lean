import Gloc.Channel.Steps
import Gloc.Transition.Rotations

/-!
# The cases of a select

A `select` is a list of functions that are tried in cyclic order from a random
number on, once round by `try_once` and until one of them succeeds by `wait`.
Before every attempt other threads may have worked on the world.
-/

namespace Gloc.Channel

open Gloc.Transition

universe u v

/-- A `std::function<bool()>`: whether it succeeds, and what it makes of the world. -/
abbrev TryFunction (World : Type u) := World → Bool × World

/-- The cases that have been tried, with what they have returned, and the world. -/
structure Trial (World : Type u) where
  tried : List (Nat × Bool)
  world : World

section Loops

variable {World : Type u} (tryFunctions : List (TryFunction World))
  (others : Nat → World → World)

/-- `m_try_functions.at (i) ()`, unless it throws `std::out_of_range`. -/
def tryAt (trial : Trial World) (i : Nat) : Option (Bool × Trial World) :=
  (tryFunctions[i]?).map fun tryFunction =>
    let (succeeded, world) := tryFunction (others trial.tried.length trial.world)
    (succeeded, { tried := trial.tried ++ [(i, succeeded)], world := world })

/-- The loop of `try_once`, with so many rounds left.  `i + j` stays far below the bounds
of a `size_t`. -/
def tryOnceFrom (i : Nat) : Nat → Nat → Trial World → Option (Bool × Trial World)
  | 0, _, trial => some (false, trial)
  | rounds + 1, j, trial =>
      match tryAt tryFunctions others trial ((i + j) % tryFunctions.length) with
      | none => none
      | some (true, trial) => some (true, trial)
      | some (false, trial) => tryOnceFrom i rounds (j + 1) trial

def tryOnce (random : UInt32) (world : World) : Option (Bool × Trial World) :=
  tryOnceFrom tryFunctions others random.toNat tryFunctions.length 0
    { tried := [], world := world }

inductive Waiting (World : Type u) where
  | trying (i : Nat) (trial : Trial World)
  | returned (trial : Trial World)
  | threw (trial : Trial World)
  | divisionByZero (trial : Trial World)
  | outOfRange (trial : Trial World)

def Waiting.trial : Waiting World → Trial World
  | .trying _ trial => trial
  | .returned trial => trial
  | .threw trial => trial
  | .divisionByZero trial => trial
  | .outOfRange trial => trial

/-- One iteration of the loop of `wait`.  At its end the thread may sleep, and sleeping
may throw. -/
def iterate (sleeps : Nat → Bool) : Waiting World → Waiting World
  | .trying i trial =>
      if tryFunctions.length = 0 then .divisionByZero trial
      else
        match tryAt tryFunctions others trial ((i + 1) % tryFunctions.length) with
        | none => .outOfRange trial
        | some (true, trial) => .returned trial
        | some (false, trial) =>
            if sleeps trial.tried.length then .trying ((i + 1) % tryFunctions.length) trial
            else .threw trial
  | finished => finished

def waitSleeping (sleeps : Nat → Bool) (random : UInt32) (world : World) :
    Nat → Waiting World
  | 0 => .trying random.toNat { tried := [], world := world }
  | iterations + 1 =>
      iterate tryFunctions others sleeps (waitSleeping sleeps random world iterations)

def wait (random : UInt32) (world : World) : Nat → Waiting World :=
  waitSleeping tryFunctions others (fun _ => true) random world

end Loops

section Attempts

variable {World : Type u} {tryFunctions : List (TryFunction World)}
  {others : Nat → World → World}

/-- What the others make of the world by themselves. -/
def drift (others : Nat → World → World) (world : World) : Nat → World
  | 0 => world
  | count + 1 => others count (drift others world count)

/-- The attempts, one after the other, make this of the world: each has returned what its
case did in the world that the others had left for it, and the next one begins with what it
made of that world. -/
inductive Replays (tryFunctions : List (TryFunction World)) (others : Nat → World → World)
    (first : World) : List (Nat × Bool) → World → Prop where
  | none : Replays tryFunctions others first [] first
  | snoc {tried world i tryFunction} :
      Replays tryFunctions others first tried world →
      tryFunctions[i]? = some tryFunction →
      Replays tryFunctions others first
        (tried ++ [(i, (tryFunction (others tried.length world)).1)])
        (tryFunction (others tried.length world)).2

/-- The cases have been tried in cyclic order, and all of them have failed. -/
structure Failing (tryFunctions : List (TryFunction World)) (others : Nat → World → World)
    (start : Nat) (first : World) (trial : Trial World) : Prop where
  order : trial.tried =
    (rotation start tryFunctions.length trial.tried.length).map fun i => (i, false)
  replays : Replays tryFunctions others first trial.tried trial.world

structure Succeeded (tryFunctions : List (TryFunction World)) (others : Nat → World → World)
    (start : Nat) (first : World) (before after : Trial World) (i : Nat)
    (tryFunction : TryFunction World) : Prop where
  failing : Failing tryFunctions others start first before
  turn : i = (start + before.tried.length) % tryFunctions.length
  stored : tryFunctions[i]? = some tryFunction
  succeeds : (tryFunction (others before.tried.length before.world)).1 = true
  tried : after.tried = before.tried ++ [(i, true)]
  world : after.world = (tryFunction (others before.tried.length before.world)).2

variable {start : Nat} {first : World} {trial : Trial World}

namespace Replays

variable {tried : List (Nat × Bool)} {world : World}

theorem inside (replays : Replays tryFunctions others first tried world) :
    ∀ attempt ∈ tried, attempt.1 < tryFunctions.length := by
  induction replays with
  | none => exact fun attempt membership => by cases membership
  | snoc _ stored inductionHypothesis =>
      intro attempt membership
      rcases List.mem_append.mp membership with earlier | last
      · exact inductionHypothesis attempt earlier
      · rw [List.mem_singleton.mp last]
        exact (List.getElem?_eq_some_iff.mp stored).1

theorem returned (replays : Replays tryFunctions others first tried world) {position : Nat}
    {attempt : Nat × Bool} (placed : tried[position]? = some attempt) :
    ∃ tryFunction world, tryFunctions[attempt.1]? = some tryFunction ∧
      (tryFunction (others position world)).1 = attempt.2 := by
  induction replays with
  | none => cases placed
  | @snoc tried world i tryFunction _ stored inductionHypothesis =>
      rcases Nat.lt_or_ge position tried.length with earlier | late
      · rw [List.getElem?_append_left earlier] at placed
        exact inductionHypothesis placed
      · rw [List.getElem?_append_right late, List.getElem?_singleton] at placed
        split at placed
        next last =>
          obtain rfl : position = tried.length := by omega
          cases placed
          exact ⟨tryFunction, world, stored, rfl⟩
        next => cases placed

/-- Where the cases that fail have no effect, that of the case that succeeds is all that has
been done besides what the others have done. -/
theorem effect (replays : Replays tryFunctions others first tried world)
    (harmless : ∀ tryFunction ∈ tryFunctions, ∀ world, (tryFunction world).1 = false →
      (tryFunction world).2 = world) :
    ((∀ attempt ∈ tried, attempt.2 = false) → world = drift others first tried.length) ∧
    ∀ earlier i, tried = earlier ++ [(i, true)] → (∀ attempt ∈ earlier, attempt.2 = false) →
      ∃ tryFunction, tryFunctions[i]? = some tryFunction ∧
        world = (tryFunction (drift others first tried.length)).2 := by
  induction replays with
  | none =>
      refine ⟨fun _ => rfl, fun earlier i whole => ?_⟩
      cases (List.append_eq_nil_iff.mp whole.symm).2
  | @snoc tried world i tryFunction replays stored inductionHypothesis =>
      rw [List.length_append, List.length_singleton]
      constructor
      · intro failed
        have before := inductionHypothesis.1 fun attempt membership =>
          failed attempt (List.mem_append_left _ membership)
        have unchanged := harmless tryFunction (List.mem_of_getElem? stored) _
          (failed _ (List.mem_append_right _ (List.mem_singleton_self _)))
        rw [unchanged, before]
        rfl
      · intro earlier j whole failed
        obtain ⟨rfl, last⟩ := List.append_inj' whole rfl
        obtain ⟨rfl, -⟩ := Prod.mk.inj (List.singleton_inj.mp last)
        exact ⟨tryFunction, stored, by rw [inductionHypothesis.1 failed]; rfl⟩

end Replays

theorem Failing.none : Failing tryFunctions others start first ⟨[], first⟩ where
  order := rfl
  replays := .none

theorem Failing.next (failing : Failing tryFunctions others start first trial)
    (nonempty : tryFunctions ≠ []) :
    (∃ after, tryAt tryFunctions others trial
        ((start + trial.tried.length) % tryFunctions.length) = some (false, after) ∧
      after.tried.length = trial.tried.length + 1 ∧
      Failing tryFunctions others start first after) ∨
    ∃ after i tryFunction, tryAt tryFunctions others trial
        ((start + trial.tried.length) % tryFunctions.length) = some (true, after) ∧
      Succeeded tryFunctions others start first trial after i tryFunction := by
  have inside : (start + trial.tried.length) % tryFunctions.length < tryFunctions.length :=
    Nat.mod_lt _ (List.length_pos_of_ne_nil nonempty)
  generalize turn : (start + trial.tried.length) % tryFunctions.length = i at inside ⊢
  have stored : tryFunctions[i]? = some tryFunctions[i] := List.getElem?_eq_getElem inside
  unfold tryAt
  rw [stored, Option.map_some]
  cases result : tryFunctions[i] (others trial.tried.length trial.world) with
  | mk succeeded world =>
    cases succeeded with
    | false =>
        have length : (trial.tried ++ [(i, false)]).length = trial.tried.length + 1 := by
          rw [List.length_append, List.length_singleton]
        refine .inl ⟨_, rfl, length, ?_, ?_⟩
        · change trial.tried ++ [(i, false)] =
            (rotation start _ (trial.tried ++ [(i, false)]).length).map _
          rw [length, rotation_succ, List.map_append, ← failing.order, turn]
          rfl
        · have replays := failing.replays.snoc stored
          rwa [result] at replays
    | true =>
        refine .inr ⟨_, i, tryFunctions[i], rfl, failing, turn.symm, stored, ?_, rfl, ?_⟩
        · rw [result]
        · rw [result]

theorem Failing.order_fst (failing : Failing tryFunctions others start first trial) :
    trial.tried.map Prod.fst = rotation start tryFunctions.length trial.tried.length := by
  conv_lhs => rw [failing.order]
  rw [List.map_map]
  exact List.map_id' _

theorem Failing.all_false (failing : Failing tryFunctions others start first trial) :
    ∀ attempt ∈ trial.tried, attempt.2 = false := by
  intro attempt membership
  rw [failing.order] at membership
  obtain ⟨i, -, rfl⟩ := List.mem_map.mp membership
  rfl

theorem Failing.countP (failing : Failing tryFunctions others start first trial) :
    trial.tried.countP Prod.snd = 0 := by
  apply List.countP_eq_zero.mpr
  intro attempt membership
  rw [failing.all_false attempt membership]
  exact Bool.false_ne_true

variable {before after : Trial World} {i : Nat} {tryFunction : TryFunction World}

namespace Succeeded

variable (success : Succeeded tryFunctions others start first before after i tryFunction)

include success

theorem length : after.tried.length = before.tried.length + 1 := by
  rw [success.tried, List.length_append, List.length_singleton]

theorem order_fst : after.tried.map Prod.fst =
    rotation start tryFunctions.length after.tried.length := by
  rw [success.length, rotation_succ, success.tried, List.map_append, success.failing.order_fst,
    ← success.turn]
  rfl

theorem countP : after.tried.countP Prod.snd = 1 := by
  rw [success.tried, List.countP_append, success.failing.countP]
  rfl

theorem replays : Replays tryFunctions others first after.tried after.world := by
  have replays := success.failing.replays.snoc success.stored
  rwa [success.succeeds, ← success.tried, ← success.world] at replays

theorem last_of_mem {attempt : Nat × Bool} (membership : attempt ∈ after.tried)
    (succeeds : attempt.2 = true) : after.tried.getLast? = some attempt := by
  rw [success.tried] at membership ⊢
  rcases List.mem_append.mp membership with earlier | last
  · cases (success.failing.all_false attempt earlier).symm.trans succeeds
  · rw [List.getLast?_concat, List.mem_singleton.mp last]

theorem getLast? : after.tried.getLast? = some (i, true) := by
  rw [success.tried, List.getLast?_concat]

end Succeeded

end Attempts

section TryOnce

variable {World : Type u} {tryFunctions : List (TryFunction World)}
  {others : Nat → World → World}

/-- One case or none has been done. -/
structure OneOrNone (tryFunctions : List (TryFunction World)) (others : Nat → World → World)
    (start : Nat) (first : World) (returned : Bool) (trial : Trial World) : Prop where
  order : trial.tried.map Prod.fst =
    rotation start tryFunctions.length trial.tried.length
  distinct : (trial.tried.map Prod.fst).Nodup
  inside : ∀ attempt ∈ trial.tried, attempt.1 < tryFunctions.length
  replays : Replays tryFunctions others first trial.tried trial.world
  last : ∀ attempt ∈ trial.tried, attempt.2 = true → trial.tried.getLast? = some attempt
  one : returned = true ↔ trial.tried.countP Prod.snd = 1
  none : returned = false ↔
    (trial.tried.map Prod.fst).Perm (List.range tryFunctions.length) ∧
      ∀ attempt ∈ trial.tried, attempt.2 = false

variable {start : Nat} {first : World} {trial : Trial World}

theorem Succeeded.oneOrNone {before : Trial World} {i : Nat} {tryFunction : TryFunction World}
    (success : Succeeded tryFunctions others start first before trial i tryFunction)
    (round : trial.tried.length ≤ tryFunctions.length) :
    OneOrNone tryFunctions others start first true trial where
  order := success.order_fst
  distinct := by
    rw [success.order_fst]
    exact nodup_rotation round
  inside := success.replays.inside
  replays := success.replays
  last _ := success.last_of_mem
  one := ⟨fun _ => success.countP, fun _ => rfl⟩
  none := by
    refine ⟨Bool.noConfusion, fun failed => ?_⟩
    cases failed.2 _ (List.mem_of_getLast? success.getLast?)

theorem Failing.oneOrNone (failing : Failing tryFunctions others start first trial)
    (round : trial.tried.length = tryFunctions.length) :
    OneOrNone tryFunctions others start first false trial where
  order := failing.order_fst
  distinct := by
    rw [failing.order_fst]
    exact nodup_rotation round.le
  inside := failing.replays.inside
  replays := failing.replays
  last attempt membership succeeds := by
    cases (failing.all_false attempt membership).symm.trans succeeds
  one := by
    rw [failing.countP]
    exact ⟨Bool.noConfusion, Nat.noConfusion⟩
  none := by
    refine ⟨fun _ => ⟨?_, failing.all_false⟩, fun _ => rfl⟩
    rw [failing.order_fst, round]
    exact rotation_perm ..

/-- The remaining rounds end with the first case that succeeds, or they complete the
circle. -/
theorem Failing.tryOnceFrom {rounds : Nat}
    (failing : Failing tryFunctions others start first trial)
    (remaining : trial.tried.length + rounds = tryFunctions.length) :
    ∃ returned after, tryOnceFrom tryFunctions others start rounds trial.tried.length trial =
        some (returned, after) ∧
      OneOrNone tryFunctions others start first returned after := by
  induction rounds generalizing trial with
  | zero => exact ⟨false, trial, rfl, failing.oneOrNone remaining⟩
  | succ rounds inductionHypothesis =>
      have nonempty : tryFunctions ≠ [] := by
        apply List.ne_nil_of_length_pos
        omega
      unfold Channel.tryOnceFrom
      rcases failing.next nonempty with ⟨after, failed, length, still⟩ |
        ⟨after, i, tryFunction, succeeded, success⟩
      · rw [failed, ← length]
        exact inductionHypothesis still (by omega)
      · rw [succeeded]
        refine ⟨true, after, rfl, success.oneOrNone ?_⟩
        rw [success.length]
        omega

/-- `try_once` does exactly one case or none. -/
theorem tryOnce_oneOrNone (tryFunctions : List (TryFunction World))
    (others : Nat → World → World) (random : UInt32) (world : World) :
    ∃ returned trial, tryOnce tryFunctions others random world = some (returned, trial) ∧
      OneOrNone tryFunctions others random.toNat world returned trial :=
  Failing.none.tryOnceFrom (Nat.zero_add _)

/-- Another thread adds one before every attempt, and of the two cases the second does its
work. -/
example : tryOnce [fun world => (false, world), fun world => (true, world + 10)]
    (fun _ world => world + 1) 0 0 = some (true, ⟨[(0, false), (1, true)], 12⟩) := rfl

end TryOnce

section Wait

variable {World : Type u} {tryFunctions : List (TryFunction World)}
  {others : Nat → World → World}

/-- A run of `wait`, state by state, that goes round the cases and returns with the first
that succeeds. -/
structure FairRoundRobin (tryFunctions : List (TryFunction World))
    (others : Nat → World → World) (sleeps : Nat → Bool) (first : World)
    (run : Nat → Waiting World) : Prop where
  divides : ∀ t trial, run t ≠ .divisionByZero trial
  inside : ∀ t trial, run t ≠ .outOfRange trial
  /-- Every iteration that begins tries one case. -/
  tries : ∀ t i trial, run t = .trying i trial → trial.tried.length = t
  fair : ∀ t earlier window later,
    (run t).trial.tried.map Prod.fst = earlier ++ window ++ later →
    window.length = tryFunctions.length → window.Perm (List.range tryFunctions.length)
  /-- A case that succeeds whenever it is tried from some time on. -/
  taken : ∀ t, ∀ tryFunction ∈ tryFunctions,
    (∀ later world, t ≤ later → (tryFunction (others later world)).1 = true) →
    (∀ time, time ≤ t + tryFunctions.length → sleeps time = true) →
    ∃ trial, run (t + tryFunctions.length) = .returned trial
  returns : ∀ t, ∀ attempt ∈ (run t).trial.tried, attempt.2 = true →
    ∃ trial, run t = .returned trial ∧ trial.tried.getLast? = some attempt
  one : ∀ t trial, run t = .returned trial → trial.tried.countP Prod.snd = 1
  replays : ∀ t, Replays tryFunctions others first (run t).trial.tried (run t).trial.world

inductive Turns (tryFunctions : List (TryFunction World)) (others : Nat → World → World)
    (sleeps : Nat → Bool) (start : Nat) (first : World) (t : Nat) : Waiting World → Prop where
  | trying {i trial} : Failing tryFunctions others start first trial →
      trial.tried.length = t →
      (i + 1) % tryFunctions.length = (start + t) % tryFunctions.length →
      Turns tryFunctions others sleeps start first t (.trying i trial)
  | returned {before trial i tryFunction} :
      Succeeded tryFunctions others start first before trial i tryFunction →
      trial.tried.length ≤ t →
      Turns tryFunctions others sleeps start first t (.returned trial)
  | threw {trial} : Failing tryFunctions others start first trial →
      trial.tried.length ≤ t → sleeps trial.tried.length = false →
      Turns tryFunctions others sleeps start first t (.threw trial)

variable {sleeps : Nat → Bool} {start t : Nat} {first : World} {waiting : Waiting World}

theorem Turns.iterate (turns : Turns tryFunctions others sleeps start first t waiting)
    (nonempty : tryFunctions ≠ []) :
    Turns tryFunctions others sleeps start first (t + 1)
      (iterate tryFunctions others sleeps waiting) := by
  cases turns with
  | @trying i trial failing length turn =>
      have positive : tryFunctions.length ≠ 0 :=
        (List.length_pos_of_ne_nil nonempty).ne'
      subst length
      simp only [Channel.iterate]
      rw [if_neg positive, turn]
      rcases failing.next nonempty with ⟨after, failed, lengthAfter, still⟩ |
        ⟨after, i, tryFunction, succeeded, success⟩
      · rw [failed]
        by_cases sleep : sleeps after.tried.length = true
        · simp only [sleep, if_true]
          apply Turns.trying still lengthAfter
          rw [Nat.mod_add_mod, Nat.add_assoc]
        · rw [Bool.not_eq_true] at sleep
          simp only [sleep, Bool.false_eq_true, if_false]
          exact .threw still lengthAfter.le sleep
      · rw [succeeded]
        exact .returned success success.length.le
  | returned success length => exact .returned success (Nat.le_succ_of_le length)
  | threw failing length throws => exact .threw failing (Nat.le_succ_of_le length) throws

theorem turns_waitSleeping (nonempty : tryFunctions ≠ []) (random : UInt32) (world : World)
    (t : Nat) :
    Turns tryFunctions others sleeps (random.toNat + 1) world t
      (waitSleeping tryFunctions others sleeps random world t) := by
  induction t with
  | zero => exact .trying .none rfl rfl
  | succ t inductionHypothesis => exact inductionHypothesis.iterate nonempty

theorem Turns.order_fst (turns : Turns tryFunctions others sleeps start first t waiting) :
    waiting.trial.tried.map Prod.fst =
      rotation start tryFunctions.length waiting.trial.tried.length := by
  cases turns with
  | trying failing => exact failing.order_fst
  | returned success => exact success.order_fst
  | threw failing => exact failing.order_fst

/-- As long as `wait` is trying, every case has failed during the last round. -/
theorem Turns.taken {tryFunction : TryFunction World}
    (turns : Turns tryFunctions others sleeps start first (t + tryFunctions.length) waiting)
    (membership : tryFunction ∈ tryFunctions)
    (ready : ∀ later world, t ≤ later → (tryFunction (others later world)).1 = true)
    (sleeping : ∀ time, time ≤ t + tryFunctions.length → sleeps time = true) :
    ∃ trial, waiting = .returned trial := by
  cases turns with
  | @trying i trial failing length turn =>
      obtain ⟨k, inside, stored⟩ := List.getElem_of_mem membership
      have met : k ∈ rotation (start + t) tryFunctions.length tryFunctions.length :=
        (rotation_perm _ _).mem_iff.mpr (List.mem_range.mpr inside)
      obtain ⟨j, below, rfl⟩ := List.mem_map.mp met
      have below := List.mem_range.mp below
      have attempt : trial.tried[t + j]? =
          some ((start + t + j) % tryFunctions.length, false) := by
        rw [failing.order, List.getElem?_map, getElem?_rotation (by omega), Nat.add_assoc]
        rfl
      obtain ⟨found, world, stored', failed⟩ := failing.replays.returned attempt
      rw [List.getElem?_eq_getElem inside, stored, Option.some.injEq] at stored'
      subst stored'
      cases (ready (t + j) world (Nat.le_add_right t j)).symm.trans failed
  | @returned before trial => exact ⟨trial, rfl⟩
  | threw failing length throws => cases (sleeping _ length).symm.trans throws

theorem Turns.returns (turns : Turns tryFunctions others sleeps start first t waiting)
    {attempt : Nat × Bool} (membership : attempt ∈ waiting.trial.tried)
    (succeeds : attempt.2 = true) :
    ∃ trial, waiting = .returned trial ∧ trial.tried.getLast? = some attempt := by
  cases turns with
  | trying failing => cases (failing.all_false attempt membership).symm.trans succeeds
  | @returned before trial i tryFunction success =>
      exact ⟨trial, rfl, success.last_of_mem membership succeeds⟩
  | threw failing => cases (failing.all_false attempt membership).symm.trans succeeds

theorem Turns.replays (turns : Turns tryFunctions others sleeps start first t waiting) :
    Replays tryFunctions others first waiting.trial.tried waiting.trial.world := by
  cases turns with
  | trying failing => exact failing.replays
  | returned success => exact success.replays
  | threw failing => exact failing.replays

theorem fairRoundRobin (nonempty : tryFunctions ≠ []) (random : UInt32) (world : World) :
    FairRoundRobin tryFunctions others sleeps world
      (waitSleeping tryFunctions others sleeps random world) := by
  have turns := @turns_waitSleeping World tryFunctions others sleeps nonempty random world
  have turnsAt : ∀ t waiting,
      waitSleeping tryFunctions others sleeps random world t = waiting →
      Turns tryFunctions others sleeps (random.toNat + 1) world t waiting := by
    rintro t waiting rfl
    exact turns t
  refine ⟨?_, ?_, ?_, ?_, ?_, ?_, ?_, fun t => (turns t).replays⟩
  · intro t trial state
    cases turnsAt t _ state
  · intro t trial state
    cases turnsAt t _ state
  · intro t i trial state
    cases turnsAt t _ state with
    | trying _ length _ => exact length
  · intro t earlier window later whole round
    rw [(turns t).order_fst] at whole
    exact window_perm whole round
  · intro t tryFunction membership ready sleeping
    exact (turns _).taken membership ready sleeping
  · intro t attempt membership succeeds
    exact (turns t).returns membership succeeds
  · intro t trial state
    cases turnsAt t _ state with
    | returned success => exact success.countP

theorem waitSleeping_nil (random : UInt32) (world : World) :
    waitSleeping [] others sleeps random world 1 = .divisionByZero ⟨[], world⟩ := rfl

/-- Both overloads of `wait` are fair if and only if there is a case to wait for. -/
theorem wait_fair_iff (tryFunctions : List (TryFunction World))
    (others : Nat → World → World) (random : UInt32) (world : World) :
    (FairRoundRobin tryFunctions others (fun _ => true) world
        (wait tryFunctions others random world) ↔ tryFunctions ≠ []) ∧
      ∀ sleeps, FairRoundRobin tryFunctions others sleeps world
        (waitSleeping tryFunctions others sleeps random world) ↔ tryFunctions ≠ [] := by
  have sleeping : ∀ sleeps, FairRoundRobin tryFunctions others sleeps world
      (waitSleeping tryFunctions others sleeps random world) ↔ tryFunctions ≠ [] := by
    intro sleeps
    refine ⟨?_, fun nonempty => fairRoundRobin nonempty random world⟩
    rintro fair rfl
    exact fair.divides 1 _ (waitSleeping_nil random world)
  exact ⟨sleeping _, sleeping⟩

end Wait

/-- A `select` without cases is not idle in `wait`: it divides by zero. -/
theorem wait_nothing :
    wait [] (fun _ world => world) 0 () 1 = .divisionByZero ⟨[], ()⟩ ∧
      ¬ FairRoundRobin [] (fun _ world => world) (fun _ => true) ()
        (wait [] (fun _ world => world) 0 ()) :=
  ⟨rfl, fun fair => fair.divides 1 _ rfl⟩

end Gloc.Channel
