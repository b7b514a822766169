import Gloc.Channel.Select

/-!
# Cases on a channel

The three kinds of cases that a `select` makes of a channel and a function, in a
build with `NDEBUG`.  A case fails when somebody else holds the mutex, or when
the channel refuses; it leaves no trace but the readiness flag of its side.
-/

namespace Gloc.Channel

universe u v w

variable {Thread : Type u} {T : Type v} {World : Type w}

/-- A channel in the world, and whether its mutex is free. -/
structure Access (World : Type w) (Thread : Type u) (T : Type v) where
  channel : World → Chan Thread T
  update : Chan Thread T → World → World
  isFree : World → Bool

def trySendNullary (access : Access World Thread T) (N : Nat) (me : Thread) (t : T)
    (f : World → World) : TryFunction World := fun world =>
  if access.isFree world then
    match (access.channel world).trySend .compiledOut N me t with
    | .ok (true, c) => (true, f (access.update c world))
    | .ok (false, c) => (false, access.update c world)
    | .error _ => (false, world)
  else (false, world)

def tryRecvUnary [DecidableEq Thread] (access : Access World Thread T) (N : Nat) (me : Thread)
    (f : T → World → World) : TryFunction World := fun world =>
  if access.isFree world then
    match (access.channel world).tryRecvPtr .compiledOut N me with
    | .ok (some (front, _), c) => (true, f front.2 (access.update c world))
    | .ok (none, c) => (false, access.update c world)
    | .error _ => (false, world)
  else (false, world)

def tryRecvNullary [DecidableEq Thread] (access : Access World Thread T) (N : Nat) (me : Thread)
    (store : T → World → World) (f : World → World) : TryFunction World :=
  tryRecvUnary access N me fun t world => f (store t world)

variable {access : Access World Thread T} {N : Nat} {me : Thread}

/-- A send case succeeds if and only if the channel can be locked and accepts the value,
and then it has sent it before it calls its function. -/
theorem trySendNullary_eq (t : T) (f : World → World) (world : World) :
    trySendNullary access N me t f world =
      if access.isFree world then
        if (access.channel world).acceptsTry N then
          (true, f (access.update ((access.channel world).trySent N me t) world))
        else (false, access.update { access.channel world with isTrySendReady := true } world)
      else (false, world) := by
  unfold trySendNullary
  rw [Chan.trySend_eq, Asserts.assert_compiledOut]
  by_cases accepts : (access.channel world).acceptsTry N
  · rw [if_pos accepts, if_pos accepts]
  · rw [if_neg accepts, if_neg accepts]

/-- A receive case succeeds if and only if the channel can be locked and is not empty, and
then its function gets the oldest value. -/
theorem tryRecvUnary_eq [DecidableEq Thread] (f : T → World → World) (world : World) :
    tryRecvUnary access N me f world =
      if access.isFree world then
        match (access.channel world).queue with
        | [] => (false, access.update { access.channel world with isTryRecvReady := true } world)
        | front :: rest =>
            (true, f front.2 (access.update ((access.channel world).tryReceived rest) world))
      else (false, world) := by
  unfold tryRecvUnary
  cases nonempty : (access.channel world).queue with
  | nil => rw [Chan.tryRecvPtr_nil nonempty]
  | cons front rest =>
      simp only [Chan.tryRecvPtr_cons nonempty, Asserts.assert_compiledOut]

theorem tryOnce_singleton (tryFunction : TryFunction World) (others : Nat → World → World)
    (random : UInt32) (world : World) :
    tryOnce [tryFunction] others random world =
      some ((tryFunction (others 0 world)).1,
        { tried := [(0, (tryFunction (others 0 world)).1)]
          world := (tryFunction (others 0 world)).2 }) := by
  have index : (random.toNat + 0) % [tryFunction].length = 0 := Nat.mod_one _
  simp only [tryOnce, List.length_singleton, tryOnceFrom]
  rw [List.length_singleton] at index
  rw [index]
  simp only [tryAt, List.getElem?_cons_zero, Option.map_some, List.length_nil, List.nil_append]
  cases (tryFunction (others 0 world)).1 with
  | false => rfl
  | true => rfl

/-- A `select` with a send case and a default is a send that does not block: the value has
been sent and the function called, or nothing has been sent. -/
theorem tryOnce_send (t : T) (f : World → World) (others : Nat → World → World)
    (random : UInt32) (world : World) :
    ∃ sent trial, tryOnce [trySendNullary access N me t f] others random world =
        some (sent, trial) ∧
      (sent = true ↔ access.isFree (others 0 world) = true ∧
        (access.channel (others 0 world)).acceptsTry N) ∧
      (sent = true → trial.world = f (access.update
        ((access.channel (others 0 world)).trySent N me t) (others 0 world))) := by
  refine ⟨_, _, tryOnce_singleton _ others random world, ?_⟩
  rw [trySendNullary_eq]
  by_cases free : access.isFree (others 0 world) = true
  · rw [if_pos free]
    by_cases accepts : (access.channel (others 0 world)).acceptsTry N
    · rw [if_pos accepts]
      exact ⟨⟨fun _ => ⟨free, accepts⟩, fun _ => rfl⟩, fun _ => rfl⟩
    · rw [if_neg accepts]
      exact ⟨⟨Bool.noConfusion, fun both => absurd both.2 accepts⟩, Bool.noConfusion⟩
  · rw [if_neg free]
    exact ⟨⟨Bool.noConfusion, fun both => absurd both.1 free⟩, Bool.noConfusion⟩

end Gloc.Channel
