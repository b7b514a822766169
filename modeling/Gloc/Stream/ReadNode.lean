import Gloc.Channel.Interface
import Gloc.Files.Cuboid

/-!
# The reader thread

`ReadNode::run` reads a file frame by frame and sends what a functor makes of
the frames, followed by a null pointer.  What it does to the file is seen by
nobody else; therefore it is described by the calls it makes on the channel.
-/

namespace Gloc.Stream

open Gloc.Channel Gloc.Files

universe u

variable {frametype : Type u}

/-- The file object of the reader when it gets to a frame. -/
def reading (cub : CuboidFile) (memory : Nat → Uninitialised) (i : Nat) : CuboidFile :=
  cub.afterFrames ((List.range i).map fun j => (memory j, j))

/-- The rounds of the loop in `run` from a frame on: the images that are sent, and
the exception that leaves the loop. -/
def readLoop (F : CuboidFrame → frametype) (memory : Nat → Uninitialised) :
    Nat → Nat → CuboidFile → List frametype × Option Failure
  | 0, _, _ => ([], none)
  | rounds + 1, i, cub =>
      match cub.getFrame (memory i) i with
      | (.error failure, _) => ([], some failure)
      | (.ok frame, cub) =>
          match readLoop F memory rounds (i + 1) cub with
          | (images, ended) => (F frame :: images, ended)

/-- `ReadNode::run`: the calls on the frame channel, and the exception that ends
the thread.  The headers of the frames are not sent. -/
def run (F : CuboidFrame → frametype) (nullptr : frametype) (blank : CuboidFile)
    (memory : Nat → Uninitialised) (file : File) : List (Op frametype) × Option Failure :=
  match blank.loadCub file with
  | .error failure => ([], some failure)
  | .ok cub =>
      match readLoop F memory cub.getFrameCount 0 cub with
      | (images, some failure) => (images.map .send, some failure)
      | (images, none) => (images.map .send ++ [.send nullptr], none)

section Reading

variable {cub : CuboidFile} {memory : Nat → Uninitialised}

theorem reading_succ (i : Nat) :
    reading cub memory (i + 1) = ((reading cub memory i).getFrame (memory i) i).2 := by
  have append : ∀ (cub : CuboidFile) (early late : List (Uninitialised × Nat)),
      cub.afterFrames (early ++ late) = (cub.afterFrames early).afterFrames late := by
    intro cub early late
    induction early generalizing cub with
    | nil => rfl
    | cons call early inductionHypothesis => exact inductionHypothesis _
  unfold reading
  rw [List.range_succ, List.map_append, append]
  rfl

theorem reading_eq (i : Nat) : ∃ fileIn, reading cub memory i = { cub with fileIn := fileIn } := by
  induction i with
  | zero => exact ⟨cub.fileIn, rfl⟩
  | succ i inductionHypothesis =>
      obtain ⟨early, reached⟩ := inductionHypothesis
      obtain ⟨late, taken⟩ := (reading cub memory i).getFrame_snd (memory i) i
      exact ⟨late, by rw [reading_succ, taken, reached]⟩

theorem readLoop_eq (F : CuboidFrame → frametype)
    (large : 16 ≤ cub.header.vWidth * cub.header.hWidth) (rounds i : Nat)
    (counted : i + rounds ≤ cub.frameCount) :
    ∃ frames : List CuboidFrame, frames.length = rounds ∧
      readLoop F memory rounds i (reading cub memory i) = (frames.map F, none) ∧
      ∀ k (below : k < frames.length),
        ((reading cub memory (i + k)).getFrame (memory (i + k)) (i + k)).1 = .ok frames[k] := by
  induction rounds generalizing i with
  | zero => exact ⟨[], rfl, rfl, fun k below => absurd below (Nat.not_lt_zero k)⟩
  | succ rounds inductionHypothesis =>
      obtain ⟨fileIn, same⟩ := @reading_eq cub memory i
      obtain ⟨frame, read⟩ := (reading cub memory i).exists_getFrame (memory i) (i := i)
        (by rw [same]; change i < cub.frameCount; omega) (by rw [same]; exact large)
      obtain ⟨frames, length, sent, inOrder⟩ := inductionHypothesis (i + 1) (by omega)
      refine ⟨frame :: frames, by rw [List.length_cons, length], ?_, ?_⟩
      · have taken : (reading cub memory i).getFrame (memory i) i =
            (.ok frame, reading cub memory (i + 1)) := Prod.ext read (reading_succ i).symm
        rw [readLoop, taken]
        simp only [sent, List.map_cons]
      · intro k below
        cases k with
        | zero => exact read
        | succ k =>
            have later := inOrder k (by simpa using below)
            rw [Nat.add_right_comm] at later
            exact later

theorem run_eq (F : CuboidFrame → frametype) (nullptr : frametype) {blank : CuboidFile}
    {file : File} (opened : blank.loadCub file = .ok cub)
    (large : 16 ≤ cub.header.vWidth * cub.header.hWidth) :
    ∃ frames : List CuboidFrame, frames.length = cub.getFrameCount ∧
      run F nullptr blank memory file = ((frames.map F ++ [nullptr]).map .send, none) ∧
      ∀ i (below : i < frames.length),
        ((reading cub memory i).getFrame (memory i) i).1 = .ok frames[i] := by
  obtain ⟨frames, length, sent, inOrder⟩ :=
    @readLoop_eq _ cub memory F large cub.getFrameCount 0 (by
      rw [Nat.zero_add, CuboidFile.getFrameCount])
  refine ⟨frames, length, ?_, fun i below => ?_⟩
  · have start : reading cub memory 0 = cub := rfl
    rw [start] at sent
    simp only [run, opened, sent, List.map_append, List.map_cons, List.map_nil]
  · have read := inOrder i below
    rwa [Nat.zero_add] at read

end Reading

end Gloc.Stream
