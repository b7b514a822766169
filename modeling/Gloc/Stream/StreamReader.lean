import Gloc.Channel.Pipe
import Gloc.Files.Records
import Gloc.Stream.Matrix
import Gloc.Stream.ReadNode

/-!
# What a stream reader delivers

A `StreamReader` connects the reader thread to its owner by a channel of
capacity five.  The reader is the sender of a pipe and the owner, who calls
`get_next`, is its receiver.
-/

namespace Gloc.Stream

open Gloc.Channel Gloc.Files Gloc.Transition

universe u

abbrev FramePtr (real : Type u) := Option (Mat real)

def bufferSize : Nat := 5

def getNext (real : Type u) : Op (FramePtr real) :=
  .recv .value

variable (real : Type u) [Zero real] [NatCast real]

/-- The functor of the reader, `ConvertArrayToMat`.  The frames that are read are small
enough for their matrices. -/
def toFramePtr (frame : CuboidFrame) : FramePtr real :=
  some (convertArrayToMat frame)

/-- The calls on the frame channel: those of the reader thread, and a number of
calls of `get_next` by the owner. -/
def streamReader (blank : CuboidFile) (memory : Nat → Uninitialised) (file : File)
    (calls : Nat) : End → List (Op (FramePtr real))
  | .sender => (run (toFramePtr real) none blank memory file).1
  | .receiver => List.replicate calls (getNext real)

def delivery (frames : List CuboidFrame) : List (FramePtr real) :=
  frames.map (toFramePtr real) ++ [none]

theorem length_delivery (frames : List CuboidFrame) :
    (delivery real frames).length = frames.length + 1 := by
  simp [delivery]

theorem convertLoops_read {cub : CuboidFile} {memory : Uninitialised} {i : Nat}
    {frame : CuboidFrame} (large : 16 ≤ cub.header.vWidth * cub.header.hWidth)
    (read : (cub.getFrame memory i).1 = .ok frame) :
    convertLoops frame = some (convertArrayToMat frame : Mat real) := by
  by_cases counted : i < cub.frameCount
  · obtain ⟨frame', read', filled⟩ := @CuboidFile.getFrame_filled cub memory i counted large
    obtain rfl := Except.ok.inj (read.symm.trans read')
    refine (convertLoops_eq ?_).1
    rw [filled.width, filled.height]
    exact fieldAt_mul_le ..
  · rw [cub.getFrame_beyond memory (Nat.not_lt.mp counted)] at read
    cases read

/-- A stream reader is a pipe for the images of the frames and the end marker. -/
theorem streamReader_eq_pipe {blank cub : CuboidFile} {memory : Nat → Uninitialised}
    {file : File} (opened : blank.loadCub file = .ok cub)
    (large : 16 ≤ cub.header.vWidth * cub.header.hWidth) :
    ∃ frames : List CuboidFrame, frames.length = cub.getFrameCount ∧
      (∀ i (below : i < frames.length),
        ((reading cub memory i).getFrame (memory i) i).1 = .ok frames[i]) ∧
      (run (toFramePtr real) none blank memory file).2 = none ∧
      ∀ calls, streamReader real blank memory file calls =
        pipe (delivery real frames) calls := by
  obtain ⟨frames, length, sent, inOrder⟩ :=
    @run_eq _ cub memory (toFramePtr real) none _ _ opened large
  refine ⟨frames, length, inOrder, by rw [sent], fun calls => ?_⟩
  funext thread
  cases thread with
  | sender => rw [streamReader, sent, pipe, delivery]
  | receiver => rfl

/-- A stream reader delivers the images of the frames in order, and then a null
pointer.  Whatever the schedule, the owner receives nothing else, no assertion
fails, and he gets all of it if he asks for it. -/
theorem streamReader_delivers {asserts : Asserts} {blank cub : CuboidFile}
    {memory : Nat → Uninitialised} {file : File} (opened : blank.loadCub file = .ok cub)
    (large : 16 ≤ cub.header.vWidth * cub.header.hWidth) :
    ∃ frames : List CuboidFrame, frames.length = cub.getFrameCount ∧
      (∀ i (below : i < frames.length),
        ((reading cub memory i).getFrame (memory i) i).1 = .ok frames[i] ∧
          convertLoops frames[i] = some (convertArrayToMat frames[i] : Mat real)) ∧
      (run (toFramePtr real) none blank memory file).2 = none ∧
      ∀ calls labels c, Clients.Reaches asserts bufferSize
          (streamReader real blank memory file calls) labels c →
        results .receiver (trace labels) <+: (delivery real frames).map (.received .value) ∧
        c.Safe asserts bufferSize ∧
        (c.Ended .receiver →
          results .receiver (trace labels) =
            ((delivery real frames).take calls).map (.received .value)) ∧
        (calls ≤ cub.getFrameCount + 1 → ∀ budget,
          Inevitable (Clients.Step asserts bufferSize)
            (fun label => label.1.isSpurious = true)
            (fun c => c.Ended .receiver) budget c) := by
  obtain ⟨frames, length, inOrder, ended, programs⟩ :=
    @streamReader_eq_pipe real _ _ blank cub memory file opened large
  refine ⟨frames, length, fun i below => ⟨inOrder i below, ?_⟩, ended, ?_⟩
  · obtain ⟨fileIn, same⟩ := @reading_eq cub memory i
    exact convertLoops_read real (by rwa [same]) (inOrder i below)
  intro calls labels c run
  rw [programs] at run
  refine ⟨Piped.results_firstValues run, Piped.safe run, Piped.results_of_ended run, ?_⟩
  intro enough budget
  refine Piped.inevitable ?_ run budget
  rwa [length_delivery, length]

/-- The two calls of `get_next` on a file with one frame. -/
theorem streamReader_delivers_oneFrame :
    ∃ (cub : CuboidFile) (frame : CuboidFrame),
      CuboidFile.loadCub default (.black 1 (by decide)) = .ok cub ∧
      (cub.getFrame default 0).1 = .ok frame ∧
      ∀ labels c, Clients.Reaches .active bufferSize (streamReader Nat default
          (fun _ => default) (.black 1 (by decide)) 2) labels c →
        (c.Ended .receiver → results .receiver (trace labels) =
          [.received .value (some (convertArrayToMat frame)), .received .value none]) ∧
        ∀ budget, Inevitable (Clients.Step .active bufferSize)
          (fun label => label.1.isSpurious = true) (fun c => c.Ended .receiver) budget c := by
  obtain ⟨cub, opened, count, large⟩ :=
    @File.exists_loadCub_black 1 (by decide) default
  obtain ⟨frames, length, inOrder, -, delivers⟩ :=
    @streamReader_delivers Nat _ _ .active _ _ (fun _ => default) _ opened large
  obtain ⟨frame, rfl⟩ := List.length_eq_one_iff.mp (length.trans count)
  refine ⟨cub, frame, opened, (inOrder 0 Nat.zero_lt_one).1, fun labels c run => ?_⟩
  obtain ⟨-, -, complete, inevitable⟩ := delivers 2 labels c run
  exact ⟨complete, inevitable (by rw [count])⟩

end Gloc.Stream
