import Gloc.Channel.Backlogs
import Gloc.Stream.StreamReader

/-!
# Reading ahead, and reading past the end

The reader thread of a `StreamReader` runs ahead of its owner by as much as the
channel holds.  After the null pointer nothing more comes; `get_next` does not
return any more then.
-/

namespace Gloc.Channel.Piped

open Gloc.Transition

universe u

variable {T : Type u} {asserts : Asserts} {N calls : Nat} {values : List T}
  {labels : List (Label End T)} {c : Clients End T}

theorem length_calls_sender_le (run : Clients.Reaches asserts N (pipe values calls) labels c) :
    (Channel.calls .sender (trace labels)).length ≤
      (results .receiver (trace labels)).length + (N + 2) := by
  have returned := (Tally.of_reaches run .sender).returned
  have ahead := results_sender_le run
  have busy : (c.system.phase .sender).busy ≤ 1 := by
    cases c.system.phase .sender <;> simp [Phase.busy]
  omega

theorem receiver_starves (run : Clients.Reaches asserts N (pipe values calls) labels c)
    (few : values.length < calls) (quiescent : c.Quiescent asserts N) :
    ∃ form, c.system.phase .receiver = .recvWait form := by
  have piped := of_reaches run
  rcases quiescent.ended_or_parked .receiver with ended | parked
  · have counted := piped.receives.counted
    rw [results_of_ended run ended, List.take_of_length_le few.le, List.length_map, ended.1,
      ended.2] at counted
    exact absurd counted few.ne
  · exact piped.parked_receiver parked

end Gloc.Channel.Piped

namespace Gloc.Stream

open Gloc.Channel Gloc.Files Gloc.Transition

universe u

variable (real : Type u) [Zero real] [NatCast real]

/-- The reader has at most seven frames in hand that the owner has not been given, and
`get_next` returns at most once more than there are frames.  An owner who calls it more
often always ends up waiting in it for ever. -/
theorem streamReader_readsAhead {asserts : Asserts} {blank cub : CuboidFile}
    {memory : Nat → Uninitialised} {file : File} (opened : blank.loadCub file = .ok cub)
    (large : 16 ≤ cub.header.vWidth * cub.header.hWidth) {calls : Nat}
    {labels : List (Label End (FramePtr real))} {c : Clients End (FramePtr real)}
    (run : Clients.Reaches asserts bufferSize (streamReader real blank memory file calls)
      labels c) :
    (Channel.calls .sender (trace labels)).length ≤
        (results .receiver (trace labels)).length + 7 ∧
      (results .receiver (trace labels)).length ≤ cub.getFrameCount + 1 ∧
      (cub.getFrameCount + 1 < calls → ∀ budget,
        Inevitable (Clients.Step asserts bufferSize) (fun label => label.1.isSpurious = true)
          (fun c => c.Quiescent asserts bufferSize ∧
            ∃ form, c.system.phase .receiver = .recvWait form) budget c) := by
  obtain ⟨frames, length, -, -, programs⟩ :=
    @streamReader_eq_pipe real _ _ blank cub memory file opened large
  rw [programs] at run
  refine ⟨Piped.length_calls_sender_le run, ?_, fun more budget => ?_⟩
  · have atMost := (Piped.results_firstValues run).length_le
    rwa [List.length_map, length_delivery, length] at atMost
  · refine Clients.inevitable Piped.safe (fun reached quiescent => ⟨quiescent, ?_⟩) run budget
    refine Piped.receiver_starves reached ?_ quiescent
    rwa [length_delivery, length]

/-- On a file with one frame, the third call of `get_next` does not return. -/
theorem streamReader_readsAhead_oneFrame :
    ∃ (cub : CuboidFile), CuboidFile.loadCub default (.black 1 (by decide)) = .ok cub ∧
      ∀ labels c, Clients.Reaches .active bufferSize (streamReader Nat default
          (fun _ => default) (.black 1 (by decide)) 3) labels c →
        (results .receiver (trace labels)).length ≤ 2 ∧
        ∀ budget, Inevitable (Clients.Step .active bufferSize)
          (fun label => label.1.isSpurious = true)
          (fun c => c.Quiescent .active bufferSize ∧
            ∃ form, c.system.phase .receiver = .recvWait form) budget c := by
  obtain ⟨cub, opened, count, large⟩ :=
    @File.exists_loadCub_black 1 (by decide) default
  refine ⟨cub, opened, fun labels c run => ?_⟩
  obtain ⟨-, few, starves⟩ := streamReader_readsAhead Nat opened large run
  rw [count] at few starves
  exact ⟨few, starves (by decide)⟩

end Gloc.Stream
