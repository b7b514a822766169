import Gloc.Files.Requests

/-!
# Laser files

`LaserxaFile` and `get_direction_from_lxa`.  As for cub files, the packed
structures are the bytes they consist of, and memory that is left
uninitialised is an argument.  Times are computed in whatever numbers `double`
is taken for.
-/

namespace Gloc.Files

universe u

inductive LxaFailure where
  | lxaEnd
  deriving DecidableEq, Repr

/-- `uint32_t version, file_type` -/
structure LaserxaInfo where
  memory : Block 8
  deriving Inhabited

/-- `uint32_t frame_number, timestamp_ms, timestamp_tick, event_counter` -/
structure LaserxaData where
  memory : Block 16
  deriving Inhabited

namespace LaserxaData

def frameNumber (data : LaserxaData) : Nat := fieldAt data.memory.toList 0 4

def timestampMs (data : LaserxaData) : Nat := fieldAt data.memory.toList 4 4

def timestampTick (data : LaserxaData) : Nat := fieldAt data.memory.toList 8 4

def eventCounter (data : LaserxaData) : Nat := fieldAt data.memory.toList 12 4

end LaserxaData

structure LaserxaFile where
  info : LaserxaInfo
  fileIn : Ifstream
  dataCount : Nat
  deriving Inhabited

namespace LaserxaFile

/-- `init`, on members that hold anything at all.  The division binds stronger than
the subtraction. -/
def init (lxa : LaserxaFile) (file : File) : LaserxaFile :=
  let fileIn := Ifstream.openFile file
  let fileIn := fileIn.seekgBeg 0
  let (bytes, fileIn) := fileIn.read 8
  let info : LaserxaInfo := { memory := lxa.info.memory.store bytes }
  let currentPos := fileIn.tellg
  let fileIn := fileIn.seekgEnd
  let last := fileIn.tellg
  { info := info
    fileIn := fileIn
    dataCount := sizeT ((sizeT last : Int) - (sizeT currentPos / 16 : Nat)) }

def size (lxa : LaserxaFile) : Nat :=
  lxa.dataCount

def pos (i : Nat) : Nat :=
  (8 + i * 16) % 2 ^ 64

def getData (lxa : LaserxaFile) (memory : LaserxaData) (i : Nat) :
    Except LxaFailure LaserxaData × LaserxaFile :=
  if lxa.dataCount ≤ i then (.error .lxaEnd, lxa)
  else
    let fileIn := lxa.fileIn.seekgBeg (streamoff (pos i))
    let (bytes, fileIn) := fileIn.read 16
    (.ok { memory := memory.memory.store bytes }, { lxa with fileIn := fileIn })

/-- `operator[]` -/
def get (lxa : LaserxaFile) (memory : LaserxaData) (i : Nat) :
    Except LxaFailure LaserxaData × LaserxaFile :=
  lxa.getData memory i

section Time

variable (double : Type u) [NatCast double] [Add double] [Div double]

/-- The time of a record in seconds, with 80000 ticks for a millisecond. -/
def time (data : LaserxaData) : double :=
  ((data.timestampMs : double) + (data.timestampTick : double) / (80000 : Nat)) / (1000 : Nat)

def getTimeAt (lxa : LaserxaFile) (memory : LaserxaData) (i : Nat) :
    Except LxaFailure double × LaserxaFile :=
  match lxa.getData memory i with
  | (.error failure, lxa) => (.error failure, lxa)
  | (.ok data, lxa) => (.ok (time double data), lxa)

end Time

/-- `data.event_counter & 0xffffff` -/
def maskedCounter (data : LaserxaData) : Nat :=
  data.eventCounter &&& 0xffffff

/-- The comparison in `get_direction_from_lxa`, of the difference of two `uint32_t`
with zero. -/
def directionOf (l1 l2 : Nat) : Nat :=
  let directionId := (l2 + 2 ^ 32 - l1) % 2 ^ 32
  if 0 < directionId then 0 else 1

def getDirectionFromLxa (lxa : LaserxaFile) (memory1 memory2 : LaserxaData) :
    Except LxaFailure Nat × LaserxaFile :=
  let len2 := lxa.size / 2
  match lxa.getData memory1 len2 with
  | (.error failure, lxa) => (.error failure, lxa)
  | (.ok data1, lxa) =>
      match lxa.getData memory2 ((len2 + 1) % 2 ^ 64) with
      | (.error failure, lxa) => (.error failure, lxa)
      | (.ok data2, lxa) => (.ok (directionOf (maskedCounter data1) (maskedCounter data2)), lxa)

inductive Call where
  | getData (memory : LaserxaData) (i : Nat)
  | get (memory : LaserxaData) (i : Nat)
  | getTimeAt (memory : LaserxaData) (i : Nat)
  | getDirection (memory1 memory2 : LaserxaData)

def after (lxa : LaserxaFile) : Call → LaserxaFile
  | .getData memory i => (lxa.getData memory i).2
  | .get memory i => (lxa.get memory i).2
  | .getTimeAt memory i => (lxa.getTimeAt Nat memory i).2
  | .getDirection memory1 memory2 => (lxa.getDirectionFromLxa memory1 memory2).2

def afterCalls (lxa : LaserxaFile) (calls : List Call) : LaserxaFile :=
  calls.foldl after lxa

def Call.asks (size : Nat) : Call → List Nat
  | .getData _ i | .get _ i | .getTimeAt _ i => [i]
  | .getDirection _ _ => [size / 2, size / 2 + 1]

def Call.requests (size : Nat) (call : Call) : List (Nat × Nat) :=
  ((call.asks size).filter (· < size)).map fun i => (pos i, 16)

section Requests

variable {lxa : LaserxaFile} {memory : LaserxaData} {i : Nat}

theorem getData_refuses (beyond : lxa.dataCount ≤ i) :
    lxa.getData memory i = (.error .lxaEnd, lxa) := by
  unfold getData
  rw [if_pos beyond]

theorem getData_reads (below : i < lxa.dataCount) :
    lxa.getData memory i =
      (.ok { memory := memory.memory.store (lxa.fileIn.request (pos i, 16)).1 },
        { lxa with fileIn := (lxa.fileIn.request (pos i, 16)).2 }) := by
  unfold getData
  rw [if_neg (Nat.not_le.mpr below)]
  rfl

theorem getData_snd : (lxa.getData memory i).2 =
    { lxa with
      fileIn := lxa.fileIn.afterRequests ((Call.getData memory i).requests lxa.dataCount) } := by
  by_cases below : i < lxa.dataCount
  · rw [getData_reads below]
    simp [Call.requests, Call.asks, below, Ifstream.afterRequests]
  · rw [getData_refuses (Nat.not_lt.mp below)]
    simp [Call.requests, Call.asks, below, Ifstream.afterRequests]

theorem getTimeAt_snd (double : Type u) [NatCast double] [Add double] [Div double] :
    (lxa.getTimeAt double memory i).2 = (lxa.getData memory i).2 := by
  unfold getTimeAt
  split <;> rename_i taken <;> rw [taken]

theorem getDirection_snd (memory1 memory2 : LaserxaData) (small : lxa.dataCount < 2 ^ 64) :
    (lxa.getDirectionFromLxa memory1 memory2).2 =
      { lxa with
        fileIn := lxa.fileIn.afterRequests
          ((Call.getDirection memory1 memory2).requests lxa.dataCount) } := by
  have next : (lxa.dataCount / 2 + 1) % 2 ^ 64 = lxa.dataCount / 2 + 1 :=
    Nat.mod_eq_of_lt (by omega)
  simp only [getDirectionFromLxa, size, next]
  by_cases first : lxa.dataCount / 2 < lxa.dataCount
  · rw [getData_reads first]
    generalize read : lxa.fileIn.request (pos (lxa.dataCount / 2), 16) = answer
    by_cases second : lxa.dataCount / 2 + 1 < lxa.dataCount
    · have taken := @getData_reads ⟨lxa.info, answer.2, lxa.dataCount⟩ memory2 _ second
      simp only [taken]
      simp [← read, Call.requests, Call.asks, first, second, Ifstream.afterRequests]
    · have refused := @getData_refuses ⟨lxa.info, answer.2, lxa.dataCount⟩ memory2 _
        (Nat.not_lt.mp second)
      simp only [refused]
      simp [← read, Call.requests, Call.asks, first, second, Ifstream.afterRequests]
  · rw [getData_refuses (Nat.not_lt.mp first)]
    have second : ¬ lxa.dataCount / 2 + 1 < lxa.dataCount := by omega
    simp [Call.requests, Call.asks, first, second, Ifstream.afterRequests]

theorem after_eq (call : Call) (small : lxa.dataCount < 2 ^ 64) :
    lxa.after call =
      { lxa with fileIn := lxa.fileIn.afterRequests (call.requests lxa.dataCount) } := by
  cases call with
  | getData memory i => exact getData_snd
  | get memory i => exact getData_snd
  | getTimeAt memory i => exact (getTimeAt_snd Nat).trans getData_snd
  | getDirection memory1 memory2 => exact getDirection_snd memory1 memory2 small

end Requests

end LaserxaFile

end Gloc.Files
