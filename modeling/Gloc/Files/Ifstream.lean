import Gloc.Files.Bytes

/-!
# Reading a file with `std::ifstream`

The part of `std::ifstream` that the readers use, on a file that can be opened
and does not change.  A read past the end stores what there is and sets
`eofbit` and `failbit`; `seekg` clears `eofbit` only; while `failbit` is set
nothing is read and the position stays where it is.
-/

namespace Gloc.Files

/-- A file whose size is an `off_t`. -/
structure File where
  content : List UInt8
  addressable : content.length < 2 ^ 63

instance : Inhabited File :=
  ⟨{ content := [], addressable := by decide }⟩

def File.size (file : File) : Nat :=
  file.content.length

structure Ifstream where
  file : File
  position : Nat
  eofbit : Bool
  failbit : Bool
  deriving Inhabited

namespace Ifstream

def openFile (file : File) : Ifstream :=
  { file := file, position := 0, eofbit := false, failbit := false }

def good (stream : Ifstream) : Bool :=
  !stream.eofbit && !stream.failbit

def seekgBeg (stream : Ifstream) (offset : Int) : Ifstream :=
  if stream.failbit then { stream with eofbit := false }
  else if offset < 0 then { stream with eofbit := false, failbit := true }
  else { stream with eofbit := false, position := offset.toNat }

def seekgEnd (stream : Ifstream) : Ifstream :=
  if stream.failbit then { stream with eofbit := false }
  else { stream with eofbit := false, position := stream.file.size }

def tellg (stream : Ifstream) : Int :=
  if stream.failbit then -1 else stream.position

/-- `read (target, count)`: the bytes that are stored at the target, and the
stream afterwards. -/
def read (stream : Ifstream) (count : Nat) : List UInt8 × Ifstream :=
  if stream.good then
    let bytes := slice stream.file.content stream.position count
    let short := decide (bytes.length < count)
    (bytes,
      { stream with
        position := stream.position + bytes.length
        eofbit := short
        failbit := short })
  else ([], { stream with failbit := true })

def onFile (file : File) (position : Nat) : Ifstream :=
  { file := file, position := position, eofbit := false, failbit := false }

section OnFile

variable (file : File) (position : Nat)

theorem openFile_eq : openFile file = onFile file 0 := rfl

theorem seekgBeg_onFile (offset : Nat) :
    (onFile file position).seekgBeg offset = onFile file offset := by
  have forward : ¬ (offset : Int) < 0 := by omega
  unfold seekgBeg
  rw [if_neg (by simp [onFile]), if_neg forward]
  rfl

theorem seekgEnd_onFile : (onFile file position).seekgEnd = onFile file file.size := rfl

theorem tellg_onFile : (onFile file position).tellg = position := rfl

theorem read_onFile {count : Nat} (inside : position + count ≤ file.size) :
    (onFile file position).read count =
      (slice file.content position count, onFile file (position + count)) := by
  have complete : (slice file.content position count).length = count :=
    length_slice_of_le inside
  unfold read
  rw [if_pos (by rfl)]
  simp [onFile, complete]

end OnFile

end Ifstream

end Gloc.Files
