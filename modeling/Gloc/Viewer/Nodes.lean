import Gloc.Channel.Network
import Gloc.Files.Cuboid

/-!
# The nodes of the viewer

Five threads that are connected by four channels.  Each `run` function is a
process: what it does next is a function of the place in its loops where it
stands, and of the local variables it has there.

A frame pointer is a frame or the null pointer, which marks the end of the
frames.  The end of the headers is marked by a header whose status is zero.
Nobody calls `stop` before all threads have been joined; therefore `stop_` is
not part of the states.
-/

namespace Gloc.Viewer

open Gloc.Channel Gloc.Files Gloc.Transition

universe u

abbrev FramePtr (Frame : Type u) := Option Frame

inductive Node where
  | readNode
  | bufferedMean
  | frameMean
  | frameRecv
  | headerRecv
  deriving DecidableEq

inductive Wire where
  | frameChan
  | bufferChan
  | meanChan
  | headerChan
  deriving DecidableEq

instance : Fintype Wire where
  elems := {.frameChan, .bufferChan, .meanChan, .headerChan}
  complete wire := by cases wire <;> decide

abbrev Wire.Value (Frame : Type) : Wire → Type
  | .frameChan => FramePtr Frame
  | .bufferChan => FramePtr Frame
  | .meanChan => FramePtr Frame
  | .headerChan => CuboidFrameHeader

def Wire.source : Wire → Node
  | .frameChan => .readNode
  | .bufferChan => .bufferedMean
  | .meanChan => .frameMean
  | .headerChan => .readNode

def Wire.target : Wire → Node
  | .frameChan => .bufferedMean
  | .bufferChan => .frameMean
  | .meanChan => .frameRecv
  | .headerChan => .headerRecv

def Wire.capacity : Wire → Nat
  | .frameChan => 5
  | .bufferChan => 5
  | .meanChan => 5
  | .headerChan => 0

variable {Frame : Type}

inductive ReadNode where
  | loop (later : List CuboidFrame)
  | sendHeader (header : CuboidFrameHeader) (later : List CuboidFrame)
  | last
  | done

/-- `he` is what is found in the memory of the last header. -/
def ReadNode.run (F : CuboidFrame → Frame) (he : CuboidFrameHeader) :
    ReadNode → Instruction (Wire.Value Frame) ReadNode
  | .loop [] => .send .frameChan none .last
  | .loop (frame :: later) =>
      .send .frameChan (some (F frame)) (.sendHeader frame.getFrameHeader later)
  | .sendHeader header later => .send .headerChan header (.loop later)
  | .last => .send .headerChan he .done
  | .done => .finish

/-- `compute_the_mean ()`: the first frames in the buffer are added up. -/
def computeTheMean [Add Frame] (bufferSize : Nat) (buffer : List Frame) : FramePtr Frame :=
  match buffer.take bufferSize with
  | [] => none
  | frame :: later => some (later.foldl (· + ·) frame)

inductive BufferedMean (Frame : Type) where
  | fill (buffer : List Frame)
  | loop (buffer : List Frame)
  | emit (fout : FramePtr Frame) (buffer : List Frame)
  | last
  | done

namespace BufferedMean

/-- The head of the loop in `fill_the_buffer ()` -/
def fillTheBuffer (bufferSize : Nat) (buffer : List Frame) : BufferedMean Frame :=
  if buffer.length < bufferSize then .fill buffer else .loop buffer

def run [Add Frame] (bufferSize : Nat) :
    BufferedMean Frame → Instruction (Wire.Value Frame) (BufferedMean Frame)
  | .fill buffer => .recv .frameChan fun
      | none => .last
      | some frame => fillTheBuffer bufferSize (buffer ++ [frame])
  | .loop buffer => .recv .frameChan fun
      | none => .last
      | some frame => .emit (computeTheMean bufferSize buffer) (buffer.tail ++ [frame])
  | .emit fout buffer => .send .bufferChan fout (.loop buffer)
  | .last => .send .bufferChan none .done
  | .done => .finish

end BufferedMean

inductive FrameMean (Frame : Type) where
  | first
  /-- the first pointer is null: the assertion fails, or the null pointer is followed -/
  | failed
  | loop (M : Frame) (i : Nat)
  | pass (frame : Frame) (M : Frame) (i : Nat)
  | last
  | done

def FrameMean.run [Add Frame] :
    FrameMean Frame → Instruction (Wire.Value Frame) (FrameMean Frame)
  | .first => .recv .bufferChan fun
      | none => .failed
      | some frame => .loop frame 1
  | .failed => .abort
  | .loop M i => .recv .bufferChan fun
      | none => .last
      | some frame => .pass frame (M + frame) i
  | .pass frame M i => .send .meanChan (some frame) (.loop M (i + 1))
  | .last => .send .meanChan none .done
  | .done => .finish

inductive FrameRecv where
  | loop (i : Nat)
  | done (i : Nat)

def FrameRecv.run : FrameRecv → Instruction (Wire.Value Frame) FrameRecv
  | .loop i => .recv .meanChan fun
      | none => .done i
      | some _ => .loop (i + 1)
  | .done _ => .finish

inductive HeaderRecv where
  | loop (i : Nat)
  | done (i : Nat)

def HeaderRecv.run : HeaderRecv → Instruction (Wire.Value Frame) HeaderRecv
  | .loop i => .recv .headerChan fun header =>
      if header.status = 0 then .done (i + 1) else .loop (i + 1)
  | .done _ => .finish

abbrev Node.Local (Frame : Type) : Node → Type
  | .readNode => ReadNode
  | .bufferedMean => BufferedMean Frame
  | .frameMean => FrameMean Frame
  | .frameRecv => FrameRecv
  | .headerRecv => HeaderRecv

/-- `main`, with the frames that are read from the file and the window of `BufferedMean`. -/
def viewer [Add Frame] (bufferSize : Nat) (F : CuboidFrame → Frame) (frames : List CuboidFrame)
    (he : CuboidFrameHeader) : Network Node Wire where
  Value := Wire.Value Frame
  Local := Node.Local Frame
  source := Wire.source
  target := Wire.target
  distinct wire := by cases wire <;> decide
  capacity := Wire.capacity
  instruction
    | .readNode => ReadNode.run F he
    | .bufferedMean => BufferedMean.run bufferSize
    | .frameMean => FrameMean.run
    | .frameRecv => FrameRecv.run
    | .headerRecv => HeaderRecv.run
  start
    | .readNode => .loop frames
    | .bufferedMean => .fillTheBuffer bufferSize []
    | .frameMean => .first
    | .frameRecv => .loop 0
    | .headerRecv => .loop 0
  sends := by
    intro node state wire value next instructed
    cases node with
    | readNode =>
        cases state with
        | loop later => cases later <;> cases instructed <;> rfl
        | _ => cases instructed <;> rfl
    | _ => cases state <;> cases instructed <;> rfl
  receives := by
    intro node state wire next instructed
    cases node with
    | readNode =>
        cases state with
        | loop later => cases later <;> cases instructed
        | _ => cases instructed
    | _ => cases state <;> cases instructed <;> rfl

end Gloc.Viewer
