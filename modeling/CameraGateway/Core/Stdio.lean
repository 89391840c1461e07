import CameraGateway.Core.CaptureLoops
import CameraGateway.Core.Snapshot

/-!
`write_frame_file` and the output file of `camera_capture_to_file` with the buffers of
stdio: `camera_capture_to_file` keeps its stream open over all passes of its loop.
-/
namespace CameraGateway
open BufferedStream (Stream)

section Files

structure StoredFile where
  ret : Int
  stored : Option (List UInt8 × List UInt8)
deriving DecidableEq, Repr

def storeFrameFile (config : CaptureConfig) (data : List UInt8) (frameNumber : Nat)
    (calls : FileCalls) : StoredFile :=
  match framePath config frameNumber with
  | none => { ret := -1, stored := none }
  | some path =>
      if !calls.fopen then { ret := -1, stored := none }
      else if !calls.fwrite.ok then { ret := -1, stored := some (path, calls.accepted data) }
      -- nobody looks at the result of `fclose`
      else { ret := 0, stored := some (path, calls.accepted data) }

end Files

section Capture

/-- One pass through the loop of `camera_capture_to_file`. `calls` are those for the frame's own
file; without one, its `fwrite` goes to the output file, and its `fclose` is the one at `out`. -/
structure StdioPass where
  driver : DriverEvent
  calls : FileCalls
  requeued : Bool

def StdioPass.toFilePass (pass : StdioPass) : FilePass :=
  { driver := pass.driver, fopen := pass.calls.fopen, fwrite := pass.calls.fwrite.ok
    requeued := pass.requeued }

inductive StdioAction where
  | opened (ok : Bool)
  | pass (pass : StdioPass)
  | finish (fclose : Nat)

def fileAction : StdioAction → FileAction
  | .opened ok => .opened ok
  | .pass pass => .pass pass.toFilePass
  | .finish _ => .finish

structure StdioCapture where
  capture : FileCapture
  stream : Option (Stream UInt8)
  stored : List (List UInt8 × List UInt8)

namespace StdioCapture

def init : StdioCapture := { capture := FileCapture.init, stream := none, stored := [] }

def write (config : CaptureConfig) (s : StdioCapture) (data : List UInt8) (calls : FileCalls) :
    StdioCapture :=
  if config.saveFrames then
    { s with
      stored := s.stored ++
        (storeFrameFile config data (s.capture.count + 1) calls).stored.toList }
  else { s with stream := s.stream.map fun stream => stream.write data calls.fwrite.taken }

/-- A pass writes what it has dequeued, if that is anything. -/
def writePass (config : CaptureConfig) (s : StdioCapture) (pass : StdioPass) : StdioCapture :=
  match pass.driver with
  | .dequeued _ memory bytesused =>
      if bytesused = 0 then s else s.write config (memory.take bytesused.toNat) pass.calls
  | _ => s

def out (config : CaptureConfig) (s : StdioCapture) (fclose : Nat) : StdioCapture :=
  match s.capture.phase, s.stream with
  | .returned _, some stream =>
      { s with
        stream := none
        stored := s.stored ++ [(config.output, (stream.flush fclose).accepted)] }
  | _, _ => s

/-- The streams of a step that leads to `next`. -/
def after (config : CaptureConfig) (s : StdioCapture) (next : FileCapture) :
    StdioAction → StdioCapture
  | .opened _ => { s with capture := next, stream := next.output.map fun _ => Stream.empty }
  | .pass pass => { s.writePass config pass with capture := next }.out config pass.calls.fclose
  | .finish fclose => { s with capture := next }.out config fclose

def step (config : CaptureConfig) (s : StdioCapture) (action : StdioAction) :
    Option StdioCapture :=
  (s.capture.step config (fileAction action)).map fun next => s.after config next action

end StdioCapture

def stdioCapture (config : CaptureConfig) :
    TransitionSystem.System StdioCapture StdioAction where
  init := StdioCapture.init
  step := StdioCapture.step config

end Capture

end CameraGateway
