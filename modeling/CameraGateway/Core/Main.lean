import CameraGateway.Core.CameraDevice
import CameraGateway.Core.ParseArgs
import CameraGateway.Core.TestPattern

/-!
`main` of src/main.c: the options choose between the listing of the formats, the test pattern
and the capture. What `main` prints is left out.
-/
namespace CameraGateway

/-- What the kernel and the C library answer to the three tasks. -/
structure World where
  listing : ListingDriver
  /-- A bound for the rounds of the loops of the listing. -/
  rounds : Nat
  screen : ScreenOutcomes
  mem : List UInt8
  outcomes : Outcomes

inductive Task where
  | list
  | test
  | capture
deriving DecidableEq, Repr

def CommandLine.task (line : CommandLine) : Task :=
  if line.listFormats then .list else if line.fbTestDevice ≠ [] then .test else .capture

def exitCode (ret : Int) : Int := if ret = 0 then 0 else 1

/-- The exit code of `main` and what it has acquired and released. `none` when a loop of the
listing has not ended or `ctx->buffers` is left. -/
def programMain (options : List CommandOption) (world : World) : Option Call :=
  match parseArgs options with
  | .error ret => some { ret := if ret < 0 then 1 else 0, ops := [] }
  | .ok line =>
      match line.task with
      | .list =>
          (cameraListFormats world.rounds line.config.device world.listing).map fun call =>
            { ret := exitCode call.ret, ops := call.ops }
      | .test =>
          let call := framebufferTestPattern world.screen world.mem
          some { ret := exitCode call.ret, ops := call.ops }
      | .capture =>
          (captureMain line.config.toCaptureConfig world.outcomes).map fun call =>
            { ret := call.ret, ops := call.ops }

end CameraGateway
