import CameraGateway.Core.Text

/-!
The receiving half of src/stream_http_mjpeg.c: one `recv` on an accepted
connection, the scan of the request line, and the routing of src/v4l2_capture.c.
-/
namespace CameraGateway

/-- What the only `recv` on a new connection finds. `received []` is the return
value 0, the peer having closed; `failed` is -1. -/
inductive RecvResult where
  | received (pending : List UInt8)
  | failed
deriving DecidableEq, Repr

/-- `isspace` in the C locale. -/
def isSpace (b : UInt8) : Bool := b == 32 || (9 ≤ b.toNat && b.toNat ≤ 13)

def cString (buffer : List UInt8) : List UInt8 := buffer.takeWhile (· != 0)

/-- `sscanf(request, "GET %255s", parsed_path)`; `none` when it does not return 1.
The blank of the format matches any white space, also none at all. -/
def scanPath (request : List UInt8) : Option (List UInt8) :=
  match cString request with
  | 71 :: 69 :: 84 :: rest =>
      let word := ((rest.dropWhile isSpace).takeWhile (fun b => !isSpace b)).take 255
      if word = [] then none else some word
  | _ => none

/-- `http_mjpeg_accept_request`; `none` is the result -1. -/
def httpMjpegAcceptRequest (accepted : Bool) (recv : RecvResult) (pathSize : Nat) :
    Option (List UInt8) :=
  if pathSize = 0 then none
  else if !accepted then none
  else
    match recv with
    | .failed => none
    | .received pending =>
        let request := pending.take 1023
        if request = [] then none
        else some (((scanPath request).getD (ascii "/")).take (pathSize - 1))

inductive Route where
  | metrics
  | snapshot
  | stream
  | notFound
deriving DecidableEq, Repr

/-- The comparisons at the head of `http_client_thread`. -/
def httpClientRoute (path : List UInt8) : Route :=
  if path = ascii "/metrics" then .metrics
  else if path = ascii "/snapshot" then .snapshot
  else if path = ascii "/" ∨ path = ascii "/stream" then .stream
  else .notFound

end CameraGateway
