import CameraGateway.Core.Text

/-!
The sending half of src/stream_http_mjpeg.c, and the sends of one `/stream`
client in src/v4l2_capture.c.

The results of successive `send` calls are a list chosen by the environment. A
function that runs out of results has not returned yet: its status is `none`,
and what it has put on the wire so far is still there. `size` and `strlen` of a
buffer are the length of the list that stands for it.
-/
namespace CameraGateway

/-- One call of `send`. A call that accepts `room` bytes takes at most what it is
given, and `accepted 0` is the return value 0. -/
inductive SendResult where
  | accepted (room : Nat)
  | interrupted
  | failed
deriving DecidableEq, Repr

/-- The returned status, the bytes the socket accepted, the results not used yet. -/
structure Sent where
  ret : Option Int
  wire : List UInt8
  outcomes : List SendResult
deriving DecidableEq, Repr

/-- `if (… != 0) return -1;` between two sends. -/
def Sent.andThen (first : Sent) (next : List SendResult → Sent) : Sent :=
  if first.ret = some 0 then
    let rest := next first.outcomes
    { rest with wire := first.wire ++ rest.wire }
  else first

def sendAll (outcomes : List SendResult) (data : List UInt8) : Sent :=
  if data = [] then ⟨some 0, [], outcomes⟩
  else
    match outcomes with
    | [] => ⟨none, [], []⟩
    | .interrupted :: outcomes => sendAll outcomes data
    | .failed :: outcomes => ⟨some (-1), [], outcomes⟩
    | .accepted room :: outcomes =>
        if room = 0 then ⟨some (-1), [], outcomes⟩
        else
          let rest := sendAll outcomes (data.drop room)
          { rest with wire := data.take room ++ rest.wire }

/-- Successive `send_all` calls, up to the first one that does not return 0. -/
def sendParts (outcomes : List SendResult) : List (List UInt8) → Sent
  | [] => ⟨some 0, [], outcomes⟩
  | part :: parts => (sendAll outcomes part).andThen fun outcomes => sendParts outcomes parts

/-- A header printed into a buffer of `limit` bytes, then the other parts. -/
def sendMessage (limit : Nat) (outcomes : List SendResult) (header : List UInt8)
    (parts : List (List UInt8)) : Sent :=
  if limit ≤ header.length then ⟨some (-1), [], outcomes⟩
  else sendParts outcomes (header :: parts)

def crlf : List UInt8 := [13, 10]

def streamHeader : List UInt8 := ascii <|
  "HTTP/1.0 200 OK\r\n" ++
  "Server: ov5640_capture\r\n" ++
  "Connection: close\r\n" ++
  "Cache-Control: no-cache\r\n" ++
  "Pragma: no-cache\r\n" ++
  "Content-Type: multipart/x-mixed-replace; boundary=frame\r\n" ++
  "\r\n"

def partHeader (size : Nat) : List UInt8 :=
  ascii "--frame\r\nContent-Type: image/jpeg\r\nContent-Length: " ++ (decimal size ++ 13 ::
    ascii "\n\r\n")

def jpegHeader (size : Nat) : List UInt8 :=
  ascii ("HTTP/1.0 200 OK\r\n" ++
    "Server: ov5640_capture\r\n" ++
    "Connection: close\r\n" ++
    "Cache-Control: no-cache\r\n" ++
    "Content-Type: image/jpeg\r\n" ++
    "Content-Length: ") ++ (decimal size ++ 13 :: ascii "\n\r\n")

def textHeader (status : List UInt8) (bodySize : Nat) : List UInt8 :=
  ascii "HTTP/1.0 " ++ status ++
  ascii ("\r\n" ++
    "Server: ov5640_capture\r\n" ++
    "Connection: close\r\n" ++
    "Cache-Control: no-cache\r\n" ++
    "Content-Type: text/plain\r\n" ++
    "Content-Length: ") ++ (decimal bodySize ++ 13 :: ascii "\n\r\n")

def httpMjpegSendStreamHeader (outcomes : List SendResult) : Sent :=
  sendAll outcomes streamHeader

def httpMjpegSendFrame (outcomes : List SendResult) (data : List UInt8) : Sent :=
  sendMessage 128 outcomes (partHeader data.length) [data, crlf]

def httpMjpegSendJpegResponse (outcomes : List SendResult) (data : List UInt8) : Sent :=
  sendMessage 256 outcomes (jpegHeader data.length) [data]

def httpMjpegSendTextResponse (outcomes : List SendResult) (status body : List UInt8) : Sent :=
  sendMessage 256 outcomes (textHeader status body.length) [body]

def httpMjpegSendNotFound (outcomes : List SendResult) : Sent :=
  httpMjpegSendTextResponse outcomes (ascii "404 Not Found") (ascii "not found\n")

def streamFrames (outcomes : List SendResult) : List (List UInt8) → Sent
  | [] => ⟨some 0, [], outcomes⟩
  | data :: frames =>
      (httpMjpegSendFrame outcomes data).andThen fun outcomes => streamFrames outcomes frames

/-- All sends of a `/stream` client: the header, then frames while sending works. -/
def streamClient (outcomes : List SendResult) (frames : List (List UInt8)) : Sent :=
  (httpMjpegSendStreamHeader outcomes).andThen fun outcomes => streamFrames outcomes frames

end CameraGateway
