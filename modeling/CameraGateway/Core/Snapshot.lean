import CameraGateway.Core.HttpService
import CameraGateway.Library.BufferedStream

/-!
A file that is written at once, with the buffer of stdio, and the snapshot of
`http_service_draw_lcd_frame` as such a file. A `fwrite` that succeeds can leave bytes in
the buffer; `fclose` hands them to the file, or fails with a part of them. A file is its
name with the bytes that it has accepted.
-/
namespace CameraGateway
open BufferedStream (Stream)

/-- Whether `fwrite` returns 1, and how many bytes the file takes from the buffer by then. -/
structure WriteOutcome where
  ok : Bool
  taken : Nat
deriving DecidableEq, Repr

/-- The calls for a file that is written at once; `fclose` is the number of bytes that the
file takes when it is closed. -/
structure FileCalls where
  fopen : Bool
  fwrite : WriteOutcome
  fclose : Nat
deriving DecidableEq, Repr

namespace FileCalls

def unopened : FileCalls := { fopen := false, fwrite := { ok := false, taken := 0 }, fclose := 0 }

def accepted (calls : FileCalls) (data : List UInt8) : List UInt8 :=
  ((Stream.empty.write data calls.fwrite.taken).flush calls.fclose).accepted

def written (calls : FileCalls) : Bool := calls.fopen && calls.fwrite.ok

/-- A file that was written without an error takes the rest of its buffer. -/
def flushes (calls : FileCalls) (data : List UInt8) : Bool :=
  !calls.written || decide (data.length ≤ calls.fwrite.taken + calls.fclose)

theorem accepted_iff (calls : FileCalls) (data : List UInt8) :
    calls.accepted data = data ↔ data.length ≤ calls.fwrite.taken + calls.fclose :=
  Stream.write_flush_accepted_iff data calls.fwrite.taken calls.fclose

theorem flushes_iff {calls : FileCalls} {data : List UInt8} (h : calls.written = true) :
    calls.flushes data = true ↔ calls.accepted data = data := by
  rw [flushes, h, accepted_iff]
  simp

end FileCalls

/-- The snapshot of event `eventId`. A path that does not fit is counted nowhere, and nobody
looks at the result of `fclose`. -/
def storeSnapshot (config : CameraConfig) (service : HttpService) (eventId : Nat)
    (jpeg : List UInt8) (calls : FileCalls) : HttpService × Option (List UInt8 × List UInt8) :=
  match snapshotPath config eventId with
  | none => (service, none)
  | some path =>
      if calls.fopen then
        (countSnapshot service calls.fwrite.ok, some (path, calls.accepted jpeg))
      else (countMotionError service, none)

section Store
variable {config : CameraConfig} (service : HttpService) {eventId : Nat} (jpeg : List UInt8)
  (calls : FileCalls)

theorem storeSnapshot_counted {path : List UInt8}
    (hpath : snapshotPath config eventId = some path) :
    storeSnapshot config service eventId jpeg calls =
      (countSnapshot service calls.written,
        if calls.fopen then some (path, calls.accepted jpeg) else none) := by
  rw [storeSnapshot, hpath, FileCalls.written]
  cases calls.fopen <;> rfl

theorem storeSnapshot_uncounted (hpath : snapshotPath config eventId = none) :
    storeSnapshot config service eventId jpeg calls = (service, none) := by
  rw [storeSnapshot, hpath]

theorem storeSnapshot_service {p : HttpService → Prop} (hkept : p service)
    (hcounted : p (countSnapshot service calls.written)) :
    p (storeSnapshot config service eventId jpeg calls).1 := by
  cases hpath : snapshotPath config eventId with
  | none => rwa [storeSnapshot_uncounted service jpeg calls hpath]
  | some path => rwa [storeSnapshot_counted service jpeg calls hpath]

theorem storeSnapshot_keeps {α : Type} {field : HttpService → α}
    (h : ∀ written, field (countSnapshot service written) = field service) :
    field (storeSnapshot config service eventId jpeg calls).1 = field service :=
  storeSnapshot_service (p := fun stored => field stored = field service) service jpeg calls rfl
    (h calls.written)

end Store
end CameraGateway
