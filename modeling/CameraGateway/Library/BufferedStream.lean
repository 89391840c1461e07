import Mathlib.Data.List.TakeDrop

/-!
A stream with a buffer in front of its file. A write puts elements into the buffer and
hands a part of what is there to the file; a flush only hands on. Nothing is lost before
the stream is given up, so the file has everything exactly if the last flush took it all.
-/
namespace BufferedStream
universe u
variable {α : Type u}

structure Stream (α : Type u) where
  accepted : List α
  pending : List α
deriving DecidableEq, Repr

namespace Stream

def empty : Stream α := { accepted := [], pending := [] }

/-- The file takes the first `taken` elements of the buffer. -/
def flush (stream : Stream α) (taken : Nat) : Stream α :=
  { accepted := stream.accepted ++ stream.pending.take taken
    pending := stream.pending.drop taken }

def write (stream : Stream α) (data : List α) (taken : Nat) : Stream α :=
  { stream with pending := stream.pending ++ data }.flush taken

def content (stream : Stream α) : List α := stream.accepted ++ stream.pending

theorem content_flush (stream : Stream α) (taken : Nat) :
    (stream.flush taken).content = stream.content := by
  rw [content, flush, List.append_assoc, List.take_append_drop]
  rfl

theorem content_write (stream : Stream α) (data : List α) (taken : Nat) :
    (stream.write data taken).content = stream.content ++ data := by
  rw [write, content_flush]
  exact (List.append_assoc ..).symm

/-- The file has everything just when the flush took the whole buffer. -/
theorem flush_accepted_iff (stream : Stream α) (taken : Nat) :
    (stream.flush taken).accepted = stream.content ↔ stream.pending.length ≤ taken := by
  rw [flush, content, List.append_cancel_left_eq, List.take_eq_self_iff]

/-- The file of one write that is closed after it. -/
theorem write_flush_accepted_iff (data : List α) (taken rest : Nat) :
    ((empty.write data taken).flush rest).accepted = data ↔ data.length ≤ taken + rest := by
  have hcontent : (empty.write data taken).content = data := content_write empty data taken
  have hpending : (empty.write data taken).pending.length = data.length - taken :=
    List.length_drop
  have hiff := flush_accepted_iff (empty.write data taken) rest
  rw [hcontent, hpending] at hiff
  rw [hiff]
  omega

end Stream
end BufferedStream
