/-!
`frame_t` (include/frame.h) and the two functions that duplicate a frame's data.

A data pointer is either NULL or a heap block with its address and contents.
The address is what an allocation returned: the allocator's answer is a
parameter of every copying function, `none` standing for a NULL result, so one
definition covers successful and failing allocations.
-/
namespace CameraGateway

/-- A block of memory as a data pointer sees it. -/
structure Buffer where
  address : Nat
  bytes : List UInt8
deriving DecidableEq, Repr

structure Frame where
  data : Option Buffer
  size : Nat
  width : Int
  height : Int
  pixelFormat : UInt32
  sequence : UInt32
  timestampUs : UInt64
deriving DecidableEq, Repr

def Frame.zero : Frame :=
  { data := none, size := 0, width := 0, height := 0, pixelFormat := 0,
    sequence := 0, timestampUs := 0 }

/-- What a frame says, wherever its bytes are stored. -/
structure FrameValue where
  bytes : List UInt8
  size : Nat
  width : Int
  height : Int
  pixelFormat : UInt32
  sequence : UInt32
  timestampUs : UInt64
deriving DecidableEq, Repr

/-- The first `size` bytes are the frame's own; a longer block is only storage. -/
def Frame.value (frame : Frame) : FrameValue :=
  { bytes := ((frame.data.map Buffer.bytes).getD []).take frame.size
    size := frame.size
    width := frame.width
    height := frame.height
    pixelFormat := frame.pixelFormat
    sequence := frame.sequence
    timestampUs := frame.timestampUs }

def frameRelease (frame : Frame) : List Nat × Frame :=
  ((frame.data.map Buffer.address).toList, Frame.zero)

/-- The common tail of both copies: the block `malloc` returned receives the
first `size` bytes of the source; without a block the destination is cleared. -/
def copyInto (src : Frame) : Option Nat → Int × Frame
  | none => (-1, Frame.zero)
  | some address =>
      (0, { src with
        data := some ⟨address, ((src.data.map Buffer.bytes).getD []).take src.size⟩ })

/-- `frame_copy` of frame_queue.c: the status and the destination frame. -/
def frameCopy (src : Frame) (malloc : Option Nat) : Int × Frame :=
  if src.size = 0 then (0, { src with data := none })
  else copyInto src malloc

/-- `frame_copy_alloc` of v4l2_capture.c. Unlike `frame_copy` it refuses an
empty frame, and it then leaves the metadata in the destination. -/
def frameCopyAlloc (src : Frame) (malloc : Option Nat) : Int × Frame :=
  if src.data = none ∨ src.size = 0 then (-1, { src with data := none })
  else copyInto src malloc

theorem copyInto_value (src : Frame) (address : Nat) :
    (copyInto src (some address)).2.value = src.value := by
  simp [copyInto, Frame.value, List.take_take]

theorem copyInto_ok_iff (src : Frame) (malloc : Option Nat) :
    (copyInto src malloc).1 = 0 ↔ malloc.isSome := by
  cases malloc <;> simp [copyInto]

theorem frameCopyAlloc_value {src : Frame} {malloc : Option Nat}
    (h : (frameCopyAlloc src malloc).1 = 0) :
    (frameCopyAlloc src malloc).2.value = src.value := by
  unfold frameCopyAlloc at h ⊢
  split at h
  · simp at h
  · obtain ⟨address, rfl⟩ := Option.isSome_iff_exists.mp ((copyInto_ok_iff src malloc).mp h)
    rename_i hsrc
    rw [if_neg hsrc, copyInto_value]

theorem frameCopyAlloc_ok_iff (src : Frame) (malloc : Option Nat) :
    (frameCopyAlloc src malloc).1 = 0 ↔
      src.data ≠ none ∧ src.size ≠ 0 ∧ malloc.isSome := by
  unfold frameCopyAlloc
  split
  · rename_i h
    cases h with
    | inl h => simp [h]
    | inr h => simp [h]
  · rename_i h
    rw [copyInto_ok_iff]
    simp only [not_or] at h
    simp [h.1, h.2]

end CameraGateway
