import CameraGateway.Core.Frame
import Mathlib.Algebra.Group.Nat.Defs

/-!
The bounded frame queue of src/frame_queue.c.

Each operation is the body of its critical section, as a function of the queue.
The mutex and the condition variable are not fields: the interleaved reading of
the same functions is in Metatheory.FrameQueueWakeups. Queue and result pointers are
taken as valid, so the NULL checks on them do not appear. `calloc` has bounded
`capacity * sizeof(frame_t)`, hence no index below wraps; the only counter that
can is `dropped_frames`.
-/
namespace CameraGateway

/-- `unsigned long` on the 32-bit target. -/
def ulongModulus : Nat := 2 ^ 32

structure FrameQueue where
  items : List Frame
  capacity : Nat
  head : Nat
  tail : Nat
  count : Nat
  droppedFrames : Nat
  closed : Bool
deriving DecidableEq, Repr

/-- `frame_queue_init`; the three flags are the outcomes of `calloc`, of
`pthread_mutex_init` and of `pthread_cond_init`. `none` is the result -1. -/
def frameQueueInit (capacity : Nat) (calloc mutexInit condInit : Bool) : Option FrameQueue :=
  if capacity = 0 then none
  else if !calloc then none
  else if !mutexInit then none
  else if !condInit then none
  else some
    { items := List.replicate capacity Frame.zero, capacity := capacity
      head := 0, tail := 0, count := 0, droppedFrames := 0, closed := false }

namespace FrameQueue

def item (queue : FrameQueue) (index : Nat) : Frame := queue.items.getD index Frame.zero

/-- The block of `frame_queue_push` that makes room in a full queue. -/
def evictHead (queue : FrameQueue) : FrameQueue :=
  { queue with
    items := queue.items.set queue.head (frameRelease (queue.item queue.head)).2
    head := (queue.head + 1) % queue.capacity
    count := queue.count - 1
    droppedFrames := (queue.droppedFrames + 1) % ulongModulus }

/-- `frame_copy` into the tail slot. -/
def writeTail (queue : FrameQueue) (dst : Frame) : FrameQueue :=
  { queue with items := queue.items.set queue.tail dst }

def advanceTail (queue : FrameQueue) : FrameQueue :=
  { queue with tail := (queue.tail + 1) % queue.capacity, count := queue.count + 1 }

end FrameQueue

structure PushResult where
  ret : Int
  queue : FrameQueue
  freed : List Nat
deriving DecidableEq, Repr

def frameQueuePush (queue : FrameQueue) (frame : Frame) (malloc : Option Nat) : PushResult :=
  if frame.data = none ∨ frame.size = 0 then ⟨-1, queue, []⟩
  else if queue.closed then ⟨-1, queue, []⟩
  else
    let full := queue.count = queue.capacity
    let freed := if full then (frameRelease (queue.item queue.head)).1 else []
    let room := if full then queue.evictHead else queue
    let copy := frameCopy frame malloc
    -- a failing copy has cleared the tail slot, and the eviction is not undone
    if copy.1 ≠ 0 then ⟨-1, room.writeTail copy.2, freed⟩
    else ⟨0, (room.writeTail copy.2).advanceTail, freed⟩

structure PopResult where
  ret : Int
  out : Frame
  queue : FrameQueue
deriving DecidableEq, Repr

/-- One evaluation of `frame_queue_pop` under the mutex; `none` means that the
loop condition holds and the caller goes to `pthread_cond_wait`. -/
def frameQueuePop (queue : FrameQueue) : Option PopResult :=
  if queue.count = 0 ∧ queue.closed = false then none
  else if queue.count = 0 ∧ queue.closed then some ⟨0, Frame.zero, queue⟩
  else some
    ⟨1, queue.item queue.head,
      { queue with
        items := queue.items.set queue.head Frame.zero
        head := (queue.head + 1) % queue.capacity
        count := queue.count - 1 }⟩

def frameQueueClose (queue : FrameQueue) : FrameQueue := { queue with closed := true }

/-- The loop of `frame_queue_destroy` over `n` slots from `i` on: the addresses passed to
`free`, and the queue it leaves. -/
def FrameQueue.releaseSlots (queue : FrameQueue) (i : Nat) : Nat → List Nat × FrameQueue
  | 0 => ([], queue)
  | n + 1 =>
      let slot := frameRelease (queue.item i)
      let rest := { queue with items := queue.items.set i slot.2 }.releaseSlots (i + 1) n
      (slot.1 ++ rest.1, rest.2)

def FrameQueue.zero : FrameQueue :=
  { items := [], capacity := 0, head := 0, tail := 0, count := 0, droppedFrames := 0
    closed := false }

/-- `frame_queue_destroy`; the empty list of slots is the NULL pointer `items`. -/
def frameQueueDestroy (queue : FrameQueue) : List Nat × FrameQueue :=
  if queue.items = [] then ([], queue)
  else ((queue.releaseSlots 0 queue.capacity).1, FrameQueue.zero)

def frameQueueSize (queue : FrameQueue) : Nat := queue.count

def frameQueueDropped (queue : FrameQueue) : Nat := queue.droppedFrames

section Fields
variable (queue : FrameQueue)

@[simp] theorem evictHead_items :
    queue.evictHead.items = queue.items.set queue.head Frame.zero := rfl

@[simp] theorem evictHead_capacity : queue.evictHead.capacity = queue.capacity := rfl

@[simp] theorem evictHead_head : queue.evictHead.head = (queue.head + 1) % queue.capacity := rfl

@[simp] theorem evictHead_tail : queue.evictHead.tail = queue.tail := rfl

@[simp] theorem evictHead_count : queue.evictHead.count = queue.count - 1 := rfl

@[simp] theorem evictHead_closed : queue.evictHead.closed = queue.closed := rfl

end Fields

theorem frameQueuePush_open {queue : FrameQueue} {frame : Frame} (address : Nat)
    (hdata : frame.data ≠ none) (hsize : frame.size ≠ 0) (hopen : queue.closed = false) :
    frameQueuePush queue frame (some address) =
      ⟨0, ((if queue.count = queue.capacity then queue.evictHead else queue).writeTail
          (copyInto frame (some address)).2).advanceTail,
        if queue.count = queue.capacity then (frameRelease (queue.item queue.head)).1 else []⟩ := by
  have hcopy : frameCopy frame (some address) = copyInto frame (some address) := by
    simp [frameCopy, hsize]
  have hok : (copyInto frame (some address)).1 = 0 := rfl
  simp only [frameQueuePush, hdata, hsize, hopen, hcopy, hok, or_self, if_false, ne_eq,
    not_true_eq_false, Bool.false_eq_true]

theorem frameQueuePush_rejected {queue : FrameQueue} {frame : Frame} (malloc : Option Nat)
    (h : frame.data = none ∨ frame.size = 0 ∨ queue.closed) :
    frameQueuePush queue frame malloc = ⟨-1, queue, []⟩ := by
  unfold frameQueuePush
  split
  · rfl
  · rename_i hframe
    have hclosed : queue.closed = true := by
      simp only [not_or] at hframe
      simpa [hframe.1, hframe.2] using h
    rw [if_pos hclosed]

end CameraGateway
