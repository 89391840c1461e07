import CameraGateway.Metatheory.FrameOwnership

/-!
What a push that returns -1 leaves of the queue. `frame_queue_push` makes room before it
copies, so a copy that fails in a full queue has already cost the oldest frame. In every
other state a failed push leaves the whole queue as it was.
-/
namespace CameraGateway

inductive QueueOperation where
  /-- The frame to copy, and what `malloc` returns if it is called. -/
  | push (frame : Frame) (malloc : Option Nat)
  | pop
  | close

def FrameQueue.perform (queue : FrameQueue) : QueueOperation → Option FrameQueue
  | .push frame malloc => some (frameQueuePush queue frame malloc).queue
  | .pop => (frameQueuePop queue).map PopResult.queue
  | .close => some (frameQueueClose queue)

def queueUse (start : FrameQueue) : TransitionSystem.System FrameQueue QueueOperation where
  init := start
  step := FrameQueue.perform

section Reachable
variable {capacity : Nat} {queue next : FrameQueue}

theorem perform_represents {operation : QueueOperation}
    (h : ∃ frames, Represents queue capacity frames) (hs : queue.perform operation = some next) :
    ∃ frames, Represents next capacity frames := by
  obtain ⟨frames, hrep⟩ := h
  cases operation with
  | push frame malloc =>
      obtain ⟨-, next', hnext, -, -⟩ := push_blocks hrep frame malloc
      exact ⟨next', Option.some.inj hs ▸ hnext⟩
  | pop =>
      simp only [FrameQueue.perform, Option.map_eq_some_iff] at hs
      obtain ⟨result, hpop, rfl⟩ := hs
      obtain ⟨next', hnext, -⟩ := pop_blocks hrep hpop
      exact ⟨next', hnext⟩
  | close =>
      obtain ⟨hcapacity, hring, hcount, htail⟩ := hrep
      exact ⟨frames, Option.some.inj hs ▸ ⟨hcapacity, hring, hcount, htail⟩⟩

theorem reachable_represents {start : FrameQueue}
    (hstart : frameQueueInit capacity true true true = some start)
    (h : TransitionSystem.Reachable (queueUse start) queue) :
    ∃ frames, Represents queue capacity frames := by
  apply TransitionSystem.Reachable.invariant
    (I := fun queue => ∃ frames, Represents queue capacity frames) _ _ h
  · exact ⟨[], (Represents.initial hstart).1⟩
  · intro queue next operation _ hrep hs
    exact perform_represents hrep hs

end Reachable

/-- The queue holds the same frames in the same order, and counts the same. -/
structure FrameQueue.SameContents (before after : FrameQueue) : Prop where
  live : after.live = before.live
  count : after.count = before.count
  dropped : after.droppedFrames = before.droppedFrames

theorem FrameQueue.SameContents.refl (queue : FrameQueue) : queue.SameContents queue :=
  ⟨rfl, rfl, rfl⟩

/-- The copy that fails comes after an eviction: a frame with data for a full and open
queue, and no memory for it. -/
structure EvictsForNothing (queue : FrameQueue) (frame : Frame) (malloc : Option Nat) : Prop where
  data : frame.data ≠ none
  size : frame.size ≠ 0
  isOpen : queue.closed = false
  full : queue.count = queue.capacity
  memory : malloc = none

section Push
variable {capacity : Nat} {queue : FrameQueue} {frames : List Frame} {frame : Frame}
  {malloc : Option Nat}

/-- Outside that case a failed push writes at most the zero frame into a blank slot. -/
theorem failedPush_queue (h : Represents queue capacity frames)
    (hret : (frameQueuePush queue frame malloc).ret = -1)
    (hroom : ¬ EvictsForNothing queue frame malloc) :
    (frameQueuePush queue frame malloc).queue = queue := by
  by_cases hreject : frame.data = none ∨ frame.size = 0 ∨ queue.closed
  · rw [frameQueuePush_rejected malloc hreject]
  · simp only [not_or, Bool.not_eq_true] at hreject
    obtain ⟨hdata, hsize, hopen⟩ := hreject
    rw [frameQueuePush_accepted malloc hdata hsize hopen] at hret ⊢
    cases malloc with
    | some block => cases hret
    | none =>
        have hspace : queue.count ≠ queue.capacity := by
          intro hfull
          exact hroom ⟨hdata, hsize, hopen, hfull, rfl⟩
        have hlength : frames.length < capacity := by
          have hfits := h.ring.fits
          rw [h.count_eq, h.capacity_eq] at hspace
          omega
        rw [if_pos rfl, FrameQueue.makeRoom, if_neg hspace]
        exact h.writeTail_zero hlength

/-- In that case the push fails, and the queue has one frame less. -/
theorem evictsForNothing_push (h : EvictsForNothing queue frame malloc) :
    (frameQueuePush queue frame malloc).ret = -1 ∧
      (frameQueuePush queue frame malloc).queue.count = queue.count - 1 := by
  rw [frameQueuePush_accepted malloc h.data h.size h.isOpen, h.memory]
  refine ⟨rfl, ?_⟩
  rw [if_pos rfl, FrameQueue.makeRoom, if_pos h.full]
  rfl

end Push

/-- A push that returns -1 leaves the contents and the counters of a reachable queue as
they were if and only if it did not evict a frame for a copy that then failed. -/
theorem failed_push_keeps_queue_iff {capacity : Nat} {start queue : FrameQueue}
    (hstart : frameQueueInit capacity true true true = some start)
    (h : TransitionSystem.Reachable (queueUse start) queue) (frame : Frame)
    (malloc : Option Nat) :
    ((frameQueuePush queue frame malloc).ret = -1 →
      queue.SameContents (frameQueuePush queue frame malloc).queue) ↔
      ¬ EvictsForNothing queue frame malloc := by
  obtain ⟨frames, hrep⟩ := reachable_represents hstart h
  constructor
  · intro hkept hevicts
    obtain ⟨hret, hcount⟩ := evictsForNothing_push hevicts
    have hsame := (hkept hret).count
    have hpositive : 0 < queue.count := by
      rw [hevicts.full, hrep.capacity_eq]
      exact Nat.zero_lt_of_lt hrep.head_lt
    omega
  · intro hroom hret
    rw [failedPush_queue hrep hret hroom]
    exact FrameQueue.SameContents.refl queue

def oneSlot : FrameQueue :=
  { items := [(copyInto (makeFrame 1 [49]) (some 1)).2], capacity := 1, head := 0, tail := 0
    count := 1, droppedFrames := 0, closed := false }

def emptySlot : FrameQueue :=
  { items := [Frame.zero], capacity := 1, head := 0, tail := 0, count := 0, droppedFrames := 0
    closed := false }

theorem oneSlot_reachable : TransitionSystem.Reachable (queueUse emptySlot) oneSlot :=
  (TransitionSystem.Reachable.init _).step (.push (makeFrame 1 [49]) (some 1)) (by decide)

theorem failed_push_keeps_queue_iff_emptySlot :
    frameQueueInit 1 true true true = some emptySlot ∧
      ((frameQueuePush emptySlot (makeFrame 2 [50]) none).ret = -1 →
        emptySlot.SameContents (frameQueuePush emptySlot (makeFrame 2 [50]) none).queue) := by
  have hstart : frameQueueInit 1 true true true = some emptySlot := rfl
  have hroom : ¬ EvictsForNothing emptySlot (makeFrame 2 [50]) none := by
    intro hevicts
    exact absurd hevicts.full (by decide)
  exact ⟨hstart, (failed_push_keeps_queue_iff hstart (TransitionSystem.Reachable.init _) _ _).mpr
    hroom⟩

/-- The queue of one slot is full, the copy of the next frame fails, and the frame 1 is
gone. -/
theorem failed_push_drops_oldest :
    ¬ ∀ (capacity : Nat) (start queue : FrameQueue) (frame : Frame) (malloc : Option Nat),
      frameQueueInit capacity true true true = some start →
      TransitionSystem.Reachable (queueUse start) queue →
      (frameQueuePush queue frame malloc).ret = -1 →
      queue.SameContents (frameQueuePush queue frame malloc).queue := by
  intro claim
  have hkept := claim 1 emptySlot oneSlot (makeFrame 2 [50]) none rfl oneSlot_reachable rfl
  exact absurd hkept.count (by decide)

end CameraGateway
