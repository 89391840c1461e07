import CameraGateway.Core.FrameQueue
import CameraGateway.Library.RingBuffer
import CameraGateway.Library.Simulation

/-!
The ring of src/frame_queue.c refines a bounded first-in first-out list that
drops its oldest element when it is full. Allocations succeed here and a pop is
taken only when it does not block. The abstract queue keeps its own history, so
that conservation and order of delivery are fields of every abstract state.

`dropped_frames` is an `unsigned long`: it counts the drops modulo its range.
The exact identity between accepted, delivered, dropped and queued frames is
therefore about the abstract count.
-/
namespace CameraGateway

/-- Bounded drop-oldest queue with the frames it has accepted and delivered. -/
structure Fifo (capacity : Nat) where
  contents : List FrameValue
  closed : Bool
  accepted : List FrameValue
  delivered : List FrameValue
  dropped : Nat
  positive : 0 < capacity
  bounded : contents.length ≤ capacity
  conserved : accepted.length = delivered.length + dropped + contents.length
  ordered : (delivered ++ contents).Sublist accepted

namespace Fifo
variable {capacity : Nat}

def empty (h : 0 < capacity) : Fifo capacity where
  contents := []
  closed := false
  accepted := []
  delivered := []
  dropped := 0
  positive := h
  bounded := Nat.zero_le _
  conserved := rfl
  ordered := List.Sublist.refl _

def Full (fifo : Fifo capacity) : Prop := fifo.contents.length = capacity

instance (fifo : Fifo capacity) : Decidable fifo.Full :=
  inferInstanceAs (Decidable (_ = _))

def push (fifo : Fifo capacity) (x : FrameValue) : Fifo capacity where
  contents := (if fifo.Full then fifo.contents.tail else fifo.contents) ++ [x]
  closed := fifo.closed
  accepted := fifo.accepted ++ [x]
  delivered := fifo.delivered
  dropped := fifo.dropped + if fifo.Full then 1 else 0
  positive := fifo.positive
  bounded := by
    have hpos := fifo.positive
    have hb := fifo.bounded
    by_cases h : fifo.Full
    · simp only [h, if_true, List.length_append, List.length_tail, List.length_singleton]
      omega
    · have hne : fifo.contents.length ≠ capacity := h
      simp only [h, if_false, List.length_append, List.length_singleton]
      omega
  conserved := by
    have hpos := fifo.positive
    have hc := fifo.conserved
    by_cases h : fifo.Full
    · have heq : fifo.contents.length = capacity := h
      simp only [h, if_true, List.length_append, List.length_tail, List.length_singleton]
      omega
    · simp only [h, if_false, List.length_append, List.length_singleton]
      omega
  ordered := by
    rw [← List.append_assoc]
    refine List.Sublist.append (List.Sublist.trans ?_ fifo.ordered) (List.Sublist.refl _)
    split
    · exact List.Sublist.append (List.Sublist.refl _) (List.tail_sublist _)
    · exact List.Sublist.refl _

def close (fifo : Fifo capacity) : Fifo capacity := { fifo with closed := true }

def deliver (fifo : Fifo capacity) (x : FrameValue) (rest : List FrameValue)
    (h : fifo.contents = x :: rest) : Fifo capacity where
  contents := rest
  closed := fifo.closed
  accepted := fifo.accepted
  delivered := fifo.delivered ++ [x]
  dropped := fifo.dropped
  positive := fifo.positive
  bounded := by
    have hb := fifo.bounded
    simp only [h, List.length_cons] at hb
    omega
  conserved := by
    have hc := fifo.conserved
    simp only [h, List.length_cons] at hc
    simp
    omega
  ordered := by
    have ho := fifo.ordered
    rw [h] at ho
    simpa using ho

end Fifo

inductive QueueCall where
  | push (frame : Frame) (address : Nat)
  | pop
  | close

inductive QueueReply where
  | pushed (ret : Int)
  | popped (ret : Int) (out : FrameValue)
  | closed
deriving DecidableEq

/-- One call on the code's queue; a pop that would block is not taken. -/
def FrameQueue.call (queue : FrameQueue) : QueueCall → Option (FrameQueue × QueueReply)
  | .push frame address =>
      let result := frameQueuePush queue frame (some address)
      some (result.queue, .pushed result.ret)
  | .pop => (frameQueuePop queue).map fun result =>
      (result.queue, .popped result.ret result.out.value)
  | .close => some (frameQueueClose queue, .closed)

def Fifo.pop {capacity : Nat} (fifo : Fifo capacity) : Option (Fifo capacity × QueueReply) :=
  match h : fifo.contents with
  | x :: rest => some (fifo.deliver x rest h, .popped 1 x)
  | [] => if fifo.closed then some (fifo, .popped 0 Frame.zero.value) else none

theorem Fifo.pop_cons {capacity : Nat} {fifo : Fifo capacity} {x : FrameValue}
    {rest : List FrameValue} (h : fifo.contents = x :: rest) :
    fifo.pop = some (fifo.deliver x rest h, .popped 1 x) := by
  unfold Fifo.pop
  split
  · rename_i y ys hcons
    obtain ⟨rfl, rfl⟩ := List.cons.inj (hcons.symm.trans h)
    rfl
  · rename_i hnil
    simp [h] at hnil

theorem Fifo.pop_nil {capacity : Nat} {fifo : Fifo capacity} (h : fifo.contents = []) :
    fifo.pop = if fifo.closed then some (fifo, .popped 0 Frame.zero.value) else none := by
  unfold Fifo.pop
  split
  · rename_i hcons
    simp [h] at hcons
  · rfl

def Fifo.call {capacity : Nat} (fifo : Fifo capacity) :
    QueueCall → Option (Fifo capacity × QueueReply)
  | .push frame _ =>
      if frame.data = none ∨ frame.size = 0 ∨ fifo.closed then some (fifo, .pushed (-1))
      else some (fifo.push frame.value, .pushed 0)
  | .pop => fifo.pop
  | .close => some (fifo.close, .closed)

/-- The queue stores the frames of its window in ring order, blank elsewhere. -/
structure Represents (queue : FrameQueue) (capacity : Nat) (frames : List Frame) : Prop where
  capacity_eq : queue.capacity = capacity
  ring : RingBuffer.Holds Frame.zero queue.items capacity queue.head frames
  count_eq : queue.count = frames.length
  tail_eq : queue.tail = RingBuffer.cell capacity queue.head queue.count

namespace Represents
variable {queue : FrameQueue} {capacity : Nat} {frames : List Frame}

theorem initial {start : FrameQueue} (h : frameQueueInit capacity true true true = some start) :
    Represents start capacity [] ∧ start.droppedFrames = 0 ∧ start.closed = false ∧
      0 < capacity := by
  unfold frameQueueInit at h
  split at h
  · simp at h
  · rename_i hne
    have hpos : 0 < capacity := Nat.pos_of_ne_zero hne
    simp only [Bool.not_true, Bool.false_eq_true, if_false, Option.some.injEq] at h
    subst h
    exact ⟨⟨rfl, RingBuffer.holds_replicate Frame.zero hpos, rfl, by simp [RingBuffer.cell]⟩,
      rfl, rfl, hpos⟩

theorem head_lt (h : Represents queue capacity frames) : queue.head < capacity :=
  h.ring.head_lt

theorem item_head {x : Frame} (h : Represents queue capacity (x :: frames)) :
    queue.item queue.head = x := by
  have hx := h.ring.lookup_live (i := 0) (by simp)
  rw [RingBuffer.cell_zero h.head_lt] at hx
  simp [FrameQueue.item, List.getD_eq_getElem?_getD, hx]

theorem removeHead {x : Frame} (h : Represents queue capacity (x :: frames)) (dropped : Nat) :
    Represents { queue with
      items := queue.items.set queue.head Frame.zero
      head := (queue.head + 1) % queue.capacity
      count := queue.count - 1
      droppedFrames := dropped } capacity frames := by
  obtain ⟨hcap, hring, hcount, htail⟩ := h
  refine ⟨hcap, ?_, by simp [hcount], ?_⟩
  · simpa only [hcap] using hring.dropHead
  · simp only [hcap, hcount, List.length_cons, Nat.add_sub_cancel] at htail ⊢
    rw [htail, RingBuffer.cell_succ]

theorem evictHead {x : Frame} (h : Represents queue capacity (x :: frames)) :
    Represents queue.evictHead capacity frames :=
  h.removeHead _

theorem storeTail (h : Represents queue capacity frames) (room : frames.length < capacity)
    (dst : Frame) :
    Represents (queue.writeTail dst).advanceTail capacity (frames ++ [dst]) := by
  obtain ⟨hcap, hring, hcount, htail⟩ := h
  refine ⟨hcap, ?_, by simp [FrameQueue.writeTail, FrameQueue.advanceTail, hcount], ?_⟩
  · have := hring.append dst room
    simpa only [FrameQueue.writeTail, FrameQueue.advanceTail, htail, hcount] using this
  · simp only [FrameQueue.writeTail, FrameQueue.advanceTail, hcap, htail]
    exact RingBuffer.cell_succ_mod _ _ _

end Represents

/-- What the queue's fields say of the abstract queue. -/
structure Refines {capacity : Nat} (queue : FrameQueue) (fifo : Fifo capacity) : Prop where
  stored : ∃ frames, Represents queue capacity frames ∧ frames.map Frame.value = fifo.contents
  closed_eq : queue.closed = fifo.closed
  dropped_eq : queue.droppedFrames = fifo.dropped % ulongModulus

private theorem refines_push {capacity : Nat} {queue : FrameQueue} {fifo : Fifo capacity}
    (h : Refines queue fifo) {frame : Frame} {address : Nat} (hdata : frame.data ≠ none)
    (hsize : frame.size ≠ 0) (hopen : queue.closed = false) :
    Refines (frameQueuePush queue frame (some address)).queue (fifo.push frame.value) := by
  obtain ⟨⟨frames, hrep, hvalue⟩, hclosed, hdropped⟩ := h
  have hlength : frames.length = fifo.contents.length := by rw [← hvalue, List.length_map]
  have hcopy : (copyInto frame (some address)).2.value = frame.value := copyInto_value _ _
  rw [frameQueuePush_open address hdata hsize hopen]
  by_cases hfull : queue.count = queue.capacity
  · have hFull : fifo.Full := by rw [Fifo.Full, ← hlength, ← hrep.count_eq, hfull, hrep.capacity_eq]
    cases frames with
    | nil =>
        have hpos := fifo.positive
        simp only [hrep.count_eq, hrep.capacity_eq, List.length_nil] at hfull
        omega
    | cons x rest =>
        have hroom : rest.length < capacity := by
          have := hrep.ring.fits
          simp only [List.length_cons] at this
          omega
        simp only [hfull, if_true]
        refine ⟨⟨_, hrep.evictHead.storeTail hroom _, ?_⟩, hclosed, ?_⟩
        · simp [Fifo.push, hFull, ← hvalue, hcopy]
        · simp [FrameQueue.writeTail, FrameQueue.advanceTail, FrameQueue.evictHead, Fifo.push,
            hFull, hdropped]
  · have hFull : ¬ fifo.Full := by
      rw [Fifo.Full, ← hlength, ← hrep.count_eq]
      rwa [hrep.capacity_eq] at hfull
    have hroom : frames.length < capacity := by
      have := hrep.ring.fits
      rw [hrep.count_eq, hrep.capacity_eq] at hfull
      omega
    simp only [hfull, if_false]
    refine ⟨⟨_, hrep.storeTail hroom _, ?_⟩, hclosed, ?_⟩
    · simp [Fifo.push, hFull, hvalue, hcopy]
    · simp [FrameQueue.writeTail, FrameQueue.advanceTail, Fifo.push, hFull, hdropped]

private theorem refines_pop {capacity : Nat} {queue queue' : FrameQueue} {fifo : Fifo capacity}
    (h : Refines queue fifo) {reply : QueueReply} (hcall : queue.call .pop = some (queue', reply)) :
    ∃ fifo', fifo.call .pop = some (fifo', reply) ∧ Refines queue' fifo' := by
  obtain ⟨⟨frames, hrep, hvalue⟩, hclosed, hdropped⟩ := h
  simp only [FrameQueue.call, Option.map_eq_some_iff, Prod.mk.injEq] at hcall
  obtain ⟨result, hpop, rfl, rfl⟩ := hcall
  cases frames with
  | nil =>
      have hcount : queue.count = 0 := by simp [hrep.count_eq]
      have hcontents : fifo.contents = [] := by simp [← hvalue]
      cases hq : queue.closed with
      | false => simp [frameQueuePop, hcount, hq] at hpop
      | true =>
          simp only [frameQueuePop, hcount, hq, Bool.true_eq_false, and_false, if_false,
            and_self, if_true, Option.some.injEq] at hpop
          subst hpop
          refine ⟨fifo, ?_, ⟨⟨[], hrep, hvalue⟩, hclosed, hdropped⟩⟩
          have hfifo : fifo.closed = true := by rw [← hclosed, hq]
          simp only [Fifo.call, Fifo.pop_nil hcontents, hfifo, if_true]
  | cons x rest =>
      have hcount : queue.count ≠ 0 := by simp [hrep.count_eq]
      have hcontents : fifo.contents = x.value :: rest.map Frame.value := by simp [← hvalue]
      simp only [frameQueuePop, hcount, false_and, if_false, Option.some.injEq] at hpop
      subst hpop
      refine ⟨fifo.deliver _ _ hcontents, ?_, ⟨⟨rest, hrep.removeHead _, rfl⟩, hclosed, hdropped⟩⟩
      simp only [Fifo.call, Fifo.pop_cons hcontents, hrep.item_head]

/-- Every call of the code's queue is a call of the abstract queue. -/
theorem frameQueue_simulates {capacity : Nat} :
    Simulation.Simulates (@Refines capacity) FrameQueue.call Fifo.call := by
  intro queue fifo queue' call reply hrefines hcall
  cases call with
  | push frame address =>
      by_cases hreject : frame.data = none ∨ frame.size = 0 ∨ queue.closed
      · simp only [FrameQueue.call, frameQueuePush_rejected _ hreject, Option.some.injEq,
          Prod.mk.injEq] at hcall
        obtain ⟨rfl, rfl⟩ := hcall
        refine ⟨fifo, ?_, hrefines⟩
        rw [hrefines.closed_eq] at hreject
        simp only [Fifo.call, hreject, if_true]
      · have hreject' := hreject
        rw [hrefines.closed_eq] at hreject'
        simp only [not_or, Bool.not_eq_true] at hreject
        obtain ⟨hdata, hsize, hopen⟩ := hreject
        simp only [FrameQueue.call, Option.some.injEq, Prod.mk.injEq] at hcall
        obtain ⟨rfl, rfl⟩ := hcall
        refine ⟨fifo.push frame.value, ?_, refines_push hrefines hdata hsize hopen⟩
        rw [frameQueuePush_open address hdata hsize hopen]
        simp only [Fifo.call, hreject', if_false]
  | pop => exact refines_pop hrefines hcall
  | close =>
      simp only [FrameQueue.call, Option.some.injEq, Prod.mk.injEq] at hcall
      obtain ⟨rfl, rfl⟩ := hcall
      obtain ⟨hstored, -, hdropped⟩ := hrefines
      obtain ⟨frames, ⟨hcap, hring, hcount, htail⟩, hvalue⟩ := hstored
      exact ⟨fifo.close, rfl, ⟨⟨frames, ⟨hcap, hring, hcount, htail⟩, hvalue⟩, rfl, hdropped⟩⟩

/-- The code's queue blocks only where the abstract one does. -/
theorem frameQueue_defined {capacity : Nat} {queue : FrameQueue} {fifo : Fifo capacity}
    (call : QueueCall) (h : Refines queue fifo) (hnone : queue.call call = none) :
    fifo.call call = none := by
  cases call with
  | push _ _ | close => cases hnone
  | pop =>
      obtain ⟨⟨frames, hrep, hvalue⟩, hclosed, -⟩ := h
      have hwait : queue.count = 0 ∧ queue.closed = false := by
        simp only [FrameQueue.call, Option.map_eq_none_iff, frameQueuePop] at hnone
        by_contra hready
        rw [if_neg hready] at hnone
        split at hnone <;> cases hnone
      have hcontents : fifo.contents = [] := by
        rw [← hvalue, List.map_eq_nil_iff, ← List.length_eq_zero_iff, ← hrep.count_eq, hwait.1]
      rw [Fifo.call, Fifo.pop_nil hcontents, ← hclosed, hwait.2, if_neg Bool.false_ne_true]

theorem refines_initial {capacity : Nat} {start : FrameQueue}
    (h : frameQueueInit capacity true true true = some start) (hpos : 0 < capacity) :
    Refines start (Fifo.empty hpos) := by
  obtain ⟨hrep, hdropped, hclosed, -⟩ := Represents.initial h
  exact ⟨⟨[], hrep, rfl⟩, hclosed, by simp [hdropped, Fifo.empty]⟩

/-- The indices and the slots of a queue, in terms of the abstract contents. -/
structure Layout (queue : FrameQueue) (capacity : Nat) (contents : List FrameValue) : Prop where
  head_lt : queue.head < capacity
  tail_lt : queue.tail < capacity
  count_eq : queue.count = contents.length
  count_le : queue.count ≤ capacity
  tail_eq : queue.tail = (queue.head + queue.count) % capacity
  live : ∀ i, (hi : i < contents.length) →
    (queue.item ((queue.head + i) % capacity)).value = contents[i]
  blank : ∀ j, j < capacity → (∀ i, i < contents.length → j ≠ (queue.head + i) % capacity) →
    queue.item j = Frame.zero

theorem Refines.layout {capacity : Nat} {queue : FrameQueue} {fifo : Fifo capacity}
    (h : Refines queue fifo) : Layout queue capacity fifo.contents := by
  obtain ⟨⟨frames, hrep, hvalue⟩, -, -⟩ := h
  have hlength : frames.length = fifo.contents.length := by rw [← hvalue, List.length_map]
  refine ⟨hrep.head_lt, ?_, by rw [hrep.count_eq, hlength], ?_, hrep.tail_eq, ?_, ?_⟩
  · rw [hrep.tail_eq]
    exact RingBuffer.cell_lt hrep.head_lt _
  · rw [hrep.count_eq]
    exact hrep.ring.fits
  · intro i hi
    have hi' : i < frames.length := by rwa [hlength]
    have hcell := hrep.ring.lookup_live hi'
    simp only [RingBuffer.cell] at hcell
    simp [FrameQueue.item, List.getD_eq_getElem?_getD, hcell, ← hvalue]
  · intro j hj houtside
    have hcell := hrep.ring.blank_outside hj
      (by simpa only [hlength, RingBuffer.cell] using houtside)
    simp [FrameQueue.item, List.getD_eq_getElem?_getD, hcell]

def acceptedPushes (replies : List QueueReply) : Nat := replies.count (.pushed 0)

def QueueReply.Delivers : QueueReply → Bool
  | .popped ret _ => ret == 1
  | _ => false

def deliveredPops (replies : List QueueReply) : Nat := replies.countP QueueReply.Delivers

theorem Fifo.call_counts {capacity : Nat} {fifo fifo' : Fifo capacity} {call : QueueCall}
    {reply : QueueReply} (h : fifo.call call = some (fifo', reply)) :
    fifo'.accepted.length = fifo.accepted.length + acceptedPushes [reply] ∧
      fifo'.delivered.length = fifo.delivered.length + deliveredPops [reply] := by
  cases call with
  | push frame address =>
      simp only [Fifo.call] at h
      split at h
      · obtain ⟨rfl, rfl⟩ := Prod.mk.inj (Option.some.inj h)
        exact ⟨rfl, rfl⟩
      · obtain ⟨rfl, rfl⟩ := Prod.mk.inj (Option.some.inj h)
        exact ⟨by simp [Fifo.push, acceptedPushes], rfl⟩
  | pop =>
      simp only [Fifo.call] at h
      cases hc : fifo.contents with
      | nil =>
          rw [Fifo.pop_nil hc] at h
          split at h
          · obtain ⟨rfl, rfl⟩ := Prod.mk.inj (Option.some.inj h)
            exact ⟨rfl, rfl⟩
          · simp at h
      | cons x rest =>
          rw [Fifo.pop_cons hc] at h
          obtain ⟨rfl, rfl⟩ := Prod.mk.inj (Option.some.inj h)
          exact ⟨rfl, by simp [Fifo.deliver, deliveredPops, QueueReply.Delivers]⟩
  | close =>
      obtain ⟨rfl, rfl⟩ := Prod.mk.inj (Option.some.inj h)
      exact ⟨rfl, rfl⟩

/-- The history of the abstract queue is what the replies told the callers. -/
theorem Fifo.run_counts {capacity : Nat} {fifo fifo' : Fifo capacity} {calls : List QueueCall}
    {replies : List QueueReply} (h : Simulation.run Fifo.call fifo calls = some (fifo', replies)) :
    fifo'.accepted.length = fifo.accepted.length + acceptedPushes replies ∧
      fifo'.delivered.length = fifo.delivered.length + deliveredPops replies := by
  induction calls generalizing fifo replies with
  | nil =>
      obtain ⟨rfl, rfl⟩ := Prod.mk.inj (Option.some.inj h)
      exact ⟨rfl, rfl⟩
  | cons call calls ih =>
      obtain ⟨middle, reply, rest, hcall, hrest, rfl⟩ := Simulation.run_cons.mp h
      obtain ⟨ha, hd⟩ := Fifo.call_counts hcall
      obtain ⟨ha', hd'⟩ := ih hrest
      have hsplit : acceptedPushes (reply :: rest) =
          acceptedPushes [reply] + acceptedPushes rest := by
        simp only [acceptedPushes, ← List.count_append, List.singleton_append]
      have hsplit' : deliveredPops (reply :: rest) =
          deliveredPops [reply] + deliveredPops rest := by
        simp only [deliveredPops, ← List.countP_append, List.singleton_append]
      omega

/-- The runs of the ring from its initial state are the runs of the abstract queue, with
the same replies: the ring takes every call that the abstract queue takes, and no other.
The drop counter agrees modulo its range. -/
theorem frameQueue_refines_fifo {capacity : Nat} (hpos : 0 < capacity) {start : FrameQueue}
    (hstart : frameQueueInit capacity true true true = some start) (calls : List QueueCall) :
    (∀ (fifo : Fifo capacity) replies,
      Simulation.run Fifo.call (Fifo.empty hpos) calls = some (fifo, replies) →
      ∃ queue, Simulation.run FrameQueue.call start calls = some (queue, replies)) ∧
    ∀ queue replies, Simulation.run FrameQueue.call start calls = some (queue, replies) →
      ∃ fifo : Fifo capacity,
        Simulation.run Fifo.call (Fifo.empty hpos) calls = some (fifo, replies) ∧
        Layout queue capacity fifo.contents ∧
        queue.closed = fifo.closed ∧
        queue.droppedFrames = fifo.dropped % ulongModulus ∧
        acceptedPushes replies = deliveredPops replies + fifo.dropped + queue.count ∧
        (fifo.delivered ++ fifo.contents).Sublist fifo.accepted := by
  constructor
  · intro fifo replies h
    obtain ⟨queue, hrun, -⟩ := Simulation.run_simulates
      (R := fun (fifo : Fifo capacity) queue => Refines queue fifo)
      (frameQueue_simulates.converse frameQueue_defined) (refines_initial hstart hpos) h
    exact ⟨queue, hrun⟩
  · intro queue replies h
    obtain ⟨fifo, hrun, hrefines⟩ :=
      Simulation.run_simulates frameQueue_simulates (refines_initial hstart hpos) h
    have hlayout := hrefines.layout
    have hcounts := Fifo.run_counts hrun
    have hconserved := fifo.conserved
    refine ⟨fifo, hrun, hlayout, hrefines.closed_eq, hrefines.dropped_eq, ?_, fifo.ordered⟩
    rw [hlayout.count_eq]
    simp only [Fifo.empty, List.length_nil, Nat.zero_add] at hcounts
    omega

def makeFrame (sequence : UInt32) (text : List UInt8) : Frame :=
  { data := some ⟨0, text ++ [0]⟩, size := text.length + 1, width := 640, height := 480
    pixelFormat := 0x47504a4d, sequence := sequence
    timestampUs := 1000 * sequence.toUInt64 }

/-- The pushes of that test, and a drain that goes on after the queue has been closed. -/
def drainCalls : List QueueCall :=
  [.push (makeFrame 1 [49]) 1, .push (makeFrame 2 [50]) 2, .push (makeFrame 3 [51]) 3,
    .push (makeFrame 4 [52]) 4, .pop, .close, .pop, .pop, .pop, .push (makeFrame 5 [53]) 5]

def drainReplies : List QueueReply :=
  [.pushed 0, .pushed 0, .pushed 0, .pushed 0, .popped 1 (makeFrame 2 [50]).value, .closed,
    .popped 1 (makeFrame 3 [51]).value, .popped 1 (makeFrame 4 [52]).value,
    .popped 0 Frame.zero.value, .pushed (-1)]

theorem frameQueue_refines_fifo_drain :
    ∃ start queue, frameQueueInit 3 true true true = some start ∧
      Simulation.run FrameQueue.call start drainCalls = some (queue, drainReplies) ∧
      ∃ fifo : Fifo 3,
        Simulation.run Fifo.call (Fifo.empty (by decide)) drainCalls = some (fifo, drainReplies) ∧
        Layout queue 3 fifo.contents ∧
        queue.closed = fifo.closed ∧
        queue.droppedFrames = fifo.dropped % ulongModulus ∧
        acceptedPushes drainReplies = deliveredPops drainReplies + fifo.dropped + queue.count ∧
        (fifo.delivered ++ fifo.contents).Sublist fifo.accepted := by
  obtain ⟨hdefined, hrefines⟩ :=
    frameQueue_refines_fifo (by decide : 0 < 3) rfl drainCalls
  obtain ⟨queue, hrun⟩ := hdefined _ drainReplies rfl
  exact ⟨_, queue, rfl, hrun, hrefines queue drainReplies hrun⟩

/-- A queue of one slot that holds a copy of `frame`. -/
private def fullSlot (frame : Frame) (dropped : Nat) : FrameQueue :=
  { items := [(copyInto frame (some 0)).2], capacity := 1, head := 0, tail := 0, count := 1
    droppedFrames := dropped, closed := false }

private theorem fullSlot_push {frame : Frame} (hdata : frame.data ≠ none)
    (hsize : frame.size ≠ 0) (dropped : Nat) :
    (fullSlot frame dropped).call (.push frame 0) =
      some (fullSlot frame ((dropped + 1) % ulongModulus), .pushed 0) := by
  have hopen : (fullSlot frame dropped).closed = false := rfl
  have hfull : (fullSlot frame dropped).count = (fullSlot frame dropped).capacity := rfl
  simp only [FrameQueue.call, frameQueuePush_open 0 hdata hsize hopen, hfull, if_true]
  simp [FrameQueue.evictHead, FrameQueue.writeTail, FrameQueue.advanceTail, fullSlot]

private theorem fullSlot_run {frame : Frame} (hdata : frame.data ≠ none)
    (hsize : frame.size ≠ 0) (n dropped : Nat) (h : dropped < ulongModulus) :
    Simulation.run FrameQueue.call (fullSlot frame dropped) (List.replicate n (.push frame 0)) =
      some (fullSlot frame ((dropped + n) % ulongModulus), List.replicate n (.pushed 0)) := by
  induction n generalizing dropped with
  | zero => simp [Simulation.run, Nat.mod_eq_of_lt h]
  | succ n ih =>
      rw [List.replicate_succ, List.replicate_succ]
      refine Simulation.run_cons.mpr ⟨_, _, _, fullSlot_push hdata hsize dropped, ?_, rfl⟩
      rw [ih _ (Nat.mod_lt _ (by decide)), Nat.mod_add_mod, Nat.add_assoc, Nat.add_comm 1 n]

private theorem emptySlot_push {frame : Frame} (hdata : frame.data ≠ none)
    (hsize : frame.size ≠ 0) :
    FrameQueue.call ⟨[Frame.zero], 1, 0, 0, 0, 0, false⟩ (.push frame 0) =
      some (fullSlot frame 0, .pushed 0) := by
  have hopen : (FrameQueue.mk [Frame.zero] 1 0 0 0 0 false).closed = false := rfl
  simp only [FrameQueue.call, frameQueuePush_open 0 hdata hsize hopen]
  simp [FrameQueue.writeTail, FrameQueue.advanceTail, fullSlot]

/-- After 2^32 + 1 pushes into one slot the counter is back at zero: the frames
it fails to count are neither delivered nor queued. -/
theorem frameQueue_dropped_counter_wraps :
    ¬ ∀ (capacity : Nat) (start queue : FrameQueue) (calls : List QueueCall)
        (replies : List QueueReply),
      0 < capacity →
      frameQueueInit capacity true true true = some start →
      Simulation.run FrameQueue.call start calls = some (queue, replies) →
      acceptedPushes replies = deliveredPops replies + queue.droppedFrames + queue.count := by
  intro claim
  have hdata : (makeFrame 1 []).data ≠ none := by decide
  have hsize : (makeFrame 1 []).size ≠ 0 := by decide
  have hrun := Simulation.run_cons.mpr ⟨_, _, _, emptySlot_push hdata hsize,
    fullSlot_run hdata hsize ulongModulus 0 (by decide), rfl⟩
  have hexact := claim 1 _ _ _ _ Nat.one_pos rfl hrun
  have haccepted : acceptedPushes (.pushed 0 :: List.replicate ulongModulus (.pushed 0)) =
      ulongModulus + 1 := by
    rw [acceptedPushes, List.count_cons_self, List.count_replicate_self]
  have hdelivered : deliveredPops (.pushed 0 :: List.replicate ulongModulus (.pushed 0)) = 0 := by
    rw [deliveredPops, List.countP_cons, List.countP_replicate]
    rfl
  simp only [haccepted, hdelivered, Nat.zero_add, Nat.mod_self, fullSlot] at hexact
  exact absurd hexact (by decide)

end CameraGateway
