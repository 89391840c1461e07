import CameraGateway.Metatheory.FrameQueueRefinement
import CameraGateway.Library.Ledger
import CameraGateway.Library.TransitionSystem

/-!
Who owns the blocks that `frame_copy` allocates for the frames of a queue. The state is
the queue with the frames that its consumers have popped and not released; `ops` is the
history of the allocations and of the calls of `free`. Allocations fail as the labels
say, and a successful one returns an identifier that was not used before.
-/
namespace CameraGateway

def Frame.block (frame : Frame) : Option Nat := frame.data.map Buffer.address

def FrameQueue.live (queue : FrameQueue) : List Frame :=
  (List.range queue.count).map fun i => queue.item ((queue.head + i) % queue.capacity)

def FrameQueue.makeRoom (queue : FrameQueue) : FrameQueue :=
  if queue.count = queue.capacity then queue.evictHead else queue

structure QueueProgram where
  queue : FrameQueue
  popped : List Frame
  destroyed : Bool
  ops : List (Ledger.Op Nat)

inductive QueueAction where
  /-- The frame to copy, and what `malloc` returns if it is called. -/
  | push (frame : Frame) (malloc : Option Nat)
  | pop
  | close
  /-- A consumer calls `frame_release` on one of the frames it has popped. -/
  | release (i : Nat)
  | destroy

namespace QueueProgram

def init (start : FrameQueue) : QueueProgram :=
  { queue := start, popped := [], destroyed := false, ops := [] }

def step (program : QueueProgram) : QueueAction → Option QueueProgram
  | .push frame malloc =>
      if program.destroyed ∨ ∃ block ∈ malloc, .acquire block ∈ program.ops then none
      else
        let result := frameQueuePush program.queue frame malloc
        -- the eviction comes before the copy, and only a push that returns 0 has allocated
        let allocated := if result.ret = 0 then malloc.toList else []
        some { program with
          queue := result.queue
          ops := program.ops ++ result.freed.map .release ++ allocated.map .acquire }
  | .pop =>
      if program.destroyed then none
      else (frameQueuePop program.queue).map fun (result : PopResult) =>
        { program with
          queue := result.queue
          popped := if result.ret = 1 then program.popped ++ [result.out] else program.popped }
  | .close =>
      if program.destroyed then none
      else some { program with queue := frameQueueClose program.queue }
  | .release i =>
      program.popped[i]?.map fun frame =>
        { program with
          popped := program.popped.eraseIdx i
          ops := program.ops ++ (frameRelease frame).1.map .release }
  | .destroy =>
      let result := frameQueueDestroy program.queue
      some { program with
        queue := result.2, destroyed := true, ops := program.ops ++ result.1.map .release }

end QueueProgram

def queueProgram (start : FrameQueue) : TransitionSystem.System QueueProgram QueueAction where
  init := QueueProgram.init start
  step := QueueProgram.step

/-- A block is not built on another. -/
def noUses (_ _ : Nat) : Bool := false

def heldBlocks (frames : List Frame) : List Nat := frames.filterMap Frame.block

theorem unused_pairwise (blocks : List Nat) :
    blocks.Pairwise fun block later => noUses later block = false :=
  List.pairwise_of_forall fun _ _ => rfl

section Slots
variable {queue : FrameQueue} {capacity : Nat} {frames : List Frame}

@[simp] theorem zero_block : Frame.zero.block = none := rfl

theorem frameRelease_blocks (frame : Frame) : (frameRelease frame).1 = frame.block.toList := rfl

theorem heldBlocks_cons (frame : Frame) (frames : List Frame) :
    heldBlocks (frame :: frames) = frame.block.toList ++ heldBlocks frames := by
  rw [heldBlocks, List.filterMap_cons]
  cases frame.block with
  | none => rfl
  | some block => rfl

theorem heldBlocks_append (frames later : List Frame) :
    heldBlocks (frames ++ later) = heldBlocks frames ++ heldBlocks later :=
  List.filterMap_append

theorem heldBlocks_singleton (frame : Frame) : heldBlocks [frame] = frame.block.toList := by
  rw [heldBlocks_cons]
  exact List.append_nil _

theorem Represents.live (h : Represents queue capacity frames) : queue.live = frames := by
  apply List.ext_getElem
  · rw [FrameQueue.live, List.length_map, List.length_range, h.count_eq]
  · intro i hlive hi
    have hcell := h.ring.lookup_live hi
    rw [RingBuffer.cell, ← h.capacity_eq] at hcell
    simp only [FrameQueue.live, List.getElem_map, List.getElem_range, FrameQueue.item,
      List.getD_eq_getElem?_getD, hcell, Option.getD_some]

theorem Represents.tail_blank (h : Represents queue capacity frames)
    (room : frames.length < capacity) : queue.items[queue.tail]? = some Frame.zero := by
  rw [h.tail_eq, h.count_eq]
  exact h.ring.lookup_blank (Nat.le_refl _) room

theorem Represents.writeTail_zero (h : Represents queue capacity frames)
    (room : frames.length < capacity) : queue.writeTail Frame.zero = queue := by
  obtain ⟨hlt, hitem⟩ := List.getElem?_eq_some_iff.mp (h.tail_blank room)
  have hset : queue.items.set queue.tail Frame.zero = queue.items := by
    rw [← hitem, List.set_getElem_self]
  rw [FrameQueue.writeTail, hset]

/-- A full queue has a first frame, and the eviction removes exactly this one. -/
theorem Represents.makeRoom (h : Represents queue capacity frames) :
    ∃ kept : List Frame, Represents queue.makeRoom capacity kept ∧ kept.length < capacity ∧
      (if queue.count = queue.capacity then (frameRelease (queue.item queue.head)).1 else []) ++
        heldBlocks kept = heldBlocks frames := by
  have hpos : 0 < capacity := Nat.zero_lt_of_lt h.head_lt
  have hfits := h.ring.fits
  have hcount := h.count_eq
  have hcapacity := h.capacity_eq
  by_cases hfull : queue.count = queue.capacity
  · rw [FrameQueue.makeRoom, if_pos hfull, if_pos hfull]
    cases frames with
    | nil =>
        rw [List.length_nil] at hcount
        omega
    | cons first kept =>
        rw [List.length_cons] at hfits
        refine ⟨kept, h.evictHead, hfits, ?_⟩
        rw [h.item_head, frameRelease_blocks, heldBlocks_cons]
  · rw [FrameQueue.makeRoom, if_neg hfull, if_neg hfull]
    exact ⟨frames, h, by omega, rfl⟩

/-- The loop of `frame_queue_destroy` frees what its slots hold. -/
theorem releaseSlots_blocks (queue : FrameQueue) (i n : Nat) :
    (queue.releaseSlots i n).1 = heldBlocks ((queue.items.drop i).take n) := by
  induction n generalizing queue i with
  | zero => rfl
  | succ n ih =>
      rw [FrameQueue.releaseSlots, ih, frameRelease_blocks]
      change _ ++ heldBlocks (((queue.items.set i Frame.zero).drop (i + 1)).take n) = _
      rw [List.drop_set_of_lt (Nat.lt_succ_self i)]
      by_cases hi : i < queue.items.length
      · rw [List.drop_eq_getElem_cons hi, List.take_succ_cons, heldBlocks_cons,
          FrameQueue.item, List.getD_eq_getElem _ _ hi]
      · have hle : queue.items.length ≤ i := Nat.le_of_not_lt hi
        rw [FrameQueue.item, List.getD_eq_default _ _ hle, List.drop_eq_nil_of_le hle,
          List.drop_eq_nil_of_le (Nat.le_succ_of_le hle), List.take_nil, List.take_nil]
        rfl

theorem Represents.destroy_blocks (h : Represents queue capacity frames) :
    ((frameQueueDestroy queue).1).Perm (heldBlocks frames) ∧
      (frameQueueDestroy queue).2 = FrameQueue.zero := by
  have hlength := h.ring.length_eq
  have hpos : 0 < capacity := Nat.zero_lt_of_lt h.head_lt
  have hitems : queue.items ≠ [] := List.ne_nil_of_length_pos (by omega)
  rw [frameQueueDestroy, if_neg hitems]
  refine ⟨?_, rfl⟩
  rw [releaseSlots_blocks, List.drop_zero, List.take_of_length_le (by rw [h.capacity_eq, hlength])]
  exact h.ring.filterMap_perm zero_block

end Slots

section Calls
variable {queue : FrameQueue} {capacity : Nat} {frames : List Frame}

theorem frameQueuePush_accepted {frame : Frame} (malloc : Option Nat) (hdata : frame.data ≠ none)
    (hsize : frame.size ≠ 0) (hopen : queue.closed = false) :
    frameQueuePush queue frame malloc =
      { ret := if malloc = none then -1 else 0
        queue :=
          if malloc = none then queue.makeRoom.writeTail Frame.zero
          else (queue.makeRoom.writeTail (copyInto frame malloc).2).advanceTail
        freed :=
          if queue.count = queue.capacity then (frameRelease (queue.item queue.head)).1
          else [] } := by
  have hcopy : frameCopy frame malloc = copyInto frame malloc := if_neg hsize
  rw [frameQueuePush, if_neg (not_or.mpr ⟨hdata, hsize⟩), hopen, if_neg Bool.false_ne_true, hcopy]
  cases malloc with
  | none => rfl
  | some block => rfl

/-- A push takes one frame out of a full queue and puts its copy, if any, into the tail. -/
theorem push_blocks (h : Represents queue capacity frames) (frame : Frame) (malloc : Option Nat) :
    ∃ kept next : List Frame, Represents (frameQueuePush queue frame malloc).queue capacity next ∧
      (frameQueuePush queue frame malloc).freed ++ heldBlocks kept =
        heldBlocks frames ∧
      heldBlocks next = heldBlocks kept ++
        if (frameQueuePush queue frame malloc).ret = 0 then malloc.toList else [] := by
  have hfailed : ¬ (-1 : Int) = 0 := by decide
  by_cases hreject : frame.data = none ∨ frame.size = 0 ∨ queue.closed
  · rw [frameQueuePush_rejected malloc hreject]
    refine ⟨frames, frames, h, rfl, ?_⟩
    rw [if_neg hfailed, List.append_nil]
  · simp only [not_or, Bool.not_eq_true] at hreject
    obtain ⟨hdata, hsize, hopen⟩ := hreject
    rw [frameQueuePush_accepted malloc hdata hsize hopen]
    obtain ⟨kept, hkept, hroom, hevicted⟩ := h.makeRoom
    cases malloc with
    | none =>
        refine ⟨kept, kept, ?_, hevicted, ?_⟩
        · rw [if_pos rfl, hkept.writeTail_zero hroom]
          exact hkept
        · rw [if_pos rfl, if_neg hfailed, List.append_nil]
    | some block =>
        have hsome : (some block : Option Nat) ≠ none := Option.some_ne_none block
        refine ⟨kept, kept ++ [(copyInto frame (some block)).2], ?_, hevicted, ?_⟩
        · rw [if_neg hsome]
          exact hkept.storeTail hroom _
        · rw [if_neg hsome, if_pos rfl, heldBlocks_append]
          rfl

/-- A pop that returns 1 hands out the first frame, and any other leaves the queue as it is. -/
theorem pop_blocks {result : PopResult} (h : Represents queue capacity frames)
    (hpop : frameQueuePop queue = some result) :
    ∃ next, Represents result.queue capacity next ∧
      heldBlocks frames =
        (if result.ret = 1 then result.out.block.toList else []) ++ heldBlocks next := by
  have hcount := h.count_eq
  cases frames with
  | nil =>
      rw [List.length_nil] at hcount
      simp only [frameQueuePop, hcount, true_and, Option.ite_none_left_eq_some] at hpop
      obtain ⟨hopen, hpop⟩ := hpop
      rw [if_pos (by simpa using hopen), Option.some.injEq] at hpop
      subst hpop
      exact ⟨[], h, rfl⟩
  | cons first next =>
      rw [List.length_cons] at hcount
      have hne : queue.count ≠ 0 := by omega
      rw [frameQueuePop, if_neg fun hempty => hne hempty.1, if_neg fun hempty => hne hempty.1,
        Option.some.injEq] at hpop
      subst hpop
      refine ⟨next, h.removeHead _, ?_⟩
      rw [if_pos rfl, h.item_head, heldBlocks_cons]

end Calls

/-- The blocks in the queue and those with the consumers are the ones not freed. -/
structure OwnsBlocks (capacity : Nat) (program : QueueProgram) (frames : List Frame) : Prop where
  live : program.destroyed = false → Represents program.queue capacity frames
  destroyed : program.destroyed = true → program.queue = FrameQueue.zero ∧ frames = []
  ledger : Ledger.Holds noUses program.ops
    (heldBlocks frames ++ heldBlocks program.popped)

section Steps
variable {capacity : Nat} {program next : QueueProgram} {frames : List Frame}

theorem ownsBlocks_running (hrunning : program.destroyed = false)
    (hlive : Represents program.queue capacity frames)
    (hledger : Ledger.Holds noUses program.ops (heldBlocks frames ++ heldBlocks program.popped)) :
    OwnsBlocks capacity program frames := by
  refine ⟨fun _ => hlive, fun hgone => ?_, hledger⟩
  rw [hrunning] at hgone
  cases hgone

theorem ownsBlocks_destroyed (hgone : program.destroyed = true)
    (hzero : program.queue = FrameQueue.zero)
    (hledger : Ledger.Holds noUses program.ops (heldBlocks program.popped)) :
    OwnsBlocks capacity program [] := by
  refine ⟨fun hrunning => ?_, fun _ => ⟨hzero, rfl⟩, hledger⟩
  rw [hgone] at hrunning
  cases hrunning

theorem push_owned {frame : Frame} {malloc : Option Nat} (h : OwnsBlocks capacity program frames)
    (hs : program.step (.push frame malloc) = some next) :
    ∃ frames', OwnsBlocks capacity next frames' := by
  simp only [QueueProgram.step, Option.ite_none_left_eq_some, not_or, Option.some.injEq,
    Bool.not_eq_true] at hs
  obtain ⟨⟨hrunning, hfresh⟩, rfl⟩ := hs
  obtain ⟨kept, frames', hnext, hfreed, hstored⟩ := push_blocks (h.live hrunning) frame malloc
  refine ⟨frames', ownsBlocks_running hrunning hnext ?_⟩
  have hledger := h.ledger
  rw [← hfreed, List.append_assoc] at hledger
  have hevicted := hledger.releaseAll (unused_pairwise _) fun _ _ _ _ => rfl
  rw [hstored]
  change Ledger.Holds noUses (_ ++ ((if (frameQueuePush program.queue frame malloc).ret = 0 then
    malloc.toList else []).map Ledger.Op.acquire)) _
  split
  · cases malloc with
    | none => simpa using hevicted
    | some block =>
        have hunused : block ∉ Ledger.acquired (program.ops ++
            (frameQueuePush program.queue frame (some block)).freed.map .release) := by
          rw [Ledger.acquired_append, Ledger.acquired_map_release, List.append_nil,
            Ledger.mem_acquired]
          exact fun hmem => hfresh ⟨block, rfl, hmem⟩
        refine (hevicted.acquire hunused fun _ _ => rfl).perm ?_
        rw [Option.toList_some, List.append_assoc, List.singleton_append]
        exact List.perm_middle.symm
  · simpa using hevicted

theorem pop_owned (h : OwnsBlocks capacity program frames)
    (hs : program.step .pop = some next) : ∃ frames', OwnsBlocks capacity next frames' := by
  simp only [QueueProgram.step, Option.ite_none_left_eq_some, Bool.not_eq_true,
    Option.map_eq_some_iff] at hs
  obtain ⟨hrunning, result, hpop, rfl⟩ := hs
  obtain ⟨frames', hnext, hblocks⟩ := pop_blocks (h.live hrunning) hpop
  refine ⟨frames', ownsBlocks_running hrunning hnext (h.ledger.perm ?_)⟩
  rw [hblocks]
  split
  · rw [heldBlocks_append, heldBlocks_singleton, List.append_assoc,
      ← List.append_assoc (heldBlocks frames')]
    exact List.perm_append_comm
  · exact List.Perm.refl _

theorem release_owned {i : Nat} (h : OwnsBlocks capacity program frames)
    (hs : program.step (.release i) = some next) : OwnsBlocks capacity next frames := by
  simp only [QueueProgram.step, Option.map_eq_some_iff] at hs
  obtain ⟨frame, hframe, rfl⟩ := hs
  refine ⟨h.live, h.destroyed, ?_⟩
  obtain ⟨hi, rfl⟩ := List.getElem?_eq_some_iff.mp hframe
  have hremoved : (heldBlocks program.popped).Perm
      (program.popped[i].block.toList ++ heldBlocks (program.popped.eraseIdx i)) := by
    rw [← heldBlocks_cons]
    exact (List.getElem_cons_eraseIdx_perm hi).symm.filterMap _
  have hmoved : Ledger.Holds noUses program.ops (program.popped[i].block.toList ++
      (heldBlocks frames ++ heldBlocks (program.popped.eraseIdx i))) := by
    refine h.ledger.perm ((hremoved.append_left _).trans ?_)
    rw [← List.append_assoc, ← List.append_assoc]
    exact List.perm_append_comm.append_right _
  exact hmoved.releaseAll (unused_pairwise _) fun _ _ _ _ => rfl

theorem destroy_owned (h : OwnsBlocks capacity program frames)
    (hs : program.step .destroy = some next) : OwnsBlocks capacity next [] := by
  simp only [QueueProgram.step, Option.some.injEq] at hs
  subst hs
  cases hgone : program.destroyed with
  | false =>
      obtain ⟨hfreed, hzero⟩ := (h.live hgone).destroy_blocks
      have hledger := h.ledger.perm (hfreed.symm.append_right _)
      exact ownsBlocks_destroyed rfl hzero
        (hledger.releaseAll (unused_pairwise _) fun _ _ _ _ => rfl)
  | true =>
      -- the slots are gone, and a second call returns at once
      obtain ⟨hzero, rfl⟩ := h.destroyed hgone
      have hnothing : frameQueueDestroy program.queue = ([], FrameQueue.zero) := by
        rw [hzero]
        rfl
      rw [hnothing]
      refine ownsBlocks_destroyed rfl rfl ?_
      rw [List.map_nil, List.append_nil]
      exact h.ledger

theorem step_owned {action : QueueAction} (h : OwnsBlocks capacity program frames)
    (hs : program.step action = some next) : ∃ frames', OwnsBlocks capacity next frames' := by
  cases action with
  | push frame malloc => exact push_owned h hs
  | pop => exact pop_owned h hs
  | close =>
      simp only [QueueProgram.step, Option.ite_none_left_eq_some, Bool.not_eq_true,
        Option.some.injEq] at hs
      obtain ⟨hrunning, rfl⟩ := hs
      obtain ⟨hcapacity, hring, hcount, htail⟩ := h.live hrunning
      exact ⟨frames, ownsBlocks_running hrunning ⟨hcapacity, hring, hcount, htail⟩ h.ledger⟩
  | release i => exact ⟨frames, release_owned h hs⟩
  | destroy => exact ⟨[], destroy_owned h hs⟩

end Steps

theorem reachable_owned {capacity : Nat} {start : FrameQueue}
    (hstart : frameQueueInit capacity true true true = some start) {program : QueueProgram}
    (h : TransitionSystem.Reachable (queueProgram start) program) :
    ∃ frames, OwnsBlocks capacity program frames := by
  refine TransitionSystem.Reachable.invariant
    (I := fun program => ∃ frames, OwnsBlocks capacity program frames) ?_ ?_ h
  · refine ⟨[], fun _ => (Represents.initial hstart).1, fun hgone => ?_, Ledger.Holds.nil⟩
    cases hgone
  · rintro program next action - ⟨frames, howned⟩ hs
    exact step_owned howned hs

def Frame.holds (block : Nat) (frame : Frame) : Bool := frame.block == some block

theorem count_heldBlocks (block : Nat) (frames : List Frame) :
    (heldBlocks frames).count block = frames.countP (Frame.holds block) :=
  List.count_filterMap

/-- In every run each block that was allocated for the queue is in one live slot, or with
one consumer, or freed, and nothing else is. No other slot holds a block, in particular
not the one that the next push copies into, and a destroyed queue whose consumers have
released their frames has freed everything. -/
theorem queue_blocks_have_one_owner {capacity : Nat} {start : FrameQueue}
    (hstart : frameQueueInit capacity true true true = some start) {program : QueueProgram}
    (h : TransitionSystem.Reachable (queueProgram start) program) :
    (∀ block, program.queue.live.countP (Frame.holds block) +
        program.popped.countP (Frame.holds block) + (Ledger.released program.ops).count block =
      if block ∈ Ledger.acquired program.ops then 1 else 0) ∧
      (∀ block, program.queue.items.countP (Frame.holds block) =
        program.queue.live.countP (Frame.holds block)) ∧
      (program.destroyed = false →
        program.queue.makeRoom.items[program.queue.makeRoom.tail]? = some Frame.zero) ∧
      (∃ book, Ledger.after noUses program.ops = some book) ∧
      (Ledger.acquired program.ops).Nodup ∧ (Ledger.released program.ops).Nodup ∧
      (program.destroyed = true → program.popped = [] →
        ∀ block ∈ Ledger.acquired program.ops, block ∈ Ledger.released program.ops) := by
  obtain ⟨frames, howned⟩ := reachable_owned hstart h
  have hlive : program.queue.live = frames ∧ ∀ block,
      program.queue.items.countP (Frame.holds block) = frames.countP (Frame.holds block) := by
    cases hgone : program.destroyed with
    | false =>
        have hrep := howned.live hgone
        refine ⟨hrep.live, fun block => ?_⟩
        rw [← count_heldBlocks, ← count_heldBlocks]
        exact (hrep.ring.filterMap_perm zero_block).count_eq block
    | true =>
        obtain ⟨hzero, rfl⟩ := howned.destroyed hgone
        rw [hzero]
        exact ⟨rfl, fun _ => rfl⟩
  have hcount : ∀ block, program.queue.live.countP (Frame.holds block) +
      program.popped.countP (Frame.holds block) + (Ledger.released program.ops).count block =
        if block ∈ Ledger.acquired program.ops then 1 else 0 := by
    intro block
    rw [hlive.1, ← count_heldBlocks, ← count_heldBlocks, ← List.count_append,
      howned.ledger.count_eq, howned.ledger.acquired_nodup.count]
  refine ⟨hcount, ?_, ?_, ?_, howned.ledger.acquired_nodup, howned.ledger.released_nodup, ?_⟩
  · intro block
    rw [hlive.1]
    exact hlive.2 block
  · intro hrunning
    obtain ⟨kept, hkept, hroom, -⟩ := (howned.live hrunning).makeRoom
    exact hkept.tail_blank hroom
  · obtain ⟨book, hafter, -⟩ := howned.ledger
    exact ⟨book, hafter⟩
  · intro hgone hreleased block hblock
    have hone := hcount block
    rw [if_pos hblock, hreleased, hlive.1, (howned.destroyed hgone).2, List.countP_nil,
      Nat.zero_add] at hone
    exact List.count_pos_iff.mp (by omega)

/-- Three pushes into one slot, the second with an eviction and the last without memory,
then a pop, the end of the queue and the release of the popped frame. -/
def ownershipRun : List QueueAction :=
  [.push (makeFrame 1 [49]) (some 1), .push (makeFrame 2 [50]) (some 2),
    .push (makeFrame 3 [51]) none, .push (makeFrame 4 [52]) (some 3), .pop, .close, .destroy,
    .release 0]

theorem queue_blocks_have_one_owner_run :
    ∃ start program, frameQueueInit 1 true true true = some start ∧
      TransitionSystem.Reachable (queueProgram start) program ∧
      (program.destroyed = true ∧ program.popped = [] ∧
        Ledger.acquired program.ops = [1, 2, 3] ∧ Ledger.released program.ops = [1, 2, 3]) ∧
      ∀ block ∈ Ledger.acquired program.ops, block ∈ Ledger.released program.ops := by
  let start : FrameQueue :=
    { items := [Frame.zero], capacity := 1, head := 0, tail := 0, count := 0, droppedFrames := 0
      closed := false }
  have hstart : frameQueueInit 1 true true true = some start := rfl
  have hrun : (TransitionSystem.exec (queueProgram start) (queueProgram start).init
      ownershipRun).any (fun program => decide (program.destroyed = true ∧ program.popped = [] ∧
        Ledger.acquired program.ops = [1, 2, 3] ∧
        Ledger.released program.ops = [1, 2, 3])) = true := by
    decide
  obtain ⟨program, hexec, hprogram⟩ := TransitionSystem.exists_exec_of_any hrun
  have hreach := (TransitionSystem.Reachable.init (queueProgram start)).exec hexec
  have hstate := of_decide_eq_true hprogram
  have howned := queue_blocks_have_one_owner hstart hreach
  exact ⟨start, program, hstart, hreach, hstate,
    howned.2.2.2.2.2.2 hstate.1 hstate.2.1⟩

end CameraGateway
