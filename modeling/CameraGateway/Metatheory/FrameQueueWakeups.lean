import CameraGateway.Core.FrameQueue
import CameraGateway.Library.Monitor
import Mathlib.Data.Fintype.Fin

/-!
The frame queue under its mutex and its condition variable `not_empty`, for any
finite set of threads. A thread may call any operation at any time it is idle;
the outcome of `malloc` inside a push is chosen by the environment.

A push that is rejected on its arguments returns before it takes the mutex. Here
it takes the mutex and leaves with nothing changed, which allows more schedules.
-/
namespace CameraGateway

inductive QueueOp where
  | push (frame : Frame)
  | pop
  | close
  | size
  | dropped

def QueueOp.waits : QueueOp → Bool
  | .pop => true
  | _ => false

/-- The critical section of each operation, with the notification it sends. -/
def queueBody (queue : FrameQueue) : QueueOp → Option Nat → Monitor.Outcome FrameQueue
  | .push frame, malloc =>
      let result := frameQueuePush queue frame malloc
      .leave result.queue (if result.ret = 0 then .one else .nobody)
  | .pop, _ =>
      match frameQueuePop queue with
      | none => .wait
      | some result => .leave result.queue .nobody
  | .close, _ => .leave (frameQueueClose queue) .all
  | .size, _ => .leave queue .nobody
  | .dropped, _ => .leave queue .nobody

theorem frameQueuePop_blocks_iff (queue : FrameQueue) :
    frameQueuePop queue = none ↔ queue.count = 0 ∧ queue.closed = false := by
  by_cases hwait : queue.count = 0 ∧ queue.closed = false
  · simp [frameQueuePop, hwait]
  · simp only [frameQueuePop, hwait, if_false, iff_false]
    split <;> simp

theorem frameQueuePop_takes {queue : FrameQueue} {result : PopResult}
    (h : frameQueuePop queue = some result) :
    result.queue.count = queue.count - 1 ∧ result.queue.closed = queue.closed := by
  by_cases hwait : queue.count = 0 ∧ queue.closed = false
  · rw [(frameQueuePop_blocks_iff queue).mpr hwait] at h
    simp at h
  · simp only [frameQueuePop, hwait, if_false] at h
    split at h
    · rename_i hempty
      obtain rfl := Option.some.inj h
      exact ⟨by rw [hempty.1], rfl⟩
    · obtain rfl := Option.some.inj h
      exact ⟨rfl, rfl⟩

theorem frameQueuePush_counts (queue : FrameQueue) (frame : Frame) (malloc : Option Nat) :
    (frameQueuePush queue frame malloc).queue.closed = queue.closed ∧
      (frameQueuePush queue frame malloc).queue.count ≤
        queue.count + (if (frameQueuePush queue frame malloc).ret = 0 then 1 else 0) := by
  by_cases hreject : frame.data = none ∨ frame.size = 0 ∨ queue.closed
  · rw [frameQueuePush_rejected malloc hreject]
    exact ⟨rfl, Nat.le_add_right _ _⟩
  · simp only [not_or, Bool.not_eq_true] at hreject
    obtain ⟨hdata, hsize, hopen⟩ := hreject
    have hroom : (if queue.count = queue.capacity then queue.evictHead else queue).closed =
        queue.closed ∧
        (if queue.count = queue.capacity then queue.evictHead else queue).count ≤
          queue.count := by
      split
      · exact ⟨rfl, Nat.sub_le _ _⟩
      · exact ⟨rfl, Nat.le_refl _⟩
    cases malloc with
    | some address =>
        rw [frameQueuePush_open address hdata hsize hopen]
        exact ⟨hroom.1, Nat.succ_le_succ hroom.2⟩
    | none =>
        have hcopy : frameCopy frame none = (-1, Frame.zero) := by
          simp [frameCopy, copyInto, hsize]
        have hfail : (-1 : Int) ≠ 0 := by decide
        simp only [frameQueuePush, hdata, hsize, or_self, if_false, hopen, Bool.false_eq_true,
          hcopy, hfail, ne_eq, not_false_eq_true, if_true]
        exact ⟨hroom.1.trans hopen, hroom.2⟩

/-- One signal for each successful push is enough for the consumers. -/
theorem queue_accounting :
    Monitor.Accounting queueBody QueueOp.waits FrameQueue.count FrameQueue.closed where
  wait := by
    intro queue op malloc hbody
    cases op with
    | pop =>
        simp only [queueBody] at hbody
        split at hbody
        · rename_i hpop
          exact ⟨rfl, (frameQueuePop_blocks_iff queue).mp hpop⟩
        · simp at hbody
    | push _ | close | size | dropped => simp [queueBody] at hbody
  consume := by
    intro queue queue' op malloc notify hop hbody
    cases op with
    | pop =>
        simp only [queueBody] at hbody
        split at hbody
        · simp at hbody
        · rename_i result hpop
          obtain ⟨hcount, hclosed⟩ := frameQueuePop_takes hpop
          obtain ⟨rfl, rfl⟩ := Monitor.Outcome.leave.inj hbody
          exact ⟨rfl, Nat.le_of_eq hcount, hclosed⟩
    | push _ | close | size | dropped => simp [QueueOp.waits] at hop
  quiet := by
    intro queue queue' op malloc hop hbody
    cases op with
    | pop => simp [QueueOp.waits] at hop
    | push frame =>
        obtain ⟨rfl, hnotify⟩ := Monitor.Outcome.leave.inj hbody
        obtain ⟨hclosed, hcount⟩ := frameQueuePush_counts queue frame malloc
        have hret : (frameQueuePush queue frame malloc).ret ≠ 0 := by
          intro hret
          rw [if_pos hret] at hnotify
          exact absurd hnotify (by decide)
        rw [if_neg hret] at hcount
        exact ⟨hcount, hclosed⟩
    | close => exact absurd (Monitor.Outcome.leave.inj hbody).2 (by decide)
    | size | dropped =>
        obtain ⟨rfl, -⟩ := Monitor.Outcome.leave.inj hbody
        exact ⟨Nat.le_refl _, rfl⟩
  signal := by
    intro queue queue' op malloc hop hbody
    cases op with
    | pop => simp [QueueOp.waits] at hop
    | push frame =>
        obtain ⟨rfl, -⟩ := Monitor.Outcome.leave.inj hbody
        obtain ⟨hclosed, hcount⟩ := frameQueuePush_counts queue frame malloc
        refine ⟨Nat.le_trans hcount (Nat.add_le_add_left ?_ _), hclosed⟩
        split <;> decide
    | close | size | dropped => exact absurd (Monitor.Outcome.leave.inj hbody).2 (by decide)

/-- The queue as its threads see it, from the state `frame_queue_init` leaves. -/
def queueMonitor (T : Type) [DecidableEq T] [Fintype T] (start : FrameQueue) :
    TransitionSystem.System (Monitor.State T FrameQueue QueueOp)
      (Monitor.Action T QueueOp (Option Nat)) :=
  Monitor.system queueBody start

/-- Blocked in `pthread_cond_wait` inside `frame_queue_pop`, and not yet signalled. -/
def BlockedConsumer {T : Type} (s : Monitor.State T FrameQueue QueueOp) (t : T) : Prop :=
  s.phase t = .blocked .pop

def signalledConsumers {T : Type} [Fintype T] (s : Monitor.State T FrameQueue QueueOp) : Nat :=
  Monitor.count Monitor.Phase.Signalled s.phase

/-- Signalled, or awake inside `frame_queue_pop`: about to look at the queue again. -/
def OnTheWayToPop {T : Type} (s : Monitor.State T FrameQueue QueueOp) (t : T) : Prop :=
  s.phase t = .signalled .pop ∨ s.phase t = .inside .pop

private theorem pop_of_waits {op : QueueOp} (h : op.waits = true) : op = .pop := by
  cases op with
  | pop => rfl
  | push _ | close | size | dropped => simp [QueueOp.waits] at h

private theorem onTheWayToPop {T : Type} [Fintype T]
    {s : Monitor.State T FrameQueue QueueOp}
    (covered : Monitor.Covered QueueOp.waits FrameQueue.count FrameQueue.closed s) {t : T}
    (h : (s.phase t).OnTheWay QueueOp.waits = true) : OnTheWayToPop s t := by
  cases hphase : s.phase t with
  | signalled op =>
      obtain rfl := pop_of_waits (covered.waiters t op (Or.inr hphase))
      exact Or.inl hphase
  | inside op =>
      rw [hphase] at h
      obtain rfl := pop_of_waits h
      exact Or.inr hphase
  | idle | entering _ | blocked _ => simp [hphase, Monitor.Phase.OnTheWay] at h

/-- No wake-up is lost, from whatever queue the threads start with: a blocked
consumer means an open queue in which every frame has a signalled consumer that
has yet to take the mutex. -/
theorem frameQueue_loses_no_wakeup {T : Type} [DecidableEq T] [Fintype T]
    {start : FrameQueue} {s : Monitor.State T FrameQueue QueueOp}
    (h : TransitionSystem.Reachable (queueMonitor T start) s)
    {t : T} (blocked : BlockedConsumer s t) :
    (s.owner = none → s.shared.closed = false ∧ s.shared.count ≤ signalledConsumers s) ∧
      s.shared.closed = false ∧
      (0 < s.shared.count → ∃ u, OnTheWayToPop s u) := by
  have hcovered := Monitor.Reachable.covered queue_accounting h
  have hblocked : (s.phase t).Blocked = true := by rw [blocked]; rfl
  obtain ⟨hopen, hcount⟩ := hcovered.covered t hblocked
  refine ⟨fun hfree => ⟨hopen, ?_⟩, hopen, fun hpos => ?_⟩
  · rw [hcovered.count_signalled hfree] at hcount
    exact hcount
  · obtain ⟨u, hu⟩ := Monitor.exists_of_count_pos (Nat.lt_of_lt_of_le hpos hcount)
    exact ⟨u, onTheWayToPop hcovered hu⟩

/-- Two consumers block on an empty queue; a push signals the first of them. -/
theorem frameQueue_loses_no_wakeup_twoConsumers :
    ∃ (start : FrameQueue) (s : Monitor.State (Fin 3) FrameQueue QueueOp),
      frameQueueInit 1 true true true = some start ∧
      TransitionSystem.Reachable (queueMonitor (Fin 3) start) s ∧
      s.owner = none ∧ s.shared.count = 1 ∧ BlockedConsumer s 1 ∧
      (s.owner = none → s.shared.closed = false ∧ s.shared.count ≤ signalledConsumers s) ∧
      s.shared.closed = false ∧
      (0 < s.shared.count → ∃ u, OnTheWayToPop s u) := by
  let frame : Frame := { Frame.zero with data := some ⟨7, [0]⟩, size := 1 }
  let actions : List (Monitor.Action (Fin 3) QueueOp (Option Nat)) :=
    [.call 0 .pop, .acquire 0, .run 0 none none, .call 1 .pop, .acquire 1, .run 1 none none,
      .call 2 (.push frame), .acquire 2, .run 2 (some 8) (some 0)]
  have hreach := (TransitionSystem.Reachable.init
      (queueMonitor (Fin 3) ⟨[Frame.zero], 1, 0, 0, 0, 0, false⟩)).exec
    (show TransitionSystem.exec _ _ actions = some _ from rfl)
  exact ⟨_, _, rfl, hreach, rfl, rfl, rfl, frameQueue_loses_no_wakeup (t := 1) hreach rfl⟩

end CameraGateway
