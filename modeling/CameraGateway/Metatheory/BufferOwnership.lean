import CameraGateway.Core.CaptureLoops
import CameraGateway.Metatheory.AcceptLoop

/-!
Who owns the V4L2 buffers in the three capture loops. Between passes the driver has
them all; inside a pass the program has the one it dequeued, reads only that one and
gives it back. The exception is the exit of `camera_capture_to_file` after a failing
write to the output file, which keeps its buffer.
-/
namespace CameraGateway
open Custody

/-- The driver owns every buffer whenever a loop begins a pass, and every buffer but
those whose VIDIOC_QBUF failed when the loop has returned; all operations before are
legal: a buffer is read and requeued only while the program owns it. -/
structure BuffersKept (idle returned : Prop) (ops : List (Op Nat)) : Prop where
  legal : ∃ holding, after ops = some holding
  idle : idle → after ops = some Holding.none
  returned : returned → ∃ lost, after ops = some { hand := none, lost := lost }

def CapturePhase.idle : CapturePhase → Bool
  | .start | .loop => true
  | .returned _ => false

def CapturePhase.ended : CapturePhase → Bool
  | .returned _ => true
  | _ => false

theorem CapturePhase.idle_of_ended {phase : CapturePhase} (h : phase.ended = true) :
    phase.idle = false := by
  cases phase with
  | start | loop => cases h
  | returned result => rfl

section Phases
variable {ops : List (Op Nat)} {index : Nat}

/-- `BuffersKept` for a loop in a phase. -/
def PhaseKept (phase : CapturePhase) (ops : List (Op Nat)) : Prop :=
  BuffersKept (phase.idle = true) (phase.ended = true) ops

theorem phaseKept_idle {phase : CapturePhase} (h : after ops = some Holding.none) :
    PhaseKept phase ops :=
  ⟨⟨_, h⟩, fun _ => h, fun _ => ⟨[], h⟩⟩

theorem phaseKept_returned {result : Int} {lost : List Nat}
    (h : after ops = some { hand := none, lost := lost }) : PhaseKept (.returned result) ops :=
  ⟨⟨_, h⟩, fun hidle => absurd hidle Bool.false_ne_true, fun _ => ⟨lost, h⟩⟩

theorem after_take (h : after ops = some Holding.none) :
    after (ops ++ [.take index]) = some { hand := some index, lost := [] } :=
  (after_snoc h _).trans (step_take (List.not_mem_nil))

theorem after_use (h : after ops = some { hand := some index, lost := [] }) :
    after (ops ++ [.use index]) = some { hand := some index, lost := [] } :=
  (after_snoc h _).trans (step_use [] index)

theorem phaseKept_leave (h : after ops = some { hand := some index, lost := [] }) (ok : Bool)
    (result : Int) : PhaseKept (.returned result) (ops ++ [.giveBack index ok]) :=
  phaseKept_returned ((after_snoc h _).trans (step_giveBack [] index ok))

theorem phaseKept_again (h : after ops = some { hand := some index, lost := [] })
    (phase : CapturePhase) : PhaseKept phase (ops ++ [.giveBack index true]) :=
  phaseKept_idle ((after_snoc h _).trans (step_giveBack [] index true))

end Phases

section File
variable {config : CaptureConfig} {capture next : FileCapture}

/-- The write of a frame to the output file fails in this step. -/
def failsWrite (config : CaptureConfig) (capture : FileCapture) : FileAction → Bool
  | .pass { driver := .dequeued _ _ bytesused, fwrite := fwrite, .. } =>
      bytesused != 0 && !config.saveFrames && capture.output.isSome && !fwrite
  | _ => false

def writingCapture (config : CaptureConfig) :
    TransitionSystem.System (FileCapture × Bool) FileAction :=
  (cameraCaptureToFile config).observe false fun capture action failed =>
    failed || failsWrite config capture action

/-- The loop has returned with a buffer in hand. -/
def KeepsBuffer (capture : FileCapture) : Prop :=
  capture.phase.ended = true ∧
    ∃ index, after capture.ops = some { hand := some index, lost := [] }

theorem KeepsBuffer.not_kept (h : KeepsBuffer capture) : ¬ PhaseKept capture.phase capture.ops := by
  intro hkept
  obtain ⟨hended, index, hheld⟩ := h
  obtain ⟨lost, hgone⟩ := hkept.returned hended
  rw [hheld] at hgone
  cases hgone

theorem finishPass_kept {index : Nat} {bytesused : UInt32} {requeued : Bool}
    (h : after capture.ops = some { hand := some index, lost := [] })
    (hs : capture.finishPass index bytesused requeued = some next) :
    PhaseKept next.phase next.ops := by
  cases requeued with
  | false =>
      cases hs
      exact phaseKept_leave h false (-1)
  | true =>
      simp only [FileCapture.finishPass, Bool.not_true, Bool.false_eq_true, if_false] at hs
      split at hs
      · cases hs
      · cases hs
        exact phaseKept_again h _

theorem record_kept {index : Nat} {memory : List UInt8} {bytesused : UInt32} {pass : FilePass}
    (h : after capture.ops = some { hand := some index, lost := [] })
    (hs : capture.record config index memory bytesused pass = some next) :
    if !config.saveFrames && capture.output.isSome && !pass.fwrite then KeepsBuffer next
    else PhaseKept next.phase next.ops := by
  rw [FileCapture.record] at hs
  cases hsave : config.saveFrames with
  | true =>
      rw [hsave] at hs
      simp only [if_true, Bool.not_true, Bool.false_and, Bool.false_eq_true, if_false] at hs ⊢
      split at hs
      · cases hs
      · generalize writeFrameFile config _ _ _ _ = written at hs
        have hread : after (if written.read then capture.op (.use index) else capture).ops =
            some { hand := some index, lost := [] } := by
          split
          · exact after_use h
          · exact h
        split at hs
        · cases hs
          exact phaseKept_leave hread pass.requeued (-1)
        · refine finishPass_kept ?_ hs
          exact hread
  | false =>
      rw [hsave] at hs
      simp only [Bool.false_eq_true, if_false] at hs
      cases houtput : capture.output with
      | none =>
          rw [houtput] at hs
          exact finishPass_kept h hs
      | some contents =>
          rw [houtput] at hs
          dsimp only at hs
          cases hwrite : pass.fwrite with
          | false =>
              rw [hwrite] at hs
              cases hs
              exact ⟨rfl, index, after_use h⟩
          | true =>
              rw [hwrite] at hs
              exact finishPass_kept (after_use h) hs

theorem pass_kept {pass : FilePass} (h : after capture.ops = some Holding.none)
    (hs : capture.pass config pass = some next) :
    if failsWrite config capture (.pass pass) then KeepsBuffer next
    else PhaseKept next.phase next.ops := by
  obtain ⟨driver, fopen, fwrite, requeued⟩ := pass
  cases driver with
  | selectFailed | timeout | dequeueFailed =>
      cases hs
      exact phaseKept_idle h
  | dequeued index memory bytesused =>
      simp only [FileCapture.pass] at hs
      have htaken : after (capture.op (.take index)).ops =
          some { hand := some index, lost := [] } := after_take h
      cases hempty : bytesused != 0 with
      | false =>
          have hzero : bytesused = 0 := by simpa using hempty
          rw [if_pos hzero] at hs
          simp only [failsWrite, hempty, Bool.false_and, Bool.false_eq_true, if_false]
          cases requeued with
          | true =>
              cases hs
              exact phaseKept_again htaken _
          | false =>
              cases hs
              exact phaseKept_leave htaken false (-1)
      | true =>
          have hnonzero : ¬ bytesused = 0 := by simpa using hempty
          rw [if_neg hnonzero] at hs
          simp only [failsWrite, hempty, Bool.true_and]
          exact record_kept htaken hs

theorem file_step_kept {action : FileAction}
    (hg : capture.phase.idle = true → after capture.ops = some Holding.none)
    (hs : capture.step config action = some next) :
    capture.phase.idle = true ∧
      if failsWrite config capture action then KeepsBuffer next
      else PhaseKept next.phase next.ops := by
  cases action with
  | opened ok =>
      simp only [FileCapture.step] at hs
      split at hs
      · cases hs
      · rename_i hstart
        have hphase : capture.phase = .start :=
          Classical.byContradiction fun hother => hstart (Or.inl hother)
        have hidle : capture.phase.idle = true := by rw [hphase]; rfl
        refine ⟨hidle, ?_⟩
        have hnone := hg hidle
        split at hs
        · cases hs
          exact phaseKept_idle hnone
        · split at hs
          · cases hs
            exact phaseKept_idle hnone
          · split at hs <;>
              · cases hs
                exact phaseKept_idle hnone
  | pass pass =>
      simp only [FileCapture.step] at hs
      split at hs
      · rename_i hloop
        have hidle : capture.phase.idle = true := by rw [hloop.1]; rfl
        exact ⟨hidle, pass_kept (hg hidle) hs⟩
      · cases hs
  | finish =>
      simp only [FileCapture.step] at hs
      split at hs
      · rename_i hloop
        have hidle : capture.phase.idle = true := by rw [hloop.1]; rfl
        cases hs
        exact ⟨hidle, phaseKept_idle (hg hidle)⟩
      · cases hs

/-- In every run of `camera_capture_to_file` the buffers are kept as long as no
write to the output file fails. -/
theorem file_buffersKept_iff {failed : Bool}
    (h : TransitionSystem.Reachable (writingCapture config) (capture, failed)) :
    PhaseKept capture.phase capture.ops ↔ failed = false := by
  have hinv : if failed then KeepsBuffer capture else PhaseKept capture.phase capture.ops := by
    refine TransitionSystem.Reachable.observed_invariant
      (I := fun capture failed =>
        if failed then KeepsBuffer capture else PhaseKept capture.phase capture.ops)
      (phaseKept_idle after_nil) ?_ h
    intro capture next failed action _ hg hs
    cases failed with
    | true =>
        have hbusy := CapturePhase.idle_of_ended hg.1
        have hidle := (file_step_kept (fun hidle => absurd hidle (by simp [hbusy])) hs).1
        rw [hbusy] at hidle
        cases hidle
    | false => exact (file_step_kept hg.idle hs).2
  cases failed with
  | true => exact ⟨fun hkept => absurd hkept hinv.not_kept, nofun⟩
  | false => exact ⟨fun _ => rfl, fun _ => hinv⟩

end File

section Framebuffer
variable {config : CameraConfig} {capture next : FramebufferCapture}

theorem requeue_kept {index : Nat} (h : after capture.ops = some { hand := some index, lost := [] })
    (requeued : Bool) :
    PhaseKept (capture.requeue index requeued).phase (capture.requeue index requeued).ops := by
  cases requeued with
  | true => exact phaseKept_again h _
  | false => exact phaseKept_leave h false (-1)

theorem display_kept {pixels : List UInt16} {index : Nat} {pass : FramebufferPass}
    (h : after capture.ops = some { hand := some index, lost := [] })
    (hs : capture.display pixels index pass = some next) : PhaseKept next.phase next.ops := by
  simp only [FramebufferCapture.display] at hs
  split at hs
  · cases hs
    exact phaseKept_leave h pass.requeued (-1)
  · split at hs
    · cases hs
    · cases hs
      apply requeue_kept
      exact h

theorem framebuffer_pass_kept {pass : FramebufferPass} (h : after capture.ops = some Holding.none)
    (hs : capture.pass config pass = some next) : PhaseKept next.phase next.ops := by
  obtain ⟨driver, decoded, draw, requeued⟩ := pass
  cases driver with
  | selectFailed | timeout | dequeueFailed =>
      cases hs
      exact phaseKept_idle h
  | dequeued index memory bytesused =>
      have htaken : after (capture.op (.take index)).ops =
          some { hand := some index, lost := [] } := after_take h
      simp only [FramebufferCapture.pass] at hs
      split at hs
      · cases hs
        apply requeue_kept
        exact htaken
      · split at hs
        · refine display_kept ?_ hs
          exact after_use htaken
        · cases decoded with
          | none =>
              cases hs
              exact phaseKept_leave (after_use htaken) requeued (-1)
          | some picture => exact display_kept (after_use htaken) hs

/-- Every exit of `camera_capture_to_framebuffer` gives its buffer back. -/
theorem framebuffer_buffersKept
    (h : TransitionSystem.Reachable (cameraCaptureToFramebuffer config) capture) :
    PhaseKept capture.phase capture.ops := by
  refine TransitionSystem.Reachable.invariant
    (I := fun capture => PhaseKept capture.phase capture.ops) (phaseKept_idle after_nil) ?_ h
  intro capture next action _ hg hs
  cases action with
  | opened malloc display =>
      simp only [cameraCaptureToFramebuffer, FramebufferCapture.step] at hs
      split at hs
      · cases hs
      · rename_i hstart
        have hphase : capture.phase = .start := Classical.byContradiction hstart
        have hnone := hg.idle (by rw [hphase]; rfl)
        split at hs
        · cases hs
          exact phaseKept_idle hnone
        · split at hs
          · split at hs <;>
              · cases hs
                exact phaseKept_idle hnone
          · split at hs <;>
              · cases hs
                exact phaseKept_idle hnone
  | pass pass =>
      simp only [cameraCaptureToFramebuffer, FramebufferCapture.step] at hs
      split at hs
      · rename_i hloop
        exact framebuffer_pass_kept (hg.idle (by rw [hloop.1]; rfl)) hs
      · cases hs
  | finish =>
      simp only [cameraCaptureToFramebuffer, FramebufferCapture.step] at hs
      split at hs
      · rename_i hloop
        cases hs
        exact phaseKept_idle (hg.idle (by rw [hloop.1]; rfl))
      · cases hs

end Framebuffer

section Http
variable {config : CameraConfig} {g g' : Gateway}

/-- The buffer that the capture thread dequeued in its current pass, and what it has
done with the buffers so far. -/
structure BufferLog where
  buf : Option Nat
  ops : List (Op Nat)

def BufferLog.empty : BufferLog := { buf := none, ops := [] }

def BufferLog.op (log : BufferLog) (op : Op Nat) : BufferLog := { log with ops := log.ops ++ [op] }

def BufferLog.reads (log : BufferLog) (frame : Frame) : BufferLog :=
  match frame.data with
  | none => log
  | some buffer => log.op (.use buffer.address)

/-- DQBUF fills the local `buf`, which QBUF is called with; `frame_copy_alloc`, the
decoder and the snapshot's `fwrite` read the mapped memory. -/
def watchCaptureBuffers (config : CameraConfig) (log : BufferLog) :
    CaptureState → CaptureEvent → BufferLog
  | .dequeue, .dequeued buffer _ _ _ =>
      { buf := some buffer.address, ops := log.ops ++ [.take buffer.address] }
  | .publish frame, .copied malloc => if malloc.isSome then log.reads frame else log
  | .draw frame, .decoded _ _ =>
      if config.fbPreview || config.motionDetect then log.reads frame else log
  | .saveSnapshot frame eventId, .written _ =>
      if (snapshotPath config eventId).isSome then log.reads frame else log
  | .requeue, .requeued ok =>
      match log.buf with
      | none => log
      | some index => log.op (.giveBack index ok)
  | _, _ => log

def watchBuffers (config : CameraConfig) (g : Gateway) (action : Action) (log : BufferLog) :
    BufferLog :=
  match action with
  | .capture event => watchCaptureBuffers config log g.capture event
  | _ => log

def bufferGateway (config : CameraConfig) :
    TransitionSystem.System (Gateway × BufferLog) Action :=
  (gateway config).observe BufferLog.empty (watchBuffers config)

/-- The states in which no buffer is dequeued. -/
def CaptureState.idle : CaptureState → Bool
  | .absent | .head | .select | .dequeue => true
  | _ => false

def CaptureState.exited : CaptureState → Bool
  | .stopping | .ended => true
  | _ => false

def CaptureState.current : CaptureState → Option Frame
  | .publish frame | .draw frame | .show frame _ _ | .readEventId frame | .saveSnapshot frame _
  | .countLcd frame _ | .countFrame frame => some frame
  | _ => none

/-- What the history says in each state of the capture thread. -/
structure HttpKept (state : CaptureState) (log : BufferLog) : Prop where
  idle : state.idle = true → after log.ops = some Holding.none
  exited : state.exited = true → ∃ lost, after log.ops = some { hand := none, lost := lost }
  current : ∀ frame, state.current = some frame → ∃ buffer, frame.data = some buffer ∧
    log.buf = some buffer.address ∧
    after log.ops = some { hand := some buffer.address, lost := [] }
  requeue : state = .requeue → ∃ index, log.buf = some index ∧
    after log.ops = some { hand := some index, lost := [] }

theorem httpKept_idle {state : CaptureState} {log : BufferLog} (hidle : state.idle = true)
    (h : after log.ops = some Holding.none) : HttpKept state log := by
  cases state with
  | absent | head | select | dequeue =>
      exact ⟨fun _ => h, fun hexited => absurd hexited Bool.false_ne_true, nofun, nofun⟩
  | _ => cases hidle

theorem httpKept_exited {state : CaptureState} {log : BufferLog} {lost : List Nat}
    (hexited : state.exited = true) (h : after log.ops = some { hand := none, lost := lost }) :
    HttpKept state log := by
  cases state with
  | stopping | ended =>
      exact ⟨fun hidle => absurd hidle Bool.false_ne_true, fun _ => ⟨lost, h⟩, nofun, nofun⟩
  | _ => cases hexited

theorem httpKept_current {state : CaptureState} {log : BufferLog} {frame : Frame} {buffer : Buffer}
    (hstate : state.current = some frame) (hdata : frame.data = some buffer)
    (hbuf : log.buf = some buffer.address)
    (h : after log.ops = some { hand := some buffer.address, lost := [] }) :
    HttpKept state log := by
  have current : ∀ other, state.current = some other → ∃ buffer, other.data = some buffer ∧
      log.buf = some buffer.address ∧
      after log.ops = some { hand := some buffer.address, lost := [] } := by
    intro other hother
    cases hstate.symm.trans hother
    exact ⟨buffer, hdata, hbuf, h⟩
  cases state with
  | publish _ | draw _ | «show» _ _ _ | readEventId _ | saveSnapshot _ _ | countLcd _ _
  | countFrame _ =>
      exact ⟨fun hidle => absurd hidle Bool.false_ne_true,
        fun hexited => absurd hexited Bool.false_ne_true, current, nofun⟩
  | _ => cases hstate

theorem httpKept_requeue {log : BufferLog} {index : Nat} (hbuf : log.buf = some index)
    (h : after log.ops = some { hand := some index, lost := [] }) : HttpKept .requeue log :=
  ⟨fun hidle => absurd hidle Bool.false_ne_true, fun hexited => absurd hexited Bool.false_ne_true,
    nofun, fun _ => ⟨index, hbuf, h⟩⟩

/-- A read of the current frame, or none. -/
theorem reads_kept {log : BufferLog} {frame : Frame} {buffer : Buffer}
    (hdata : frame.data = some buffer) (hbuf : log.buf = some buffer.address)
    (h : after log.ops = some { hand := some buffer.address, lost := [] }) (read : Bool) :
    (if read then log.reads frame else log).buf = some buffer.address ∧
      after (if read then log.reads frame else log).ops =
        some { hand := some buffer.address, lost := [] } := by
  cases read with
  | false => exact ⟨hbuf, h⟩
  | true =>
      rw [if_pos rfl, BufferLog.reads, hdata]
      exact ⟨hbuf, after_use h⟩

theorem drawStep_current (service : HttpService) (frame : Frame) (picture : Option Picture)
    (malloc : Bool) :
    (drawStep config service frame picture malloc).next.current = some frame := by
  fun_cases drawStep config service frame picture malloc <;> rfl

theorem captureStep_kept {service : HttpService} {state : CaptureState} {event : CaptureEvent}
    {step : CaptureStep} {log : BufferLog} (h : HttpKept state log)
    (hs : captureStep config service state event = some step) :
    HttpKept step.next (watchCaptureBuffers config log state event) := by
  have idle : ∀ {next : CaptureState}, state.idle = true → next.idle = true →
      watchCaptureBuffers config log state event = log →
      HttpKept next (watchCaptureBuffers config log state event) := by
    intro next hidle hnext hlog
    rw [hlog]
    exact httpKept_idle hnext (h.idle hidle)
  have current : ∀ {next : CaptureState} {frame : Frame} (read : Bool),
      state.current = some frame → next.current = some frame ∨ next = .requeue →
      watchCaptureBuffers config log state event = (if read then log.reads frame else log) →
      HttpKept next (watchCaptureBuffers config log state event) := by
    intro next frame read hstate hnext hlog
    obtain ⟨buffer, hdata, hbuf, hheld⟩ := h.current frame hstate
    obtain ⟨hbuf', hheld'⟩ := reads_kept hdata hbuf hheld read
    rw [hlog]
    cases hnext with
    | inl hnext => exact httpKept_current hnext hdata hbuf' hheld'
    | inr hnext =>
        rw [hnext]
        exact httpKept_requeue hbuf' hheld'
  revert hs h idle current
  fun_cases captureStep config service state event
  case case1 =>
      intro h hs idle _
      split at hs
      · cases hs
        exact httpKept_exited rfl (h.idle rfl)
      · cases hs
        exact idle rfl rfl rfl
  case case2 | case5 =>
      intro h hs _ _
      cases hs
      exact httpKept_exited rfl (h.idle rfl)
  case case3 | case4 =>
      intro _ hs idle _
      cases hs
      exact idle rfl rfl rfl
  case case6 =>
      intro h hs _ _
      cases hs
      exact httpKept_requeue rfl (after_take (h.idle rfl))
  case case7 =>
      intro h hs _ _
      cases hs
      exact httpKept_current rfl rfl rfl (after_take (h.idle rfl))
  case case8 frame malloc updated _ =>
      intro _ hs _ current
      cases hs
      exact current malloc.isSome rfl (Or.inr rfl) rfl
  case case9 frame malloc updated _ =>
      intro _ hs _ current
      cases hs
      exact current malloc.isSome rfl (Or.inl rfl) rfl
  case case10 frame picture malloc =>
      intro _ hs _ current
      cases hs
      exact current (config.fbPreview || config.motionDetect) rfl
        (Or.inl (drawStep_current service frame picture malloc)) rfl
  case case15 frame eventId calls stored =>
      intro _ hs _ current
      cases hs
      exact current (snapshotPath config eventId).isSome rfl (Or.inl rfl) rfl
  case case17 =>
      intro _ hs _ current
      cases hs
      exact current false rfl (Or.inr rfl) rfl
  case case18 ok =>
      intro h hs _ _
      obtain ⟨index, hbuf, hheld⟩ := h.requeue rfl
      have hlog : watchCaptureBuffers config log .requeue (.requeued ok) =
          log.op (.giveBack index ok) := by
        simp only [watchCaptureBuffers, hbuf]
      have hgiven : after (log.op (.giveBack index ok)).ops = _ :=
        (after_snoc hheld _).trans (step_giveBack [] index ok)
      rw [hlog]
      cases ok with
      | true =>
          cases hs
          exact httpKept_idle rfl hgiven
      | false =>
          cases hs
          exact httpKept_exited rfl hgiven
  case case19 =>
      intro h hs _ _
      cases hs
      obtain ⟨lost, hgone⟩ := h.exited rfl
      exact httpKept_exited rfl hgone
  case case20 =>
      intro _ hs _ _
      cases hs
  all_goals
    intro _ hs _ current
    cases hs
    exact current false rfl (Or.inl rfl) rfl

theorem HttpKept.buffersKept {state : CaptureState} {log : BufferLog} (h : HttpKept state log) :
    BuffersKept (state.idle = true) (state.exited = true) log.ops := by
  refine ⟨?_, h.idle, h.exited⟩
  cases state with
  | absent | head | select | dequeue => exact ⟨_, h.idle rfl⟩
  | stopping | ended =>
      obtain ⟨lost, hgone⟩ := h.exited rfl
      exact ⟨_, hgone⟩
  | requeue =>
      obtain ⟨index, -, hheld⟩ := h.requeue rfl
      exact ⟨_, hheld⟩
  | publish frame | draw frame | «show» frame _ _ | readEventId frame | saveSnapshot frame _
  | countLcd frame _ | countFrame frame =>
      obtain ⟨buffer, -, -, hheld⟩ := h.current frame rfl
      exact ⟨_, hheld⟩

/-- Every exit of `http_service_capture_thread` gives its buffer back. -/
theorem http_buffersKept {log : BufferLog}
    (h : TransitionSystem.Reachable (bufferGateway config) (g, log)) :
    BuffersKept (g.capture.idle = true) (g.capture.exited = true) log.ops := by
  suffices hkept : HttpKept g.capture log from hkept.buffersKept
  refine TransitionSystem.Reachable.observed_invariant
    (I := fun g log => HttpKept g.capture log) (httpKept_idle rfl after_nil) ?_ h
  intro g g' log action hreach hg hs
  cases action with
  | main ok =>
      show HttpKept g'.capture log
      cases mainStep_capture hs with
      | inl hsame =>
          rw [hsame]
          exact hg
      | inr hcreate =>
          have habsent := (reachable_setup hreach (Or.inr (Or.inr hcreate.1))).1
          rw [habsent] at hg
          rw [hcreate.2]
          exact httpKept_idle rfl (hg.idle rfl)
  | capture event =>
      obtain ⟨step, hstep, rfl⟩ := Option.map_eq_some_iff.mp hs
      exact captureStep_kept hg hstep
  | client i event =>
      show HttpKept g'.capture log
      rw [(stepClient_frame hs).capture]
      exact hg
  | peer event =>
      obtain ⟨peers, backlog, rfl⟩ := stepPeer_frame hs
      exact hg

end Http

/-- The three capture loops and the V4L2 buffers. The preview loop and the capture
thread keep the discipline in every run; `camera_capture_to_file` keeps it in exactly
the runs in which no write of a frame to the output file fails. -/
theorem buffer_ownership_iff (config : CaptureConfig) :
    (∀ (capture : FileCapture) (failed : Bool),
      TransitionSystem.Reachable (writingCapture config) (capture, failed) →
      (BuffersKept (capture.phase.idle = true) (capture.phase.ended = true) capture.ops ↔
        failed = false)) ∧
    (∀ capture : FramebufferCapture,
      TransitionSystem.Reachable (cameraCaptureToFramebuffer config.toCameraConfig) capture →
      BuffersKept (capture.phase.idle = true) (capture.phase.ended = true) capture.ops) ∧
    (∀ (g : Gateway) (log : BufferLog),
      TransitionSystem.Reachable (bufferGateway config.toCameraConfig) (g, log) →
      BuffersKept (g.capture.idle = true) (g.capture.exited = true) log.ops) := by
  refine ⟨?_, ?_, ?_⟩
  · intro capture failed h
    exact file_buffersKept_iff h
  · intro capture h
    exact framebuffer_buffersKept h
  · intro g log h
    exact http_buffersKept h

def fileConfig : CaptureConfig :=
  { toCameraConfig := { streamConfig with frameCount := 2, pixelFormat := v4l2PixFmtYuyv }
    output := ascii "output.yuv", frameDir := [], noSave := false, saveFrames := false
    httpMjpeg := false }

def filePass (index : Nat) (fwrite requeued : Bool) : FileAction :=
  .pass
    { driver := .dequeued index [0x10, 0x80] 2, fopen := true, fwrite := fwrite
      requeued := requeued }

/-- A frame is written and its buffer cannot be requeued. -/
theorem buffer_ownership_iff_failedRequeue :
    ∃ capture, TransitionSystem.Reachable (writingCapture fileConfig) (capture, false) ∧
      (capture.phase = .returned (-1) ∧
        after capture.ops = some { hand := none, lost := [1] }) ∧
      (BuffersKept (capture.phase.idle = true) (capture.phase.ended = true) capture.ops ↔
        false = false) := by
  have hrun : (TransitionSystem.exec (writingCapture fileConfig) (FileCapture.init, false)
      [.opened true, filePass 0 true true, filePass 1 true false]).any
      (fun s => decide (s.2 = false ∧ s.1.phase = .returned (-1) ∧
        after s.1.ops = some { hand := none, lost := [1] })) = true := by
    decide +kernel
  obtain ⟨⟨capture, failed⟩, hexec, hs⟩ := TransitionSystem.exists_exec_of_any hrun
  have hreach := (TransitionSystem.Reachable.init (writingCapture fileConfig)).exec hexec
  obtain ⟨hfailed, hstate⟩ := of_decide_eq_true hs
  obtain rfl : failed = false := hfailed
  exact ⟨capture, hreach, hstate, (buffer_ownership_iff fileConfig).1 capture false hreach⟩

/-- After a failing write to the output file the buffer is not requeued. -/
theorem buffer_kept_by_failed_write :
    ¬ ∀ (config : CaptureConfig) (capture : FileCapture),
      TransitionSystem.Reachable (cameraCaptureToFile config) capture →
      BuffersKept (capture.phase.idle = true) (capture.phase.ended = true) capture.ops := by
  intro claim
  have hrun : (TransitionSystem.exec (cameraCaptureToFile fileConfig) FileCapture.init
      [.opened true, filePass 0 false true]).any
      (fun capture => decide (capture.phase = .returned (-1) ∧
        after capture.ops = some { hand := some 0, lost := [] })) = true := by
    decide +kernel
  obtain ⟨capture, hexec, hcapture⟩ := TransitionSystem.exists_exec_of_any hrun
  have hreach := (TransitionSystem.Reachable.init (cameraCaptureToFile fileConfig)).exec hexec
  obtain ⟨hphase, hheld⟩ := of_decide_eq_true hcapture
  have hkeeps : KeepsBuffer capture := ⟨by rw [hphase]; rfl, 0, hheld⟩
  exact hkeeps.not_kept (claim fileConfig capture hreach)

end CameraGateway
