import CameraGateway.Core.Stdio
import CameraGateway.Metatheory.FileRecording

/-!
What the buffers of stdio change. The results of the writers and the runs of the capture are
those without buffers; the streams have been given what the capture counts as written; and as
long as no file that is closed loses a part of its buffer, the file system ends up with the
files of the capture.
-/
namespace CameraGateway
open BufferedStream (Stream)

section Calls
variable {data : List UInt8} {calls : FileCalls}

theorem storeFrameFile_written {config : CaptureConfig} {frameNumber : Nat} {path : List UInt8}
    (hpath : framePath config frameNumber = some path) (hwritten : calls.written = true) :
    storeFrameFile config data frameNumber calls =
      { ret := 0, stored := some (path, calls.accepted data) } := by
  obtain ⟨hopen, hok⟩ := Bool.and_eq_true_iff.mp hwritten
  rw [storeFrameFile, hpath, hopen, hok]
  rfl

theorem storeFrameFile_failed {config : CaptureConfig} {frameNumber : Nat} {path : List UInt8}
    (hpath : framePath config frameNumber = some path) (hfailed : calls.written = false) :
    (storeFrameFile config data frameNumber calls).ret = -1 := by
  rw [storeFrameFile, hpath]
  cases Bool.and_eq_false_iff.mp hfailed with
  | inl hopen => rw [hopen]; rfl
  | inr hok => cases hopen : calls.fopen <;> simp [hok]

theorem storeFrameFile_ret (config : CaptureConfig) (data : List UInt8) (frameNumber : Nat)
    (calls : FileCalls) :
    (storeFrameFile config data frameNumber calls).ret =
      (writeFrameFile config data frameNumber calls.fopen calls.fwrite.ok).ret := by
  rw [storeFrameFile, writeFrameFile]
  cases framePath config frameNumber with
  | none => rfl
  | some path => cases calls.fopen <;> cases calls.fwrite.ok <;> rfl

end Calls

section Runs
variable {config : CaptureConfig} {s t : StdioCapture}

/-- The frames with data that the driver has handed out, and whether every file that the run
has closed after writing it has all of it. -/
structure StdioWatch where
  frames : List DequeuedFrame
  flushed : Bool

/-- What is written without an error and closed in this step is in its file. -/
def closesWhole (config : CaptureConfig) (s : StdioCapture) : StdioAction → Bool
  | .opened _ => true
  | .pass pass =>
      match dequeuedFrame (fileAction (.pass pass)) with
      | none => true
      | some frame => !config.saveFrames || pass.calls.flushes frame.bytes
  | .finish fclose => s.stream.all fun stream => decide (stream.pending.length ≤ fclose)

def watchStdio (config : CaptureConfig) (s : StdioCapture) (action : StdioAction)
    (watch : StdioWatch) : StdioWatch :=
  { frames := watch.frames ++ (dequeuedFrame (fileAction action)).toList
    flushed := watch.flushed && closesWhole config s action }

def watchedCapture (config : CaptureConfig) :
    TransitionSystem.System (StdioCapture × StdioWatch) StdioAction :=
  (stdioCapture config).observe { frames := [], flushed := true } (watchStdio config)

section Pass
variable {capture next : FileCapture}

theorem writeFrameFile_ok {data : List UInt8} {frameNumber : Nat} {fopen fwrite : Bool}
    (h : (writeFrameFile config data frameNumber fopen fwrite).ret = 0) :
    ∃ path, framePath config frameNumber = some path ∧ fopen = true ∧ fwrite = true := by
  rw [writeFrameFile] at h
  cases hpath : framePath config frameNumber with
  | none =>
      rw [hpath] at h
      cases h
  | some path =>
      rw [hpath] at h
      cases fopen with
      | false => cases h
      | true =>
          cases fwrite with
          | false => cases h
          | true => exact ⟨path, rfl, rfl, rfl⟩

/-- What a pass that stays in the loop has written of its frame. -/
structure FrameWritten (config : CaptureConfig) (capture next : FileCapture)
    (frame : DequeuedFrame) (fopen fwrite : Bool) : Prop where
  saved : config.saveFrames = true → fopen = true ∧ fwrite = true ∧
    next.output = capture.output ∧ ∃ path, framePath config (capture.count + 1) = some path ∧
      next.files = capture.files ++ [(path, frame.bytes)]
  output : ¬ config.saveFrames = true → next.files = capture.files ∧
    next.output = capture.output.map fun contents => contents ++ frame.bytes

theorem record_written {index : Nat} {memory : List UInt8} {bytesused : UInt32} {pass : FilePass}
    (hs : capture.record config index memory bytesused pass = some next) :
    next.phase = .returned (-1) ∨ next.phase = capture.phase ∧
      FrameWritten config capture next
        { bytes := memory.take bytesused.toNat, bytesused := bytesused } pass.fopen
        pass.fwrite := by
  rw [FileCapture.record] at hs
  by_cases hsave : config.saveFrames = true
  · rw [if_pos hsave] at hs
    split at hs
    · cases hs
    · dsimp only at hs
      split at hs
      · cases hs
        exact .inl rfl
      · rename_i hret
        obtain ⟨path, hpath, hopen, hwrite⟩ := writeFrameFile_ok (Decidable.not_not.mp hret)
        refine (finishPass_count hs).imp_right fun hcounted => ?_
        obtain ⟨-, hphase, -, -, houtput, hfiles⟩ := hcounted
        simp only [writeFrameFile, hpath, hopen, hwrite, Bool.not_true, Bool.false_eq_true,
          if_false, if_true, Option.toList_some] at hphase houtput hfiles
        exact ⟨hphase, fun _ => ⟨hopen, hwrite, houtput, path, hpath, hfiles⟩,
          fun hunsaved => absurd hsave hunsaved⟩
  · rw [if_neg hsave] at hs
    split at hs
    · rename_i hnone
      refine (finishPass_count hs).imp_right fun hcounted => ?_
      obtain ⟨-, hphase, -, -, houtput, hfiles⟩ := hcounted
      refine ⟨hphase, fun h => absurd h hsave, fun _ => ⟨hfiles, ?_⟩⟩
      rw [houtput, hnone]
      rfl
    · rename_i contents hsome
      split at hs
      · cases hs
        exact .inl rfl
      · refine (finishPass_count hs).imp_right fun hcounted => ?_
        obtain ⟨-, hphase, -, -, houtput, hfiles⟩ := hcounted
        refine ⟨hphase, fun h => absurd h hsave, fun _ => ⟨hfiles, ?_⟩⟩
        rw [houtput, hsome]
        rfl

/-- A pass leaves the loop, or it writes the frame that it has dequeued, if there is one. -/
theorem pass_written {pass : FilePass} (hs : capture.pass config pass = some next) :
    next.phase = .returned (-1) ∨ next.phase = capture.phase ∧
      (dequeuedFrame (.pass pass) = none →
        next.files = capture.files ∧ next.output = capture.output) ∧
      ∀ frame, dequeuedFrame (.pass pass) = some frame →
        FrameWritten config capture next frame pass.fopen pass.fwrite := by
  cases pass with
  | mk driver fopen fwrite requeued =>
      have nothing : ∀ {found : Option DequeuedFrame} {p : DequeuedFrame → Prop}, found = none →
          ∀ frame, found = some frame → p frame := by
        intro found p hnone frame hframe
        rw [hnone] at hframe
        cases hframe
      cases driver with
      | selectFailed | dequeueFailed =>
          cases hs
          exact .inl rfl
      | timeout =>
          cases hs
          exact .inr ⟨rfl, fun _ => ⟨rfl, rfl⟩, nothing rfl⟩
      | dequeued index memory bytesused =>
          simp only [FileCapture.pass] at hs
          by_cases hempty : bytesused = 0
          · rw [if_pos hempty, Option.some.injEq] at hs
            subst hs
            cases requeued with
            | false => exact .inl rfl
            | true => exact .inr ⟨rfl, fun _ => ⟨rfl, rfl⟩, nothing (if_pos hempty)⟩
          · rw [if_neg hempty] at hs
            refine (record_written hs).imp_right fun hwritten => ⟨hwritten.1, ?_, ?_⟩
            · intro hnone
              rw [dequeuedFrame, if_neg hempty] at hnone
              cases hnone
            · intro frame hframe
              rw [dequeuedFrame, if_neg hempty, Option.some.injEq] at hframe
              subst hframe
              exact ⟨hwritten.2.saved, hwritten.2.output⟩

end Pass

section Step

theorem writePass_eq (config : CaptureConfig) (s : StdioCapture) (pass : StdioPass) :
    s.writePass config pass = (dequeuedFrame (fileAction (.pass pass))).elim s
      fun frame => s.write config frame.bytes pass.calls := by
  cases pass with
  | mk driver calls requeued =>
      cases driver with
      | dequeued index memory bytesused =>
          simp only [StdioCapture.writePass, fileAction, StdioPass.toFilePass, dequeuedFrame]
          split <;> rfl
      | _ => rfl

theorem out_loop (hphase : s.capture.phase = .loop) (fclose : Nat) : s.out config fclose = s := by
  rw [StdioCapture.out, hphase]

theorem out_capture (config : CaptureConfig) (s : StdioCapture) (fclose : Nat) :
    (s.out config fclose).capture = s.capture := by
  rw [StdioCapture.out]
  split <;> rfl

/-- The buffers are beside the capture: its runs are those without them. -/
theorem stdio_capture_reachable (h : TransitionSystem.Reachable (stdioCapture config) s) :
    TransitionSystem.Reachable (cameraCaptureToFile config) s.capture := by
  refine TransitionSystem.Reachable.invariant
    (I := fun s => TransitionSystem.Reachable (cameraCaptureToFile config) s.capture)
    (TransitionSystem.Reachable.init _) ?_ h
  intro s t action _ hbefore hs
  obtain ⟨next, hstep, rfl⟩ := Option.map_eq_some_iff.mp hs
  have hcapture : (s.after config next action).capture = next := by
    cases action with
    | opened ok => rfl
    | pass pass => exact out_capture config _ _
    | finish fclose => exact out_capture config _ _
  rw [hcapture]
  exact hbefore.step (fileAction action) hstep

end Step

section Agreement
variable {watch : StdioWatch} {next : FileCapture}

/-- The stream has been given what the capture without buffers counts as written, and without
losses the closed files are its files. -/
structure StreamAgrees (s : StdioCapture) (flushed : Bool) : Prop where
  stream : s.stream.map Stream.content = s.capture.output
  stored : flushed = true → s.stored = s.capture.files

theorem opened_agrees {next : FileCapture} (ok flushed : Bool) (hfiles : next.files = [])
    (houtput : next.output = if config.saveFrames || config.noSave then none else some []) :
    StreamAgrees (StdioCapture.init.after config next (.opened ok)) flushed := by
  refine ⟨?_, fun _ => hfiles.symm⟩
  show (next.output.map fun _ => Stream.empty).map Stream.content = next.output
  rw [houtput]
  split <;> rfl

theorem write_agrees {frame : DequeuedFrame} {calls : FileCalls} {flushed : Bool}
    (h : StreamAgrees s flushed)
    (hwritten : FrameWritten config s.capture next frame calls.fopen calls.fwrite.ok) :
    StreamAgrees { s.write config frame.bytes calls with capture := next }
      (flushed && (!config.saveFrames || calls.flushes frame.bytes)) := by
  rw [StdioCapture.write]
  by_cases hsave : config.saveFrames = true
  · obtain ⟨hopen, hok, houtput, path, hpath, hfiles⟩ := hwritten.saved hsave
    have hcalls : calls.written = true := Bool.and_eq_true_iff.mpr ⟨hopen, hok⟩
    rw [if_pos hsave, hsave, storeFrameFile_written hpath hcalls]
    refine ⟨h.stream.trans houtput.symm, ?_⟩
    intro hflushed
    rw [Bool.not_true, Bool.false_or, Bool.and_eq_true, FileCalls.flushes_iff hcalls]
      at hflushed
    rw [hfiles, Option.toList_some, h.stored hflushed.1, hflushed.2]
  · obtain ⟨hfiles, houtput⟩ := hwritten.output hsave
    rw [if_neg hsave]
    constructor
    · show (s.stream.map fun stream => stream.write frame.bytes calls.fwrite.taken).map
        Stream.content = next.output
      rw [houtput, ← h.stream, Option.map_map, Option.map_map]
      congr 1
      funext stream
      exact Stream.content_write stream frame.bytes calls.fwrite.taken
    · intro hflushed
      rw [hfiles]
      exact h.stored (Bool.and_eq_true_iff.mp hflushed).1

theorem pass_agrees {pass : StdioPass} (h : StreamAgrees s watch.flushed)
    (hloop : next.phase = .loop)
    (hnone : dequeuedFrame (fileAction (.pass pass)) = none →
      next.files = s.capture.files ∧ next.output = s.capture.output)
    (hwritten : ∀ frame, dequeuedFrame (fileAction (.pass pass)) = some frame →
      FrameWritten config s.capture next frame pass.calls.fopen pass.calls.fwrite.ok) :
    StreamAgrees (s.after config next (.pass pass))
      (watchStdio config s (.pass pass) watch).flushed := by
  rw [StdioCapture.after, out_loop hloop, writePass_eq, watchStdio, closesWhole]
  cases hframe : dequeuedFrame (fileAction (.pass pass)) with
  | none =>
      obtain ⟨hfiles, houtput⟩ := hnone hframe
      exact ⟨h.stream.trans houtput.symm, fun hflushed => by
        rw [hfiles]
        exact h.stored (Bool.and_eq_true_iff.mp hflushed).1⟩
  | some frame => exact write_agrees h (hwritten frame hframe)

/-- Closing the output file leaves it with all that was written, unless bytes are lost. -/
theorem finish_agrees {fclose : Nat} (h : StreamAgrees s watch.flushed)
    (hfiles : next.files = s.capture.files) (houtput : next.output = s.capture.output)
    {result : Int} (hphase : next.phase = .returned result)
    (hflushed : (watch.flushed && closesWhole config s (.finish fclose)) = true) :
    (s.after config next (.finish fclose)).stored = next.files ++
      (next.output.map fun contents => (config.output, contents)).toList := by
  obtain ⟨hbefore, hcloses⟩ := Bool.and_eq_true_iff.mp hflushed
  rw [hfiles, houtput, ← h.stored hbefore, ← h.stream, StdioCapture.after, StdioCapture.out]
  rw [closesWhole] at hcloses
  cases hstream : s.stream with
  | none => simp [hphase]
  | some stream =>
      rw [hstream, Option.all_some, decide_eq_true_eq] at hcloses
      have hwhole := (Stream.flush_accepted_iff stream fclose).mpr hcloses
      simp [hphase, hwhole]

structure StdioRefines (config : CaptureConfig) (s : StdioCapture) (flushed : Bool) : Prop where
  start : s.capture.phase = .start → s = StdioCapture.init
  loop : s.capture.phase = .loop → StreamAgrees s flushed
  success : s.capture.phase = .returned 0 → flushed = true →
    s.stored = s.capture.files ++
      (s.capture.output.map fun contents => (config.output, contents)).toList

theorem stdioRefines_failed {flushed : Bool} (hphase : s.capture.phase = .returned (-1)) :
    StdioRefines config s flushed := by
  constructor <;> intro h <;> rw [hphase] at h <;> cases h

theorem stdioRefines_loop {flushed : Bool} (hphase : s.capture.phase = .loop)
    (h : StreamAgrees s flushed) : StdioRefines config s flushed := by
  constructor
  · intro hstart
    rw [hphase] at hstart
    cases hstart
  · exact fun _ => h
  · intro hreturned
    rw [hphase] at hreturned
    cases hreturned

theorem stdioRefines_step {action : StdioAction} (h : StdioRefines config s watch.flushed)
    (hs : s.step config action = some t) :
    StdioRefines config t (watchStdio config s action watch).flushed := by
  cases action with
  | opened ok =>
      obtain ⟨next, hstep, rfl⟩ := Option.map_eq_some_iff.mp hs
      obtain rfl := h.start (opened_start hstep)
      cases opened_cases hstep with
      | inl hfailed => exact stdioRefines_failed hfailed
      | inr hentered =>
          obtain ⟨hloop, -, -, hfiles, houtput⟩ := hentered
          exact stdioRefines_loop hloop (opened_agrees ok _ hfiles houtput)
  | pass pass =>
      obtain ⟨next, hstep, rfl⟩ := Option.map_eq_some_iff.mp hs
      simp only [fileAction, FileCapture.step, Option.ite_none_right_eq_some] at hstep
      obtain ⟨⟨hphase, -⟩, hpass⟩ := hstep
      have hcapture : (s.after config next (.pass pass)).capture = next := out_capture config _ _
      cases pass_written hpass with
      | inl hfailed => exact stdioRefines_failed (by rw [hcapture, hfailed])
      | inr hloop =>
          have hnext : next.phase = .loop := hloop.1.trans hphase
          exact stdioRefines_loop (by rw [hcapture, hnext])
            (pass_agrees (h.loop hphase) hnext hloop.2.1 hloop.2.2)
  | finish fclose =>
      obtain ⟨next, hstep, rfl⟩ := Option.map_eq_some_iff.mp hs
      simp only [fileAction, FileCapture.step, Option.ite_none_right_eq_some, Option.some.injEq]
        at hstep
      obtain ⟨⟨hphase, -⟩, rfl⟩ := hstep
      have hcapture : (s.after config { s.capture with phase := .returned 0 }
          (.finish fclose)).capture = { s.capture with phase := .returned 0 } :=
        out_capture config _ _
      constructor
      · intro hstart
        rw [hcapture] at hstart
        cases hstart
      · intro hloop
        rw [hcapture] at hloop
        cases hloop
      · intro _ hflushed
        rw [hcapture]
        exact finish_agrees (h.loop hphase) rfl rfl rfl hflushed

/-- Without losses the file system holds, when the capture returns 0, exactly the files that the
capture without buffers has recorded. -/
theorem reachable_stdioRefines (h : TransitionSystem.Reachable (watchedCapture config) (s, watch)) :
    StdioRefines config s watch.flushed := by
  refine TransitionSystem.Reachable.invariant
    (I := fun s => StdioRefines config s.1 s.2.flushed) ?_ ?_ h
  · constructor
    · intro _
      rfl
    · intro hloop
      cases hloop
    · intro hreturned
      cases hreturned
  · intro s t action _ hbefore hs
    obtain ⟨hstep, hwatch⟩ := TransitionSystem.observe_step.mp hs
    rw [hwatch]
    exact stdioRefines_step hbefore hstep

end Agreement

end Runs
end CameraGateway
