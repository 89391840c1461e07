import CameraGateway.Metatheory.BufferOwnership
import Mathlib.Algebra.Ring.Nat

/-!
What `camera_capture_to_file` has recorded at the head of its loop. The history of a
run is the list of the frames with data that the driver has handed out; as long as
the stdio calls succeed the files hold exactly these, whatever comes between them.
-/
namespace CameraGateway
variable {config : CaptureConfig} {capture next : FileCapture}

structure DequeuedFrame where
  bytes : List UInt8
  bytesused : UInt32

def dequeuedFrame : FileAction → Option DequeuedFrame
  | .pass { driver := .dequeued _ memory bytesused, .. } =>
      if bytesused = 0 then none
      else some { bytes := memory.take bytesused.toNat, bytesused := bytesused }
  | _ => none

def recordingCapture (config : CaptureConfig) :
    TransitionSystem.System (FileCapture × List DequeuedFrame) FileAction :=
  (cameraCaptureToFile config).observe [] fun _ action frames =>
    frames ++ (dequeuedFrame action).toList

def StdioSucceeds : FileAction → Prop
  | .opened ok => ok = true
  | .pass pass => pass.fopen = true ∧ pass.fwrite = true
  | .finish => True

/-- The files hold the frames of the history, one after the other. -/
structure Recorded (config : CaptureConfig) (capture : FileCapture)
    (frames : List DequeuedFrame) : Prop where
  count : capture.count = frames.length
  bound : frames.length ≤ intMax
  total : capture.totalBytes = (frames.map fun frame => frame.bytesused.toNat).sum
  output : capture.output =
    if config.saveFrames || config.noSave then none
    else some (frames.flatMap DequeuedFrame.bytes)
  files : capture.files.map Prod.snd =
    if config.saveFrames then frames.map DequeuedFrame.bytes else []
  numbers : ∀ i file, capture.files[i]? = some file →
    framePath config (i + 1) = some file.1
  distinct : (capture.files.map Prod.fst).Nodup

section Paths

theorem framePath_injective {m n : Nat} {path : List UInt8} (hm : framePath config m = some path)
    (hn : framePath config n = some path) : m = n := by
  simp only [framePath, Option.ite_none_right_eq_some, Option.some.injEq] at hm hn
  have heq := hm.2.trans hn.2.symm
  exact padded_injective (List.append_cancel_left (List.append_cancel_right heq))

theorem framePath_fits (hdir : config.frameDir.length ≤ 255) {frameNumber : Nat}
    (hnumber : frameNumber ≤ intMax) : ∃ path, framePath config frameNumber = some path := by
  have hdigits : (decimal frameNumber).length ≤ 10 :=
    decimal_length_le (by decide) (Nat.lt_of_le_of_lt hnumber (by decide))
  have hprefix : (ascii "/frame_").length = 7 := rfl
  have hjpg : (ascii ".jpg").length = 4 := rfl
  have hraw : (ascii ".raw").length = 4 := rfl
  refine ⟨_, if_pos ?_⟩
  simp only [List.length_append, List.length_replicate, hprefix, apply_ite List.length, hjpg, hraw,
    ite_self]
  omega

end Paths

section Pass
variable {frames : List DequeuedFrame}

/-- The bytes of fewer than 2^31 frames and of one more stay below 2^64. -/
theorem total_bound (hcount : frames.length ≤ intMax) (bytesused : UInt32) :
    (frames.map fun frame => frame.bytesused.toNat).sum + bytesused.toNat < 2 ^ 64 := by
  have hsum : (frames.map fun frame => frame.bytesused.toNat).sum ≤ frames.length * 2 ^ 32 := by
    induction frames with
    | nil => exact Nat.zero_le _
    | cons frame frames ih =>
        have hrest := ih (Nat.le_of_succ_le hcount)
        have hfirst := frame.bytesused.toNat_lt
        rw [List.map_cons, List.sum_cons, List.length_cons]
        omega
  have hlength : frames.length * 2 ^ 32 ≤ intMax * 2 ^ 32 := Nat.mul_le_mul_right _ hcount
  have hmax : intMax * 2 ^ 32 + 2 ^ 32 < 2 ^ 64 := by decide
  have hlast := bytesused.toNat_lt
  omega

theorem finishPass_count {index : Nat} {bytesused : UInt32} {requeued : Bool}
    (hs : capture.finishPass index bytesused requeued = some next) :
    next.phase = .returned (-1) ∨
      capture.count ≠ intMax ∧ next.phase = capture.phase ∧ next.count = capture.count + 1 ∧
        next.totalBytes = u64 (capture.totalBytes + bytesused.toNat) ∧
        next.output = capture.output ∧ next.files = capture.files := by
  cases requeued with
  | false =>
      cases hs
      exact Or.inl rfl
  | true =>
      simp only [FileCapture.finishPass, Bool.not_true, Bool.false_eq_true, if_false] at hs
      split at hs
      · cases hs
      · rename_i hlimit
        cases hs
        exact Or.inr ⟨hlimit, rfl, rfl, rfl, rfl, rfl⟩

theorem finishPass_recorded {written : FileCapture} {index : Nat} {bytes : List UInt8}
    {bytesused : UInt32} {requeued : Bool} (h : Recorded config capture frames)
    (hloop : written.phase = .loop) (hcount : written.count = capture.count)
    (htotal : written.totalBytes = capture.totalBytes)
    (houtput : written.output = if config.saveFrames || config.noSave then none
      else some ((frames ++ [DequeuedFrame.mk bytes bytesused]).flatMap DequeuedFrame.bytes))
    (hfiles : written.files.map Prod.snd =
      if config.saveFrames then
        (frames ++ [DequeuedFrame.mk bytes bytesused]).map DequeuedFrame.bytes
      else [])
    (hnumbers : ∀ i file, written.files[i]? = some file →
      framePath config (i + 1) = some file.1)
    (hdistinct : (written.files.map Prod.fst).Nodup)
    (hs : written.finishPass index bytesused requeued = some next) :
    next.phase = .returned (-1) ∨
      next.phase = .loop ∧ Recorded config next (frames ++ [DequeuedFrame.mk bytes bytesused]) := by
  cases finishPass_count hs with
  | inl hleft => exact Or.inl hleft
  | inr hcounted =>
      obtain ⟨hlimit, hphase, hnext, hbytes, hkept, hkept'⟩ := hcounted
      have hbound := h.bound
      have hlength := h.count
      refine Or.inr ⟨hphase.trans hloop, ?_⟩
      constructor
      · rw [hnext, hcount, hlength, List.length_append, List.length_singleton]
      · rw [List.length_append, List.length_singleton]
        omega
      · rw [hbytes, htotal, h.total, u64, Nat.mod_eq_of_lt (total_bound hbound bytesused)]
        simp
      · rw [hkept, houtput]
      · rw [hkept', hfiles]
      · rw [hkept']
        exact hnumbers
      · rw [hkept']
        exact hdistinct

/-- The file of a pass continues the numbering, under a name of its own. -/
theorem file_continues {path : List UInt8} (data : List UInt8)
    (h : Recorded config capture frames)
    (hpath : framePath config (capture.count + 1) = some path) (hsave : config.saveFrames = true) :
    (∀ i file, (capture.files ++ [(path, data)])[i]? = some file →
      framePath config (i + 1) = some file.1) ∧
      ((capture.files ++ [(path, data)]).map Prod.fst).Nodup := by
  have hlength : capture.files.length = capture.count := by
    have hfiles := congrArg List.length h.files
    rw [hsave, if_pos rfl, List.length_map, List.length_map] at hfiles
    rw [hfiles, h.count]
  have hnumbers : ∀ i file, (capture.files ++ [(path, data)])[i]? = some file →
      framePath config (i + 1) = some file.1 := by
    intro i file hfile
    rw [List.getElem?_append] at hfile
    split at hfile
    · exact h.numbers i file hfile
    · rename_i hlast
      obtain ⟨hindex, hcase⟩ := List.getElem?_eq_some_iff.mp hfile
      have hi : i = capture.files.length := by
        rw [List.length_singleton] at hindex
        omega
      subst hi
      simp only [Nat.sub_self, List.getElem_cons_zero] at hcase
      rw [hlength, hpath, ← hcase]
  refine ⟨hnumbers, ?_⟩
  rw [List.map_append, List.map_singleton, List.nodup_append]
  refine ⟨h.distinct, List.pairwise_singleton _ _, ?_⟩
  intro name hname other hother heq
  rw [List.mem_singleton] at hother
  obtain ⟨file, hfile, rfl⟩ := List.mem_map.mp hname
  obtain ⟨i, hi⟩ := List.mem_iff_getElem?.mp hfile
  -- an earlier file of this name would have the number of this pass
  have hnumber := framePath_injective (h.numbers i file hi) (hpath.trans (by rw [heq, hother]))
  have hlt := (List.getElem?_eq_some_iff.mp hi).1
  omega

theorem record_recorded {index : Nat} {memory : List UInt8} {bytesused : UInt32} {pass : FilePass}
    (h : Recorded config capture frames) (hloop : capture.phase = .loop)
    (hdir : config.frameDir.length ≤ 255) (hopen : pass.fopen = true) (hwrite : pass.fwrite = true)
    (hs : capture.record config index memory bytesused pass = some next) :
    next.phase = .returned (-1) ∨ next.phase = .loop ∧ Recorded config next
      (frames ++ [DequeuedFrame.mk (memory.take bytesused.toNat) bytesused]) := by
  unfold FileCapture.record at hs
  cases hsave : config.saveFrames with
  | true =>
      rw [if_pos hsave] at hs
      split at hs
      · cases hs
      · rename_i hlimit
        have hnumber : capture.count + 1 ≤ intMax := by
          have hbound := h.bound
          have hcount := h.count
          omega
        obtain ⟨path, hpath⟩ := framePath_fits hdir hnumber
        obtain ⟨hnumbers, hdistinct⟩ :=
          file_continues (memory.take bytesused.toNat) h hpath hsave
        simp only [writeFrameFile, hpath, hopen, hwrite, Bool.not_true, Bool.false_eq_true,
          if_false, if_true, ne_eq, not_true_eq_false, Option.toList_some] at hs
        refine finishPass_recorded h ?_ ?_ ?_ ?_ ?_ hnumbers hdistinct hs
        · exact hloop
        · rfl
        · rfl
        · rw [hsave, Bool.true_or, if_pos rfl]
          exact h.output.trans (by rw [hsave, Bool.true_or, if_pos rfl])
        · have hfiles := h.files
          rw [hsave, if_pos rfl] at hfiles ⊢
          simp only [FileCapture.op, List.map_append, hfiles, List.map_singleton]
  | false =>
      have hfiles := h.files
      have houtput := h.output
      rw [hsave, if_neg Bool.false_ne_true] at hfiles
      rw [hsave, Bool.false_or] at houtput
      have hkept := h.numbers
      have hdistinct := h.distinct
      rw [hsave, if_neg Bool.false_ne_true] at hs
      cases hno : config.noSave with
      | true =>
          rw [hno, if_pos rfl] at houtput
          rw [houtput] at hs
          refine finishPass_recorded h hloop rfl rfl ?_ ?_ hkept hdistinct hs
          · rw [houtput, hsave, hno, Bool.or_true, if_pos rfl]
          · rw [hsave, if_neg Bool.false_ne_true, hfiles]
      | false =>
          rw [hno, if_neg Bool.false_ne_true] at houtput
          rw [houtput] at hs
          simp only [hwrite, Bool.not_true, Bool.false_eq_true, if_false] at hs
          refine finishPass_recorded h ?_ ?_ ?_ ?_ ?_ ?_ ?_ hs
          · exact hloop
          · rfl
          · rfl
          · rw [hsave, hno, Bool.or_self, if_neg Bool.false_ne_true, List.flatMap_append,
              List.flatMap_singleton]
          · rw [hsave, if_neg Bool.false_ne_true]
            exact hfiles
          · exact hkept
          · exact hdistinct

/-- What is recorded does not depend on the counters and the history of the buffers. -/
theorem Recorded.kept (h : Recorded config capture frames) (hcount : next.count = capture.count)
    (htotal : next.totalBytes = capture.totalBytes) (houtput : next.output = capture.output)
    (hfiles : next.files = capture.files) : Recorded config next frames := by
  constructor
  · exact hcount.trans h.count
  · exact h.bound
  · exact htotal.trans h.total
  · exact houtput.trans h.output
  · rw [hfiles]
    exact h.files
  · rw [hfiles]
    exact h.numbers
  · rw [hfiles]
    exact h.distinct

theorem pass_recorded {pass : FilePass} (h : Recorded config capture frames)
    (hloop : capture.phase = .loop) (hdir : config.frameDir.length ≤ 255)
    (hstdio : StdioSucceeds (.pass pass)) (hs : capture.pass config pass = some next) :
    next.phase = .returned (-1) ∨ next.phase = .loop ∧
      Recorded config next (frames ++ (dequeuedFrame (.pass pass)).toList) := by
  obtain ⟨hopen, hwrite⟩ := hstdio
  cases pass with
  | mk driver fopen fwrite requeued =>
      cases driver with
      | selectFailed =>
          cases hs
          exact Or.inl rfl
      | dequeueFailed =>
          cases hs
          exact Or.inl rfl
      | timeout =>
          cases hs
          refine Or.inr ⟨hloop, ?_⟩
          simp only [dequeuedFrame, Option.toList_none, List.append_nil]
          exact h.kept rfl rfl rfl rfl
      | dequeued index memory bytesused =>
          simp only [FileCapture.pass] at hs
          by_cases hempty : bytesused = 0
          · rw [if_pos hempty, Option.some.injEq] at hs
            subst hs
            cases requeued with
            | false => exact Or.inl rfl
            | true =>
                refine Or.inr ⟨hloop, ?_⟩
                rw [dequeuedFrame, if_pos hempty, Option.toList_none, List.append_nil]
                exact h.kept rfl rfl rfl rfl
          · rw [if_neg hempty] at hs
            rw [dequeuedFrame, if_neg hempty, Option.toList_some]
            have htaken : Recorded config (capture.op (.take index)) frames :=
              h.kept rfl rfl rfl rfl
            exact record_recorded htaken hloop hdir hopen hwrite hs

end Pass

section Run
variable {frames : List DequeuedFrame}

structure RecordingInvariant (config : CaptureConfig) (capture : FileCapture)
    (frames : List DequeuedFrame) : Prop where
  start : capture.phase = .start → capture = FileCapture.init ∧ frames = []
  loop : capture.phase = .loop → Recorded config capture frames ∧
    (config.frameCount ≠ 0 → (capture.count : Int) ≤ config.frameCount)
  success : capture.phase = .returned 0 → 0 < config.frameCount ∧
    (frames.length : Int) = config.frameCount ∧ Recorded config capture frames

theorem recordingInvariant_failed (hphase : capture.phase = .returned (-1)) :
    RecordingInvariant config capture frames := by
  constructor <;> intro h <;> rw [hphase] at h <;> cases h

theorem recordingInvariant_loop (hphase : capture.phase = .loop)
    (h : Recorded config capture frames)
    (hcount : config.frameCount ≠ 0 → (capture.count : Int) ≤ config.frameCount) :
    RecordingInvariant config capture frames := by
  constructor
  · intro hstart
    rw [hphase] at hstart
    cases hstart
  · intro _
    exact ⟨h, hcount⟩
  · intro hreturned
    rw [hphase] at hreturned
    cases hreturned

theorem recorded_init (houtput : next.output =
      if config.saveFrames || config.noSave then none else some [])
    (hcount : next.count = 0) (htotal : next.totalBytes = 0) (hfiles : next.files = []) :
    Recorded config next [] := by
  constructor
  · exact hcount
  · exact Nat.zero_le _
  · exact htotal
  · exact houtput
  · rw [hfiles]
    exact (ite_self _).symm
  · intro i file hfile
    rw [hfiles] at hfile
    cases hfile
  · rw [hfiles]
    exact List.nodup_nil

theorem opened_start {ok : Bool} (hs : capture.step config (.opened ok) = some next) :
    capture.phase = .start := by
  simp only [FileCapture.step, Option.ite_none_left_eq_some] at hs
  exact Decidable.not_not.mp (not_or.mp hs.1).1

theorem opened_cases {ok : Bool} (hs : FileCapture.init.step config (.opened ok) = some next) :
    next.phase = .returned (-1) ∨ next.phase = .loop ∧ next.count = 0 ∧ next.totalBytes = 0 ∧
      next.files = [] ∧
      next.output = if config.saveFrames || config.noSave then none else some [] := by
  simp only [FileCapture.step] at hs
  cases hsave : config.saveFrames <;> cases hno : config.noSave <;> cases ok <;>
    simp only [hsave, hno, Bool.false_eq_true, if_false, if_true, Option.ite_none_left_eq_some,
      Option.some.injEq] at hs <;> obtain ⟨-, rfl⟩ := hs
  all_goals first
    | exact Or.inl rfl
    | exact Or.inr ⟨rfl, rfl, rfl, rfl, rfl⟩

theorem opened_recorded {ok : Bool} (hstart : capture = FileCapture.init)
    (hs : capture.step config (.opened ok) = some next) (hnonneg : 0 ≤ config.frameCount) :
    RecordingInvariant config next [] := by
  subst hstart
  cases opened_cases hs with
  | inl hfailed => exact recordingInvariant_failed hfailed
  | inr hentered =>
      obtain ⟨hphase, hcount, htotal, hfiles, houtput⟩ := hentered
      refine recordingInvariant_loop hphase (recorded_init houtput hcount htotal hfiles) ?_
      intro _
      rw [hcount]
      exact hnonneg

theorem step_recorded {action : FileAction} (hnonneg : 0 ≤ config.frameCount)
    (hdir : config.frameDir.length ≤ 255) (h : RecordingInvariant config capture frames)
    (hstdio : StdioSucceeds action) (hs : capture.step config action = some next) :
    RecordingInvariant config next (frames ++ (dequeuedFrame action).toList) := by
  cases action with
  | opened ok =>
      obtain ⟨hinit, rfl⟩ := h.start (opened_start hs)
      exact opened_recorded hinit hs hnonneg
  | pass pass =>
      simp only [FileCapture.step, Option.ite_none_right_eq_some] at hs
      obtain ⟨⟨hphase, hwants⟩, hpass⟩ := hs
      obtain ⟨hrecorded, -⟩ := h.loop hphase
      cases pass_recorded hrecorded hphase hdir hstdio hpass with
      | inl hfailed => exact recordingInvariant_failed hfailed
      | inr hnext =>
          refine recordingInvariant_loop hnext.1 hnext.2 fun hne => ?_
          simp only [wantsFrame, Bool.or_eq_true, beq_iff_eq, decide_eq_true_eq] at hwants
          have hlt := hwants.resolve_left hne
          -- a pass adds at most one frame
          have hadded : (dequeuedFrame (.pass pass)).toList.length ≤ 1 := by
            cases dequeuedFrame (.pass pass) with
            | none => exact Nat.zero_le _
            | some frame => exact Nat.le_refl _
          have hbefore := hrecorded.count
          have hafter := hnext.2.count
          rw [List.length_append] at hafter
          omega
  | finish =>
      simp only [FileCapture.step, Option.ite_none_right_eq_some, Option.some.injEq] at hs
      obtain ⟨⟨hphase, hwants⟩, rfl⟩ := hs
      obtain ⟨hrecorded, hbound⟩ := h.loop hphase
      simp only [dequeuedFrame, Option.toList_none, List.append_nil]
      constructor
      · intro hstart
        cases hstart
      · intro hloop
        cases hloop
      · intro _
        simp only [wantsFrame, Bool.not_eq_true', Bool.or_eq_false_iff, beq_eq_false_iff_ne,
          decide_eq_false_iff_not] at hwants
        have hle := hbound hwants.1
        have hcount := hrecorded.count
        exact ⟨by omega, by omega, hrecorded.kept rfl rfl rfl rfl⟩

end Run

/-- While the stdio calls succeed, `camera_capture_to_file` has recorded at the head of its
loop exactly the frames with data so far, and it returns 0 only when it was asked for a
number of frames and has recorded as many. -/
theorem file_capture_records (config : CaptureConfig) (hnonneg : 0 ≤ config.frameCount)
    (hdir : config.frameDir.length ≤ 255) {capture : FileCapture} {frames : List DequeuedFrame}
    (h : TransitionSystem.ReachableUnder (recordingCapture config)
      (fun _ action => StdioSucceeds action) (capture, frames)) :
    (capture.phase = .loop → Recorded config capture frames) ∧
      (capture.phase = .returned 0 → 0 < config.frameCount ∧
        (frames.length : Int) = config.frameCount ∧ Recorded config capture frames) := by
  have hinvariant : RecordingInvariant config capture frames := by
    refine TransitionSystem.ReachableUnder.invariant
      (I := fun s => RecordingInvariant config s.1 s.2) ?_ ?_ h
    · constructor
      · intro _
        exact ⟨rfl, rfl⟩
      · intro hloop
        cases hloop
      · intro hreturned
        cases hreturned
    · rintro ⟨capture, frames⟩ ⟨next, frames'⟩ action - hbefore hstdio hs
      obtain ⟨hstep, rfl⟩ := TransitionSystem.observe_step.mp hs
      exact step_recorded hnonneg hdir hbefore hstdio hstep
  exact ⟨fun hloop => (hinvariant.loop hloop).1, hinvariant.success⟩

/-- A timeout and an empty frame between two frames leave no gap in the numbering. -/
theorem file_capture_records_savedFrames :
    ∃ capture frames, TransitionSystem.ReachableUnder
        (recordingCapture { fileConfig with saveFrames := true, frameDir := ascii "frames" })
        (fun _ action => StdioSucceeds action) (capture, frames) ∧
      (capture.phase = .returned 0 ∧ capture.files =
        [(ascii "frames/frame_001.raw", [0x10, 0x80]),
          (ascii "frames/frame_002.raw", [0x10, 0x80])]) ∧
      (frames.length : Int) = 2 := by
  let config := { fileConfig with saveFrames := true, frameDir := ascii "frames" }
  let idle (driver : DriverEvent) : FileAction :=
    .pass { driver := driver, fopen := true, fwrite := true, requeued := true }
  let actions := [.opened true, filePass 0 true true, idle .timeout, idle (.dequeued 1 [] 0),
    filePass 2 true true, .finish]
  have hrun : (TransitionSystem.exec (recordingCapture config) (FileCapture.init, []) actions).any
      (fun s => decide (s.1.phase = .returned 0 ∧ s.1.files =
        [(ascii "frames/frame_001.raw", [0x10, 0x80]),
          (ascii "frames/frame_002.raw", [0x10, 0x80])])) = true := by
    decide +kernel
  obtain ⟨⟨capture, frames⟩, hexec, hs⟩ := TransitionSystem.exists_exec_of_any hrun
  have hstdio : ∀ action ∈ actions, StdioSucceeds action := by
    simp [actions, idle, filePass, StdioSucceeds]
  have hreach : TransitionSystem.ReachableUnder (recordingCapture config)
      (fun _ action => StdioSucceeds action) (capture, frames) :=
    TransitionSystem.RunUnder.refl.exec (fun action ha _ => hstdio action ha) hexec
  have hstate := of_decide_eq_true hs
  have hsuccess := (file_capture_records config (by decide) (by decide) hreach).2 hstate.1
  exact ⟨capture, frames, hreach, hstate, hsuccess.2.1⟩

end CameraGateway
