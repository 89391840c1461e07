import CameraGateway.Metatheory.MotionEvents
import CameraGateway.Metatheory.StdioStreams

/-!
Whether success means that the data are in the file. All three writers look at the results
of `fopen` and `fwrite`, and none at that of `fclose`. What they report is therefore right
exactly as long as every file that was written without an error takes the rest of its buffer
when it is closed.
-/
namespace CameraGateway
open BufferedStream (Stream)

/-- A writer reports success only if the data are stored, and a failure if they are not. -/
structure Honest (stored success failure : Prop) : Prop where
  success : success → stored
  failure : ¬ stored → failure

section Honest
variable {stored success failure : Prop}

theorem honest_of_failure (hsuccess : ¬ success) (hfailure : failure) :
    Honest stored success failure :=
  ⟨fun h => absurd h hsuccess, fun _ => hfailure⟩

theorem honest_iff_of_success (hsuccess : success) :
    Honest stored success failure ↔ stored := by
  constructor
  · exact fun h => h.success hsuccess
  · exact fun hstored => ⟨fun _ => hstored, fun hlost => absurd hstored hlost⟩

theorem not_honest_of_silence (hstored : ¬ stored) (hfailure : ¬ failure) :
    ¬ Honest stored success failure :=
  fun h => hfailure (h.failure hstored)

end Honest

section Files
variable {data : List UInt8} {calls : FileCalls}

def FrameStored (config : CaptureConfig) (data : List UInt8) (frameNumber : Nat)
    (calls : FileCalls) : Prop :=
  ∃ path, framePath config frameNumber = some path ∧
    (storeFrameFile config data frameNumber calls).stored = some (path, data)

theorem frameFile_honest_iff {config : CaptureConfig} {frameNumber : Nat} :
    Honest (FrameStored config data frameNumber calls)
        ((storeFrameFile config data frameNumber calls).ret = 0)
        ((storeFrameFile config data frameNumber calls).ret = -1) ↔
      framePath config frameNumber = none ∨ calls.flushes data = true := by
  have failed : ∀ {file : StoredFile} {stored : Prop}, file.ret = -1 →
      Honest stored (file.ret = 0) (file.ret = -1) := by
    intro file stored hret
    refine honest_of_failure ?_ hret
    rw [hret]
    decide
  cases hpath : framePath config frameNumber with
  | none =>
      refine ⟨fun _ => .inl rfl, fun _ => failed ?_⟩
      rw [storeFrameFile, hpath]
  | some path =>
      cases hwritten : calls.written with
      | false =>
          refine iff_of_true (failed ?_) (.inr ?_)
          · exact storeFrameFile_failed hpath hwritten
          · rw [FileCalls.flushes, hwritten]
            rfl
      | true =>
          have hfile : storeFrameFile config data frameNumber calls =
              { ret := 0, stored := some (path, calls.accepted data) } :=
            storeFrameFile_written hpath hwritten
          rw [FileCalls.flushes_iff hwritten, hfile, honest_iff_of_success rfl, FrameStored,
            hfile, hpath]
          simp

def SnapshotStored (config : CameraConfig) (service : HttpService) (eventId : Nat)
    (jpeg : List UInt8) (calls : FileCalls) : Prop :=
  ∃ path, snapshotPath config eventId = some path ∧
    (storeSnapshot config service eventId jpeg calls).2 = some (path, jpeg)

/-- A snapshot whose path does not fit is counted nowhere. -/
theorem snapshot_honest_iff {config : CameraConfig} {service : HttpService} {eventId : Nat}
    {jpeg : List UInt8} :
    Honest (SnapshotStored config service eventId jpeg calls)
        ((storeSnapshot config service eventId jpeg calls).1.motionSnapshots =
          u32 (service.motionSnapshots + 1))
        ((storeSnapshot config service eventId jpeg calls).1.motionErrors =
          u32 (service.motionErrors + 1)) ↔
      snapshotPath config eventId ≠ none ∧ calls.flushes jpeg = true := by
  have same : ∀ {n : Nat}, ¬ n = u32 (n + 1) := fun {n} h => u32_succ_ne n h.symm
  cases hpath : snapshotPath config eventId with
  | none =>
      rw [SnapshotStored, storeSnapshot_uncounted service jpeg calls hpath, hpath]
      refine iff_of_false (not_honest_of_silence ?_ same) fun h => absurd rfl h.1
      intro hstored
      obtain ⟨path, hnone, -⟩ := hstored
      cases hnone
  | some path =>
      have hsome : (some path : Option (List UInt8)) ≠ none := Option.some_ne_none path
      rw [SnapshotStored, storeSnapshot_counted service jpeg calls hpath, hpath]
      cases hwritten : calls.written with
      | false =>
          refine iff_of_true (honest_of_failure same rfl) ⟨hsome, ?_⟩
          rw [FileCalls.flushes, hwritten]
          rfl
      | true =>
          have hopen : calls.fopen = true := (Bool.and_eq_true_iff.mp hwritten).1
          rw [FileCalls.flushes_iff hwritten, if_pos hopen]
          refine (honest_iff_of_success rfl).trans ?_
          simp

end Files

section Runs
variable {config : CaptureConfig} {s t : StdioCapture}

/-- What the closed files ought to hold. -/
def frameContents (config : CaptureConfig) (frames : List DequeuedFrame) : List (List UInt8) :=
  if config.saveFrames then frames.map DequeuedFrame.bytes
  else if config.noSave then [] else [frames.flatMap DequeuedFrame.bytes]

def FramesStored (config : CaptureConfig) (s : StdioCapture) (frames : List DequeuedFrame) : Prop :=
  s.stored.map Prod.snd = frameContents config frames

/-- What `camera_capture_to_file` returns is right. -/
def CaptureHonest (config : CaptureConfig) (s : StdioCapture) (frames : List DequeuedFrame) :
    Prop :=
  ∀ result, s.capture.phase = .returned result →
    Honest (FramesStored config s frames) (result = 0) (result = -1)

/-- The closed files and the open stream at the head of the loop. -/
def Pending (config : CaptureConfig) (s : StdioCapture) (watch : StdioWatch) : Prop :=
  if config.saveFrames then
    s.stream = none ∧ (FramesStored config s watch.frames ↔ watch.flushed = true)
  else
    s.stored = [] ∧ watch.flushed = true ∧ s.stream.map Stream.content =
      if config.noSave then none else some (watch.frames.flatMap DequeuedFrame.bytes)

section Step
variable {watch : StdioWatch} {next : FileCapture}

theorem write_saved {frame : DequeuedFrame} {calls : FileCalls} {path : List UInt8}
    (hsave : config.saveFrames = true) (h : Pending config s watch)
    (hpath : framePath config (s.capture.count + 1) = some path)
    (hwritten : calls.written = true) :
    Pending config { s.write config frame.bytes calls with capture := next }
      { frames := watch.frames ++ [frame]
        flushed := watch.flushed && calls.flushes frame.bytes } := by
  rw [Pending, if_pos hsave] at h ⊢
  obtain ⟨hstream, hstored⟩ := h
  rw [StdioCapture.write, if_pos hsave, storeFrameFile_written hpath hwritten]
  refine ⟨hstream, ?_⟩
  rw [FramesStored, frameContents, if_pos hsave] at hstored ⊢
  rw [Option.toList_some, List.map_append, List.map_append, List.map_singleton,
    List.map_singleton, Bool.and_eq_true, FileCalls.flushes_iff hwritten, ← hstored]
  constructor
  · intro hsame
    obtain ⟨hbefore, hlast⟩ := List.append_inj' hsame rfl
    exact ⟨hbefore, List.singleton_inj.mp hlast⟩
  · intro hsame
    rw [hsame.1, hsame.2]

/-- Without files of their own the frames go to the output file, or nowhere. -/
theorem write_output {frame : DequeuedFrame} {calls : FileCalls}
    (hsave : ¬ config.saveFrames = true) (h : Pending config s watch) :
    Pending config { s.write config frame.bytes calls with capture := next }
      { frames := watch.frames ++ [frame], flushed := watch.flushed } := by
  rw [Pending, if_neg hsave] at h ⊢
  obtain ⟨hstored, hflushed, hstream⟩ := h
  rw [StdioCapture.write, if_neg hsave]
  refine ⟨hstored, hflushed, ?_⟩
  cases hno : config.noSave with
  | true =>
      rw [hno, if_pos rfl, Option.map_eq_none_iff] at hstream
      rw [hstream, if_pos rfl]
      rfl
  | false =>
      rw [hno, if_neg Bool.false_ne_true] at hstream
      obtain ⟨stream, hopen, hcontent⟩ := Option.map_eq_some_iff.mp hstream
      rw [hopen, if_neg Bool.false_ne_true, Option.map_some, Option.map_some,
        Stream.content_write, hcontent, List.flatMap_append, List.flatMap_singleton]

theorem writePass_pending {pass : StdioPass} (h : Pending config s watch)
    (hwritten : ∀ frame, dequeuedFrame (fileAction (.pass pass)) = some frame →
      FrameWritten config s.capture next frame pass.calls.fopen pass.calls.fwrite.ok) :
    Pending config { s.writePass config pass with capture := next }
      (watchStdio config s (.pass pass) watch) := by
  rw [writePass_eq, watchStdio, closesWhole]
  cases hdequeued : dequeuedFrame (fileAction (.pass pass)) with
  | none =>
      simp only [Option.toList_none, List.append_nil, Bool.and_true]
      exact h
  | some frame =>
      simp only [Option.elim_some, Option.toList_some]
      by_cases hsave : config.saveFrames = true
      · obtain ⟨hopen, hok, -, path, hpath, -⟩ := (hwritten frame hdequeued).saved hsave
        rw [hsave, Bool.not_true, Bool.false_or]
        exact write_saved hsave h hpath (Bool.and_eq_true_iff.mpr ⟨hopen, hok⟩)
      · rw [Bool.not_eq_true] at hsave
        rw [hsave, Bool.not_false, Bool.true_or, Bool.and_true]
        exact write_output (by rw [hsave]; exact Bool.false_ne_true) h

/-- Closing the output file makes the difference. -/
theorem out_stored {fclose : Nat} {result : Int} (h : Pending config s watch)
    (hphase : next.phase = .returned result) :
    FramesStored config ({ s with capture := next }.out config fclose) watch.frames ↔
      (watch.flushed && closesWhole config s (.finish fclose)) = true := by
  rw [Pending] at h
  rw [closesWhole, FramesStored, frameContents]
  by_cases hsave : config.saveFrames = true
  · rw [if_pos hsave] at h ⊢
    obtain ⟨hstream, hstored⟩ := h
    rw [FramesStored, frameContents, if_pos hsave] at hstored
    rw [StdioCapture.out, hphase, hstream, Option.all_none, Bool.and_true]
    exact hstored
  · rw [if_neg hsave] at h ⊢
    obtain ⟨hstored, hflushed, hstream⟩ := h
    rw [hflushed, Bool.true_and]
    cases hno : config.noSave with
    | true =>
        rw [hno, if_pos rfl, Option.map_eq_none_iff] at hstream
        rw [StdioCapture.out, hphase, hstream, if_pos rfl]
        simp [hstored]
    | false =>
        rw [hno, if_neg Bool.false_ne_true] at hstream
        obtain ⟨stream, hopen, hcontent⟩ := Option.map_eq_some_iff.mp hstream
        rw [StdioCapture.out, hphase, hopen, if_neg Bool.false_ne_true, ← hcontent]
        simp only [hstored, List.nil_append, List.map_singleton, List.singleton_inj,
          Option.all_some, decide_eq_true_eq]
        exact Stream.flush_accepted_iff stream fclose

end Step

section Invariant
variable {watch : StdioWatch}

structure StdioInvariant (config : CaptureConfig) (s : StdioCapture) (watch : StdioWatch) :
    Prop where
  start : s.capture.phase = .start → s = StdioCapture.init ∧ watch.frames = [] ∧
    watch.flushed = true
  loop : s.capture.phase = .loop → Pending config s watch
  success : s.capture.phase = .returned 0 →
    (FramesStored config s watch.frames ↔ watch.flushed = true)
  result : ∀ result, s.capture.phase = .returned result → result = 0 ∨ result = -1

theorem stdioInvariant_failed (hphase : s.capture.phase = .returned (-1)) :
    StdioInvariant config s watch := by
  constructor
  · intro h
    rw [hphase] at h
    cases h
  · intro h
    rw [hphase] at h
    cases h
  · intro h
    rw [hphase] at h
    cases h
  · intro result h
    rw [hphase] at h
    cases h
    exact .inr rfl

theorem stdioInvariant_loop (hphase : s.capture.phase = .loop) (h : Pending config s watch) :
    StdioInvariant config s watch := by
  constructor
  · intro hstart
    rw [hphase] at hstart
    cases hstart
  · exact fun _ => h
  · intro hreturned
    rw [hphase] at hreturned
    cases hreturned
  · intro result hreturned
    rw [hphase] at hreturned
    cases hreturned

theorem opened_invariant {ok : Bool} {watch : StdioWatch}
    (hs : StdioCapture.step config StdioCapture.init (.opened ok) = some t)
    (hframes : watch.frames = []) (hflushed : watch.flushed = true) :
    StdioInvariant config t watch := by
  obtain ⟨next, hstep, rfl⟩ := Option.map_eq_some_iff.mp hs
  cases opened_cases hstep with
  | inl hfailed => exact stdioInvariant_failed hfailed
  | inr hentered =>
      obtain ⟨hloop, -, -, -, houtput⟩ := hentered
      refine stdioInvariant_loop hloop ?_
      rw [Pending, FramesStored, frameContents, hframes, hflushed]
      simp only [StdioCapture.after, StdioCapture.init, houtput]
      cases config.saveFrames <;> cases config.noSave <;> simp [Stream.empty, Stream.content]

theorem step_invariant {action : StdioAction} (h : StdioInvariant config s watch)
    (hs : s.step config action = some t) :
    StdioInvariant config t (watchStdio config s action watch) := by
  cases action with
  | opened ok =>
      have hphase : s.capture.phase = .start := by
        obtain ⟨next, hstep, -⟩ := Option.map_eq_some_iff.mp hs
        exact opened_start hstep
      obtain ⟨rfl, hframes, hflushed⟩ := h.start hphase
      refine opened_invariant hs ?_ ?_
      · rw [watchStdio, hframes]
        rfl
      · rw [watchStdio, hflushed]
        rfl
  | pass pass =>
      obtain ⟨next, hstep, rfl⟩ := Option.map_eq_some_iff.mp hs
      simp only [fileAction, FileCapture.step, Option.ite_none_right_eq_some] at hstep
      obtain ⟨⟨hphase, -⟩, hpass⟩ := hstep
      cases pass_written hpass with
      | inl hfailed =>
          apply stdioInvariant_failed
          rw [StdioCapture.after, out_capture]
          exact hfailed
      | inr hloop =>
          have hnext : next.phase = .loop := hloop.1.trans hphase
          rw [StdioCapture.after, out_loop hnext]
          exact stdioInvariant_loop hnext (writePass_pending (h.loop hphase) hloop.2.2)
  | finish fclose =>
      obtain ⟨next, hstep, rfl⟩ := Option.map_eq_some_iff.mp hs
      simp only [fileAction, FileCapture.step, Option.ite_none_right_eq_some, Option.some.injEq]
        at hstep
      obtain ⟨⟨hphase, -⟩, hreturned⟩ := hstep
      have hnext : next.phase = .returned 0 := by rw [← hreturned]
      have hcapture : (s.after config next (.finish fclose)).capture.phase = .returned 0 := by
        rw [StdioCapture.after, out_capture]
        exact hnext
      constructor
      · intro hstart
        rw [hcapture] at hstart
        cases hstart
      · intro hloop
        rw [hcapture] at hloop
        cases hloop
      · intro _
        have hnone : dequeuedFrame (fileAction (.finish fclose)) = none := rfl
        rw [watchStdio, hnone, Option.toList_none, List.append_nil]
        exact out_stored (h.loop hphase) hnext
      · intro result hresult
        rw [hcapture] at hresult
        cases hresult
        exact .inl rfl

theorem stdioInvariant_init :
    StdioInvariant config StdioCapture.init { frames := [], flushed := true } := by
  constructor
  · intro _
    exact ⟨rfl, rfl, rfl⟩
  · intro hloop
    cases hloop
  · intro hreturned
    cases hreturned
  · intro result hreturned
    cases hreturned

theorem reachable_stdio
    (h : TransitionSystem.Reachable (watchedCapture config) (s, watch)) :
    StdioInvariant config s watch :=
  TransitionSystem.Reachable.observed_invariant (I := StdioInvariant config) stdioInvariant_init
    (fun _ _ hbefore hs => step_invariant hbefore hs) h

end Invariant

/-- Every file that this step writes without an error and closes takes the rest of its buffer. -/
def ClosesWhole (config : CaptureConfig) (s : StdioCapture × StdioWatch) (action : StdioAction) :
    Prop :=
  closesWhole config s.1 action = true

theorem capture_honest {watch : StdioWatch} (h : TransitionSystem.ReachableUnder
    (watchedCapture config) (ClosesWhole config) (s, watch)) :
    CaptureHonest config s watch.frames := by
  have hflushed : watch.flushed = true := by
    refine TransitionSystem.ReachableUnder.invariant (I := fun s => s.2.flushed = true) rfl ?_ h
    intro s t action _ hbefore hwhole hs
    have hwatch := (TransitionSystem.observe_step.mp hs).2
    have hcloses : closesWhole config s.1 action = true := hwhole
    rw [hwatch, watchStdio, hbefore, hcloses]
    rfl
  have hinvariant := reachable_stdio h.reachable
  intro result hresult
  cases hinvariant.result result hresult with
  | inl hsuccess =>
      subst hsuccess
      exact (honest_iff_of_success rfl).mpr ((hinvariant.success hresult).mpr hflushed)
  | inr hfailed =>
      subst hfailed
      exact honest_of_failure (by decide) rfl

/-- What is reported of a frame file or of a snapshot is right exactly if the file, once it is
written without an error, takes the rest of its buffer. In every run in which all files do so
the capture is right about its result; and a run that returns 0 has stored its frames in no
other case. -/
theorem success_means_stored_iff (config : CaptureConfig) :
    (∀ data frameNumber calls,
      Honest (FrameStored config data frameNumber calls)
          ((storeFrameFile config data frameNumber calls).ret = 0)
          ((storeFrameFile config data frameNumber calls).ret = -1) ↔
        framePath config frameNumber = none ∨ calls.flushes data = true) ∧
    (∀ (service : HttpService) eventId jpeg calls,
      Honest (SnapshotStored config.toCameraConfig service eventId jpeg calls)
          ((storeSnapshot config.toCameraConfig service eventId jpeg calls).1.motionSnapshots =
            u32 (service.motionSnapshots + 1))
          ((storeSnapshot config.toCameraConfig service eventId jpeg calls).1.motionErrors =
            u32 (service.motionErrors + 1)) ↔
        snapshotPath config.toCameraConfig eventId ≠ none ∧ calls.flushes jpeg = true) ∧
    (∀ s watch, TransitionSystem.ReachableUnder (watchedCapture config) (ClosesWhole config)
      (s, watch) → CaptureHonest config s watch.frames) ∧
    ∀ s watch, TransitionSystem.Reachable (watchedCapture config) (s, watch) →
      s.capture.phase = .returned 0 →
        (FramesStored config s watch.frames ↔ watch.flushed = true) :=
  ⟨fun _ _ _ => frameFile_honest_iff, fun _ _ _ _ => snapshot_honest_iff,
    fun _ _ h => capture_honest h, fun _ _ h => (reachable_stdio h).success⟩

/-- `fwrite` leaves everything in the buffer, and the file is full when it is closed. -/
def fullDisk : FileCalls := { fopen := true, fwrite := { ok := true, taken := 0 }, fclose := 0 }

/-- Two frames are captured into a file on a full disk: the result is 0 and the file is empty. -/
theorem full_disk_returns_zero :
    ∃ s watch, TransitionSystem.Reachable (watchedCapture fileConfig) (s, watch) ∧
      s.stored = [(ascii "output.yuv", [])] ∧ ¬ CaptureHonest fileConfig s watch.frames := by
  let pass : StdioAction :=
    .pass { driver := .dequeued 0 [0x10, 0x80] 2, calls := fullDisk, requeued := true }
  have hrun : (TransitionSystem.exec (watchedCapture fileConfig) (watchedCapture fileConfig).init
      [.opened true, pass, pass, .finish 0]).any
      (fun s => decide (s.1.capture.phase = .returned 0 ∧ s.2.flushed = false ∧
        s.1.stored = [(ascii "output.yuv", [])])) = true := by
    decide +kernel
  obtain ⟨⟨s, watch⟩, hexec, hs⟩ := TransitionSystem.exists_exec_of_any hrun
  have hreach := (TransitionSystem.Reachable.init (watchedCapture fileConfig)).exec hexec
  obtain ⟨hphase, hlost, hfile⟩ := of_decide_eq_true hs
  refine ⟨s, watch, hreach, hfile, ?_⟩
  intro hhonest
  have hflushed := ((reachable_stdio hreach).success hphase).mp
    ((hhonest 0 hphase).success rfl)
  rw [hflushed] at hlost
  cases hlost

end Runs
end CameraGateway
