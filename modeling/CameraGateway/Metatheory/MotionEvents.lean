import CameraGateway.Library.Episodes
import CameraGateway.Metatheory.DrawingRuns

/-!
What a call of `http_service_draw_lcd_frame` counts. The events of a run are the
episodes of its processed frames with motion; each ought to leave a snapshot or an
error. A draw that fails on the first frame of an event jumps over both.
-/
namespace CameraGateway
variable {config : CameraConfig}

section Effects
variable {service : HttpService} {call : DrawCall}

theorem u32_succ_ne (n : Nat) : u32 (n + 1) ≠ n := by
  rw [u32]
  omega

/-- The counters and flags that a call can change. -/
structure DrawCounts where
  processed : Nat
  lcdErrors : Nat
  snapshots : Nat
  errors : Nat
  events : Nat
  wasDetected : Bool

def HttpService.drawCounts (service : HttpService) : DrawCounts :=
  { processed := service.processedFrames, lcdErrors := service.lcdErrors
    snapshots := service.motionSnapshots, errors := service.motionErrors
    events := service.motionEvents, wasDetected := service.motionWasDetected }

theorem countLcd_counts (service : HttpService) (display : Bool) (ret : Int) :
    (countLcd service display ret).drawCounts =
      { service.drawCounts with
        lcdErrors :=
          if ret ≠ 0 ∧ display then u32 (service.lcdErrors + 1) else service.lcdErrors } := by
  rw [countLcd]
  split
  · rename_i h
    rw [if_neg fun hfailed => hfailed.1 h.1]
    rfl
  · split <;> rfl

theorem countLcd_failed_counts (service : HttpService) (display : Bool) :
    (countLcd service display (-1)).drawCounts =
      { service.drawCounts with
        lcdErrors :=
          if display then u32 (service.drawCounts.lcdErrors + 1)
          else service.drawCounts.lcdErrors } := by
  rw [countLcd_counts]
  cases display <;> rfl

theorem countLcd_ok_counts (service : HttpService) (display : Bool) :
    (countLcd service display 0).drawCounts = service.drawCounts := by
  rw [countLcd_counts]
  rfl

theorem unallocated_counts (service : HttpService) (picture : Picture) :
    (countMotionError (resizeBaseline service picture)).drawCounts =
      { service.drawCounts with errors := u32 (service.motionErrors + 1) } := by
  rw [resizeBaseline]
  split <;> rfl

theorem resizeBaseline_wasDetected (service : HttpService) (picture : Picture) :
    (resizeBaseline service picture).motionWasDetected = service.motionWasDetected := by
  rw [resizeBaseline]
  split <;> rfl

/-- The first frame with motion after one without it is an event. -/
theorem processed_counts (service : HttpService) (picture : Picture) (result : MotionResult) :
    (commitMotion (saveBaseline (resizeBaseline service picture) picture) result).drawCounts =
      { service.drawCounts with
        processed := u32 (service.processedFrames + 1)
        events :=
          if result.detected && !service.motionWasDetected then u32 (service.motionEvents + 1)
          else service.motionEvents
        wasDetected := result.detected } := by
  rw [resizeBaseline]
  split <;> rfl

theorem draw_unprocessed (hdetect : config.motionDetect = true)
    (h : detection config service call = none) :
    (httpServiceDrawLcdFrame config service call).file = none ∧
      (httpServiceDrawLcdFrame config service call).service.drawCounts =
        { service.drawCounts with
          lcdErrors := if config.fbPreview then u32 (service.lcdErrors + 1) else service.lcdErrors
          errors :=
            if call.picture.isSome then u32 (service.motionErrors + 1)
            else service.motionErrors } := by
  rw [httpServiceDrawLcdFrame]
  rw [detection] at h
  simp only [hdetect, Bool.not_true, Bool.and_false, Bool.false_eq_true, if_false, if_true] at h ⊢
  cases hpicture : call.picture with
  | none => exact ⟨rfl, countLcd_failed_counts service config.fbPreview⟩
  | some picture =>
      rw [hpicture] at h
      simp only [motionBlock] at h ⊢
      split at h
      · rename_i hnone
        rw [if_pos hnone]
        dsimp only
        rw [drawOut_failed]
        refine ⟨rfl, (countLcd_failed_counts _ config.fbPreview).trans ?_⟩
        rw [unallocated_counts]
        rfl
      · cases h

theorem draw_processed {result : MotionResult} (hdetect : config.motionDetect = true)
    (h : detection config service call = some result) :
    ∃ service' pixels,
      httpServiceDrawLcdFrame config service call = displayFrame config service' call pixels
        (result.detected && !service.motionWasDetected) ∧
      service'.drawCounts =
        { service.drawCounts with
          processed := u32 (service.processedFrames + 1)
          events :=
            if result.detected && !service.motionWasDetected then u32 (service.motionEvents + 1)
            else service.motionEvents
          wasDetected := result.detected } := by
  rw [httpServiceDrawLcdFrame]
  rw [detection] at h
  simp only [hdetect, Bool.not_true, Bool.and_false, Bool.false_eq_true, if_false, if_true] at h ⊢
  cases hpicture : call.picture with
  | none =>
      rw [hpicture] at h
      cases h
  | some picture =>
      rw [hpicture] at h
      simp only [motionBlock] at h ⊢
      split at h
      · cases h
      · rename_i hsome
        cases h
        rw [if_neg hsome]
        refine ⟨_, maskedPixels config picture
          (detectMotion picture (baseline (resizeBaseline service picture)) config.threshold), ?_,
          processed_counts service picture _⟩
        rw [resizeBaseline_wasDetected]

/-- Without a new event, or after a draw that fails, there is no snapshot. -/
theorem displayFrame_quiet (service : HttpService) (pixels : List UInt16) {motionEvent : Bool}
    (h : (config.fbPreview && !call.drawn) = true ∨ motionEvent = false) :
    (displayFrame config service call pixels motionEvent).file = none ∧
      ∃ lcdErrors, (displayFrame config service call pixels motionEvent).service.drawCounts =
        { service.drawCounts with lcdErrors := lcdErrors } := by
  by_cases hfailed : (config.fbPreview && !call.drawn) = true
  · rw [displayFrame_failed service pixels motionEvent hfailed]
    exact ⟨rfl, _, countLcd_failed_counts service config.fbPreview⟩
  · cases h with
    | inl h => exact absurd h hfailed
    | inr h =>
        rw [displayFrame_drawn service pixels motionEvent hfailed, h,
          drawOut_unsaved service call _ (by simp)]
        exact ⟨rfl, service.lcdErrors, countLcd_ok_counts service config.fbPreview⟩

/-- A new event leaves a file, if it can be opened, and a snapshot or an error when the draw
succeeds. -/
theorem displayFrame_event (service : HttpService) (pixels : List UInt16) {path : List UInt8}
    (hsave : config.motionSave = true)
    (hpath : snapshotPath config service.motionEvents = some path)
    (h : ¬ (config.fbPreview && !call.drawn) = true) :
    (displayFrame config service call pixels true).file =
        (if call.snapshot.fopen then some (path, call.snapshot.accepted call.jpeg) else none) ∧
      (displayFrame config service call pixels true).service.drawCounts =
        if call.snapshot.written then
          { service.drawCounts with snapshots := u32 (service.motionSnapshots + 1) }
        else { service.drawCounts with errors := u32 (service.motionErrors + 1) } := by
  rw [displayFrame_drawn service pixels true h, drawOut_saved service call _ hsave,
    storeSnapshot_counted service call.jpeg call.snapshot hpath]
  refine ⟨rfl, (countLcd_ok_counts _ config.fbPreview).trans ?_⟩
  cases call.snapshot.written <;> rfl

/-- Nothing after the motion block changes what it has published. -/
theorem displayFrame_keeps (service : HttpService) (pixels : List UInt16) (motionEvent : Bool) :
    (displayFrame config service call pixels motionEvent).service.motionEvents =
        service.motionEvents ∧
      (displayFrame config service call pixels motionEvent).service.motionWasDetected =
        service.motionWasDetected ∧
      (displayFrame config service call pixels motionEvent).service.processedFrames =
        service.processedFrames := by
  have hmotion : ∀ {β : Type} (field : HttpService → β),
      field (displayFrame config service call pixels motionEvent).service.motion =
        field service.motion :=
    fun field => congrArg field (displayFrame_motion service call pixels motionEvent)
  exact ⟨hmotion HttpService.motionEvents, hmotion HttpService.motionWasDetected,
    hmotion HttpService.processedFrames⟩

end Effects

section Paths

theorem snapshotPath_injective {m n : Nat} {path : List UInt8}
    (hm : snapshotPath config m = some path) (hn : snapshotPath config n = some path) : m = n := by
  simp only [snapshotPath, Option.ite_none_right_eq_some, Option.some.injEq] at hm hn
  have heq := hm.2.trans hn.2.symm
  exact padded_injective (List.append_cancel_left (List.append_cancel_right heq))

/-- The buffer of the path is large enough for every directory that the
configuration can hold. -/
theorem snapshotPath_fits (hdir : config.motionDir.length ≤ 255) {eventId : Nat}
    (hid : eventId < 2 ^ 32) : ∃ path, snapshotPath config eventId = some path := by
  have hdigits : (decimal eventId).length ≤ 10 :=
    decimal_length_le (by decide) (Nat.lt_of_lt_of_le hid (by decide))
  have hprefix : (ascii "/motion_").length = 8 := rfl
  have hsuffix : (ascii ".jpg").length = 4 := rfl
  refine ⟨_, if_pos ?_⟩
  simp only [List.length_append, List.length_replicate, hprefix, hsuffix]
  omega

end Paths

section Events

/-- A frame whose picture was processed: the service at the start of its call, and
whether the detector found motion. -/
structure ProcessedFrame where
  before : HttpService
  call : DrawCall
  detected : Bool

def ProcessedFrame.result (config : CameraConfig) (frame : ProcessedFrame) : DrawResult :=
  httpServiceDrawLcdFrame config frame.before frame.call

def processedFrames (config : CameraConfig) (service : HttpService) :
    List DrawCall → List ProcessedFrame
  | [] => []
  | call :: calls =>
      ((detection config service call).map fun result =>
          ProcessedFrame.mk service call result.detected).toList ++
        processedFrames config (httpServiceDrawLcdFrame config service call).service calls

theorem processedFrames_snoc (service : HttpService) (calls : List DrawCall) (call : DrawCall) :
    processedFrames config service (calls ++ [call]) = processedFrames config service calls ++
      ((detection config (drawFrames config service calls) call).map fun result =>
        ProcessedFrame.mk (drawFrames config service calls) call result.detected).toList := by
  induction calls generalizing service with
  | nil => simp [processedFrames, drawFrames]
  | cons first rest ih => simp only [List.cons_append, processedFrames, ih, drawFrames_cons,
      List.append_assoc]

/-- The first frames of the events of a run: the processed frames with motion that
come first or after one without. -/
def eventOnsets (config : CameraConfig) (calls : List DrawCall) : List ProcessedFrame :=
  Episodes.onsets ProcessedFrame.detected (processedFrames config HttpService.zero calls)

/-- What is known when the first frame of an event comes, after `k` earlier events. -/
structure Onset (config : CameraConfig) (frame : ProcessedFrame) (k : Nat) : Prop where
  events : frame.before.motionEvents = u32 k
  still : frame.before.motionWasDetected = false
  detected : ∃ result, detection config frame.before frame.call = some result ∧
    result.detected = true

/-- The counters and the files of a run, by its events. -/
structure EventHistory (config : CameraConfig) (calls : List DrawCall) : Prop where
  events : (drawFrames config HttpService.zero calls).motionEvents =
    u32 (eventOnsets config calls).length
  wasDetected : (drawFrames config HttpService.zero calls).motionWasDetected =
    (processedFrames config HttpService.zero calls).getLast?.any ProcessedFrame.detected
  onset : ∀ k frame, (eventOnsets config calls)[k]? = some frame → Onset config frame k
  files : savedFiles config HttpService.zero calls =
    (eventOnsets config calls).flatMap fun frame => (frame.result config).file.toList

theorem eventHistory_snoc {calls : List DrawCall} (hdetect : config.motionDetect = true)
    (h : EventHistory config calls) (call : DrawCall) : EventHistory config (calls ++ [call]) := by
  obtain ⟨hevents, hwas, honset, hfiles⟩ := h
  generalize hservice : drawFrames config HttpService.zero calls = service at hevents hwas
  have hframes := @processedFrames_snoc config HttpService.zero calls call
  rw [hservice] at hframes
  cases hdetection : detection config service call with
  | none =>
      obtain ⟨hfile, hcounts⟩ := draw_unprocessed hdetect hdetection
      rw [hdetection, Option.map_none, Option.toList_none, List.append_nil] at hframes
      have hsame : eventOnsets config (calls ++ [call]) = eventOnsets config calls :=
        congrArg (Episodes.onsets ProcessedFrame.detected) hframes
      constructor
      · rw [drawFrames_snoc, hservice, hsame, ← hevents]
        exact congrArg DrawCounts.events hcounts
      · rw [drawFrames_snoc, hservice, hframes, ← hwas]
        exact congrArg DrawCounts.wasDetected hcounts
      · rw [hsame]
        exact honset
      · rw [savedFiles_snoc, hservice, hfile, hsame, hfiles, Option.toList_none, List.append_nil]
  | some result =>
      rw [hdetection, Option.map_some, Option.toList_some] at hframes
      obtain ⟨service', pixels, hdraw, hcounts⟩ := draw_processed hdetect hdetection
      obtain ⟨hkept, hkept', -⟩ := @displayFrame_keeps config call service' pixels
        (result.detected && !service.motionWasDetected)
      have hlast : (httpServiceDrawLcdFrame config service call).service.motionWasDetected =
          result.detected := by
        rw [hdraw, hkept']
        exact congrArg DrawCounts.wasDetected hcounts
      have hcount : (httpServiceDrawLcdFrame config service call).service.motionEvents =
          if result.detected && !service.motionWasDetected then u32 (service.motionEvents + 1)
          else service.motionEvents := by
        rw [hdraw, hkept]
        exact congrArg DrawCounts.events hcounts
      have honsets : eventOnsets config (calls ++ [call]) = eventOnsets config calls ++
          if result.detected && !service.motionWasDetected then
            [ProcessedFrame.mk service call result.detected]
          else [] := by
        rw [eventOnsets, hframes, Episodes.onsets_snoc, ← hwas]
        rfl
      have hend : (drawFrames config HttpService.zero (calls ++ [call])).motionWasDetected =
          (processedFrames config HttpService.zero
            (calls ++ [call])).getLast?.any ProcessedFrame.detected := by
        rw [drawFrames_snoc, hservice, hlast, hframes, List.getLast?_append]
        rfl
      cases hnew : result.detected && !service.motionWasDetected with
      | false =>
          rw [hnew] at hcount honsets hdraw
          rw [if_neg Bool.false_ne_true, List.append_nil] at honsets
          have hfile := (@displayFrame_quiet config call service' pixels false (Or.inr rfl)).1
          refine ⟨?_, hend, by rwa [honsets], ?_⟩
          · rw [drawFrames_snoc, hservice, honsets, ← hevents]
            exact hcount
          · rw [savedFiles_snoc, hservice, hdraw, hfile, honsets, hfiles, Option.toList_none,
              List.append_nil]
      | true =>
          rw [hnew] at hcount honsets
          rw [if_pos rfl] at hcount honsets
          refine ⟨?_, hend, ?_, ?_⟩
          · rw [drawFrames_snoc, hservice, hcount, honsets, hevents, List.length_append, u32, u32,
              Nat.mod_add_mod]
            rfl
          · intro k frame hframe
            rw [honsets] at hframe
            by_cases hk : k < (eventOnsets config calls).length
            · rw [List.getElem?_append_left hk] at hframe
              exact honset k frame hframe
            · have hlength := (List.getElem?_eq_some_iff.mp hframe).1
              rw [List.length_append, List.length_singleton] at hlength
              obtain rfl : k = (eventOnsets config calls).length := by omega
              rw [List.getElem?_concat_length] at hframe
              cases hframe
              obtain ⟨hdetected, hstill⟩ := Bool.and_eq_true_iff.mp hnew
              exact ⟨hevents, by simpa using hstill, result, hdetection, hdetected⟩
          · rw [savedFiles_snoc, hservice, honsets, hfiles, List.flatMap_append,
              List.flatMap_singleton]
            rfl

theorem eventHistory (hdetect : config.motionDetect = true) (calls : List DrawCall) :
    EventHistory config calls := by
  induction calls using List.reverseRecOn with
  | nil =>
      have hnone : eventOnsets config [] = [] := Episodes.onsets_nil ProcessedFrame.detected
      exact ⟨by rw [hnone]; rfl, rfl, by simp [hnone], by rw [hnone]; rfl⟩
  | append_singleton calls call ih => exact eventHistory_snoc hdetect ih call

/-- What the first frame of event number `k + 1` leaves. -/
theorem onset_result {frame : ProcessedFrame} {k : Nat} (h : Onset config frame k)
    (hdetect : config.motionDetect = true) (hsave : config.motionSave = true)
    (hdir : config.motionDir.length ≤ 255) (hk : k + 1 < 2 ^ 32) :
    if config.fbPreview && !frame.call.drawn then
      (frame.result config).file = none ∧
        (frame.result config).service.motionSnapshots = frame.before.motionSnapshots ∧
        (frame.result config).service.motionErrors = frame.before.motionErrors
    else ∃ path, snapshotPath config (k + 1) = some path ∧
      (frame.result config).file = (if frame.call.snapshot.fopen then
        some (path, frame.call.snapshot.accepted frame.call.jpeg) else none) ∧
      if frame.call.snapshot.written then
        (frame.result config).service.motionSnapshots = u32 (frame.before.motionSnapshots + 1) ∧
          (frame.result config).service.motionErrors = frame.before.motionErrors
      else
        (frame.result config).service.motionSnapshots = frame.before.motionSnapshots ∧
          (frame.result config).service.motionErrors = u32 (frame.before.motionErrors + 1) := by
  obtain ⟨hevents, hstill, result, hdetection, hdetected⟩ := h
  obtain ⟨service, pixels, hdraw, hcounts⟩ := draw_processed hdetect hdetection
  rw [hdetected, hstill] at hdraw hcounts
  rw [ProcessedFrame.result, hdraw]
  have hsnapshots : service.motionSnapshots = frame.before.motionSnapshots :=
    congrArg DrawCounts.snapshots hcounts
  have herrors : service.motionErrors = frame.before.motionErrors :=
    congrArg DrawCounts.errors hcounts
  split
  · rename_i hfailed
    obtain ⟨hfile, lcdErrors, hleft⟩ :=
      @displayFrame_quiet config frame.call service pixels true (Or.inl hfailed)
    exact ⟨hfile, (congrArg DrawCounts.snapshots hleft).trans hsnapshots,
      (congrArg DrawCounts.errors hleft).trans herrors⟩
  · rename_i hshown
    have hnumber : service.motionEvents = k + 1 := by
      have hcount : service.motionEvents = u32 (frame.before.motionEvents + 1) :=
        congrArg DrawCounts.events hcounts
      rw [hcount, hevents, u32, u32, Nat.mod_add_mod, Nat.mod_eq_of_lt hk]
    obtain ⟨path, hpath⟩ := snapshotPath_fits hdir hk
    rw [← hnumber] at hpath ⊢
    obtain ⟨hfile, hleft⟩ := displayFrame_event service pixels hsave hpath hshown
    refine ⟨path, hpath, hfile, ?_⟩
    rw [← hsnapshots, ← herrors]
    split
    · rename_i hwritten
      rw [if_pos hwritten] at hleft
      exact ⟨congrArg DrawCounts.snapshots hleft, congrArg DrawCounts.errors hleft⟩
    · rename_i hunwritten
      rw [if_neg hunwritten] at hleft
      exact ⟨congrArg DrawCounts.snapshots hleft, congrArg DrawCounts.errors hleft⟩

/-- The first frame of event number `id` has counted one snapshot, whose file holds
its JPEG data. -/
structure SnapshotTaken (config : CameraConfig) (files : List (List UInt8 × List UInt8))
    (frame : ProcessedFrame) (id : Nat) : Prop where
  snapshots : (frame.result config).service.motionSnapshots =
    u32 (frame.before.motionSnapshots + 1)
  errors : (frame.result config).service.motionErrors = frame.before.motionErrors
  file : ∃ path, snapshotPath config id = some path ∧ (path, frame.call.jpeg) ∈ files

/-- The first frame of an event has counted one error. -/
structure ErrorCounted (config : CameraConfig) (frame : ProcessedFrame) : Prop where
  snapshots : (frame.result config).service.motionSnapshots = frame.before.motionSnapshots
  errors : (frame.result config).service.motionErrors = u32 (frame.before.motionErrors + 1)

/-- Events, and the snapshots and errors they leave, correspond one to one. -/
structure EventsRecorded (config : CameraConfig) (g : Gateway) (calls : List DrawCall) : Prop where
  count : g.service.motionEvents = (eventOnsets config calls).length
  recorded : ∀ k frame, (eventOnsets config calls)[k]? = some frame →
    SnapshotTaken config g.files frame (k + 1) ∨ ErrorCounted config frame
  paths : (g.files.map Prod.fst).Nodup

theorem onset_file {frame : ProcessedFrame} {k : Nat} {file : List UInt8 × List UInt8}
    (h : Onset config frame k) (hdetect : config.motionDetect = true)
    (hsave : config.motionSave = true) (hdir : config.motionDir.length ≤ 255)
    (hk : k + 1 < 2 ^ 32) (hfile : file ∈ (frame.result config).file.toList) :
    snapshotPath config (k + 1) = some file.1 := by
  have hresult := onset_result h hdetect hsave hdir hk
  split at hresult
  · simp [hresult.1] at hfile
  · obtain ⟨path, hpath, hleft, -⟩ := hresult
    rw [hleft] at hfile
    split at hfile
    · obtain rfl := List.mem_singleton.mp hfile
      exact hpath
    · cases hfile

section AtHead
variable {g : Gateway} {log : DrawLog} (hdetect : config.motionDetect = true)
  (hsave : config.motionSave = true) (hdir : config.motionDir.length ≤ 255)
  (h : TransitionSystem.Reachable (drawingGateway config) (g, log)) (hhead : g.capture = .head)
include hdetect hsave hdir h hhead

omit hsave hdir in
/-- The service and the files at the head of the capture loop, by the events so far. -/
theorem events_at_head :
    g.service.motionEvents = u32 (eventOnsets config log.finished).length ∧
      (∀ k frame, (eventOnsets config log.finished)[k]? = some frame → Onset config frame k) ∧
      g.files = (eventOnsets config log.finished).flatMap fun frame =>
        (frame.result config).file.toList := by
  obtain ⟨hservice, hfiles, -⟩ := drawing_at_head h hhead
  have hhistory := eventHistory hdetect log.finished
  exact ⟨(congrArg HttpService.motionEvents hservice).trans hhistory.events, hhistory.onset,
    hfiles.trans hhistory.files⟩

omit h hhead in
theorem onset_drawn {frame : ProcessedFrame} {k : Nat} (honset : Onset config frame k)
    (hk : k + 1 < 2 ^ 32) {files : List (List UInt8 × List UInt8)}
    (h : SnapshotTaken config files frame (k + 1) ∨ ErrorCounted config frame) :
    ¬ (config.fbPreview && !frame.call.drawn) = true := by
  intro hfailed
  have hresult := onset_result honset hdetect hsave hdir hk
  rw [if_pos hfailed] at hresult
  obtain ⟨-, hsnapshots, herrors⟩ := hresult
  cases h with
  | inl htaken => exact absurd (htaken.snapshots.symm.trans hsnapshots) (u32_succ_ne _)
  | inr hcounted => exact absurd (hcounted.errors.symm.trans herrors) (u32_succ_ne _)

/-- The paths of a run differ, so the snapshot that counts for an event is the file of that
event. -/
theorem onset_flushes (hrecorded : EventsRecorded config g log.finished) {frame : ProcessedFrame}
    {k : Nat} (hframe : (eventOnsets config log.finished)[k]? = some frame)
    (hk : k + 1 < 2 ^ 32) : frame.call.snapshot.flushes frame.call.jpeg = true := by
  obtain ⟨-, honset, hfiles⟩ := events_at_head hdetect h hhead
  have hcase := hrecorded.recorded k frame hframe
  have hresult := onset_result (honset k frame hframe) hdetect hsave hdir hk
  rw [if_neg (onset_drawn hdetect hsave hdir (honset k frame hframe) hk hcase)] at hresult
  obtain ⟨path, hpath, hfile, hcounts⟩ := hresult
  cases hwritten : frame.call.snapshot.written with
  | false => simp [FileCalls.flushes, hwritten]
  | true =>
      rw [if_pos hwritten] at hcounts
      have hopen : frame.call.snapshot.fopen = true := (Bool.and_eq_true_iff.mp hwritten).1
      rw [if_pos hopen] at hfile
      cases hcase with
      | inr hcounted => exact absurd (hcounted.errors.symm.trans hcounts.2) (u32_succ_ne _)
      | inl htaken =>
          obtain ⟨path', hpath', hjpeg⟩ := htaken.file
          obtain rfl : path' = path := Option.some.inj (hpath'.symm.trans hpath)
          have hleft : (path', frame.call.snapshot.accepted frame.call.jpeg) ∈ g.files := by
            rw [hfiles, List.mem_flatMap]
            exact ⟨frame, List.mem_of_getElem? hframe, by simp [hfile]⟩
          have hsame := List.inj_on_of_nodup_map hrecorded.paths hleft hjpeg rfl
          exact (FileCalls.flushes_iff hwritten).mpr (congrArg Prod.snd hsame)

theorem eventsRecorded_outcomes (hrecorded : EventsRecorded config g log.finished) :
    (eventOnsets config log.finished).length < 2 ^ 32 ∧
      ∀ frame ∈ eventOnsets config log.finished,
        (config.fbPreview = true → frame.call.drawn = true) ∧
          frame.call.snapshot.flushes frame.call.jpeg = true := by
  obtain ⟨hcount, honset, -⟩ := events_at_head hdetect h hhead
  have hbound : (eventOnsets config log.finished).length < 2 ^ 32 := by
    rw [hrecorded.count] at hcount
    rw [hcount]
    exact Nat.mod_lt _ (by decide)
  refine ⟨hbound, fun frame hframe => ?_⟩
  obtain ⟨k, hk⟩ := List.mem_iff_getElem?.mp hframe
  have hlt := (List.getElem?_eq_some_iff.mp hk).1
  have hdrawn := onset_drawn hdetect hsave hdir (honset k frame hk) (by omega)
    (hrecorded.recorded k frame hk)
  exact ⟨by simpa using hdrawn,
    onset_flushes hdetect hsave hdir h hhead hrecorded hk (by omega)⟩

theorem eventsRecorded_of_outcomes (hbound : (eventOnsets config log.finished).length < 2 ^ 32)
    (houtcomes : ∀ frame ∈ eventOnsets config log.finished,
      (config.fbPreview = true → frame.call.drawn = true) ∧
        frame.call.snapshot.flushes frame.call.jpeg = true) :
    EventsRecorded config g log.finished := by
  obtain ⟨hcount, honset, hfiles⟩ := events_at_head hdetect h hhead
  refine ⟨hcount.trans (Nat.mod_eq_of_lt hbound), ?_, ?_⟩
  · intro k frame hk
    have hlt := (List.getElem?_eq_some_iff.mp hk).1
    obtain ⟨hdrawn, hflushes⟩ := houtcomes frame (List.mem_of_getElem? hk)
    have hshown : ¬ (config.fbPreview && !frame.call.drawn) = true := by simpa using hdrawn
    have hresult := onset_result (honset k frame hk) hdetect hsave hdir (by omega)
    rw [if_neg hshown] at hresult
    obtain ⟨path, hpath, hfile, hcounts⟩ := hresult
    split at hcounts
    · rename_i hwritten
      rw [(FileCalls.flushes_iff hwritten).mp hflushes,
        if_pos (Bool.and_eq_true_iff.mp hwritten).1] at hfile
      refine Or.inl ⟨hcounts.1, hcounts.2, path, hpath, ?_⟩
      rw [hfiles, List.mem_flatMap]
      exact ⟨frame, List.mem_of_getElem? hk, by simp [hfile]⟩
    · exact Or.inr ⟨hcounts.1, hcounts.2⟩
  · rw [hfiles, List.Nodup, List.pairwise_map, List.pairwise_flatMap]
    constructor
    · intro frame _
      cases (frame.result config).file <;> simp
    · rw [List.pairwise_iff_getElem]
      intro i j hi hj hij file hfile file' hfile' hpath
      have honset_i := honset i _ (List.getElem?_eq_getElem hi)
      have honset_j := honset j _ (List.getElem?_eq_getElem hj)
      have hfirst := onset_file honset_i hdetect hsave hdir (by omega) hfile
      have hsecond := onset_file honset_j hdetect hsave hdir (by omega) hfile'
      rw [← hpath] at hsecond
      have hsame := snapshotPath_injective hfirst hsecond
      omega

/-- At the head of the capture loop every event has left exactly one snapshot or error, and
their number is right, just when fewer than 2^32 events have begun and, on the first frame of
each, no draw has failed and a snapshot file that was written without an error has taken the
rest of its buffer. -/
theorem motion_events_recorded_iff :
    EventsRecorded config g log.finished ↔
      (eventOnsets config log.finished).length < 2 ^ 32 ∧
        ∀ frame ∈ eventOnsets config log.finished,
          (config.fbPreview = true → frame.call.drawn = true) ∧
            frame.call.snapshot.flushes frame.call.jpeg = true := by
  constructor
  · exact eventsRecorded_outcomes hdetect hsave hdir h hhead
  · rintro ⟨hbound, houtcomes⟩
    exact eventsRecorded_of_outcomes hdetect hsave hdir h hhead hbound houtcomes

end AtHead

def CaptureState.isHead : CaptureState → Bool
  | .head => true
  | _ => false

theorem head_of_isHead {state : CaptureState} (h : state.isHead = true) : state = .head := by
  cases state with
  | head => rfl
  | _ => cases h

def eventConfig : CameraConfig := { motionConfig with motionSave := true }

/-- A black frame, then the first frame of an event; `outcomes` are those of its
draw and of the calls after it. -/
def firstEvent (outcomes : List CaptureEvent) : List Action :=
  startup ++ processPixel 1 0 ++ finishFrame ++ processPixel 2 0xffff ++
    outcomes.map .capture ++ [.capture .go, .capture .go, .capture (.requeued true)]

/-- The event's picture is drawn and its snapshot written. -/
theorem motion_events_recorded_iff_oneEvent :
    ∃ g log, TransitionSystem.Reachable (drawingGateway eventConfig) (g, log) ∧
      ((eventOnsets eventConfig log.finished).length = 1 ∧ g.capture = .head) ∧
      (EventsRecorded eventConfig g log.finished ↔
        (eventOnsets eventConfig log.finished).length < 2 ^ 32 ∧
          ∀ frame ∈ eventOnsets eventConfig log.finished,
            (eventConfig.fbPreview = true → frame.call.drawn = true) ∧
              frame.call.snapshot.flushes frame.call.jpeg = true) ∧
      EventsRecorded eventConfig g log.finished := by
  have hrun : (TransitionSystem.exec (drawingGateway eventConfig) (Gateway.init, DrawLog.empty)
      (firstEvent [.drawn true, .go, .written storedFile])).any
      (fun s => s.1.capture.isHead &&
        decide ((eventOnsets eventConfig s.2.finished).length = 1) &&
        (eventOnsets eventConfig s.2.finished).all fun frame =>
          frame.call.drawn && frame.call.snapshot.flushes frame.call.jpeg) = true := by
    decide +kernel
  obtain ⟨⟨g, log⟩, hexec, hg⟩ := TransitionSystem.exists_exec_of_any hrun
  have hreach := (TransitionSystem.Reachable.init (drawingGateway eventConfig)).exec hexec
  simp only [Bool.and_eq_true, decide_eq_true_eq, List.all_eq_true] at hg
  obtain ⟨⟨hhead, hone⟩, houtcomes⟩ := hg
  have hiff := motion_events_recorded_iff rfl rfl (by decide) hreach (head_of_isHead hhead)
  refine ⟨g, log, hreach, ⟨hone, head_of_isHead hhead⟩, hiff, hiff.mpr ⟨by omega, ?_⟩⟩
  intro frame hframe
  exact ⟨fun _ => (houtcomes frame hframe).1, (houtcomes frame hframe).2⟩

/-- The display refuses the first frame of the event: it is counted nowhere. -/
theorem motion_event_lost_by_failed_draw :
    ¬ ∀ (config : CameraConfig) (g : Gateway) (log : DrawLog), config.motionDetect = true →
      config.motionSave = true → config.motionDir.length ≤ 255 →
      TransitionSystem.Reachable (drawingGateway config) (g, log) → g.capture = .head →
      EventsRecorded config g log.finished := by
  intro claim
  have hrun : (TransitionSystem.exec (drawingGateway eventConfig) (Gateway.init, DrawLog.empty)
      (firstEvent [.drawn false])).any
      (fun s => s.1.capture.isHead &&
        (eventOnsets eventConfig s.2.finished).any fun frame => !frame.call.drawn) = true := by
    decide +kernel
  obtain ⟨⟨g, log⟩, hexec, hg⟩ := TransitionSystem.exists_exec_of_any hrun
  have hreach := (TransitionSystem.Reachable.init (drawingGateway eventConfig)).exec hexec
  simp only [Bool.and_eq_true, List.any_eq_true] at hg
  obtain ⟨hhead, frame, hframe, hfailed⟩ := hg
  have hrecorded := claim eventConfig g log rfl rfl (by decide) hreach (head_of_isHead hhead)
  have hdrawn := ((eventsRecorded_outcomes rfl rfl (by decide) hreach (head_of_isHead hhead)
    hrecorded).2 frame hframe).1 rfl
  simp [hdrawn] at hfailed

end Events

end CameraGateway
