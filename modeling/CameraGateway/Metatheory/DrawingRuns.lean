import CameraGateway.Metatheory.MotionIndependence
import CameraGateway.Metatheory.Teardown

/-!
The capture thread runs `http_service_draw_lcd_frame` in pieces, with the other
threads in between. At the head of its loop the service and the files are what the
finished calls, one after the other, have made of an empty service.
-/
namespace CameraGateway
variable {config : CameraConfig} {g g' : Gateway}

/-- The calls of a run: those whose frame has been counted, and the one under way. -/
structure DrawLog where
  finished : List DrawCall
  current : Option DrawCall

def DrawLog.empty : DrawLog := { finished := [], current := none }

def watchCapture (log : DrawLog) : CaptureState → CaptureEvent → DrawLog
  | .draw frame, .decoded picture malloc =>
      { log with
        current := some
          { jpeg := frame.value.bytes, picture := picture, malloc := malloc, drawn := false
            snapshot := .unopened } }
  | .show _ _ _, .drawn ok =>
      { log with current := log.current.map fun call => { call with drawn := ok } }
  | .saveSnapshot _ _, .written calls =>
      { log with current := log.current.map fun call => { call with snapshot := calls } }
  | .countFrame _, .go => { finished := log.finished ++ log.current.toList, current := none }
  | _, _ => log

def watchDraws (g : Gateway) (action : Action) (log : DrawLog) : DrawLog :=
  match action with
  | .capture event => watchCapture log g.capture event
  | _ => log

def drawingGateway (config : CameraConfig) :
    TransitionSystem.System (Gateway × DrawLog) Action :=
  (gateway config).observe DrawLog.empty watchDraws

/-- The states in which no call is under way. -/
def CaptureState.outsideDraw : CaptureState → Bool
  | .show _ _ _ | .readEventId _ | .saveSnapshot _ _ | .countLcd _ _ | .countFrame _ => false
  | _ => true

/-- What is left of a call that began in `before`, with the part of the service
it has reached and the file it has written. -/
inductive DrawPlace (config : CameraConfig) (before : HttpService) :
    CaptureState → Option DrawCall → HttpService → Option (List UInt8 × List UInt8) → Prop where
  | outside (state : CaptureState) (outside : state.outsideDraw = true) :
      DrawPlace config before state none before none
  | show (frame : Frame) (pixels : List UInt16) (motionEvent : Bool) (call : DrawCall)
      (service : HttpService) (jpeg : call.jpeg = frame.value.bytes)
      (rest : ∀ drawn snapshot,
        httpServiceDrawLcdFrame config before { call with drawn := drawn, snapshot := snapshot } =
          displayFrame config service { call with drawn := drawn, snapshot := snapshot } pixels
            motionEvent) :
      DrawPlace config before (.show frame pixels motionEvent) (some call) service none
  | readEventId (frame : Frame) (call : DrawCall) (service : HttpService)
      (shown : Option (List UInt16)) (jpeg : call.jpeg = frame.value.bytes)
      (saves : config.motionSave = true)
      (rest : ∀ calls, httpServiceDrawLcdFrame config before { call with snapshot := calls } =
        drawOut config service { call with snapshot := calls } shown true 0) :
      DrawPlace config before (.readEventId frame) (some call) service none
  | saveSnapshot (frame : Frame) (call : DrawCall) (service : HttpService)
      (shown : Option (List UInt16)) (jpeg : call.jpeg = frame.value.bytes)
      (saves : config.motionSave = true)
      (rest : ∀ calls, httpServiceDrawLcdFrame config before { call with snapshot := calls } =
        drawOut config service { call with snapshot := calls } shown true 0) :
      DrawPlace config before (.saveSnapshot frame service.motionEvents) (some call) service none
  | countLcd (frame : Frame) (ret : Int) (call : DrawCall) (service : HttpService)
      (shown : Option (List UInt16)) (file : Option (List UInt8 × List UInt8))
      (rest : httpServiceDrawLcdFrame config before call =
        { ret := ret, service := CameraGateway.countLcd service config.fbPreview ret
          shown := shown, file := file }) :
      DrawPlace config before (.countLcd frame ret) (some call) service file
  | countFrame (frame : Frame) (call : DrawCall) :
      DrawPlace config before (.countFrame frame) (some call)
        (httpServiceDrawLcdFrame config before call).service
        (httpServiceDrawLcdFrame config before call).file

theorem drawPlace_outside {before service : HttpService} {state : CaptureState}
    {current : Option DrawCall} {file : Option (List UInt8 × List UInt8)}
    (h : DrawPlace config before state current service file) (hout : state.outsideDraw = true) :
    current = none ∧ service = before ∧ file = none := by
  cases h with
  | outside _ _ => exact ⟨rfl, rfl, rfl⟩
  | _ => cases hout

/-- The service, the files and the counter of captured frames, as the finished calls
and the one under way have left them. -/
structure Drawn (config : CameraConfig) (state : CaptureState) (service : HttpService)
    (files : List (List UInt8 × List UInt8)) (log : DrawLog) : Prop where
  place : ∃ file, DrawPlace config (drawFrames config HttpService.zero log.finished) state
    log.current service.drawing file ∧
    files = savedFiles config HttpService.zero log.finished ++ file.toList
  captured : service.capturedFrames = u32 log.finished.length

theorem Drawn.outside {state state' : CaptureState} {service service' : HttpService}
    {files : List (List UInt8 × List UInt8)} {log : DrawLog}
    (h : Drawn config state service files log) (hout : state.outsideDraw = true)
    (hout' : state'.outsideDraw = true) (hservice : service'.drawing = service.drawing)
    (hcaptured : service'.capturedFrames = service.capturedFrames) :
    Drawn config state' service' files log := by
  obtain ⟨file, hplace, hfiles⟩ := h.place
  obtain ⟨hnone, hbefore, rfl⟩ := drawPlace_outside hplace hout
  refine ⟨⟨none, ?_, hfiles⟩, hcaptured.trans h.captured⟩
  rw [hservice, hbefore, hnone]
  exact .outside state' hout'

theorem Drawn.congr {state : CaptureState} {service service' : HttpService}
    {files : List (List UInt8 × List UInt8)} {log : DrawLog}
    (h : Drawn config state service files log) (hservice : service'.drawing = service.drawing)
    (hcaptured : service'.capturedFrames = service.capturedFrames) :
    Drawn config state service' files log := by
  refine ⟨?_, hcaptured.trans h.captured⟩
  rw [hservice]
  exact h.place

section Call
variable {service : HttpService} {frame : Frame}

theorem drawOut_failed (service : HttpService) (call : DrawCall) (shown : Option (List UInt16))
    (motionEvent : Bool) :
    drawOut config service call shown motionEvent (-1) =
      { ret := -1, service := countLcd service config.fbPreview (-1), shown := shown
        file := none } := rfl

theorem displayFrame_drawn (service : HttpService) {call : DrawCall} (pixels : List UInt16)
    (motionEvent : Bool) (h : ¬ (config.fbPreview && !call.drawn) = true) :
    displayFrame config service call pixels motionEvent =
      drawOut config service call (if config.fbPreview then some pixels else none) motionEvent
        0 := by
  rw [displayFrame]
  cases hdisplay : config.fbPreview with
  | false => rfl
  | true =>
      have hdrawn : call.drawn = true := by simpa [hdisplay] using h
      rw [hdrawn]
      rfl

theorem displayFrame_failed (service : HttpService) {call : DrawCall} (pixels : List UInt16)
    (motionEvent : Bool) (h : (config.fbPreview && !call.drawn) = true) :
    displayFrame config service call pixels motionEvent =
      { ret := -1, service := countLcd service config.fbPreview (-1), shown := some pixels
        file := none } := by
  have hdisplay : config.fbPreview = true := (Bool.and_eq_true_iff.mp h).1
  have hdrawn : call.drawn = false := by simpa using (Bool.and_eq_true_iff.mp h).2
  rw [displayFrame, if_pos hdisplay, hdrawn]
  exact drawOut_failed service call (some pixels) motionEvent

theorem drawOut_unsaved (service : HttpService) (call : DrawCall) (shown : Option (List UInt16))
    {motionEvent : Bool} (h : ¬ (motionEvent && config.motionSave) = true) :
    drawOut config service call shown motionEvent 0 =
      { ret := 0, service := countLcd service config.fbPreview 0, shown := shown
        file := none } := by
  rw [drawOut, if_neg]
  rintro ⟨-, hevent, hsave⟩
  exact h (Bool.and_eq_true_iff.mpr ⟨hevent, hsave⟩)

theorem drawOut_saved (service : HttpService) (call : DrawCall) (shown : Option (List UInt16))
    (hsave : config.motionSave = true) :
    drawOut config service call shown true 0 =
      { ret := 0
        service := countLcd
          (storeSnapshot config service service.motionEvents call.jpeg call.snapshot).1
          config.fbPreview 0
        shown := shown
        file := (storeSnapshot config service service.motionEvents call.jpeg call.snapshot).2 } := by
  rw [drawOut, if_pos ⟨rfl, rfl, hsave⟩]

theorem motionBlock_captured (config : CameraConfig) (service : HttpService) (picture : Picture)
    (malloc : Bool) :
    (motionBlock config service picture malloc).service.capturedFrames =
      service.capturedFrames := by
  have hresize : (resizeBaseline service picture).capturedFrames = service.capturedFrames := by
    rw [resizeBaseline]
    split <;> rfl
  rw [motionBlock]
  dsimp only
  split <;> exact hresize

theorem countLcd_captured (service : HttpService) (display : Bool) (ret : Int) :
    (countLcd service display ret).capturedFrames = service.capturedFrames := by
  rw [countLcd]
  split
  · rfl
  · split <;> rfl

theorem drawPlace_start (picture : Option Picture) (malloc : Bool) :
    let step := drawStep config service frame picture malloc
    let call : DrawCall :=
      { jpeg := frame.value.bytes, picture := picture, malloc := malloc, drawn := false
        snapshot := .unopened }
    DrawPlace config service.drawing step.next (some call) step.service.drawing none ∧
      step.file = none ∧ step.service.capturedFrames = service.capturedFrames := by
  dsimp only
  fun_cases drawStep config service frame picture malloc
  case case1 hoff =>
      refine ⟨?_, rfl, rfl⟩
      have hcall : ∀ call, httpServiceDrawLcdFrame config service.drawing call =
          ⟨0, service.drawing, none, none⟩ := by
        intro call
        rw [httpServiceDrawLcdFrame, if_pos hoff]
      have hplace := @DrawPlace.countFrame config service.drawing frame
        { jpeg := frame.value.bytes, picture := picture, malloc := malloc, drawn := false
          snapshot := .unopened }
      rwa [hcall] at hplace
  case case2 hon =>
      refine ⟨.countLcd frame (-1) _ _ none none ?_, rfl, rfl⟩
      rw [httpServiceDrawLcdFrame, if_neg hon]
      exact drawOut_failed service.drawing _ none false
  case case3 hon picture hdetect service' hblock =>
      have hpart : motionBlock config service.drawing picture malloc =
          .unallocated service'.drawing := by
        rw [motionBlock_drawing, hblock]
        rfl
      refine ⟨.countLcd frame (-1) _ _ none none ?_, rfl, ?_⟩
      · rw [httpServiceDrawLcdFrame, if_neg hon]
        simp only [hdetect, if_true, hpart]
        exact drawOut_failed service'.drawing _ none false
      · have hcaptured := motionBlock_captured config service picture malloc
        rwa [hblock] at hcaptured
  case case4 hon picture hdetect service' result event hblock =>
      have hpart : motionBlock config service.drawing picture malloc =
          .processed service'.drawing result event := by
        rw [motionBlock_drawing, hblock]
        rfl
      refine ⟨.show frame _ event _ _ rfl ?_, rfl, ?_⟩
      · intro drawn snapshot
        rw [httpServiceDrawLcdFrame, if_neg hon]
        simp only [hdetect, if_true, hpart]
        rfl
      · have hcaptured := motionBlock_captured config service picture malloc
        rwa [hblock] at hcaptured
  case case5 hon picture hdetect =>
      refine ⟨.show frame _ false _ _ rfl ?_, rfl, rfl⟩
      intro drawn snapshot
      rw [httpServiceDrawLcdFrame, if_neg hon]
      simp only [hdetect, Bool.false_eq_true, if_false]
      rfl

end Call

section Capture
variable {service : HttpService} {state : CaptureState} {event : CaptureEvent} {step : CaptureStep}
  {log : DrawLog} {files : List (List UInt8 × List UInt8)}

theorem drawn_show {frame : Frame} {pixels : List UInt16} {motionEvent : Bool} {call : DrawCall}
    {before : HttpService} {ok : Bool}
    (rest : ∀ drawn snapshot,
      httpServiceDrawLcdFrame config before { call with drawn := drawn, snapshot := snapshot } =
        displayFrame config service.drawing { call with drawn := drawn, snapshot := snapshot } pixels
          motionEvent)
    (hjpeg : call.jpeg = frame.value.bytes)
    (hs : captureStep config service (.show frame pixels motionEvent) (.drawn ok) = some step) :
    step.service = service ∧ step.file = none ∧
      DrawPlace config before step.next (some { call with drawn := ok }) service.drawing none := by
  rw [captureStep] at hs
  split at hs
  · rename_i hfailed
    cases hs
    refine ⟨rfl, rfl, .countLcd frame (-1) _ _ (some pixels) none ?_⟩
    exact (rest ok call.snapshot).trans (displayFrame_failed _ pixels motionEvent hfailed)
  · rename_i hdrawn
    split at hs
    · rename_i hsave
      cases hs
      obtain ⟨hevent, hsave⟩ := Bool.and_eq_true_iff.mp hsave
      refine ⟨rfl, rfl, .readEventId frame _ _ (if config.fbPreview then some pixels else none)
        hjpeg hsave ?_⟩
      intro calls
      have hdisplayed := (rest ok calls).trans (displayFrame_drawn _ pixels motionEvent hdrawn)
      rwa [hevent] at hdisplayed
    · rename_i hunsaved
      cases hs
      refine ⟨rfl, rfl, .countLcd frame 0 _ _ (if config.fbPreview then some pixels else none)
        none ?_⟩
      calc httpServiceDrawLcdFrame config before { call with drawn := ok }
          = displayFrame config service.drawing { call with drawn := ok } pixels motionEvent :=
            rest ok call.snapshot
        _ = drawOut config service.drawing { call with drawn := ok }
              (if config.fbPreview then some pixels else none) motionEvent 0 :=
            displayFrame_drawn _ pixels motionEvent hdrawn
        _ = _ := drawOut_unsaved _ _ _ hunsaved

theorem countSnapshot_captured (service : HttpService) (written : Bool) :
    (countSnapshot service written).capturedFrames = service.capturedFrames := by
  cases written <;> rfl

theorem drawn_save {frame : Frame} {call : DrawCall} {before : HttpService}
    {shown : Option (List UInt16)} {calls : FileCalls} (hsave : config.motionSave = true)
    (rest : ∀ calls, httpServiceDrawLcdFrame config before { call with snapshot := calls } =
      drawOut config service.drawing { call with snapshot := calls } shown true 0)
    (hjpeg : call.jpeg = frame.value.bytes)
    (hs : captureStep config service (.saveSnapshot frame service.motionEvents)
      (.written calls) = some step) :
    step.service.capturedFrames = service.capturedFrames ∧
      DrawPlace config before step.next (some { call with snapshot := calls })
        step.service.drawing step.file := by
  have hcall := (rest calls).trans (drawOut_saved _ _ shown hsave)
  cases hs
  refine ⟨storeSnapshot_keeps service _ calls (countSnapshot_captured service),
    .countLcd frame 0 _ _ shown _ ?_⟩
  rw [storeSnapshot_drawing] at hcall
  dsimp only
  rw [← hjpeg]
  exact hcall

theorem drawn_inside (h : Drawn config state service files log) (hin : state.outsideDraw = false)
    (hs : captureStep config service state event = some step) :
    Drawn config step.next step.service (files ++ step.file.toList)
      (watchCapture log state event) := by
  obtain ⟨file, hplace, hfiles⟩ := h.place
  have hcaptured := h.captured
  generalize hcurrent : log.current = current at hplace
  generalize hdrawing : service.drawing = drawing at hplace
  cases hplace with
  | outside _ hout =>
      rw [hin] at hout
      cases hout
  | «show» frame pixels motionEvent call _ hjpeg rest =>
      subst hdrawing
      cases event with
      | drawn ok =>
          obtain ⟨hservice, hfile, hplace⟩ := drawn_show rest hjpeg hs
          refine ⟨⟨none, ?_, by simpa [hfile, watchCapture] using hfiles⟩, by rwa [hservice]⟩
          rw [hservice]
          simpa only [watchCapture, hcurrent, Option.map_some] using hplace
      | _ => simp [captureStep] at hs
  | readEventId frame call _ shown hjpeg saves rest =>
      subst hdrawing
      cases event with
      | go =>
          simp only [captureStep, Option.some.injEq] at hs
          subst hs
          refine ⟨⟨none, ?_, by simpa [watchCapture, CaptureStep.quiet] using hfiles⟩, hcaptured⟩
          simp only [watchCapture, hcurrent]
          exact .saveSnapshot frame call service.drawing shown hjpeg saves rest
      | _ => simp [captureStep] at hs
  | saveSnapshot frame call _ shown hjpeg saves rest =>
      subst hdrawing
      cases event with
      | written calls =>
          obtain ⟨hsame, hplace⟩ := drawn_save saves rest hjpeg hs
          refine ⟨⟨step.file, ?_, by simpa [watchCapture] using hfiles⟩, hsame.trans hcaptured⟩
          simpa only [watchCapture, hcurrent, Option.map_some] using hplace
      | _ => simp [captureStep] at hs
  | countLcd frame ret call _ shown file rest =>
      subst hdrawing
      cases event with
      | go =>
          simp only [captureStep, Option.some.injEq] at hs
          subst hs
          refine ⟨⟨file, ?_, by simpa [watchCapture, CaptureStep.quiet] using hfiles⟩,
            (countLcd_captured service _ ret).trans hcaptured⟩
          have hplace := @DrawPlace.countFrame config
            (drawFrames config HttpService.zero log.finished) frame call
          rw [rest] at hplace
          simpa only [watchCapture, hcurrent, CaptureStep.quiet, countLcd_drawing] using hplace
      | _ => simp [captureStep] at hs
  | countFrame frame call =>
      cases event with
      | go =>
          simp only [captureStep, Option.some.injEq] at hs
          subst hs
          refine ⟨⟨none, ?_, ?_⟩, ?_⟩
          · simp only [watchCapture, hcurrent, Option.toList_some, drawFrames_snoc]
            rw [← hdrawing]
            exact .outside .requeue rfl
          · simp only [watchCapture, hcurrent, Option.toList_some, savedFiles_snoc, hfiles]
            simp [CaptureStep.quiet]
          · simp only [watchCapture, hcurrent, Option.toList_some, List.length_append,
              List.length_singleton]
            show u32 (service.capturedFrames + 1) = _
            rw [hcaptured, u32, u32, Nat.mod_add_mod]
            rfl
      | _ => simp [captureStep] at hs

theorem updateLatest_drawing (service : HttpService) (frame : Frame) (malloc : Option Nat) :
    (httpServiceUpdateLatest service frame malloc).2.drawing = service.drawing ∧
      (httpServiceUpdateLatest service frame malloc).2.capturedFrames =
        service.capturedFrames := by
  rw [httpServiceUpdateLatest]
  split <;> exact ⟨rfl, rfl⟩

/-- A step outside the calls starts one or leaves everything a call uses alone. -/
theorem drawn_between (h : Drawn config state service files log) (hout : state.outsideDraw = true)
    (hs : captureStep config service state event = some step) :
    Drawn config step.next step.service (files ++ step.file.toList)
      (watchCapture log state event) := by
  have quiet : ∀ {next : CaptureState} {service' : HttpService} {broadcast published},
      some (CaptureStep.mk next service' broadcast published none) = some step →
      next.outsideDraw = true → service'.drawing = service.drawing →
      service'.capturedFrames = service.capturedFrames → watchCapture log state event = log →
      Drawn config step.next step.service (files ++ step.file.toList)
        (watchCapture log state event) := by
    intro next service' broadcast published hstep hnext hdrawing hcaptured hlog
    cases hstep
    rw [hlog, Option.toList_none, List.append_nil]
    exact h.outside hout hnext hdrawing hcaptured
  revert hs quiet h hout
  fun_cases captureStep config service state event
  case case1 =>
      intro _ _ hs quiet
      split at hs <;> exact quiet hs rfl rfl rfl rfl
  case case8 =>
      intro _ _ hs quiet
      exact quiet hs rfl rfl rfl rfl
  case case9 frame malloc updated _ =>
      intro _ _ hs quiet
      obtain ⟨hdrawing, hcaptured⟩ := updateLatest_drawing service frame malloc
      exact quiet hs rfl hdrawing hcaptured rfl
  case case10 frame picture malloc =>
      intro h _ hs _
      cases hs
      obtain ⟨file, hplace, hfiles⟩ := h.place
      obtain ⟨-, hbefore, rfl⟩ := drawPlace_outside hplace rfl
      obtain ⟨hstart, hfile, hcaptured⟩ :=
        @drawPlace_start config service frame picture malloc
      rw [hbefore] at hstart
      refine ⟨⟨none, hstart, ?_⟩, hcaptured.trans h.captured⟩
      rw [hfile, hfiles]
      simp [watchCapture]
  case case18 ok =>
      intro _ _ hs quiet
      cases ok <;> exact quiet hs rfl rfl rfl rfl
  case case19 =>
      intro _ _ hs quiet
      exact quiet hs rfl rfl rfl rfl
  all_goals
    intro _ hout hs quiet
    first
    | exact quiet hs rfl rfl rfl rfl
    | exact absurd hout Bool.false_ne_true
    | cases hs

theorem drawn_capture (h : Drawn config state service files log)
    (hs : captureStep config service state event = some step) :
    Drawn config step.next step.service (files ++ step.file.toList)
      (watchCapture log state event) := by
  cases hout : state.outsideDraw with
  | true => exact drawn_between h hout hs
  | false => exact drawn_inside h hout hs

end Capture

section Gateway
variable {log : DrawLog}

theorem mainStep_created {ok : Bool} (h : g.mainStep config ok = some g')
    (hmain : g'.main = .createCapture) : g'.alive = true := by
  revert h hmain
  fun_cases Gateway.mainStep config g ok
  case case2 | case7 | case18 =>
      intro h hmain
      cases h
      split at hmain <;> simp at hmain
  case case3 =>
      intro h _
      cases h
      rfl
  all_goals
    intro h hmain
    cases h <;> simp at hmain

theorem reachable_captureAlive (h : TransitionSystem.Reachable (gateway config) g) :
    (g.main = .createCapture → g.alive = true) ∧
      (g.capture ≠ .absent → g.capture ≠ .ended → g.alive = true) := by
  refine TransitionSystem.Reachable.invariant
    (I := fun g => (g.main = .createCapture → g.alive = true) ∧
      (g.capture ≠ .absent → g.capture ≠ .ended → g.alive = true))
    (by simp [gateway, Gateway.init]) ?_ h
  rintro g g' action hreach ⟨hcreate, hrunning⟩ hs
  cases action with
  | main ok =>
      refine ⟨mainStep_created hs, fun hstarted hrest => ?_⟩
      have halive : g.alive = true := by
        cases mainStep_capture hs with
        | inl hsame =>
            rw [hsame] at hstarted hrest
            exact hrunning hstarted hrest
        | inr hcreated => exact hcreate hcreated.1
      cases mainStep_service hs with
      | same hkept | countedIn _ _ _ _ hkept | countedOut hkept | stopped _ _ hkept =>
          exact hkept.trans halive
      | started _ hkept => exact hkept
      | destroyed result hmain =>
          have hsame : g'.capture = g.capture := by
            cases mainStep_capture hs with
            | inl hsame => exact hsame
            | inr hcreated => simp [hmain] at hcreated
          rw [hsame] at hstarted hrest
          cases reachable_captureJoined hreach (by rw [hmain]; rfl) with
          | inl habsent => exact absurd habsent hstarted
          | inr hended => exact absurd hended hrest
  | capture event =>
      obtain ⟨step, hstep, rfl⟩ := Option.map_eq_some_iff.mp hs
      refine ⟨hcreate, fun _ _ => hrunning ?_ ?_⟩ <;>
        · intro hnone
          rw [hnone] at hstep
          simp [captureStep] at hstep
  | client i event =>
      have hframe := stepClient_frame hs
      rw [hframe.main, hframe.capture, hframe.alive]
      exact ⟨hcreate, hrunning⟩
  | peer event =>
      obtain ⟨peers, backlog, rfl⟩ := stepPeer_frame hs
      exact ⟨hcreate, hrunning⟩

theorem captureStep_alive (h : TransitionSystem.Reachable (gateway config) g)
    {event : CaptureEvent} {step : CaptureStep}
    (hs : captureStep config g.service g.capture event = some step) : g.alive = true := by
  refine (reachable_captureAlive h).2 ?_ ?_ <;>
    · intro hnone
      rw [hnone] at hs
      simp [captureStep] at hs

theorem head_alive (h : TransitionSystem.Reachable (gateway config) g)
    (hhead : g.capture = .head) : g.alive = true :=
  (reachable_captureAlive h).2 (by simp [hhead]) (by simp [hhead])

/-- The history of a live service is the one its fields have gone through. -/
structure DrawsFollow (config : CameraConfig) (g : Gateway) (log : DrawLog) : Prop where
  unstarted : g.main = .start ∨ g.main = .initService → g.files = [] ∧ log = DrawLog.empty
  drawn : g.alive = true → Drawn config g.capture g.service g.files log

theorem drawn_zero : Drawn config .absent HttpService.zero [] DrawLog.empty :=
  ⟨⟨none, .outside .absent rfl, rfl⟩, rfl⟩

theorem countOut_drawing (service : HttpService) :
    (countOut service).drawing = service.drawing ∧
      (countOut service).capturedFrames = service.capturedFrames := by
  rw [countOut]
  split <;> exact ⟨rfl, rfl⟩

theorem drawsFollow_main {ok : Bool} (hsetup : Setup g) (hg : DrawsFollow config g log)
    (hs : g.mainStep config ok = some g') : DrawsFollow config g' log := by
  obtain ⟨-, hfiles⟩ := mainStep_history hs
  have hkept : ∀ {service : HttpService}, Drawn config g.capture g.service g.files log →
      service.drawing = g.service.drawing → service.capturedFrames = g.service.capturedFrames →
      Drawn config g'.capture service g'.files log := by
    intro service hdrawn hdrawing hcaptured
    rw [hfiles]
    cases mainStep_capture hs with
    | inl hsame =>
        rw [hsame]
        exact hdrawn.congr hdrawing hcaptured
    | inr hcreate =>
        rw [(hsetup (Or.inr (Or.inr hcreate.1))).1] at hdrawn
        rw [hcreate.2]
        exact hdrawn.outside rfl rfl hdrawing hcaptured
  constructor
  · intro hmain
    rw [hfiles]
    exact hg.unstarted (Or.inl (mainStep_unstarted hs hmain).1)
  · intro halive'
    cases mainStep_service hs with
    | same halive hservice =>
        rw [hservice]
        exact hkept (hg.drawn (halive ▸ halive')) rfl rfl
    | countedIn _ _ _ _ halive hservice | stopped _ _ halive hservice _ =>
        rw [hservice]
        exact hkept (hg.drawn (halive ▸ halive')) rfl rfl
    | countedOut halive hservice =>
        obtain ⟨hdrawing, hcaptured⟩ := countOut_drawing g.service
        rw [hservice]
        exact hkept (hg.drawn (halive ▸ halive')) hdrawing hcaptured
    | started hmain _ hservice =>
        obtain ⟨hnone, hlog⟩ := hg.unstarted (Or.inr hmain)
        have hcapture : g'.capture = .absent := by
          cases mainStep_capture hs with
          | inl hsame => exact hsame.trans (hsetup (Or.inr (Or.inl hmain))).1
          | inr hcreate => simp [hmain] at hcreate
        rw [hservice, hfiles, hnone, hlog, hcapture]
        exact drawn_zero
    | destroyed _ _ hdead =>
        rw [hdead] at halive'
        cases halive'

theorem drawsFollow_step {action : Action} (hsetup : Setup g) (hg : DrawsFollow config g log)
    (hs : g.step config action = some g') :
    DrawsFollow config g' (watchDraws g action log) := by
  cases action with
  | main ok => exact drawsFollow_main hsetup hg hs
  | capture event =>
      obtain ⟨step, hstep, rfl⟩ := Option.map_eq_some_iff.mp hs
      refine ⟨?_, fun halive => drawn_capture (hg.drawn halive) hstep⟩
      intro hmain
      have hcapture : g.capture = .absent := by
        apply (hsetup _).1
        cases hmain with
        | inl h => exact Or.inl h
        | inr h => exact Or.inr (Or.inl h)
      rw [hcapture] at hstep
      simp [captureStep] at hstep
  | client i event =>
      obtain ⟨_, _, -, -, hcases⟩ := stepClient_cases hs
      cases hcases with
      | inl hcount =>
          obtain ⟨-, -, rfl⟩ := hcount
          obtain ⟨hdrawing, hcaptured⟩ := countOut_drawing g.service
          exact ⟨hg.unstarted, fun halive => (hg.drawn halive).congr hdrawing hcaptured⟩
      | inr hstep =>
          obtain ⟨-, rfl⟩ := hstep
          exact ⟨hg.unstarted, hg.drawn⟩
  | peer event =>
      obtain ⟨peers, backlog, rfl⟩ := stepPeer_frame hs
      exact ⟨hg.unstarted, hg.drawn⟩

theorem reachable_drawsFollow (h : TransitionSystem.Reachable (drawingGateway config) (g, log)) :
    DrawsFollow config g log := by
  refine TransitionSystem.Reachable.observed_invariant (I := DrawsFollow config)
    ⟨fun _ => ⟨rfl, rfl⟩, by simp [gateway, Gateway.init]⟩ ?_ h
  intro g g' log action hreach hg hs
  exact drawsFollow_step (reachable_setup hreach) hg hs

/-- At the head of its loop the capture thread has run the finished calls, one after
the other, on an empty service. -/
theorem drawing_at_head (h : TransitionSystem.Reachable (drawingGateway config) (g, log))
    (hhead : g.capture = .head) :
    g.service.drawing = drawFrames config HttpService.zero log.finished ∧
      g.files = savedFiles config HttpService.zero log.finished ∧
      g.service.capturedFrames = u32 log.finished.length := by
  have hdrawn := (reachable_drawsFollow h).drawn (head_alive h.unobserved hhead)
  obtain ⟨file, hplace, hfiles⟩ := hdrawn.place
  obtain ⟨-, hservice, rfl⟩ := drawPlace_outside hplace (by rw [hhead]; rfl)
  exact ⟨hservice, by simpa using hfiles, hdrawn.captured⟩

end Gateway

end CameraGateway
