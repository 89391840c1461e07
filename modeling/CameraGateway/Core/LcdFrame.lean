import CameraGateway.Core.Snapshot

/-!
`http_service_draw_lcd_frame` of src/v4l2_capture.c as one function of the
service and of the outcomes of the calls it makes. In Core.Gateway the capture
thread runs it in pieces, one for each critical section.
-/
namespace CameraGateway

/-- A call: the JPEG data, what decoding it and allocating the baseline come to,
whether the display takes the picture, and the calls for the snapshot file. -/
structure DrawCall where
  jpeg : List UInt8
  picture : Option Picture
  malloc : Bool
  drawn : Bool
  snapshot : FileCalls

/-- What a call returns and leaves: `shown` are the pixels that the display got. -/
structure DrawResult where
  ret : Int
  service : HttpService
  shown : Option (List UInt16)
  file : Option (List UInt8 × List UInt8)

/-- The label `out` and what follows it. -/
def drawOut (config : CameraConfig) (service : HttpService) (call : DrawCall)
    (shown : Option (List UInt16)) (motionEvent : Bool) (ret : Int) : DrawResult :=
  let saved :=
    if ret = 0 ∧ motionEvent ∧ config.motionSave then
      storeSnapshot config service service.motionEvents call.jpeg call.snapshot
    else (service, none)
  { ret := ret, service := countLcd saved.1 config.fbPreview ret, shown := shown, file := saved.2 }

/-- The display, if there is one; a draw that fails goes to `out`. -/
def displayFrame (config : CameraConfig) (service : HttpService) (call : DrawCall)
    (pixels : List UInt16) (motionEvent : Bool) : DrawResult :=
  if config.fbPreview then
    drawOut config service call (some pixels) motionEvent (if call.drawn then 0 else -1)
  else drawOut config service call none motionEvent 0

def httpServiceDrawLcdFrame (config : CameraConfig) (service : HttpService) (call : DrawCall) :
    DrawResult :=
  if !config.fbPreview && !config.motionDetect then ⟨0, service, none, none⟩
  else
    match call.picture with
    | none => drawOut config service call none false (-1)
    | some picture =>
        if config.motionDetect then
          match motionBlock config service picture call.malloc with
          | .unallocated service => drawOut config service call none false (-1)
          | .processed service result motionEvent =>
              displayFrame config service call (maskedPixels config picture result) motionEvent
        else displayFrame config service call picture.pixels false

def MotionStep.service : MotionStep → HttpService
  | .unallocated service => service
  | .processed service _ _ => service

def MotionStep.result : MotionStep → Option MotionResult
  | .unallocated _ => none
  | .processed _ result _ => some result

def detection (config : CameraConfig) (service : HttpService) (call : DrawCall) :
    Option MotionResult :=
  match call.picture with
  | none => none
  | some picture =>
      if config.motionDetect then (motionBlock config service picture call.malloc).result else none

def drawFrames (config : CameraConfig) (service : HttpService) (calls : List DrawCall) :
    HttpService :=
  calls.foldl (fun service call => (httpServiceDrawLcdFrame config service call).service) service

def savedFiles (config : CameraConfig) (service : HttpService) :
    List DrawCall → List (List UInt8 × List UInt8)
  | [] => []
  | call :: calls =>
      let result := httpServiceDrawLcdFrame config service call
      result.file.toList ++ savedFiles config result.service calls

section BaselineMemory

/-- `pixel_count * sizeof(*service->motion_previous)`: the size of the block that is allocated
for the baseline, and of the copy that fills it. -/
def motionPreviousSize (width height : Nat) : Nat := u32 (u32 (width * height) * 2)

/-- The size of the block behind `motion_previous` after a call, from that before it. -/
def motionPreviousBlock (config : CameraConfig) (service : HttpService) (block : Option Nat)
    (call : DrawCall) : Option Nat :=
  match call.picture with
  | none => block
  | some picture =>
      if config.motionDetect then
        let freed := service.motionPreviousWidth ≠ picture.width ∨
          service.motionPreviousHeight ≠ picture.height
        match if freed then none else block with
        | some size => some size
        | none =>
            if call.malloc then some (motionPreviousSize picture.width picture.height) else none
      else block

def drawWithBlock (config : CameraConfig) (state : HttpService × Option Nat)
    (calls : List DrawCall) : HttpService × Option Nat :=
  calls.foldl (fun state call =>
    ((httpServiceDrawLcdFrame config state.1 call).service,
      motionPreviousBlock config state.1 state.2 call)) state

end BaselineMemory

theorem drawFrames_cons (config : CameraConfig) (service : HttpService) (call : DrawCall)
    (calls : List DrawCall) :
    drawFrames config service (call :: calls) =
      drawFrames config (httpServiceDrawLcdFrame config service call).service calls := rfl

theorem drawFrames_snoc (config : CameraConfig) (service : HttpService) (calls : List DrawCall)
    (call : DrawCall) :
    drawFrames config service (calls ++ [call]) =
      (httpServiceDrawLcdFrame config (drawFrames config service calls) call).service := by
  rw [drawFrames, List.foldl_append]
  rfl

theorem savedFiles_snoc (config : CameraConfig) (service : HttpService) (calls : List DrawCall)
    (call : DrawCall) :
    savedFiles config service (calls ++ [call]) = savedFiles config service calls ++
      (httpServiceDrawLcdFrame config (drawFrames config service calls) call).file.toList := by
  induction calls generalizing service with
  | nil => simp [savedFiles, drawFrames]
  | cons first rest ih => simp only [List.cons_append, savedFiles, ih, drawFrames_cons,
      List.append_assoc]

end CameraGateway
