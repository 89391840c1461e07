import CameraGateway.Metatheory.DrawingTotals
import CameraGateway.Metatheory.Publication

/-!
The sizes of what the service counts. The counters are natural numbers here and
`unsigned int` or `unsigned long long` in the source; every value that a step of any
thread leaves in one of them has the bits of its type.
-/
namespace CameraGateway
variable {config : CameraConfig} {g g' : Gateway} {service service' : HttpService}

section Sizes

/-- The values of the service that have 32 bits in the source. -/
def HttpService.words (service : HttpService) : List Nat :=
  [service.latest.size, service.timeoutCount, service.emptyCount, service.connectedClients,
    service.totalClients, service.capturedFrames, service.lcdFrames, service.lcdErrors,
    service.processedFrames, service.motionEvents, service.motionSnapshots, service.motionErrors,
    service.brightness, service.motionDelta, service.motionMaxDelta, service.motionActiveFrames,
    service.motionBoxX, service.motionBoxY, service.motionBoxW, service.motionBoxH,
    service.motionBoxPeakDelta, service.motionActiveBlocks]

structure WordsFit (service : HttpService) : Prop where
  words : ∀ word ∈ service.words, word < 2 ^ 32
  bytes : service.totalBytes < 2 ^ 64

theorem u32_lt (n : Nat) : u32 n < 2 ^ 32 := Nat.mod_lt n (by decide)

theorem u64_lt (n : Nat) : u64 n < 2 ^ 64 := Nat.mod_lt n (by decide)

theorem wordsFit_zero : WordsFit HttpService.zero := ⟨by decide, by decide⟩

theorem WordsFit.set {i value : Nat} (h : WordsFit service) (hvalue : value < 2 ^ 32)
    (hwords : service'.words = service.words.set i value)
    (hbytes : service'.totalBytes = service.totalBytes) : WordsFit service' := by
  refine ⟨fun word hword => ?_, hbytes ▸ h.bytes⟩
  rw [hwords] at hword
  cases List.mem_or_eq_of_mem_set hword with
  | inl hbefore => exact h.words word hbefore
  | inr hnew => exact hnew ▸ hvalue

theorem WordsFit.congr (h : WordsFit service) (hwords : service'.words = service.words)
    (hbytes : service'.totalBytes = service.totalBytes) : WordsFit service' :=
  ⟨hwords ▸ h.words, hbytes ▸ h.bytes⟩

end Sizes

section Detector
variable {picture : Picture} {previous : Option (List UInt16)} {threshold : Nat}

def MotionResult.words (result : MotionResult) : List Nat :=
  [result.brightness, result.delta, result.boxX, result.boxY, result.boxW, result.boxH,
    result.boxPeakDelta, result.activeBlockCount]

theorem blockEdge_lt (size count i : Nat) : blockEdge size count i < 2 ^ 32 :=
  Nat.lt_of_le_of_lt (Nat.div_le_self _ _) (u32_lt _)

theorem peakDelta_lt (picture : Picture) (baseline : List UInt16) (threshold : Nat) :
    (scanBlocks (sampleSums picture (some baseline)) threshold).peakDelta < 2 ^ 32 := by
  cases (scanned (sampleSums picture (some baseline)) threshold).attained with
  | inl hzero =>
      rw [hzero]
      decide
  | inr hattained =>
      obtain ⟨block, -, hblock⟩ := hattained
      rw [← hblock, sampleSums_exact]
      exact Nat.lt_of_le_of_lt (blockDelta_le picture baseline block) (by decide)

theorem activeCount_lt (sums : MotionSums) (threshold : Nat) :
    (scanBlocks sums threshold).activeCount < 2 ^ 32 := by
  rw [(scanned sums threshold).count]
  exact u32_lt _

theorem detectMotion_words (picture : Picture) (previous : Option (List UInt16))
    (threshold : Nat) : ∀ word ∈ (detectMotion picture previous threshold).words,
      word < 2 ^ 32 := by
  have hzero : (0 : Nat) < 2 ^ 32 := by decide
  have hite : ∀ (p : Prop) [Decidable p] {n : Nat}, n < 2 ^ 32 → (if p then n else 0) < 2 ^ 32 := by
    intro p _ n hn
    split
    · exact hn
    · exact hzero
  have hpeak : (if previous.isSome then scanBlocks (sampleSums picture previous) threshold
      else BlockScan.start).peakDelta < 2 ^ 32 := by
    cases previous with
    | none => exact hzero
    | some baseline => exact peakDelta_lt picture baseline threshold
  have hcount : (if previous.isSome then scanBlocks (sampleSums picture previous) threshold
      else BlockScan.start).activeCount < 2 ^ 32 := by
    split
    · exact activeCount_lt _ threshold
    · exact hzero
  simp only [MotionResult.words, List.forall_mem_cons]
  exact ⟨hite _ (u32_lt _), hite _ (u32_lt _), hite _ (blockEdge_lt _ _ _),
    hite _ (blockEdge_lt _ _ _), hite _ (u32_lt _), hite _ (u32_lt _), hpeak, hcount,
    fun _ h => absurd h List.not_mem_nil⟩

end Detector

section Updates
variable {picture : Picture} {malloc : Bool}

theorem wordsFit_countTimeout (h : WordsFit service) : WordsFit (countTimeout service) :=
  h.set (i := 1) (u32_lt (service.timeoutCount + 1)) rfl rfl

theorem wordsFit_countEmpty (h : WordsFit service) : WordsFit (countEmpty service) :=
  h.set (i := 2) (u32_lt (service.emptyCount + 1)) rfl rfl

theorem wordsFit_countIn (h : WordsFit service) : WordsFit (countIn service) := by
  have hconnected : WordsFit
      { service with connectedClients := u32 (service.connectedClients + 1) } :=
    h.set (i := 3) (u32_lt (service.connectedClients + 1)) rfl rfl
  exact hconnected.set (i := 4) (u32_lt (service.totalClients + 1)) rfl rfl

theorem wordsFit_countOut (h : WordsFit service) : WordsFit (countOut service) := by
  have hbefore : service.connectedClients < 2 ^ 32 :=
    h.words _ (by simp only [HttpService.words, List.mem_cons, true_or, or_true])
  rw [countOut]
  split
  · exact h.set (i := 3) (Nat.lt_of_le_of_lt (Nat.sub_le _ 1) hbefore) rfl rfl
  · exact h

theorem wordsFit_countCaptured (h : WordsFit service) (bytesused : Nat) :
    WordsFit (countCaptured service bytesused) := by
  have hcaptured : WordsFit { service with capturedFrames := u32 (service.capturedFrames + 1) } :=
    h.set (i := 5) (u32_lt (service.capturedFrames + 1)) rfl rfl
  exact ⟨hcaptured.words, u64_lt _⟩

theorem wordsFit_countLcd (h : WordsFit service) (display : Bool) (ret : Int) :
    WordsFit (countLcd service display ret) := by
  rw [countLcd]
  split
  · exact h.set (i := 6) (u32_lt (service.lcdFrames + 1)) rfl rfl
  · split
    · exact h.set (i := 7) (u32_lt (service.lcdErrors + 1)) rfl rfl
    · exact h

theorem wordsFit_countMotionError (h : WordsFit service) : WordsFit (countMotionError service) :=
  h.set (i := 11) (u32_lt (service.motionErrors + 1)) rfl rfl

theorem wordsFit_countSnapshot (h : WordsFit service) (written : Bool) :
    WordsFit (countSnapshot service written) := by
  cases written with
  | true => exact h.set (i := 10) (u32_lt (service.motionSnapshots + 1)) rfl rfl
  | false => exact wordsFit_countMotionError h

theorem wordsFit_resizeBaseline (h : WordsFit service) (picture : Picture) :
    WordsFit (resizeBaseline service picture) := by
  rw [resizeBaseline]
  split
  · exact h.congr rfl rfl
  · exact h

/-- A processed picture sets the totals and then the values of its result. -/
theorem wordsFit_commitMotion (h : WordsFit service) {result : MotionResult}
    (hresult : ∀ word ∈ result.words, word < 2 ^ 32) : WordsFit (commitMotion service result) := by
  have hwords := h.words
  simp only [HttpService.words, MotionResult.words, List.forall_mem_cons] at hwords hresult
  obtain ⟨latest, timeouts, empties, connected, clients, captured, lcdFrames, lcdErrors, -, events,
    snapshots, errors, -, -, maxDelta, activeFrames, -⟩ := hwords
  obtain ⟨brightness, delta, boxX, boxY, boxW, boxH, peakDelta, activeBlocks, hnil⟩ := hresult
  have hmax : (if result.delta > service.motionMaxDelta then result.delta
      else service.motionMaxDelta) < 2 ^ 32 := by
    split
    · exact delta
    · exact maxDelta
  have hactive : (if result.detected then u32 (service.motionActiveFrames + 1)
      else service.motionActiveFrames) < 2 ^ 32 := by
    split
    · exact u32_lt _
    · exact activeFrames
  have hevents : (if result.detected && !service.motionWasDetected then
      u32 (service.motionEvents + 1) else service.motionEvents) < 2 ^ 32 := by
    split
    · exact u32_lt _
    · exact events
  refine ⟨?_, h.bytes⟩
  simp only [HttpService.words, commitMotion, List.forall_mem_cons]
  exact ⟨latest, timeouts, empties, connected, clients, captured, lcdFrames, lcdErrors, u32_lt _,
    hevents, snapshots, errors, brightness, delta, hmax, hactive, boxX, boxY, boxW, boxH,
    peakDelta, activeBlocks, hnil⟩

theorem wordsFit_motionBlock (h : WordsFit service) (config : CameraConfig) (picture : Picture)
    (malloc : Bool) : WordsFit (motionBlock config service picture malloc).service := by
  have hresized := wordsFit_resizeBaseline h picture
  fun_cases motionBlock config service picture malloc
  · exact wordsFit_countMotionError hresized
  · have hsaved : WordsFit (saveBaseline (resizeBaseline service picture) picture) :=
      hresized.congr rfl rfl
    exact wordsFit_commitMotion hsaved (detectMotion_words _ _ _)

theorem wordsFit_updateLatest (h : WordsFit service) {frame : Frame} {malloc : Option Nat}
    (hok : httpServiceUpdateLatest service frame malloc = (0, service'))
    (hsize : frame.size < 2 ^ 32) : WordsFit service' := by
  obtain ⟨-, -, hservice, hcopy⟩ := httpServiceUpdateLatest_ok hok
  have hstored : (frameCopyAlloc frame malloc).2.size < 2 ^ 32 :=
    (frameCopyAlloc_stored hcopy).2 ▸ hsize
  rw [hservice]
  exact h.set (i := 0) hstored rfl rfl

end Updates

section Capture
variable {state : CaptureState} {event : CaptureEvent} {step : CaptureStep}

/-- A frame that is about to be published is as long as the driver says, in 32 bits. -/
def CaptureState.sized : CaptureState → Prop
  | .publish frame => frame.size < 2 ^ 32
  | _ => True

theorem wordsFit_drawStep (h : WordsFit service) (config : CameraConfig) (frame : Frame)
    (picture : Option Picture) (malloc : Bool) :
    WordsFit (drawStep config service frame picture malloc).service ∧
      (drawStep config service frame picture malloc).next.sized := by
  fun_cases drawStep config service frame picture malloc
  case case3 hon picture hdetect service' hblock =>
      have hfit := wordsFit_motionBlock h config picture malloc
      rw [hblock] at hfit
      exact ⟨hfit, trivial⟩
  case case4 hon picture hdetect service' result event hblock =>
      have hfit := wordsFit_motionBlock h config picture malloc
      rw [hblock] at hfit
      exact ⟨hfit, trivial⟩
  all_goals exact ⟨h, trivial⟩

theorem wordsFit_captureStep (h : WordsFit service) (hsized : state.sized)
    (hs : captureStep config service state event = some step) :
    WordsFit step.service ∧ step.next.sized := by
  have hfailed : WordsFit (markFailed service) := h.congr rfl rfl
  revert hs hsized
  fun_cases captureStep config service state event
  case case1 =>
      intro _ hs
      split at hs <;> (cases hs; exact ⟨h, trivial⟩)
  case case3 =>
      intro _ hs
      cases hs
      exact ⟨wordsFit_countTimeout h, trivial⟩
  case case6 =>
      intro _ hs
      cases hs
      exact ⟨wordsFit_countEmpty h, trivial⟩
  case case7 buffer bytesused sequence timestampUs _ frame =>
      intro _ hs
      cases hs
      exact ⟨h, bytesused.toNat_lt⟩
  case case9 frame malloc updated hok =>
      intro hsized hs
      cases hs
      have hret : updated.1 = 0 := by simpa using hok
      exact ⟨wordsFit_updateLatest h (Prod.ext hret rfl) hsized, trivial⟩
  case case10 frame picture malloc =>
      intro _ hs
      cases hs
      exact wordsFit_drawStep h config frame picture malloc
  case case15 frame eventId calls stored =>
      intro _ hs
      cases hs
      exact ⟨storeSnapshot_service service frame.value.bytes calls h
        (wordsFit_countSnapshot h calls.written), trivial⟩
  case case16 ret =>
      intro _ hs
      cases hs
      exact ⟨wordsFit_countLcd h config.fbPreview ret, trivial⟩
  case case17 frame =>
      intro _ hs
      cases hs
      exact ⟨wordsFit_countCaptured h frame.size, trivial⟩
  case case18 ok =>
      intro _ hs
      cases ok with
      | true =>
          cases hs
          exact ⟨h, trivial⟩
      | false =>
          cases hs
          exact ⟨hfailed, trivial⟩
  case case19 =>
      intro _ hs
      cases hs
      exact ⟨h.congr rfl rfl, trivial⟩
  case case20 =>
      intro _ hs
      cases hs
  all_goals
    intro _ hs
    cases hs
    first
    | exact ⟨h, trivial⟩
    | exact ⟨hfailed, trivial⟩

end Capture

/-- The values fit in every state with the mutex free. -/
structure CountersFit (g : Gateway) : Prop where
  service : WordsFit g.service
  capture : g.capture.sized

theorem countersFit_main {ok : Bool} (hg : CountersFit g) (hs : g.mainStep config ok = some g') :
    CountersFit g' := by
  refine ⟨?_, ?_⟩
  · cases mainStep_service hs with
    | same _ hservice => exact hservice ▸ hg.service
    | countedIn _ _ _ _ _ hservice => exact hservice ▸ wordsFit_countIn hg.service
    | countedOut _ hservice => exact hservice ▸ wordsFit_countOut hg.service
    | stopped _ _ _ hservice _ => exact hservice ▸ hg.service.congr rfl rfl
    | started _ _ hservice | destroyed _ _ _ hservice => exact hservice ▸ wordsFit_zero
  · cases mainStep_capture hs with
    | inl hsame => exact hsame ▸ hg.capture
    | inr hcreated => exact hcreated.2 ▸ trivial

theorem countersFit_step {action : Action} (hg : CountersFit g)
    (hs : g.step config action = some g') : CountersFit g' := by
  cases action with
  | main ok => exact countersFit_main hg hs
  | capture event =>
      obtain ⟨step, hstep, rfl⟩ := Option.map_eq_some_iff.mp hs
      obtain ⟨hservice, hcapture⟩ := wordsFit_captureStep hg.service hg.capture hstep
      exact ⟨hservice, hcapture⟩
  | client i event =>
      obtain ⟨_, _, -, -, hcases⟩ := stepClient_cases hs
      cases hcases with
      | inl hcount =>
          obtain ⟨-, -, rfl⟩ := hcount
          exact ⟨wordsFit_countOut hg.service, hg.capture⟩
      | inr hstep =>
          obtain ⟨-, rfl⟩ := hstep
          exact ⟨hg.service, hg.capture⟩
  | peer event =>
      obtain ⟨peers, backlog, rfl⟩ := stepPeer_frame hs
      exact ⟨hg.service, hg.capture⟩

theorem reachable_countersFit (h : TransitionSystem.Reachable (gateway config) g) :
    CountersFit g := by
  have hinit : CountersFit Gateway.init := ⟨wordsFit_zero, trivial⟩
  exact h.invariant (I := CountersFit) hinit fun _ _ hg hs => countersFit_step hg hs

end CameraGateway
