import CameraGateway.Core.Main
import CameraGateway.Metatheory.FormatListing
import CameraGateway.Metatheory.ResourceRelease
import CameraGateway.Metatheory.TestPattern

/-!
The whole program: the options decide which resources `main` can acquire, together with the
format that the driver has set, and no way through it acquires another one or keeps one.
-/
namespace CameraGateway

section Policies

/-- What a capture may acquire; `format` is what VIDIOC_S_FMT has set. -/
def CaptureConfig.allows (config : CaptureConfig) (format : Option UInt32) : Resource → Prop
  | .cameraFd _ | .mapping .. | .stream => True
  | .displayBlock | .displayFd _ | .displayMemory .. => config.fbPreview = true
  | .outputFile => config.httpMjpeg = false ∧ config.fbPreview = false ∧ config.noSave = false ∧
      config.saveFrames = false
  | .yuyvRgb565 => config.httpMjpeg = false ∧ config.fbPreview = true ∧
      format = some v4l2PixFmtYuyv
  | .mutex | .cond | .captureThread | .serverFd _ | .clientFd _ | .clientArgs =>
      config.httpMjpeg = true ∧ format = some v4l2PixFmtMjpeg

/-- What the program may acquire. -/
def CommandLine.allows (line : CommandLine) (format : Option UInt32) (item : Resource) : Prop :=
  match line.task with
  | .list => ∃ fd, item = .cameraFd fd
  | .test => item.ofDisplay = true
  | .capture => line.config.toCaptureConfig.allows format item

def Keeps (allowed : Resource → Prop) (ops : List (Ledger.Op Resource)) : Prop :=
  ∀ item ∈ Ledger.acquired ops, allowed item

variable {allowed : Resource → Prop} {ops later : List (Ledger.Op Resource)}

theorem keeps_of_nil (h : Ledger.acquired ops = []) : Keeps allowed ops := by
  rw [Keeps, h]
  exact List.forall_mem_nil _

theorem keeps_append : Keeps allowed (ops ++ later) ↔ Keeps allowed ops ∧ Keeps allowed later := by
  rw [Keeps, Ledger.acquired_append]
  exact List.forall_mem_append

theorem keeps_acquire {items : List Resource} :
    Keeps allowed (items.map .acquire) ↔ ∀ item ∈ items, allowed item := by
  rw [Keeps, Ledger.acquired_map_acquire]

end Policies

section Capture
variable {config : CaptureConfig} {format : Option UInt32}

theorem allows_of_display {item : Resource} (hpreview : config.fbPreview = true)
    (h : item.ofDisplay = true) : config.allows format item := by
  cases item with
  | displayBlock => exact hpreview
  | displayFd fd => exact hpreview
  | displayMemory start length => exact hpreview
  | _ => cases h

theorem camera_keeps {ops : List (Ledger.Op Resource)}
    (h : Keeps (fun item => item.ofCamera = true) ops) : Keeps (config.allows format) ops := by
  intro item hitem
  have hcamera := h item hitem
  cases item with
  | cameraFd fd => trivial
  | mapping index start length => trivial
  | stream => trivial
  | _ => cases hcamera

theorem display_keeps (hpreview : config.fbPreview = true) (outcomes : DisplayOutcomes) :
    Keeps (config.allows format) (framebufferDisplayOpen outcomes).ops := by
  intro item hitem
  exact allows_of_display hpreview (displayOpen_kinds outcomes hitem)

theorem out_acquires (locals : HttpLocals) (result : Int) (ops : List (Ledger.Op Resource)) :
    Ledger.acquired (locals.out result ops).ops = Ledger.acquired ops := by
  have hclose : ∀ fd, Ledger.acquired (httpMjpegClose .serverFd fd) = [] := by
    intro fd
    rw [httpMjpegClose]
    split <;> rfl
  rw [HttpLocals.out, Ledger.acquired_append, Ledger.acquired_append, Ledger.acquired_append,
    Ledger.acquired_append, displayClose_acquires, hclose]
  split <;> split <;> exact List.append_nil _

theorem keeps_out {allowed : Resource → Prop} {ops : List (Ledger.Op Resource)}
    (h : Keeps allowed ops) (locals : HttpLocals) (result : Int) :
    Keeps allowed (locals.out result ops).ops := by
  rwa [Keeps, out_acquires]

/-- The service of a capture over HTTP has the format that HTTP needs. -/
def Serves (config : CaptureConfig) (format : Option UInt32) : Prop :=
  config.httpMjpeg = true ∧ format = some v4l2PixFmtMjpeg

theorem service_keeps (hserves : Serves config format) (mutexInit condInit : Bool) :
    Keeps (config.allows format) (httpServiceInit mutexInit condInit).ops := by
  cases serviceInit_cases mutexInit condInit with
  | inl hfailed =>
      intro item hitem
      rw [hfailed.2.2 item hitem]
      exact hserves
  | inr hready =>
      rw [hready.2]
      intro item hitem
      cases hitem with
      | head => exact hserves
      | tail _ hcond =>
          rw [List.mem_singleton.mp hcond]
          exact hserves

theorem listen_keeps (hserves : Serves config format) (outcomes : ListenOutcomes) :
    Keeps (config.allows format) (httpMjpegListen outcomes).ops := by
  intro item hitem
  cases listen_cases outcomes with
  | inl hfailed =>
      obtain ⟨fd, rfl⟩ := hfailed.2.2 item hitem
      exact hserves
  | inr hready =>
      rw [hready.2] at hitem
      rw [List.mem_singleton.mp hitem]
      exact hserves

theorem rounds_keep (hserves : Serves config format) (failure : RoundFailure) (served : Nat) :
    Keeps (config.allows format) (acceptRounds config.toCameraConfig failure served).ops := by
  intro item hitem
  rcases (rounds_clean _ failure served).2 item hitem with rfl | ⟨fd, rfl⟩
  · exact hserves
  · exact hserves

theorem http_keeps (hhttp : config.httpMjpeg = true) (outcomes : HttpOutcomes) :
    Keeps (config.allows (some config.pixelFormat))
      (cameraCaptureHttpMjpeg config.toCameraConfig outcomes).ops := by
  unfold cameraCaptureHttpMjpeg
  split
  · exact keeps_of_nil rfl
  · rename_i hformat
    have hserves : Serves config (some config.pixelFormat) :=
      ⟨hhttp, congrArg some (not_not.mp hformat)⟩
    dsimp only
    generalize hopened : (if config.toCameraConfig.fbPreview then
      framebufferDisplayOpen outcomes.display else { ret := 0, out := none, ops := [] }) = opened
    have hdisplay : Keeps (config.allows (some config.pixelFormat)) opened.ops := by
      rw [← hopened]
      split
      · rename_i hpreview
        exact display_keeps hpreview outcomes.display
      · exact keeps_of_nil rfl
    have hready := keeps_append.mpr
      ⟨hdisplay, service_keeps hserves outcomes.mutexInit outcomes.condInit⟩
    have hthread : Keeps (config.allows (some config.pixelFormat)) [.acquire .captureThread] :=
      List.forall_mem_cons.mpr ⟨hserves, List.forall_mem_nil _⟩
    have hlistening := keeps_append.mpr
      ⟨keeps_append.mpr ⟨hready, hthread⟩, listen_keeps hserves outcomes.listen⟩
    have hrounds := rounds_keep hserves outcomes.failure outcomes.served
    split
    · exact keeps_out hdisplay _ _
    · split
      · exact keeps_out hdisplay _ _
      · split
        · exact keeps_out hready _ _
        · split
          · exact keeps_out hready _ _
          · split
            · exact keeps_out hlistening _ _
            · exact keeps_out (keeps_append.mpr ⟨hlistening, hrounds⟩) _ _

theorem framebuffer_keeps (hhttp : config.httpMjpeg = false) (hpreview : config.fbPreview = true)
    (outcomes : LoopOutcomes) :
    Keeps (config.allows (some config.pixelFormat))
      (outcomes.framebuffer config.toCameraConfig).ops := by
  unfold LoopOutcomes.framebuffer
  split
  · exact keeps_of_nil rfl
  · split
    · exact keeps_of_nil rfl
    · dsimp only
      rw [keeps_append, keeps_append, keeps_append, keeps_acquire]
      refine ⟨⟨?_, display_keeps hpreview outcomes.display, ?_⟩, ?_⟩
      · intro item hitem
        split at hitem
        · rename_i hformat
          rw [List.mem_singleton.mp hitem]
          exact ⟨hhttp, hpreview, congrArg some hformat⟩
        · cases hitem
      · exact keeps_of_nil (displayClose_acquires _)
      · exact keeps_of_nil (Ledger.acquired_map_release _)

theorem file_keeps (hhttp : config.httpMjpeg = false) (hpreview : config.fbPreview = false)
    (outcomes : LoopOutcomes) :
    Keeps (config.allows format) (outcomes.file config).ops := by
  unfold LoopOutcomes.file
  split
  · exact keeps_of_nil rfl
  · rename_i hframes
    split
    · exact keeps_of_nil rfl
    · rename_i hsave
      split
      · exact keeps_of_nil rfl
      · intro item hitem
        rw [List.mem_singleton.mp hitem]
        exact ⟨hhttp, hpreview, Bool.eq_false_of_not_eq_true hsave,
          Bool.eq_false_of_not_eq_true hframes⟩

theorem capture_keeps (config : CaptureConfig) (outcomes : Outcomes) :
    Keeps (config.allows (some config.pixelFormat)) (cameraCapture config outcomes).ops := by
  unfold cameraCapture
  split
  · rename_i hhttp
    exact http_keeps hhttp outcomes.http
  · rename_i hhttp
    have hfile := Bool.eq_false_of_not_eq_true hhttp
    split
    · rename_i hpreview
      exact framebuffer_keeps hfile hpreview outcomes.loops
    · rename_i hpreview
      exact file_keeps hfile (Bool.eq_false_of_not_eq_true hpreview) outcomes.loops

end Capture

section Main
variable {driver : Driver} {ctx : CameraContext} {i n : Nat}

theorem mapBuffers_spec {call : CameraCall} (h : mapBuffers driver ctx i n = some call) :
    call.ctx.config = ctx.config ∧ Keeps (fun item => item.ofCamera = true) call.ops := by
  induction n generalizing i ctx call with
  | zero =>
      cases h
      exact ⟨rfl, keeps_of_nil rfl⟩
  | succ n ih =>
      revert h
      rw [mapBuffers]
      split
      · intro h
        cases h
        exact ⟨rfl, keeps_of_nil rfl⟩
      · split
        · dsimp only
          split
          · intro h
            cases h
            exact ⟨rfl, keeps_of_nil rfl⟩
          · intro h
            obtain ⟨rest, hrest, rfl⟩ := Option.map_eq_some_iff.mp h
            exact ⟨(ih hrest).1, List.forall_mem_cons.mpr ⟨rfl, (ih hrest).2⟩⟩
        · exact fun h => by cases h

/-- The configuration after VIDIOC_S_FMT. -/
def CaptureConfig.negotiated (config : CaptureConfig) (format : PixFormat) : CaptureConfig :=
  { config with
    width := format.width.toInt32.toInt, height := format.height.toInt32.toInt
    pixelFormat := format.pixelFormat }

theorem allows_negotiated (config : CaptureConfig) (format : PixFormat) :
    (config.negotiated format).allows = config.allows := by
  funext chosen item
  cases item <;> rfl

theorem configure_spec {call : CameraCall} (h : cameraConfigure ctx driver = some call) :
    (call.ret = 0 → ∃ format, driver.setFormat = some format ∧
      call.ctx.config = ctx.config.negotiated format) ∧
    Keeps (fun item => item.ofCamera = true) call.ops := by
  have hfailed : ∀ ctx' : CameraContext,
      some ({ ret := -1, ctx := ctx', ops := [] } : CameraCall) = some call →
      (call.ret = 0 → ∃ format, driver.setFormat = some format ∧
        call.ctx.config = ctx.config.negotiated format) ∧
      Keeps (fun item => item.ofCamera = true) call.ops := by
    intro ctx' heq
    cases heq
    refine ⟨fun hret => ?_, keeps_of_nil rfl⟩
    cases hret
  revert h
  unfold cameraConfigure
  dsimp only
  split
  · exact hfailed _
  · split
    · exact hfailed _
    · split
      · exact hfailed _
      · split
        · exact hfailed _
        · rename_i format hformat
          split
          · exact hfailed _
          · split
            · exact hfailed _
            · intro h
              obtain ⟨hconfig, hmapped⟩ := mapBuffers_spec h
              exact ⟨fun _ => ⟨format, hformat, hconfig⟩, hmapped⟩

theorem unmapBuffers_acquires {ops : List (Ledger.Op Resource)}
    (h : unmapBuffers ctx i n = some ops) : Ledger.acquired ops = [] := by
  induction n generalizing i ctx ops with
  | zero =>
      cases h
      rfl
  | succ n ih =>
      revert h
      rw [unmapBuffers]
      split
      · exact fun h => by cases h
      · dsimp only
        split
        · exact ih
        · intro h
          obtain ⟨rest, hrest, rfl⟩ := Option.map_eq_some_iff.mp h
          have hacquired := ih hrest
          exact hacquired

theorem close_acquires {ops : List (Ledger.Op Resource)} (h : cameraClose ctx = some ops) :
    Ledger.acquired ops = [] := by
  obtain ⟨unmapped, hunmapped, rfl⟩ := Option.map_eq_some_iff.mp h
  rw [Ledger.acquired_append, unmapBuffers_acquires hunmapped]
  split <;> rfl

theorem outClose_spec {ret : Int} {started : Bool} {ops : List (Ledger.Op Resource)}
    {call : MainCall} (h : outClose ctx ret started ops = some call) :
    call.ret = ret ∧ call.started = started ∧
      Ledger.acquired call.ops = Ledger.acquired ops := by
  obtain ⟨closed, hclosed, rfl⟩ := Option.map_eq_some_iff.mp h
  refine ⟨rfl, rfl, ?_⟩
  rw [Ledger.acquired_append, close_acquires hclosed, List.append_nil]

theorem open_spec (config : CaptureConfig) (driver : Driver) :
    (cameraOpen config driver).ctx.config = config ∧
      Keeps (fun item => item.ofCamera = true) (cameraOpen config driver).ops := by
  unfold cameraOpen
  dsimp only
  split
  · exact ⟨rfl, keeps_of_nil rfl⟩
  · split
    · exact ⟨rfl, keeps_of_nil rfl⟩
    · exact ⟨rfl, List.forall_mem_cons.mpr ⟨rfl, List.forall_mem_nil _⟩⟩

theorem start_keeps (ctx : CameraContext) (driver : Driver) :
    Keeps (fun item => item.ofCamera = true) (cameraStart ctx driver).ops := by
  cases start_cases ctx driver with
  | inl hfailed =>
      rw [hfailed.2]
      exact keeps_of_nil rfl
  | inr hstarted =>
      rw [hstarted.2]
      exact List.forall_mem_cons.mpr ⟨rfl, List.forall_mem_nil _⟩

theorem configured_keeps (config : CaptureConfig) {outcomes : Outcomes} {format : PixFormat}
    (hset : outcomes.driver.setFormat = some format) :
    Keeps (config.allows (outcomes.driver.setFormat.map PixFormat.pixelFormat))
      (cameraCapture (config.negotiated format) outcomes).ops := by
  have hcapture := capture_keeps (config.negotiated format) outcomes
  rw [allows_negotiated] at hcapture
  rw [hset]
  exact hcapture

theorem stop_acquires (ctx : CameraContext) : Ledger.acquired (cameraStop ctx) = [] := by
  rw [cameraStop]
  split <;> rfl

/-- A capture acquires what its options allow, and its exit code is 0 only if it has streamed. -/
theorem captureMain_keeps {config : CaptureConfig} {outcomes : Outcomes} {call : MainCall}
    (h : captureMain config outcomes = some call) :
    (call.ret = 0 ∧ call.started = true ∨ call.ret = 1) ∧
      Keeps (config.allows (outcomes.driver.setFormat.map PixFormat.pixelFormat)) call.ops := by
  obtain ⟨hopenConfig, hopened⟩ := open_spec config outcomes.driver
  revert h
  unfold captureMain
  dsimp only
  split
  · intro h
    cases h
    exact ⟨Or.inr rfl, camera_keeps hopened⟩
  · split
    · exact fun h => by cases h
    · rename_i configured hconfigured
      obtain ⟨hformat, hmapped⟩ := configure_spec hconfigured
      have hsetup := keeps_append.mpr ⟨hopened, hmapped⟩
      have hstarting := keeps_append.mpr ⟨hsetup, start_keeps configured.ctx outcomes.driver⟩
      split
      · intro h
        obtain ⟨hret, -, hops⟩ := outClose_spec h
        refine ⟨Or.inr hret, ?_⟩
        rw [Keeps, hops]
        exact camera_keeps hsetup
      · rename_i hconfig
        split
        · intro h
          obtain ⟨hret, -, hops⟩ := outClose_spec h
          refine ⟨Or.inr hret, ?_⟩
          rw [Keeps, hops]
          exact camera_keeps hstarting
        · intro h
          obtain ⟨hret, hstarted, hops⟩ := outClose_spec h
          obtain ⟨format, hset, hnegotiated⟩ := hformat (not_not.mp hconfig)
          rw [hopenConfig] at hnegotiated
          constructor
          · rw [hret, hstarted]
            split
            · exact Or.inl ⟨rfl, rfl⟩
            · exact Or.inr rfl
          · rw [Keeps, hops, hnegotiated]
            have hcaptured := keeps_append.mpr
              ⟨camera_keeps hstarting, configured_keeps config hset⟩
            exact keeps_append.mpr ⟨hcaptured, keeps_of_nil (stop_acquires configured.ctx)⟩

end Main

section Program
variable {options : List CommandOption} {world : World} {call : Call} {line : CommandLine}

theorem exitCode_cases (ret : Int) : exitCode ret = 0 ∨ exitCode ret = 1 := by
  rw [exitCode]
  split
  · exact Or.inl rfl
  · exact Or.inr rfl

theorem programMain_list (hparse : parseArgs options = .ok line) (htask : line.task = .list)
    (h : programMain options world = some call) :
    ∃ listed, cameraListFormats world.rounds line.config.device world.listing = some listed ∧
      call.ret = exitCode listed.ret ∧ call.ops = listed.ops := by
  rw [programMain, hparse] at h
  dsimp only at h
  rw [htask] at h
  obtain ⟨listed, hlisted, rfl⟩ := Option.map_eq_some_iff.mp h
  exact ⟨listed, hlisted, rfl, rfl⟩

theorem programMain_test (hparse : parseArgs options = .ok line) (htask : line.task = .test) :
    programMain options world =
      some { ret := exitCode (framebufferTestPattern world.screen world.mem).ret
             ops := (framebufferTestPattern world.screen world.mem).ops } := by
  rw [programMain, hparse]
  dsimp only
  rw [htask]

theorem programMain_capture (hparse : parseArgs options = .ok line)
    (htask : line.task = .capture) :
    programMain options world =
      (captureMain line.config.toCaptureConfig world.outcomes).map MainCall.toCall := by
  rw [programMain, hparse]
  dsimp only
  rw [htask]

theorem listFormats_acquires {rounds : Nat} {device : List UInt8} {driver : ListingDriver}
    {listed : ListingCall} (h : cameraListFormats rounds device driver = some listed) :
    Keeps (fun item => ∃ fd, item = .cameraFd fd) listed.ops := by
  have hpair : ∀ fd : Nat, Keeps (fun item => ∃ fd, item = .cameraFd fd)
      [.acquire (.cameraFd fd), .release (.cameraFd fd)] := by
    intro fd item hitem
    exact ⟨fd, List.mem_singleton.mp hitem⟩
  revert h
  fun_cases cameraListFormats rounds device driver
  case case1 | case2 =>
      intro h
      cases h
      exact keeps_of_nil rfl
  case case3 | case4 =>
      intro h
      cases h
      exact hpair _
  case case5 =>
      intro h
      obtain ⟨entry, -, rfl⟩ := Option.map_eq_some_iff.mp h
      exact hpair _

theorem testPattern_acquires (outcomes : ScreenOutcomes) (mem : List UInt8) :
    Keeps (fun item => item.ofDisplay = true) (framebufferTestPattern outcomes mem).ops := by
  have hopen : Keeps (fun item => item.ofDisplay = true)
      (framebufferDisplayOpen outcomes.display).ops := fun item hitem =>
    displayOpen_kinds outcomes.display hitem
  cases testPattern_cases outcomes mem with
  | inl hclosed =>
      rw [hclosed.2]
      exact hopen
  | inr hopened =>
      obtain ⟨fb, -, -, hcall⟩ := hopened
      rw [hcall]
      exact keeps_append.mpr ⟨hopen, keeps_of_nil (displayClose_acquires _)⟩

/-- The listing of a camera with finite tables ends. -/
theorem listFormats_ends {rounds : Nat} {driver : ListingDriver} (tables : FormatTables driver)
    (hrounds : 2 ^ 32 ≤ rounds) (device : List UInt8) :
    ∃ listed, cameraListFormats rounds device driver = some listed := by
  rw [listFormats_rounds hrounds]
  by_cases hcap : ∃ cap, Captures driver cap
  · obtain ⟨cap, hcap⟩ := hcap
    exact (listFormats_captures tables hcap).imp fun _ h => h.1
  · exact (listFormats_fails (not_exists.mp hcap)).imp fun _ h => h.1

theorem balanced_released {ops : List (Ledger.Op Resource)}
    (h : Ledger.Balanced Resource.uses ops) : Ledger.Holds Resource.uses ops [] := by
  apply h Ledger.Holds.nil
  · intro item _
    exact List.not_mem_nil
  · intro item _ other hother
    cases hother
  · intro item _ other hother
    cases hother

/-- What holds of a run of `main` with accepted options. -/
structure Obeys (line : CommandLine) (format : Option UInt32) (call : Call) : Prop where
  code : call.ret = 0 ∨ call.ret = 1
  released : Ledger.Holds Resource.uses call.ops []
  allowed : Keeps (line.allows format) call.ops
  streamed : line.task = .capture → call.ret = 0 → .stream ∈ Ledger.acquired call.ops

variable {format : Option UInt32}

theorem list_obeys (hparse : parseArgs options = .ok line) (htask : line.task = .list)
    (h : programMain options world = some call) : Obeys line format call := by
  obtain ⟨listed, hlisted, hret, hops⟩ := programMain_list hparse htask h
  refine ⟨?_, ?_, ?_, ?_⟩
  · rw [hret]
    exact exitCode_cases listed.ret
  · rw [hops]
    exact (listFormats_clean hlisted).1
  · intro item hitem
    rw [hops] at hitem
    rw [CommandLine.allows, htask]
    exact listFormats_acquires hlisted item hitem
  · intro hcapture
    rw [htask] at hcapture
    cases hcapture

theorem test_obeys (hparse : parseArgs options = .ok line) (htask : line.task = .test)
    (h : programMain options world = some call) : Obeys line format call := by
  rw [programMain_test hparse htask] at h
  cases h
  refine ⟨exitCode_cases _, testPattern_released world.screen world.mem, ?_, ?_⟩
  · intro item hitem
    rw [CommandLine.allows, htask]
    exact testPattern_acquires world.screen world.mem item hitem
  · intro hcapture
    rw [htask] at hcapture
    cases hcapture

theorem capture_obeys (hgrant : ∀ count, world.outcomes.driver.requestBuffers = some count →
      count ≤ cameraMaxBuffers)
    (hparse : parseArgs options = .ok line) (htask : line.task = .capture)
    (h : programMain options world = some call) :
    Obeys line (world.outcomes.driver.setFormat.map PixFormat.pixelFormat) call := by
  rw [programMain_capture hparse htask] at h
  obtain ⟨captured, hcaptured, rfl⟩ := Option.map_eq_some_iff.mp h
  obtain ⟨hcode, hkeeps⟩ := captureMain_keeps hcaptured
  obtain ⟨balanced, hsame, hbalanced, hstream⟩ :=
    captureMain_balanced line.config.toCaptureConfig world.outcomes hgrant
  rw [hcaptured] at hsame
  cases hsame
  refine ⟨hcode.imp_left And.left, balanced_released hbalanced, ?_, ?_⟩
  · intro item hitem
    rw [CommandLine.allows, htask]
    exact hkeeps item hitem
  · intro _ hret
    cases hcode with
    | inl hstarted => exact hstream.mpr hstarted.2
    | inr hfailed =>
        rw [hfailed] at hret
        cases hret

theorem programMain_obeys (hgrant : ∀ count, world.outcomes.driver.requestBuffers = some count →
      count ≤ cameraMaxBuffers)
    (hparse : parseArgs options = .ok line) (h : programMain options world = some call) :
    Obeys line (world.outcomes.driver.setFormat.map PixFormat.pixelFormat) call := by
  cases htask : line.task with
  | list => exact list_obeys hparse htask h
  | test => exact test_obeys hparse htask h
  | capture => exact capture_obeys hgrant hparse htask h

theorem programMain_ends (hgrant : ∀ count, world.outcomes.driver.requestBuffers = some count →
      count ≤ cameraMaxBuffers)
    (tables : FormatTables world.listing) (hrounds : 2 ^ 32 ≤ world.rounds)
    (hparse : parseArgs options = .ok line) :
    ∃ call, programMain options world = some call := by
  cases htask : line.task with
  | list =>
      obtain ⟨listed, hlisted⟩ := listFormats_ends tables hrounds line.config.device
      rw [programMain, hparse]
      dsimp only
      rw [htask]
      dsimp only
      rw [hlisted]
      exact ⟨_, rfl⟩
  | test => exact ⟨_, programMain_test hparse htask⟩
  | capture =>
      obtain ⟨captured, hcaptured, -⟩ :=
        captureMain_balanced line.config.toCaptureConfig world.outcomes hgrant
      rw [programMain_capture hparse htask, hcaptured]
      exact ⟨_, rfl⟩

/-- For every command line and every outcome of the calls, if the driver grants no more buffers
than it was asked for. Options that are not accepted acquire nothing. With accepted ones the
exit code is 0 or 1, everything acquired has been released in a possible order, and it was
only what the options allow with the format that the driver has set; a capture that ends
with 0 has streamed. With finite tables of the driver the listing ends, and however the loop of
a capture ends, `main` goes on to its exit code without leaving `ctx->buffers`. -/
theorem program_keeps_to_its_options (options : List CommandOption) (world : World)
    (hgrant : ∀ count, world.outcomes.driver.requestBuffers = some count →
      count ≤ cameraMaxBuffers) :
    (∀ ret, parseArgs options = .error ret →
      programMain options world = some { ret := if ret < 0 then 1 else 0, ops := [] }) ∧
    (∀ line call, parseArgs options = .ok line → programMain options world = some call →
      Obeys line (world.outcomes.driver.setFormat.map PixFormat.pixelFormat) call) ∧
    (FormatTables world.listing → 2 ^ 32 ≤ world.rounds →
      ∃ call, programMain options world = some call) := by
  have hrefused : ∀ ret, parseArgs options = .error ret →
      programMain options world = some { ret := if ret < 0 then 1 else 0, ops := [] } := by
    intro ret hparse
    rw [programMain, hparse]
  refine ⟨hrefused, fun line call => programMain_obeys hgrant, ?_⟩
  intro tables hrounds
  cases hparse : parseArgs options with
  | error ret => exact ⟨_, hrefused ret hparse⟩
  | ok line => exact programMain_ends hgrant tables hrounds hparse

def busyPort : World where
  listing := smallCamera
  rounds := 2 ^ 32
  screen := { calloc := true, openDevice := some 4, fixInfo := none, varInfo := none, mmap := none }
  mem := []
  outcomes := bindFails

/-- `-f MJPG -n 0 --http-mjpeg 8080 --fb-preview /dev/fb0`. -/
def servingOptions : List CommandOption :=
  [.format (ascii "MJPG"), .frameCount (ascii "0"), .httpMjpeg (ascii "8080"),
    .fbPreview (ascii "/dev/fb0")]

theorem program_keeps_to_its_options_busyPort :
    ∃ call, programMain servingOptions busyPort = some call ∧
      (call.ret = 1 ∧ Ledger.acquired call.ops =
        [.cameraFd 3, .mapping 0 0x10000 4096, .mapping 1 0x11000 4096, .stream, .displayBlock,
          .displayFd 4, .displayMemory 0x20000 768000, .mutex, .cond, .captureThread,
          .serverFd 5]) ∧
      Ledger.Holds Resource.uses call.ops [] := by
  have hgrant : ∀ count, busyPort.outcomes.driver.requestBuffers = some count →
      count ≤ cameraMaxBuffers := by
    intro count hcount
    cases hcount
    decide
  have haccepted : ∃ line, parseArgs servingOptions = .ok line := ⟨_, rfl⟩
  have hrun : (programMain servingOptions busyPort).any (fun call =>
      decide (call.ret = 1 ∧ Ledger.acquired call.ops =
        [.cameraFd 3, .mapping 0 0x10000 4096, .mapping 1 0x11000 4096, .stream, .displayBlock,
          .displayFd 4, .displayMemory 0x20000 768000, .mutex, .cond, .captureThread,
          .serverFd 5])) = true := by
    decide +kernel
  obtain ⟨-, hobeys, hends⟩ := program_keeps_to_its_options servingOptions busyPort hgrant
  obtain ⟨line, hline⟩ := haccepted
  obtain ⟨call, hcall⟩ := hends smallTables (Nat.le_refl _)
  rw [hcall] at hrun
  exact ⟨call, hcall, of_decide_eq_true hrun, (hobeys line call hline hcall).released⟩

end Program

end CameraGateway
