import CameraGateway.Library.KeyValueLines
import CameraGateway.Metatheory.ClientResponses
import CameraGateway.Metatheory.CounterSizes

/-!
The answer on `/metrics`. The text always fits the buffer it is printed into, so that no
request for it goes unanswered, and what a client reads there line by line are the
configuration and the counters of the service.
-/
namespace CameraGateway
variable {config : CameraConfig} {g : Gateway} {service : HttpService}

section Entries

/-- A value of the report: a text, a number or a number with a sign. -/
inductive MetricValue where
  | text (bytes : List UInt8)
  | number (n : Nat)
  | signed (n : Int)
deriving DecidableEq

def MetricValue.print : MetricValue → List UInt8
  | .text bytes => bytes
  | .number n => decimal n
  | .signed n => signedDecimal n

def metricsEntries (config : CameraConfig) (service : HttpService) : List (String × MetricValue) :=
  [("device", .text config.device), ("format", .text (cameraPixelFormatName config.pixelFormat)),
    ("width", .signed config.width), ("height", .signed config.height),
    ("fps_request", .signed config.fps), ("mode", .text (ascii "multi-client-service")),
    ("connected_clients", .number service.connectedClients),
    ("total_clients", .number service.totalClients),
    ("captured_frames", .number service.capturedFrames),
    ("lcd_preview", .text (enabled config.fbPreview)), ("lcd_frames", .number service.lcdFrames),
    ("lcd_errors", .number service.lcdErrors),
    ("motion_detect", .text (enabled config.motionDetect)),
    ("processed_frames", .number service.processedFrames),
    ("brightness", .number service.brightness), ("motion_delta", .number service.motionDelta),
    ("motion_max_delta", .number service.motionMaxDelta),
    ("motion_threshold", .signed config.motionThreshold),
    ("motion_detected", .number service.motionDetected.toNat),
    ("motion_active_frames", .number service.motionActiveFrames),
    ("motion_box_valid", .number service.motionBoxValid.toNat),
    ("motion_box_x", .number service.motionBoxX), ("motion_box_y", .number service.motionBoxY),
    ("motion_box_w", .number service.motionBoxW), ("motion_box_h", .number service.motionBoxH),
    ("motion_box_peak_delta", .number service.motionBoxPeakDelta),
    ("motion_active_blocks", .number service.motionActiveBlocks),
    ("motion_events", .number service.motionEvents),
    ("motion_snapshots", .number service.motionSnapshots),
    ("motion_errors", .number service.motionErrors),
    ("latest_sequence",
      .number (if service.hasFrame then service.latest.sequence.toNat else 0)),
    ("latest_frame_size", .number (if service.hasFrame then service.latest.size else 0)),
    ("timeouts", .number service.timeoutCount), ("empty_frames", .number service.emptyCount),
    ("total_bytes", .number service.totalBytes)]

def metricsLines (config : CameraConfig) (service : HttpService) :
    List (List UInt8 × List UInt8) :=
  (metricsEntries config service).map fun entry => (ascii entry.1, entry.2.print)

theorem metricsBody_eq (config : CameraConfig) (service : HttpService) :
    metricsBody config service = KeyValueLines.encode 61 10 (metricsLines config service) := by
  have hline : ∀ name value,
      KeyValueLines.line 61 10 (ascii name, value) = metricsLine name value := fun _ _ => rfl
  unfold metricsBody metricsLines metricsEntries KeyValueLines.encode
  simp only [List.map_cons, List.map_nil, List.flatMap_cons, List.flatMap_nil, hline,
    MetricValue.print, List.append_assoc, List.append_nil]

end Entries

section Reading

theorem ten_notMem_decimal (n : Nat) : 10 ∉ decimal n := by
  intro hmem
  have hdigit := decimal_digits hmem
  simp [digitByte] at hdigit

theorem ten_notMem_signed (n : Int) : 10 ∉ signedDecimal n := by
  rw [signedDecimal]
  split
  · rw [List.mem_cons, not_or]
    exact ⟨by decide, ten_notMem_decimal _⟩
  · exact ten_notMem_decimal _

theorem ten_notMem_print {value : MetricValue} (h : ∀ bytes, value = .text bytes → 10 ∉ bytes) :
    10 ∉ value.print := by
  cases value with
  | text bytes => exact h bytes rfl
  | number n => exact ten_notMem_decimal n
  | signed n => exact ten_notMem_signed n

def metricsNames : List String := (metricsEntries streamConfig HttpService.zero).map Prod.fst

theorem metricsEntries_names (config : CameraConfig) (service : HttpService) :
    (metricsEntries config service).map Prod.fst = metricsNames := rfl

theorem metricsNames_clean : ∀ name ∈ metricsNames, 61 ∉ ascii name ∧ 10 ∉ ascii name := by
  decide +kernel

theorem metricsNames_nodup : (metricsNames.map ascii).Nodup := by decide +kernel

theorem formatName_clean (format : UInt32) : 10 ∉ cameraPixelFormatName format := by
  rw [cameraPixelFormatName]
  repeat' split
  all_goals decide

theorem enabled_clean (flag : Bool) : 10 ∉ enabled flag := by cases flag <;> decide

theorem metricsEntries_texts (hdevice : 10 ∉ config.device) :
    ∀ entry ∈ metricsEntries config service, ∀ bytes, entry.2 = .text bytes → 10 ∉ bytes := by
  have hformat := formatName_clean config.pixelFormat
  have hpreview := enabled_clean config.fbPreview
  have hdetect := enabled_clean config.motionDetect
  have hmode : 10 ∉ ascii "multi-client-service" := by decide
  simp only [metricsEntries, List.forall_mem_cons, MetricValue.text.injEq, forall_eq',
    reduceCtorEq, false_implies, implies_true, List.not_mem_nil, true_and, and_true]
  exact ⟨hdevice, hformat, hmode, hpreview, hdetect⟩

theorem metricsLines_clean (hdevice : 10 ∉ config.device) :
    ∀ entry ∈ metricsLines config service, KeyValueLines.Clean 61 10 entry := by
  intro entry hentry
  obtain ⟨named, hnamed, rfl⟩ := List.mem_map.mp hentry
  have hname : named.1 ∈ metricsNames :=
    metricsEntries_names config service ▸ List.mem_map_of_mem hnamed
  obtain ⟨hseparator, hterminator⟩ := metricsNames_clean named.1 hname
  exact ⟨hseparator, hterminator,
    ten_notMem_print (metricsEntries_texts hdevice named hnamed)⟩

theorem decode_metricsBody (hdevice : 10 ∉ config.device) :
    KeyValueLines.decode 61 10 (metricsBody config service) =
      some (metricsLines config service) := by
  rw [metricsBody_eq]
  exact KeyValueLines.decode_encode (by decide) (metricsLines_clean hdevice)

/-- The value of `%u`, `%lu` or `%llu`. -/
def readDecimal (digits : List UInt8) : Nat :=
  digits.foldl (fun value digit => 10 * value + (digit.toNat - 48)) 0

/-- The value of `%d`. -/
def readSigned (text : List UInt8) : Int :=
  if text.head? = some 45 then -(readDecimal text.tail : Int) else readDecimal text

theorem readSigned_signedDecimal (n : Int) : readSigned (signedDecimal n) = n := by
  have hvalue : readDecimal (decimal n.natAbs) = n.natAbs := decimal_foldl n.natAbs
  rw [signedDecimal]
  split
  · rw [readSigned, List.head?_cons, if_pos rfl, List.tail_cons, hvalue]
    omega
  · have hdigit : (decimal n.natAbs).head? ≠ some 45 := by
      intro hhead
      have hsign := decimal_digits (List.mem_of_mem_head? hhead)
      simp [digitByte] at hsign
    rw [readSigned, if_neg hdigit, hvalue]
    omega

theorem lookup_metricsLines {name : String} {value : MetricValue}
    (h : (name, value) ∈ metricsEntries config service) :
    (metricsLines config service).lookup (ascii name) = some value.print := by
  have hnodup : ((metricsLines config service).map Prod.fst).Nodup := by
    have hkeys : (metricsLines config service).map Prod.fst = metricsNames.map ascii := by
      rw [← metricsEntries_names config service, metricsLines, List.map_map, List.map_map]
      rfl
    rw [hkeys]
    exact metricsNames_nodup
  have hmem : (ascii name, value.print) ∈ metricsLines config service :=
    List.mem_map_of_mem (f := fun entry : String × MetricValue => (ascii entry.1, entry.2.print)) h
  exact KeyValueLines.lookup_of_mem hnodup hmem

end Reading

section Size

/-- The `int` and `char` array fields of the configuration that the report prints. -/
structure ConfigSized (config : CameraConfig) : Prop where
  device : config.device.length < 128
  width : -2 ^ 31 ≤ config.width ∧ config.width < 2 ^ 31
  height : -2 ^ 31 ≤ config.height ∧ config.height < 2 ^ 31
  fps : -2 ^ 31 ≤ config.fps ∧ config.fps < 2 ^ 31
  threshold : -2 ^ 31 ≤ config.motionThreshold ∧ config.motionThreshold < 2 ^ 31

theorem decimal_word {n : Nat} (h : n < 2 ^ 32) : (decimal n).length ≤ 20 :=
  (decimal_length_le (k := 10) (by decide) (Nat.lt_of_lt_of_le h (by decide))).trans (by decide)

theorem signedDecimal_int {n : Int} (h : -2 ^ 31 ≤ n ∧ n < 2 ^ 31) :
    (signedDecimal n).length ≤ 20 := by
  have hdigits : (decimal n.natAbs).length ≤ 10 :=
    decimal_length_le (by decide) (by omega)
  rw [signedDecimal]
  split
  · rw [List.length_cons]
    omega
  · omega

theorem formatName_length (format : UInt32) : (cameraPixelFormatName format).length ≤ 20 := by
  rw [cameraPixelFormatName]
  repeat' split
  all_goals decide

theorem enabled_length (flag : Bool) : (enabled flag).length ≤ 20 := by cases flag <;> decide

theorem metricsEntries_width (hconfig : ConfigSized config) (hfit : WordsFit service) :
    ∀ entry ∈ (metricsEntries config service).tail, entry.2.print.length ≤ 20 := by
  have hbit : ∀ flag : Bool, (decimal flag.toNat).length ≤ 20 := by
    intro flag
    cases flag <;> decide
  have hsequence : (decimal (if service.hasFrame then service.latest.sequence.toNat else 0)).length
      ≤ 20 := by
    split
    · exact decimal_word (UInt32.toNat_lt _)
    · decide
  have hsize : (decimal (if service.hasFrame then service.latest.size else 0)).length ≤ 20 := by
    split
    · exact decimal_word (hfit.words _ List.mem_cons_self)
    · decide
  have hbytes : (decimal service.totalBytes).length ≤ 20 :=
    decimal_length_le (by decide) (Nat.lt_of_lt_of_le hfit.bytes (by decide))
  have hmode : (ascii "multi-client-service").length ≤ 20 := by decide
  have hwords : ∀ word ∈ service.words, (decimal word).length ≤ 20 :=
    fun word hword => decimal_word (hfit.words word hword)
  simp only [HttpService.words, List.forall_mem_cons, List.not_mem_nil, false_implies,
    implies_true, and_true] at hwords
  simp only [metricsEntries, List.tail_cons, List.forall_mem_cons, MetricValue.print,
    formatName_length, signedDecimal_int hconfig.width, signedDecimal_int hconfig.height,
    signedDecimal_int hconfig.fps, signedDecimal_int hconfig.threshold, hmode, enabled_length,
    hwords, hbit, hsequence, hsize, hbytes, List.not_mem_nil, false_implies, implies_true,
    and_self]

/-- The room that the names and values take up beside the device name. -/
theorem metricsNames_room : (metricsNames.tail.map fun name => (ascii name).length).sum +
    22 * metricsNames.tail.length + 136 ≤ 2048 := by
  decide +kernel

theorem metricsBody_fits (hconfig : ConfigSized config) (hfit : WordsFit service) :
    (metricsBody config service).length < 2048 := by
  have hwidth : ∀ entry ∈ (metricsLines config service).tail, entry.2.length ≤ 20 := by
    intro entry hentry
    rw [metricsLines, ← List.map_tail] at hentry
    obtain ⟨named, hnamed, rfl⟩ := List.mem_map.mp hentry
    exact metricsEntries_width hconfig hfit named hnamed
  have htail := KeyValueLines.encode_length_le 61 10 hwidth
  have hnames : ((metricsLines config service).tail.map fun entry => entry.1.length) =
      metricsNames.tail.map fun name => (ascii name).length := by
    rw [metricsLines, ← List.map_tail, List.map_map, ← metricsEntries_names config service,
      ← List.map_tail, List.map_map]
    rfl
  have hcount : (metricsLines config service).tail.length = metricsNames.tail.length := rfl
  have hroom := metricsNames_room
  have hdevice := hconfig.device
  have hkey : (ascii "device").length = 6 := by decide
  have hcons : metricsLines config service =
      (ascii "device", config.device) :: (metricsLines config service).tail := rfl
  rw [metricsBody_eq, hcons, KeyValueLines.encode, List.flatMap_cons, ← KeyValueLines.encode,
    List.length_append, KeyValueLines.line, List.length_append, List.length_cons,
    List.length_append, List.length_singleton, hkey]
  rw [hnames, hcount] at htail
  dsimp only
  omega

end Size

section Answer

def textHeaderLines (status : List UInt8) (bodySize : Nat) : List (List UInt8) :=
  [ascii "HTTP/1.0 " ++ status ++ [13], ascii "Server: ov5640_capture\r",
    ascii "Connection: close\r", ascii "Cache-Control: no-cache\r",
    ascii "Content-Type: text/plain\r", ascii "Content-Length: " ++ decimal bodySize ++ [13]]

theorem textHeader_lines (status : List UInt8) (bodySize : Nat) :
    textHeader status bodySize =
      (textHeaderLines status bodySize).flatMap (· ++ [10]) ++ [13, 10] := by
  have hcrlf : ascii "\n\r\n" = [10, 13, 10] := by decide
  have hfixed : ascii ("\r\n" ++ "Server: ov5640_capture\r\n" ++ "Connection: close\r\n" ++
      "Cache-Control: no-cache\r\n" ++ "Content-Type: text/plain\r\n" ++ "Content-Length: ") =
      [13, 10] ++ (ascii "Server: ov5640_capture\r" ++ [10]) ++
        (ascii "Connection: close\r" ++ [10]) ++ (ascii "Cache-Control: no-cache\r" ++ [10]) ++
        (ascii "Content-Type: text/plain\r" ++ [10]) ++ ascii "Content-Length: " := by
    decide +kernel
  rw [textHeader, hfixed, hcrlf]
  simp only [textHeaderLines, List.flatMap_cons, List.flatMap_nil, List.append_assoc,
    List.cons_append, List.nil_append]

theorem textHeaderLines_clean {status : List UInt8} (hstatus : 10 ∉ status) (bodySize : Nat) :
    ∀ first ∈ textHeaderLines status bodySize, 10 ∉ first ∧ first ≠ [13] := by
  have hsize := ten_notMem_decimal bodySize
  simp only [textHeaderLines, List.forall_mem_cons]
  have hversion : 10 ∉ ascii "HTTP/1.0 " := by decide
  have hlength : 10 ∉ ascii "Content-Length: " := by decide
  have hreturn : (10 : UInt8) ∉ [13] := by decide
  have hlong : ∀ (name : String) (text : List UInt8), 0 < (ascii name).length →
      ascii name ++ text ++ [13] ≠ [13] := by
    intro name text hname heq
    have hcount := congrArg List.length heq
    rw [List.length_append, List.length_append] at hcount
    simp only [List.length_singleton] at hcount
    omega
  refine ⟨⟨?_, hlong _ _ (by decide)⟩, by decide, by decide, by decide, by decide,
    ⟨?_, hlong _ _ (by decide)⟩, fun _ h => absurd h List.not_mem_nil⟩
  · simp only [List.mem_append, hversion, hstatus, hreturn, or_self, not_false_eq_true]
  · simp only [List.mem_append, hlength, hsize, hreturn, or_self, not_false_eq_true]

theorem afterLine_textHeader {status : List UInt8} (hstatus : 10 ∉ status) (bodySize : Nat)
    (body : List UInt8) :
    KeyValueLines.afterLine 10 [13] [] (textHeader status bodySize ++ body) = some body := by
  have hmark : (10 : UInt8) ∉ [13] := by decide
  have hempty : [13, 10] ++ body = [13] ++ 10 :: body := rfl
  rw [textHeader_lines, List.append_assoc, hempty]
  exact KeyValueLines.afterLine_lines hmark (textHeaderLines_clean hstatus bodySize) body

/-- A client's reading of a text answer: the body after the empty line, line by line. -/
def readReport (message : List UInt8) : Option (List (List UInt8 × List UInt8)) :=
  (KeyValueLines.afterLine 10 [13] [] message).bind (KeyValueLines.decode 61 10)

theorem readReport_message (hdevice : 10 ∉ config.device) (service : HttpService) :
    readReport (Response.metrics (metricsBody config service)).message =
      some (metricsLines config service) := by
  have hstatus : 10 ∉ ascii "200 OK" := by decide
  rw [Response.message, readReport, afterLine_textHeader hstatus, Option.bind_some]
  exact decode_metricsBody hdevice

/-- What a client that has the whole answer reads there. -/
structure ReadsMetrics (config : CameraConfig) (g : Gateway) (client : HttpClient)
    (service : HttpService) : Prop where
  seen : SeenService config g service
  wire : client.wire <+: (Response.metrics (metricsBody config service)).message
  lines : readReport (Response.metrics (metricsBody config service)).message =
    some (metricsLines config service)
  texts : ∀ name bytes, (name, MetricValue.text bytes) ∈ metricsEntries config service →
    (metricsLines config service).lookup (ascii name) = some bytes
  numbers : ∀ name n, (name, MetricValue.number n) ∈ metricsEntries config service →
    ((metricsLines config service).lookup (ascii name)).map readDecimal = some n
  signed : ∀ name n, (name, MetricValue.signed n) ∈ metricsEntries config service →
    ((metricsLines config service).lookup (ascii name)).map readSigned = some n

theorem SeenService.fits (h : SeenService config g service) : WordsFit service := by
  obtain ⟨past, hreach, -, -, hservice⟩ := h
  exact hservice ▸ (reachable_countersFit hreach).service

theorem Answers.metrics_body {client : HttpClient} {response : Response}
    (h : Answers config g client response) {body : List UInt8} (hbody : response = .metrics body) :
    ∃ service, SeenService config g service ∧ body = metricsBody config service := by
  cases h with
  | metrics service _ seen => exact ⟨service, seen, (Response.metrics.inj hbody).symm⟩
  | _ => cases hbody

theorem SeenService.reads {client : HttpClient} (h : SeenService config g service)
    (hdevice : 10 ∉ config.device)
    (hwire : client.wire <+: (Response.metrics (metricsBody config service)).message) :
    ReadsMetrics config g client service := by
  refine ⟨h, hwire, readReport_message hdevice service, ?_, ?_, ?_⟩
  · intro name bytes hmem
    exact lookup_metricsLines hmem
  · intro name n hmem
    rw [lookup_metricsLines hmem, Option.map_some]
    exact congrArg some (decimal_foldl n)
  · intro name n hmem
    rw [lookup_metricsLines hmem, Option.map_some]
    exact congrArg some (readSigned_signedDecimal n)

end Answer

/-- The counters keep their width, so no answer on `/metrics` is too long to be sent, and what a
client gets on that path is the beginning of a message in which each value of the service at
one moment is found again under its name. -/
theorem metrics_read_back (hconfig : ConfigSized config) (hdevice : 10 ∉ config.device)
    (h : TransitionSystem.Reachable (gateway config) g) :
    WordsFit g.service ∧
    (∀ client ∈ g.clients, ∀ body, client.state = .respond (.metrics body) →
      body.length < 2048) ∧
    (∀ client ∈ g.clients, httpClientRoute client.path = .metrics → client.wire ≠ [] →
      ∃ service, ReadsMetrics config g client service) := by
  refine ⟨(reachable_countersFit h).service, ?_, ?_⟩
  · intro client hclient body hstate
    have hwire := reachable_wireAt h client hclient
    rw [hstate] at hwire
    obtain ⟨service, hseen, hbody⟩ := hwire.2.metrics_body rfl
    rw [hbody]
    exact metricsBody_fits hconfig hseen.fits
  · intro client hclient hroute hsome
    have hwire := reachable_wireAt h client hclient
    cases hstate : client.state with
    | route | respond response =>
        rw [hstate] at hwire
        exact absurd hwire.1 hsome
    | streamHeader | wait | blocked | timedOut | checkStop | sendFrame frame =>
        rw [hstate] at hwire
        rw [hwire.1] at hroute
        cases hroute
    | countOut | closing | done =>
        rw [hstate] at hwire
        obtain ⟨message, hdue, hprefix⟩ := hwire
        cases hdue with
        | answer response answers =>
            cases answers with
            | metrics service _ hseen => exact ⟨service, hseen.reads hdevice hprefix⟩
            | unavailable hother _ | jpeg _ _ hother _ | notFound hother =>
                rw [hother] at hroute
                cases hroute
        | stream hother =>
            rw [hother] at hroute
            cases hroute

/-- After a timeout of the camera a client asks for the metrics and gets all of them. -/
theorem metrics_read_back_oneClient :
    ∃ g, TransitionSystem.Reachable (gateway streamConfig) g ∧
      (g.clients.map fun client => (client.state, client.path, client.wire.length)) =
        [(.countOut, ascii "/metrics", 733)] ∧
      WordsFit g.service ∧
      (∀ client ∈ g.clients, ∀ body, client.state = .respond (.metrics body) →
        body.length < 2048) ∧
      (∀ client ∈ g.clients, httpClientRoute client.path = .metrics → client.wire ≠ [] →
        ∃ service, ReadsMetrics streamConfig g client service) := by
  have hrun : (TransitionSystem.exec (gateway streamConfig) Gateway.init
      (startup ++ [.capture .go, .capture .selectTimeout] ++ serve 0 (ascii "/metrics") ++
        [.client 0 (.copied none),
          .client 0 (.sent [.accepted 1000, .interrupted, .accepted 1000])])).any
      (fun g => decide ((g.clients.map fun client =>
        (client.state, client.path, client.wire.length)) =
          [(.countOut, ascii "/metrics", 733)])) = true := by
    decide +kernel
  obtain ⟨g, hexec, hg⟩ := TransitionSystem.exists_exec_of_any hrun
  have hreach := (TransitionSystem.Reachable.init (gateway streamConfig)).exec hexec
  have hconfig : ConfigSized streamConfig :=
    ⟨by decide, by decide, by decide, by decide, by decide⟩
  exact ⟨g, hreach, of_decide_eq_true hg,
    metrics_read_back hconfig (by decide) hreach⟩

end CameraGateway
