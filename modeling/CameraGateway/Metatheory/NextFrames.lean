import CameraGateway.Metatheory.ClientResponses
import CameraGateway.Metatheory.DrawingRuns
import CameraGateway.Metatheory.MotionEvents
import CameraGateway.Metatheory.StreamDelivery

/-!
What the service can still do, whatever it has come to. While the camera delivers and nobody
has stopped the service, the capture thread and the stream clients need nobody else: from any
reachable head of the capture loop they can bring any further frames to all clients that wait
for one, in order and without a gap, however the other clients and main are held up.
-/
namespace CameraGateway
variable {config : CameraConfig} {g g' : Gateway}

section Sending

def acceptAll : List (List UInt8) → List SendResult
  | [] => []
  | part :: parts =>
      if part = [] then acceptAll parts else .accepted part.length :: acceptAll parts

theorem sendParts_acceptAll (parts : List (List UInt8)) :
    sendParts (acceptAll parts) parts = ⟨some 0, parts.flatten, []⟩ := by
  induction parts with
  | nil => rfl
  | cons part parts ih =>
      rw [sendParts, acceptAll]
      by_cases hpart : part = []
      · rw [if_pos hpart, hpart, sendAll_nil]
        simp only [Sent.andThen, ih, if_true, List.flatten_cons, List.nil_append]
      · have hroom : part.length ≠ 0 := fun hzero => hpart (List.length_eq_zero_iff.mp hzero)
        rw [if_neg hpart, sendAll_accepted hpart hroom, List.drop_length, sendAll_nil,
          List.take_length, List.append_nil]
        simp only [Sent.andThen, ih, if_true, List.flatten_cons]

def acceptFrame (data : List UInt8) : List SendResult :=
  acceptAll [partHeader data.length, data, crlf]

theorem sendFrame_accepted {data : List UInt8} (hdata : data.length < 2 ^ 64) :
    httpMjpegSendFrame (acceptFrame data) data = ⟨some 0, framePart data, []⟩ := by
  rw [httpMjpegSendFrame, sendMessage, if_neg (Nat.not_le.mpr (partHeader_length hdata)),
    acceptFrame, sendParts_acceptAll, framePart, List.flatten_cons, List.flatten_cons,
    List.flatten_singleton]

end Sending

section Clients
variable {service : HttpService} {client client' : HttpClient} {index : Nat}

/-- Steps of one client thread while the service stays as it is. -/
def runClient (config : CameraConfig) (service : HttpService) (index : Nat) :
    HttpClient → List ClientEvent → Option HttpClient
  | client, [] => some client
  | client, event :: events =>
      (clientStep config service index client event).bind fun client =>
        runClient config service index client events

theorem stepClient_of_clientStep {i : Nat} {event : ClientEvent} (halive : g.alive = true)
    (hclient : g.clients[i]? = some client)
    (hstep : clientStep config g.service (g.published.length - 1) client event = some client') :
    g.stepClient config i event = some { g with clients := g.clients.set i client' } := by
  have hcount : ¬ (client.state = .countOut ∧ event = .go) := by
    rintro ⟨hstate, rfl⟩
    simp only [clientStep, hstate] at hstep
    cases hstep
  simp only [Gateway.stepClient, hclient, halive, Bool.not_true, Bool.and_false,
    Bool.false_eq_true, if_false, if_neg hcount, hstep, Option.map_some]

theorem exec_runClient (config : CameraConfig) {i : Nat} {events : List ClientEvent}
    (halive : g.alive = true)
    (hclient : g.clients[i]? = some client)
    (hrun : runClient config g.service (g.published.length - 1) client events = some client') :
    TransitionSystem.exec (gateway config) g (events.map (.client i)) =
      some { g with clients := g.clients.set i client' } := by
  induction events generalizing g client with
  | nil =>
      cases hrun
      obtain ⟨hi, rfl⟩ := List.getElem?_eq_some_iff.mp hclient
      rw [List.set_getElem_self]
      rfl
  | cons event events ih =>
      obtain ⟨next, hstep, hrest⟩ := Option.bind_eq_some_iff.mp hrun
      have hnext := stepClient_of_clientStep halive hclient hstep
      have hplace : (g.clients.set i next)[i]? = some next := by
        obtain ⟨hi, -⟩ := List.getElem?_eq_some_iff.mp hclient
        exact List.getElem?_set_self hi
      have hlater := ih (g := { g with clients := g.clients.set i next }) halive hplace hrest
      rw [List.set_set] at hlater
      exact Option.bind_eq_some_iff.mpr ⟨_, hnext, hlater⟩

/-- A service with a frame that the client has not been handed. -/
structure Offers (service : HttpService) (data : List UInt8) (client : HttpClient) : Prop where
  running : service.stop = false
  sound : service.failed = false
  ready : service.hasFrame = true
  stored : service.latest.data ≠ none
  filled : service.latest.size ≠ 0
  bytes : service.latest.value.bytes = data
  other : service.latest.sequence ≠ client.lastSequence

structure Fetched (service : HttpService) (data : List UInt8) (client client' : HttpClient) :
    Prop where
  waits : client'.state = .wait
  wire : client'.wire = client.wire ++ framePart data
  sequence : client'.lastSequence = service.latest.sequence

theorem waitStep_fetches (config : CameraConfig) {data : List UInt8}
    (h : Offers service data client) (hdata : data.length < 2 ^ 64) (index : Nat)
    (timedOut : Bool) :
    ∃ client', Fetched service data client client' ∧
      clientStep config service index (client.waitStep service index timedOut (some 0))
        (.sent (acceptFrame data)) = some client' := by
  obtain ⟨out, sequence, hwait, hvalue⟩ := httpServiceWaitLatest_delivers timedOut 0 h.ready
    h.running h.stored h.filled h.other
  have hsequence : sequence = service.latest.sequence := by
    rcases httpServiceWaitLatest_value hwait with ⟨-, -, -, -, -, hout⟩ | ⟨hne, -⟩
    · rw [hout]
      exact congrArg FrameValue.sequence hvalue
    · exact absurd rfl hne
  have hbytes : out.value.bytes = data := (congrArg FrameValue.bytes hvalue).trans h.bytes
  rw [HttpClient.waitStep, hwait]
  simp only [if_true, clientStep, hbytes, sendFrame_accepted hdata]
  exact ⟨_, ⟨rfl, rfl, hsequence⟩, rfl⟩

/-- A client that waits for a frame has it sent in at most three steps of its own. -/
theorem runClient_fetches (config : CameraConfig) {k : Nat} {data : List UInt8}
    (h : Offers service data client) (hdata : data.length < 2 ^ 64)
    (hcaught : client.state.caughtUp = true) (hawake : client.state ≠ .blocked) :
    ∃ events client', runClient config service k client events = some client' ∧
      Fetched service data client client' := by
  have fetch : ∀ (before : HttpClient) (timedOut : Bool), Offers service data before →
      clientStep config service k before (.copied (some 0)) =
        some (before.waitStep service k timedOut (some 0)) →
      ∃ client', runClient config service k before
          [.copied (some 0), .sent (acceptFrame data)] = some client' ∧
        Fetched service data before client' := by
    intro before timedOut hoffers hfirst
    obtain ⟨client', hfetched, hsend⟩ :=
      waitStep_fetches config hoffers hdata k timedOut
    refine ⟨client', ?_, hfetched⟩
    rw [runClient, hfirst, Option.bind_some, runClient, hsend]
    rfl
  cases hstate : client.state with
  | wait =>
      obtain ⟨client', hrun, hfetched⟩ := fetch client false h (by simp only [clientStep, hstate])
      exact ⟨_, client', hrun, hfetched⟩
  | timedOut =>
      obtain ⟨client', hrun, hfetched⟩ := fetch client true h (by simp only [clientStep, hstate])
      exact ⟨_, client', hrun, hfetched⟩
  | checkStop =>
      obtain ⟨client', hrun, hfetched⟩ := fetch (client.goto .wait) false
        { h with } (by simp only [clientStep, HttpClient.goto])
      refine ⟨.go :: [.copied (some 0), .sent (acceptFrame data)], client', ?_,
        { hfetched with }⟩
      rw [runClient]
      simp only [clientStep, hstate, h.running, h.sound, Bool.or_false, Bool.false_eq_true,
        if_false, Option.bind_some]
      exact hrun
  | blocked => exact absurd hstate hawake
  | _ =>
      rw [hstate] at hcaught
      cases hcaught

end Clients

section Camera

namespace DriverBuffer

theorem bytes_lt (filled : DriverBuffer) : filled.bytes.length < 2 ^ 64 := by
  have hsize := filled.bytesused.toNat_lt
  have htaken := List.length_take_le filled.bytesused.toNat filled.buffer.bytes
  rw [bytes]
  omega

def publication (filled : DriverBuffer) : List Action :=
  [.capture .go, .capture .selectReady,
    .capture (.dequeued filled.buffer filled.bytesused filled.sequence filled.timestampUs),
    .capture (.copied (some 0))]

theorem publication_capture (filled : DriverBuffer) :
    ∀ action ∈ filled.publication, ∃ event, action = .capture event := by
  simp only [publication, List.forall_mem_cons]
  exact ⟨⟨_, rfl⟩, ⟨_, rfl⟩, ⟨_, rfl⟩, ⟨_, rfl⟩, List.forall_mem_nil _⟩

end DriverBuffer

def storedFrame (frame : Frame) : Frame := (copyInto frame (some 0)).2

/-- The gateway after the publication of a frame. -/
def Gateway.publish (g : Gateway) (frame : Frame) : Gateway :=
  { g with
    service := { g.service with latest := storedFrame frame, hasFrame := true }
    capture := .draw frame
    clients := g.clients.map HttpClient.wake
    published := g.published ++ [frame] }

theorem exec_publication (config : CameraConfig) (hhead : g.capture = .head)
    (hstop : g.service.stop = false)
    {filled : DriverBuffer} (hbytes : filled.bytesused ≠ 0) :
    TransitionSystem.exec (gateway config) g filled.publication =
      some (g.publish (filled.frame config)) := by
  have hsize : filled.bytesused.toNat ≠ 0 := fun hzero => hbytes (UInt32.toNat_inj.mp hzero)
  have hcopy : frameCopyAlloc (filled.frame config) (some 0) =
      (0, storedFrame (filled.frame config)) := by
    rw [frameCopyAlloc, if_neg]
    · rfl
    · exact not_or.mpr ⟨Option.some_ne_none _, hsize⟩
  have hupdate : httpServiceUpdateLatest g.service (filled.frame config) (some 0) =
      (0, { g.service with latest := storedFrame (filled.frame config), hasFrame := true }) := by
    rw [httpServiceUpdateLatest, hcopy]
    rfl
  rw [DriverBuffer.frame] at hupdate
  simp only [DriverBuffer.publication, TransitionSystem.exec, gateway, Gateway.step, hhead,
    captureStep, hstop, Bool.false_eq_true, if_false, CaptureStep.quiet, Gateway.applyCapture,
    Option.map_some, Option.bind_some, hbytes, Option.toList_none, List.append_nil, hupdate,
    ne_eq, not_true_eq_false, if_true, Option.toList_some, Gateway.publish, DriverBuffer.frame]

def restOfPass (config : CameraConfig) : List Action :=
  .capture (.decoded none false) ::
    ((if !config.fbPreview && !config.motionDetect then [] else [.capture .go]) ++
      [.capture .go, .capture (.requeued true)])

theorem restOfPass_capture (config : CameraConfig) :
    ∀ action ∈ restOfPass config, ∃ event, action = .capture event := by
  simp only [restOfPass, List.forall_mem_cons, List.forall_mem_append]
  refine ⟨⟨_, rfl⟩, ?_, ⟨_, rfl⟩, ⟨_, rfl⟩, List.forall_mem_nil _⟩
  split
  · exact List.forall_mem_nil _
  · exact fun action haction => ⟨.go, List.mem_singleton.mp haction⟩

theorem exec_restOfPass (config : CameraConfig) {frame : Frame} (hdraw : g.capture = .draw frame) :
    ∃ service, TransitionSystem.exec (gateway config) g (restOfPass config) =
        some { g with service := service, capture := .head } ∧
      service.stop = g.service.stop ∧ service.failed = g.service.failed := by
  cases hplain : !config.fbPreview && !config.motionDetect with
  | true =>
      refine ⟨countCaptured g.service frame.size, ?_, rfl, rfl⟩
      simp only [restOfPass, hplain, if_true, TransitionSystem.exec, List.nil_append, gateway,
        Gateway.step, hdraw, captureStep, drawStep, CaptureStep.quiet, Gateway.applyCapture,
        Option.map_some, Option.bind_some, Option.toList_none, List.append_nil,
        Bool.false_eq_true, if_false]
  | false =>
      have hshared := sameShared_countLcd g.service config.fbPreview (-1)
      refine ⟨countCaptured (countLcd g.service config.fbPreview (-1)) frame.size, ?_,
        hshared.stop, ?_⟩
      · simp only [restOfPass, hplain, if_true, TransitionSystem.exec, List.cons_append,
          List.nil_append, gateway, Gateway.step, hdraw, captureStep, drawStep,
          CaptureStep.quiet, Gateway.applyCapture, Option.map_some, Option.bind_some,
          Option.toList_none, List.append_nil, Bool.false_eq_true, if_false]
      · rw [countCaptured, countLcd]
        split
        · rfl
        · split <;> rfl

end Camera

section Passes

/-- What the filled buffers make of a client: it gets all of them if it waits, and is left
alone otherwise. -/
structure Served (buffers : List DriverBuffer) (client client' : HttpClient) : Prop where
  waiting : client.state.caughtUp = true → client'.state.caughtUp = true ∧
    client'.wire = client.wire ++ Framing.stream framePart (buffers.map DriverBuffer.bytes) ∧
    client'.lastSequence = (buffers.map DriverBuffer.sequence).getLastD client.lastSequence
  busy : client.state.caughtUp = false → client' = client

theorem served_nothing (client : HttpClient) : Served [] client client :=
  ⟨fun hcaught => ⟨hcaught, (List.append_nil _).symm, rfl⟩, fun _ => rfl⟩

theorem Served.caughtUp_eq {buffers : List DriverBuffer} {client client' : HttpClient}
    (h : Served buffers client client') : client'.state.caughtUp = client.state.caughtUp := by
  cases hcaught : client.state.caughtUp with
  | true => exact (h.waiting hcaught).1
  | false => rw [h.busy hcaught, hcaught]

theorem Served.cons {filled : DriverBuffer} {buffers : List DriverBuffer}
    {client next client' : HttpClient} (h : Served [filled] client next)
    (hrest : Served buffers next client') : Served (filled :: buffers) client client' := by
  refine ⟨fun hcaught => ?_, fun hbusy => ?_⟩
  · obtain ⟨hnext, hwire, hsequence⟩ := h.waiting hcaught
    obtain ⟨hlast, hlater, hnumber⟩ := hrest.waiting hnext
    refine ⟨hlast, ?_, ?_⟩
    · rw [hlater, hwire, List.append_assoc, List.map_cons, Framing.stream_cons]
      simp only [List.map_cons, List.map_nil, Framing.stream_cons, Framing.stream_nil,
        List.append_nil]
    · simp only [hnumber, hsequence, List.map_cons, List.map_nil, List.getLastD_cons,
        List.getLastD_nil]
  · have hnext := h.busy hbusy
    rw [hrest.busy (hnext ▸ hbusy), hnext]

/-- A step of the capture thread, or of a client that waits for a frame. -/
def OfWaiting (clients : List HttpClient) : Action → Prop
  | .capture _ => True
  | .client i _ => ∃ client, clients[i]? = some client ∧ client.state.caughtUp = true
  | _ => False

theorem wake_busy {client : HttpClient} (h : client.state.caughtUp = false) :
    client.wake = client := by
  rw [HttpClient.wake, if_neg]
  intro hblocked
  rw [hblocked] at h
  cases h

theorem wake_waiting {client : HttpClient} (h : client.state.caughtUp = true) :
    client.wake.state.caughtUp = true ∧ client.wake.state ≠ .blocked ∧
      client.wake.wire = client.wire ∧ client.wake.lastSequence = client.lastSequence := by
  rw [HttpClient.wake]
  split
  · exact ⟨rfl, by simp, rfl, rfl⟩
  · exact ⟨h, ‹_›, rfl, rfl⟩

theorem exec_client (config : CameraConfig) {filled : DriverBuffer} {client : HttpClient}
    (halive : g.alive = true)
    (hsequence : g.service.latest.sequence = filled.sequence)
    (hoffers : client.state.caughtUp = true → Offers g.service filled.bytes client)
    (before after : List HttpClient) :
    ∃ events client',
      TransitionSystem.exec (gateway config) { g with clients := before ++ client.wake :: after }
        (events.map (.client before.length)) =
          some { g with clients := before ++ client' :: after } ∧
      (events ≠ [] → client.state.caughtUp = true) ∧ Served [filled] client client' := by
  cases hcaught : client.state.caughtUp with
  | false =>
      refine ⟨[], client, ?_, fun hnone => absurd rfl hnone, fun hwaits => ?_, fun _ => rfl⟩
      · rw [wake_busy hcaught]
        rfl
      · rw [hcaught] at hwaits
        cases hwaits
  | true =>
      obtain ⟨hwaits, hawake, hwire, hlast⟩ := wake_waiting hcaught
      have hoffer := hoffers hcaught
      have hwoken : Offers g.service filled.bytes client.wake :=
        { hoffer with other := hlast ▸ hoffer.other }
      obtain ⟨events, client', hrun, hfetched⟩ := runClient_fetches
        (k := g.published.length - 1) config hwoken filled.bytes_lt hwaits hawake
      refine ⟨events, client', ?_, fun _ => rfl, fun _ => ⟨?_, ?_, ?_⟩, fun hbusy => ?_⟩
      · have hplace : (before ++ client.wake :: after)[before.length]? = some client.wake := by
          rw [List.getElem?_append_right (Nat.le_refl _), Nat.sub_self, List.getElem?_cons_zero]
        have hexec := exec_runClient config
          (g := { g with clients := before ++ client.wake :: after }) halive hplace hrun
        rwa [List.set_append_right _ _ (Nat.le_refl _), Nat.sub_self, List.set_cons_zero]
          at hexec
      · rw [hfetched.waits]
        rfl
      · rw [hfetched.wire, hwire]
        simp only [List.map_cons, List.map_nil, Framing.stream_cons, Framing.stream_nil,
          List.append_nil]
      · rw [hfetched.sequence, hsequence]
        rfl
      · rw [hcaught] at hbusy
        cases hbusy

/-- One client after the other fetches the frame that has been published. -/
theorem exec_clients (config : CameraConfig) {filled : DriverBuffer} (halive : g.alive = true)
    (hsequence : g.service.latest.sequence = filled.sequence) {rest : List HttpClient}
    (hoffers : ∀ client ∈ rest, client.state.caughtUp = true →
      Offers g.service filled.bytes client) (before : List HttpClient) :
    ∃ actions served,
      (∀ action ∈ actions, ∃ i event client, action = .client (before.length + i) event ∧
        rest[i]? = some client ∧ client.state.caughtUp = true) ∧
      TransitionSystem.exec (gateway config)
        { g with clients := before ++ rest.map HttpClient.wake } actions =
          some { g with clients := before ++ served } ∧
      List.Forall₂ (Served [filled]) rest served := by
  induction rest generalizing before with
  | nil => exact ⟨[], [], fun _ h => absurd h List.not_mem_nil, rfl, .nil⟩
  | cons client rest ih =>
      have hrest := fun other hother => hoffers other (List.mem_cons_of_mem client hother)
      obtain ⟨events, client', hfirst, hmoved, hclient⟩ := exec_client config halive
        hsequence (hoffers client (List.mem_cons_self ..)) before (rest.map HttpClient.wake)
      obtain ⟨actions, served, hactions, hlater, hserved⟩ := ih hrest (before ++ [client'])
      refine ⟨events.map (.client before.length) ++ actions, client' :: served, ?_, ?_,
        .cons hclient hserved⟩
      · intro action haction
        cases List.mem_append.mp haction with
        | inl hown =>
            obtain ⟨event, hevent, rfl⟩ := List.mem_map.mp hown
            exact ⟨0, event, client, rfl, rfl, hmoved (List.ne_nil_of_mem hevent)⟩
        | inr hother =>
            obtain ⟨i, event, other, rfl, hplace, hcaught⟩ := hactions action hother
            refine ⟨i + 1, event, other, ?_, by rwa [List.getElem?_cons_succ], hcaught⟩
            rw [List.length_append, List.length_singleton, Nat.add_assoc, Nat.add_comm 1]
      · rw [TransitionSystem.exec_append, List.map_cons, hfirst, Option.bind_some,
          List.append_cons, hlater, ← List.append_cons]

/-- What the rest of the system sees of passes that published the filled buffers. -/
structure Passed (config : CameraConfig) (g : Gateway) (buffers : List DriverBuffer)
    (g' : Gateway) : Prop where
  head : g'.capture = .head
  alive : g'.alive = true
  running : g'.service.stop = false
  sound : g'.service.failed = false
  others : g'.main = g.main ∧ g'.peers = g.peers ∧ g'.backlog = g.backlog
  published : g'.published = g.published ++ buffers.map (DriverBuffer.frame config)
  clients : List.Forall₂ (Served buffers) g.clients g'.clients

theorem stored_offers (config : CameraConfig) {filled : DriverBuffer} {service : HttpService}
    {client : HttpClient}
    (hbytes : filled.bytesused ≠ 0) (hstop : service.stop = false)
    (hfailed : service.failed = false) (hready : service.hasFrame = true)
    (hlatest : service.latest = storedFrame (filled.frame config))
    (hnumber : filled.sequence ≠ client.lastSequence) :
    Offers service filled.bytes client := by
  have hsize : filled.bytesused.toNat ≠ 0 := fun hzero => hbytes (UInt32.toNat_inj.mp hzero)
  refine ⟨hstop, hfailed, hready, ?_, ?_, ?_, ?_⟩
  · rw [hlatest]
    exact Option.some_ne_none _
  · rw [hlatest]
    exact hsize
  · rw [hlatest, storedFrame, copyInto_value]
    rfl
  · rw [hlatest]
    exact hnumber

/-- One pass of the capture loop, in which each waiting client fetches the frame. -/
theorem exec_pass (config : CameraConfig) {filled : DriverBuffer} (hhead : g.capture = .head)
    (halive : g.alive = true) (hstop : g.service.stop = false) (hfailed : g.service.failed = false)
    (hbytes : filled.bytesused ≠ 0)
    (hnumber : ∀ client ∈ g.clients, client.state.caughtUp = true →
      filled.sequence ≠ client.lastSequence) :
    ∃ actions g', (∀ action ∈ actions, OfWaiting g.clients action) ∧
      TransitionSystem.exec (gateway config) g actions = some g' ∧
      Passed config g [filled] g' := by
  have hpublish := exec_publication config hhead hstop hbytes
  have hoffers : ∀ client ∈ g.clients, client.state.caughtUp = true →
      Offers (g.publish (filled.frame config)).service filled.bytes client :=
    fun client hclient hcaught => stored_offers config hbytes hstop hfailed rfl rfl
      (hnumber client hclient hcaught)
  obtain ⟨fetches, served, hown, hfetch, hserved⟩ := exec_clients config
    (g := g.publish (filled.frame config)) halive rfl hoffers []
  obtain ⟨service, hrest, hrunning, hsound⟩ := exec_restOfPass config
    (g := { g.publish (filled.frame config) with clients := served }) rfl
  refine ⟨filled.publication ++ (fetches ++ restOfPass config),
    { g.publish (filled.frame config) with
      clients := served, service := service, capture := .head }, ?_, ?_,
    ⟨rfl, halive, hrunning.trans hstop, hsound.trans hfailed, ⟨rfl, rfl, rfl⟩, rfl, hserved⟩⟩
  · have hcapture : ∀ {action : Action}, (∃ event, action = .capture event) →
        OfWaiting g.clients action := by
      rintro action ⟨event, rfl⟩
      exact True.intro
    refine List.forall_mem_append.mpr ⟨?_, List.forall_mem_append.mpr ⟨?_, ?_⟩⟩
    · exact fun action haction => hcapture (filled.publication_capture action haction)
    · intro action haction
      obtain ⟨i, event, client, rfl, hplace, hcaught⟩ := hown action haction
      exact ⟨client, by rwa [List.length_nil, Nat.zero_add], hcaught⟩
    · exact fun action haction => hcapture (restOfPass_capture config action haction)
  · rw [TransitionSystem.exec_append, hpublish, Option.bind_some, TransitionSystem.exec_append]
    rw [List.nil_append, List.nil_append] at hfetch
    have hdo : g.publish (filled.frame config) =
      { g.publish (filled.frame config) with clients := g.clients.map HttpClient.wake } := rfl
    rw [hdo, hfetch, Option.bind_some, hrest]

theorem served_place {buffers : List DriverBuffer} {clients clients' : List HttpClient}
    (h : List.Forall₂ (Served buffers) clients clients') {i : Nat} {client' : HttpClient}
    (hplace : clients'[i]? = some client') :
    ∃ client, clients[i]? = some client ∧ Served buffers client client' := by
  induction h generalizing i with
  | nil => cases hplace
  | cons hserved _ ih =>
      cases i with
      | zero =>
          cases hplace
          exact ⟨_, rfl, hserved⟩
      | succ i => exact ih hplace

theorem OfWaiting.before {buffers : List DriverBuffer} {clients clients' : List HttpClient}
    (h : List.Forall₂ (Served buffers) clients clients') {action : Action}
    (hown : OfWaiting clients' action) : OfWaiting clients action := by
  cases action with
  | capture event => exact True.intro
  | client i event =>
      obtain ⟨client', hplace, hcaught⟩ := hown
      obtain ⟨client, hbefore, hserved⟩ := served_place h hplace
      exact ⟨client, hbefore, hserved.caughtUp_eq ▸ hcaught⟩
  | _ => cases hown

theorem forall₂_served_cons {filled : DriverBuffer} {buffers : List DriverBuffer}
    {clients next clients' : List HttpClient} (h : List.Forall₂ (Served [filled]) clients next)
    (hrest : List.Forall₂ (Served buffers) next clients') :
    List.Forall₂ (Served (filled :: buffers)) clients clients' := by
  induction h generalizing clients' with
  | nil =>
      cases hrest
      exact .nil
  | cons hserved _ ih =>
      cases hrest with
      | cons hlater hrest => exact .cons (hserved.cons hlater) (ih hrest)

theorem Passed.cons {filled : DriverBuffer} {buffers : List DriverBuffer} {next : Gateway}
    (h : Passed config g [filled] next) (hrest : Passed config next buffers g') :
    Passed config g (filled :: buffers) g' := by
  obtain ⟨hmain, hpeers, hbacklog⟩ := h.others
  obtain ⟨hmain', hpeers', hbacklog'⟩ := hrest.others
  refine ⟨hrest.head, hrest.alive, hrest.running, hrest.sound,
    ⟨hmain'.trans hmain, hpeers'.trans hpeers, hbacklog'.trans hbacklog⟩, ?_, ?_⟩
  · rw [hrest.published, h.published, List.append_assoc]
    rfl
  · exact forall₂_served_cons h.clients hrest.clients

theorem exec_passes {buffers : List DriverBuffer} (hhead : g.capture = .head)
    (halive : g.alive = true) (hstop : g.service.stop = false)
    (hfailed : g.service.failed = false) (hbytes : ∀ filled ∈ buffers, filled.bytesused ≠ 0)
    (hnumbers : ∀ client ∈ g.clients, client.state.caughtUp = true →
      List.IsChain (· ≠ ·) (client.lastSequence :: buffers.map DriverBuffer.sequence)) :
    ∃ actions g', (∀ action ∈ actions, OfWaiting g.clients action) ∧
      TransitionSystem.exec (gateway config) g actions = some g' ∧ Passed config g buffers g' := by
  induction buffers generalizing g with
  | nil =>
      exact ⟨[], g, List.forall_mem_nil _, rfl, hhead, halive, hstop, hfailed, ⟨rfl, rfl, rfl⟩,
        (List.append_nil _).symm, List.forall₂_same.mpr fun client _ => served_nothing client⟩
  | cons filled buffers ih =>
      obtain ⟨hfirst, hlater⟩ := List.forall_mem_cons.mp hbytes
      obtain ⟨actions, next, hactions, hexec, hpassed⟩ := exec_pass config hhead halive hstop
        hfailed hfirst fun client hclient hcaught =>
          ((List.isChain_cons_cons.mp (hnumbers client hclient hcaught)).1).symm
      have hnext : ∀ client' ∈ next.clients, client'.state.caughtUp = true →
          List.IsChain (· ≠ ·) (client'.lastSequence :: buffers.map DriverBuffer.sequence) := by
        intro client' hclient' hcaught'
        obtain ⟨i, hplace⟩ := List.getElem?_of_mem hclient'
        obtain ⟨client, hbefore, hserved⟩ := served_place hpassed.clients hplace
        have hcaught := hserved.caughtUp_eq ▸ hcaught'
        rw [(hserved.waiting hcaught).2.2]
        exact (List.isChain_cons_cons.mp
          (hnumbers client (List.mem_of_getElem? hbefore) hcaught)).2
      obtain ⟨rest, g', hrest, hexecRest, hpassedRest⟩ :=
        ih hpassed.head hpassed.alive hpassed.running hpassed.sound hlater hnext
      refine ⟨actions ++ rest, g', ?_, ?_, hpassed.cons hpassedRest⟩
      · exact List.forall_mem_append.mpr ⟨hactions, fun action haction =>
          (hrest action haction).before hpassed.clients⟩
      · rw [TransitionSystem.exec_append, hexec, Option.bind_some, hexecRest]

end Passes

/-- Whatever frames the camera delivers next, the capture thread and the waiting clients need
no other thread to bring each of them to all of these clients, as long as the number of each
frame differs from the one before: neither main nor a client that is still sending can hold
them up. A client that has been handed nothing counts from 0. -/
theorem next_frames_reach_all (h : TransitionSystem.Reachable (gateway config) g)
    (hhead : g.capture = .head) (hstop : g.service.stop = false)
    (hfailed : g.service.failed = false) {buffers : List DriverBuffer}
    (hbytes : ∀ filled ∈ buffers, filled.bytesused ≠ 0)
    (hnumbers : ∀ client ∈ g.clients, client.state.caughtUp = true →
      List.IsChain (· ≠ ·) (client.lastSequence :: buffers.map DriverBuffer.sequence)) :
    ∃ actions g', (∀ action ∈ actions, OfWaiting g.clients action) ∧
      TransitionSystem.exec (gateway config) g actions = some g' ∧
      Passed config g buffers g' := by
  exact exec_passes hhead (head_alive h hhead) hstop hfailed hbytes hnumbers

def twoBuffers : List DriverBuffer :=
  [⟨⟨1, [0xff, 0xd8]⟩, 2, 7, 0⟩, ⟨⟨1, [0xff]⟩, 1, 8, 0⟩]

/-- The first client is stuck in its header, the second one gets two more frames. -/
theorem next_frames_reach_all_stuckClient :
    ∃ g actions g', TransitionSystem.Reachable (gateway streamConfig) g ∧
      (∀ action ∈ actions, OfWaiting g.clients action) ∧
      TransitionSystem.exec (gateway streamConfig) g actions = some g' ∧
      (g'.clients.map fun client => (client.state.caughtUp, client.wire)) =
        [(false, []), (true, mjpegStream [[0xff, 0xd8], [0xff]])] := by
  have hrun : (TransitionSystem.exec (gateway streamConfig) Gateway.init
      (startup ++ serve 0 (ascii "/stream") ++ serve 1 (ascii "/stream") ++
        [.client 0 (.copied none)] ++ startStream 1)).any
      (fun g => decide (g.capture.isHead = true ∧ g.service.stop = false ∧
        g.service.failed = false ∧
        (g.clients.map fun client => (client.state, client.wire, client.lastSequence)) =
          [(.streamHeader, [], 0), (.blocked, streamHeader, 0)])) = true := by
    decide +kernel
  obtain ⟨g, hexec, hg⟩ := TransitionSystem.exists_exec_of_any hrun
  have hreach := (TransitionSystem.Reachable.init (gateway streamConfig)).exec hexec
  obtain ⟨hhead, hstop, hfailed, hclients⟩ := of_decide_eq_true hg
  obtain ⟨stuck, rest, hsplit, hstuck, htail⟩ := List.map_eq_cons_iff.mp hclients
  obtain ⟨waiting, others, hrest, hwaiting, hothers⟩ := List.map_eq_cons_iff.mp htail
  obtain rfl := List.map_eq_nil_iff.mp hothers
  simp only [Prod.mk.injEq] at hstuck hwaiting
  have hnumbers : ∀ client ∈ g.clients, client.state.caughtUp = true →
      List.IsChain (· ≠ ·) (client.lastSequence :: twoBuffers.map DriverBuffer.sequence) := by
    rw [hsplit, hrest, List.forall_mem_cons, List.forall_mem_singleton, hstuck.2.2,
      hwaiting.2.2]
    exact ⟨fun _ => by decide, fun _ => by decide⟩
  obtain ⟨actions, g', hown, hafter, hpassed⟩ := next_frames_reach_all hreach
    (head_of_isHead hhead) hstop hfailed (by decide) hnumbers
  refine ⟨g, actions, g', hreach, hown, hafter, ?_⟩
  have hserved := hpassed.clients
  rw [hsplit, hrest] at hserved
  obtain ⟨stuck', rest', hfirst, hserved, hclients'⟩ := List.forall₂_cons_left_iff.mp hserved
  obtain ⟨waiting', none, hsecond, hnone, hrest'⟩ := List.forall₂_cons_left_iff.mp hserved
  rw [hclients', hrest', List.forall₂_nil_left_iff.mp hnone]
  have hcaught : waiting.state.caughtUp = true := by
    rw [hwaiting.1]
    rfl
  have hbusy : stuck.state.caughtUp = false := by
    rw [hstuck.1]
    rfl
  obtain ⟨hwaits, hwire, -⟩ := hsecond.waiting hcaught
  simp only [List.map_cons, List.map_nil, hwaits, hwire, hwaiting.2.1, hfirst.busy hbusy, hbusy,
    hstuck.2.1]
  rfl

end CameraGateway
