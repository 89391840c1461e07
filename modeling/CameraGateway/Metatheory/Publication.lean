import CameraGateway.Metatheory.GatewaySteps
import Mathlib.Data.List.Basic

/-!
Publication of the latest frame, and delivery of frames to clients. The index of
a frame is its place in the order of publication. Sequence numbers come from the
driver and nothing is assumed of them.
-/
namespace CameraGateway
variable {config : CameraConfig} {g g' : Gateway}

/-- The latest frame is a copy of the newest published one, once there is one. -/
structure Newest (service : HttpService) (published : List Frame) : Prop where
  ready : service.hasFrame = true ↔ published ≠ []
  exact : ∀ frame, published.getLast? = some frame → service.latest.value = frame.value
  stored : service.hasFrame = true → service.latest.data ≠ none ∧ service.latest.size ≠ 0

/-- The sequence number that a stream client compares with. -/
def lastSequenceOf (handed : List (Nat × Frame)) : UInt32 :=
  match handed.getLast? with
  | none => 0
  | some entry => entry.2.sequence

/-- The frames handed to one client, against the order of publication. -/
structure Delivery (published : List Frame) (client : HttpClient) : Prop where
  exact : ∀ entry ∈ client.handed, ∃ frame,
    published[entry.1]? = some frame ∧ entry.2.value = frame.value
  increasing : client.handed.Pairwise fun first second => first.1 < second.1
  fresh : client.state = .route → client.handed = []
  sequence : client.state.streams = true → client.lastSequence = lastSequenceOf client.handed

structure Published (g : Gateway) : Prop where
  unstarted : g.main = .start ∨ g.main = .initService →
    g.alive = false ∧ g.capture = .absent ∧ g.published = [] ∧ g.clients = []
  newest : g.alive = true → Newest g.service g.published
  delivery : ∀ client ∈ g.clients, Delivery g.published client

section Newest
variable {service service' : HttpService} {published : List Frame}

theorem newest_zero : Newest HttpService.zero [] :=
  ⟨by simp [HttpService.zero], by simp, by simp [HttpService.zero]⟩

theorem Newest.congr (h : Newest service published) (hlatest : service'.latest = service.latest)
    (hready : service'.hasFrame = service.hasFrame) : Newest service' published := by
  obtain ⟨ready, exact, stored⟩ := h
  refine ⟨?_, ?_, ?_⟩
  · rwa [hready]
  · rwa [hlatest]
  · rwa [hready, hlatest]

theorem httpServiceUpdateLatest_ok {frame : Frame} {malloc : Option Nat}
    (h : httpServiceUpdateLatest service frame malloc = (0, service')) :
    frame.data ≠ none ∧ frame.size ≠ 0 ∧
      service' = { service with latest := (frameCopyAlloc frame malloc).2, hasFrame := true } ∧
      (frameCopyAlloc frame malloc).1 = 0 := by
  by_cases hcopy : (frameCopyAlloc frame malloc).1 = 0
  · have hok := (frameCopyAlloc_ok_iff frame malloc).mp hcopy
    simp only [httpServiceUpdateLatest, hcopy, ne_eq, not_true_eq_false, if_false,
      Prod.mk.injEq, true_and] at h
    exact ⟨hok.1, hok.2.1, h.symm, hcopy⟩
  · simp [httpServiceUpdateLatest, hcopy] at h

theorem frameCopyAlloc_stored {frame : Frame} {malloc : Option Nat}
    (h : (frameCopyAlloc frame malloc).1 = 0) :
    (frameCopyAlloc frame malloc).2.data ≠ none ∧
      (frameCopyAlloc frame malloc).2.size = frame.size := by
  obtain ⟨hdata, hsize, hmalloc⟩ := (frameCopyAlloc_ok_iff frame malloc).mp h
  obtain ⟨address, rfl⟩ := Option.isSome_iff_exists.mp hmalloc
  simp [frameCopyAlloc, hdata, hsize, copyInto]

theorem newest_publish {frame : Frame} {malloc : Option Nat}
    (h : httpServiceUpdateLatest service frame malloc = (0, service')) :
    Newest service' (published ++ [frame]) := by
  obtain ⟨-, hsize, rfl, hcopy⟩ := httpServiceUpdateLatest_ok h
  obtain ⟨hstored, hsame⟩ := frameCopyAlloc_stored hcopy
  refine ⟨by simp, ?_, fun _ => ⟨hstored, hsame ▸ hsize⟩⟩
  intro newest hnewest
  rw [List.getLast?_concat] at hnewest
  cases hnewest
  exact frameCopyAlloc_value hcopy

end Newest

section Delivery
variable {published : List Frame} {client client' : HttpClient}

theorem delivery_start (published : List Frame) (peer : Nat) (path : List UInt8) :
    Delivery published (HttpClient.start peer path) :=
  ⟨by simp [HttpClient.start], List.Pairwise.nil, fun _ => rfl, fun _ => rfl⟩

theorem Delivery.publish (h : Delivery published client) (frame : Frame) :
    Delivery (published ++ [frame]) client := by
  refine ⟨fun entry hentry => ?_, h.increasing, h.fresh, h.sequence⟩
  obtain ⟨old, hold, hvalue⟩ := h.exact entry hentry
  have hlt : entry.1 < published.length := (List.getElem?_eq_some_iff.mp hold).1
  exact ⟨old, by rw [List.getElem?_append_left hlt, hold], hvalue⟩

theorem Delivery.wake (h : Delivery published client) : Delivery published client.wake := by
  rw [HttpClient.wake]
  split
  · rename_i hblocked
    refine ⟨h.exact, h.increasing, ?_, fun _ => h.sequence (by rw [hblocked]; rfl)⟩
    intro hroute
    cases hroute
  · exact h

theorem Delivery.same (h : Delivery published client)
    (hhanded : client'.handed = client.handed)
    (hsequence : client'.lastSequence = client.lastSequence)
    (hstreams : client'.state.streams = true → client.state.streams = true)
    (hroute : client'.state ≠ .route) : Delivery published client' := by
  refine ⟨?_, ?_, fun hstate => absurd hstate hroute, fun hstate => ?_⟩
  · rw [hhanded]
    exact h.exact
  · rw [hhanded]
    exact h.increasing
  · rw [hhanded, hsequence]
    exact h.sequence (hstreams hstate)

/-- The index of the newest frame lies above those of all frames handed out
before, unless the last of these has its sequence number. -/
theorem Delivery.below (h : Delivery published client) {newest : Frame}
    (hnewest : published.getLast? = some newest)
    (hother : newest.sequence ≠ lastSequenceOf client.handed) :
    ∀ entry ∈ client.handed, entry.1 < published.length - 1 := by
  intro entry hentry
  rcases List.eq_nil_or_concat client.handed with hnil | ⟨before, last, hlast⟩
  · simp [hnil] at hentry
  · have hle : entry.1 ≤ last.1 := by
      have hpair := h.increasing
      rw [hlast, List.concat_eq_append] at hentry hpair
      rcases List.mem_append.mp hentry with hbefore | hself
      · exact Nat.le_of_lt
          ((List.pairwise_append.mp hpair).2.2 entry hbefore last (List.mem_singleton_self last))
      · exact Nat.le_of_eq (congrArg Prod.fst (List.mem_singleton.mp hself))
    obtain ⟨frame, hframe, hvalue⟩ := h.exact last (by simp [hlast])
    have hlt : last.1 < published.length := (List.getElem?_eq_some_iff.mp hframe).1
    have hne : last.1 ≠ published.length - 1 := by
      intro hindex
      rw [List.getLast?_eq_getElem?, ← hindex, hframe] at hnewest
      obtain rfl := Option.some.inj hnewest
      apply hother
      have hsequence : last.2.sequence = frame.sequence := congrArg FrameValue.sequence hvalue
      rw [lastSequenceOf, hlast, List.concat_eq_append, List.getLast?_concat]
      exact hsequence.symm
    omega

/-- Handing out the newest frame, to a client that has nothing as new. -/
theorem Delivery.hand (h : Delivery published client) {newest frame : Frame}
    (hnewest : published.getLast? = some newest) (hvalue : frame.value = newest.value)
    (hbelow : ∀ entry ∈ client.handed, entry.1 < published.length - 1)
    (hhanded : client'.handed = client.handed ++ [(published.length - 1, frame)])
    (hroute : client'.state ≠ .route)
    (hsequence : client'.state.streams = true → client'.lastSequence = frame.sequence) :
    Delivery published client' := by
  refine ⟨?_, ?_, fun hstate => absurd hstate hroute, fun hstate => ?_⟩
  · intro entry hentry
    rw [hhanded] at hentry
    rcases List.mem_append.mp hentry with hold | hnew
    · exact h.exact entry hold
    · rw [List.mem_singleton.mp hnew]
      exact ⟨newest, by rw [← List.getLast?_eq_getElem?, hnewest], hvalue⟩
  · rw [hhanded]
    refine List.pairwise_append.mpr ⟨h.increasing, List.pairwise_singleton _ _, ?_⟩
    intro entry hentry last hlast
    rw [List.mem_singleton.mp hlast]
    exact hbelow entry hentry
  · rw [hsequence hstate, lastSequenceOf, hhanded, List.getLast?_concat]

end Delivery

theorem published_of_ready {service : HttpService} {published : List Frame}
    (h : Newest service published) (hready : service.hasFrame = true) :
    ∃ newest, published.getLast? = some newest ∧ service.latest.value = newest.value := by
  have hne := h.ready.mp hready
  refine ⟨published.getLast hne, List.getLast?_eq_getLast_of_ne_nil hne, ?_⟩
  exact h.exact _ (List.getLast?_eq_getLast_of_ne_nil hne)

/-- One step of a client keeps the order and the exactness of what it is handed. -/
theorem Delivery.step {published : List Frame} {client client' : HttpClient}
    {service : HttpService} {event : ClientEvent} (h : Delivery published client)
    (newest : client.state.usesService = true → Newest service published)
    (hstep : clientStep config service (published.length - 1) client event = some client') :
    Delivery published client' := by
  obtain ⟨hchange, hroute⟩ := clientStep_handed hstep
  cases hchange with
  | same hhanded hsequence hstreams => exact h.same hhanded hsequence hstreams hroute
  | snapshot frame hbefore _ hhanded hready hvalue hstreams =>
      obtain ⟨last, hlast, heq⟩ := published_of_ready (newest (by rw [hbefore]; rfl)) hready
      refine h.hand hlast (hvalue.trans heq) ?_ hhanded hroute (by simp [hstreams])
      simp [h.fresh hbefore]
  | streamed frame hbefore hhanded hstop hready hother hvalue hsequence =>
      have huses : client.state.usesService = true := by
        rcases hbefore with hb | hb <;> rw [hb] <;> rfl
      have hstreams : client.state.streams = true := by
        rcases hbefore with hb | hb <;> rw [hb] <;> rfl
      obtain ⟨last, hlast, heq⟩ := published_of_ready (newest huses) hready
      have hsame : service.latest.sequence = last.sequence :=
        congrArg FrameValue.sequence heq
      refine h.hand hlast (hvalue.trans heq) (h.below hlast ?_) hhanded hroute
        (fun _ => hsequence)
      rw [← hsame, ← h.sequence hstreams]
      exact hother

theorem published_main {ok : Bool} (h : Published g) (hs : g.mainStep config ok = some g') :
    Published g' := by
  obtain ⟨hpublished, -⟩ := mainStep_history hs
  refine ⟨fun hmain => ?_, fun halive => ?_, fun client hclient => ?_⟩
  · obtain ⟨hstart, hsame⟩ := mainStep_unstarted hs hmain
    obtain ⟨halive, hcapture, hnone, hclients⟩ := h.unstarted (Or.inl hstart)
    refine ⟨hsame.trans halive, ?_, hpublished.trans hnone, ?_⟩
    · rcases mainStep_capture hs with hc | ⟨hc, -⟩
      · exact hc.trans hcapture
      · simp [hstart] at hc
    · cases mainStep_clients hs with
      | same hsame _ => exact hsame.trans hclients
      | woken _ hmain => simp [hstart] at hmain
      | created _ _ hmain => simp [hstart] at hmain
  · rw [hpublished]
    cases (mainStep_service hs).latest with
    | inl hkept =>
        obtain ⟨hsame, hlatest, hready⟩ := hkept
        exact (h.newest (hsame ▸ halive)).congr hlatest hready
    | inr hother =>
        cases hother with
        | inl hinit =>
            rw [hinit.2, (h.unstarted (Or.inr hinit.1)).2.2.1]
            exact newest_zero
        | inr hdead => simp [hdead] at halive
  · rw [hpublished]
    cases mainStep_clients hs with
    | same hsame _ => exact h.delivery client (hsame ▸ hclient)
    | woken _ _ _ hwoken =>
        rw [hwoken] at hclient
        obtain ⟨before, hbefore, rfl⟩ := List.mem_map.mp hclient
        exact (h.delivery before hbefore).wake
    | created peer path _ _ hcreated =>
        rw [hcreated] at hclient
        cases List.mem_append.mp hclient with
        | inl hold => exact h.delivery client hold
        | inr hnew =>
            rw [List.mem_singleton.mp hnew]
            exact delivery_start _ peer path

theorem published_capture {event : CaptureEvent} {step : CaptureStep} (h : Published g)
    (hs : captureStep config g.service g.capture event = some step) :
    Published (g.applyCapture step) := by
  have hclients : ∀ client ∈ (g.applyCapture step).clients, ∃ before ∈ g.clients,
      client = before ∨ client = before.wake := by
    intro client hclient
    simp only [Gateway.applyCapture] at hclient
    split at hclient
    · obtain ⟨before, hbefore, rfl⟩ := List.mem_map.mp hclient
      exact ⟨before, hbefore, Or.inr rfl⟩
    · exact ⟨client, hclient, Or.inl rfl⟩
  have hdelivery : ∀ client ∈ (g.applyCapture step).clients, Delivery g.published client := by
    intro client hclient
    obtain ⟨before, hbefore, rfl | rfl⟩ := hclients client hclient
    · exact h.delivery _ hbefore
    · exact (h.delivery _ hbefore).wake
  have hstarted : ¬ (g.main = .start ∨ g.main = .initService) := by
    intro hmain
    rw [(h.unstarted hmain).2.1] at hs
    simp [captureStep] at hs
  refine ⟨fun hmain => absurd hmain hstarted, fun halive => ?_, fun client hclient => ?_⟩
  · have hnewest := h.newest halive
    cases captureStep_shared hs with
    | quiet hnone _ hshared =>
        simpa [Gateway.applyCapture, hnone] using hnewest.congr hshared.latest hshared.hasFrame
    | publishes frame malloc _ _ hsome _ _ hok =>
        simpa [Gateway.applyCapture, hsome] using newest_publish hok
    | stops _ hnone _ _ hservice =>
        have hstopped : Newest (httpServiceStop g.service) g.published := hnewest.congr rfl rfl
        simpa [Gateway.applyCapture, hnone, hservice] using hstopped
  · have hd := hdelivery client hclient
    cases captureStep_shared hs with
    | quiet hnone _ _ => simpa [Gateway.applyCapture, hnone] using hd
    | publishes frame _ _ _ hsome => simpa [Gateway.applyCapture, hsome] using hd.publish frame
    | stops _ hnone => simpa [Gateway.applyCapture, hnone] using hd

theorem published_client {i : Nat} {event : ClientEvent} (h : Published g)
    (hs : g.stepClient config i event = some g') : Published g' := by
  have hframe := stepClient_frame hs
  obtain ⟨client, client', hclient, halive, hcases⟩ := stepClient_cases hs
  have hmem : client ∈ g.clients := List.mem_of_getElem? hclient
  have hd := h.delivery client hmem
  refine ⟨fun hmain => ?_, fun ha => ?_, fun other hother => ?_⟩
  · rw [hframe.main] at hmain
    rw [(h.unstarted hmain).2.2.2] at hmem
    simp at hmem
  · rw [hframe.published]
    exact (h.newest (hframe.alive ▸ ha)).congr hframe.latest hframe.hasFrame
  · rw [hframe.published]
    rcases hcases with ⟨-, rfl, rfl⟩ | ⟨hstep, rfl⟩
    · rcases List.mem_or_eq_of_mem_set hother with hold | rfl
      · exact h.delivery other hold
      · exact hd.same rfl rfl nofun nofun
    · rcases List.mem_or_eq_of_mem_set hother with hold | rfl
      · exact h.delivery other hold
      · exact hd.step (fun huses => h.newest (halive huses)) hstep

theorem published_step {action : Action} (h : Published g)
    (hs : g.step config action = some g') : Published g' := by
  cases action with
  | main ok => exact published_main h hs
  | capture event =>
      obtain ⟨step, hstep, rfl⟩ := Option.map_eq_some_iff.mp hs
      exact published_capture h hstep
  | client i event => exact published_client h hs
  | peer event =>
      obtain ⟨peers, backlog, rfl⟩ := stepPeer_frame hs
      exact ⟨h.unstarted, h.newest, h.delivery⟩

theorem published_init : Published Gateway.init :=
  ⟨fun _ => ⟨rfl, rfl, rfl, rfl⟩, nofun, by simp [Gateway.init]⟩

theorem reachable_published (h : TransitionSystem.Reachable (gateway config) g) :
    Published g :=
  TransitionSystem.Reachable.invariant (I := Published) published_init
    (fun _ _ hi hs => published_step hi hs) h

/-- What one step of any thread does to the latest frame and to the frames the
clients have been handed. -/
structure PublicationStep (g : Gateway) (action : Action) (g' : Gateway) : Prop where
  /-- The copy decides whether a frame is published. -/
  publish : ∀ frame malloc, g.capture = .publish frame → action = .capture (.copied malloc) →
    g'.published =
      if (frameCopyAlloc frame malloc).1 = 0 then g.published ++ [frame] else g.published
  /-- No other step publishes. -/
  unpublished : (∀ frame malloc, g.capture = .publish frame →
    action ≠ .capture (.copied malloc)) → g'.published = g.published
  /-- A step that publishes nothing, a failed publish for one, changes nothing. -/
  kept : g.alive = true → g'.alive = true → g'.published = g.published →
    g'.service.latest = g.service.latest ∧ g'.service.hasFrame = g.service.hasFrame
  ready : g.alive = true → g'.alive = true → g.service.hasFrame = true →
    g'.service.hasFrame = true
  /-- A client is handed the latest frame of this moment or nothing, and a stream
  client only while the service is not stopped. -/
  handed : ∀ (i : Nat) (client client' : HttpClient), g.clients[i]? = some client →
    g'.clients[i]? = some client' →
    client'.handed = client.handed ∨
      ∃ frame : Frame, client'.handed = client.handed ++ [(g.published.length - 1, frame)] ∧
        g.service.hasFrame = true ∧ frame.value = g.service.latest.value ∧
        (client.state = .route ∧ httpClientRoute client.path = .snapshot ∨
          (client.state = .wait ∨ client.state = .timedOut) ∧ g.service.stop = false)

private theorem handed_of_map {clients : List HttpClient} {f : HttpClient → HttpClient}
    (hf : ∀ client, (f client).handed = client.handed) {i : Nat} {client client' : HttpClient}
    (h : clients[i]? = some client) (h' : (clients.map f)[i]? = some client') :
    client'.handed = client.handed := by
  rw [List.getElem?_map, h] at h'
  cases h'
  exact hf client

theorem publicationStep_main {ok : Bool} (h : Published g)
    (hs : g.mainStep config ok = some g') : PublicationStep g (.main ok) g' := by
  obtain ⟨hpublished, -⟩ := mainStep_history hs
  have hkept : g.alive = true → g'.alive = true →
      g'.service.latest = g.service.latest ∧ g'.service.hasFrame = g.service.hasFrame := by
    intro halive halive'
    cases (mainStep_service hs).latest with
    | inl hkept => exact hkept.2
    | inr hother =>
        cases hother with
        | inl hinit => simp [(h.unstarted (Or.inr hinit.1)).1] at halive
        | inr hdead => simp [hdead] at halive'
  refine ⟨nofun, fun _ => hpublished, fun halive halive' _ => hkept halive halive',
    fun halive halive' hready => (hkept halive halive').2.trans hready, ?_⟩
  intro i client client' hclient hclient'
  refine Or.inl ?_
  cases mainStep_clients hs with
  | same hsame _ =>
      rw [hsame, hclient] at hclient'
      cases hclient'
      rfl
  | woken _ _ _ hwoken =>
      rw [hwoken] at hclient'
      exact handed_of_map wake_handed hclient hclient'
  | created _ _ _ _ hcreated =>
      have hlt : i < g.clients.length := (List.getElem?_eq_some_iff.mp hclient).1
      rw [hcreated, List.getElem?_append_left hlt, hclient] at hclient'
      cases hclient'
      rfl

theorem publicationStep_capture {event : CaptureEvent} {step : CaptureStep}
    (hs : captureStep config g.service g.capture event = some step) :
    PublicationStep g (.capture event) (g.applyCapture step) := by
  refine ⟨?_, ?_, ?_, ?_, ?_⟩
  · intro frame malloc hcapture haction
    cases haction
    rw [hcapture] at hs
    by_cases hcopy : (frameCopyAlloc frame malloc).1 = 0
    · simp only [captureStep, httpServiceUpdateLatest, hcopy, ne_eq, not_true_eq_false, if_false,
        Option.some.injEq] at hs
      cases hs
      simp [Gateway.applyCapture, hcopy]
    · simp only [captureStep, httpServiceUpdateLatest, hcopy, ne_eq, not_false_eq_true,
        if_true] at hs
      rw [if_pos (by decide)] at hs
      cases hs
      simp [Gateway.applyCapture, CaptureStep.fails, hcopy]
  · intro hother
    cases captureStep_shared hs with
    | quiet hnone | stops _ hnone => simp [Gateway.applyCapture, hnone]
    | publishes frame malloc hcapture hevent =>
        exact absurd (hevent ▸ rfl) (hother frame malloc hcapture)
  · intro _ _ hsame
    cases captureStep_shared hs with
    | quiet _ _ hshared => exact ⟨hshared.latest, hshared.hasFrame⟩
    | publishes frame _ _ _ hsome => simp [Gateway.applyCapture, hsome] at hsame
    | stops _ _ _ _ hservice =>
        simp only [Gateway.applyCapture, hservice]
        exact ⟨rfl, rfl⟩
  · intro _ _ hready
    cases captureStep_shared hs with
    | quiet _ _ hshared => exact hshared.hasFrame.trans hready
    | publishes _ _ _ _ _ _ _ hok =>
        obtain ⟨-, -, hservice, -⟩ := httpServiceUpdateLatest_ok hok
        simp [Gateway.applyCapture, hservice]
    | stops _ _ _ _ hservice =>
        simp only [Gateway.applyCapture, hservice]
        exact hready
  · intro i client client' hclient hclient'
    refine Or.inl ?_
    simp only [Gateway.applyCapture] at hclient'
    split at hclient'
    · exact handed_of_map wake_handed hclient hclient'
    · rw [hclient] at hclient'
      cases hclient'
      rfl

theorem publicationStep_client {i : Nat} {event : ClientEvent}
    (hs : g.stepClient config i event = some g') : PublicationStep g (.client i event) g' := by
  have hframe := stepClient_frame hs
  refine ⟨nofun, fun _ => hframe.published, fun _ _ _ => ⟨hframe.latest, hframe.hasFrame⟩,
    fun _ _ hready => hframe.hasFrame.trans hready, ?_⟩
  obtain ⟨client, next, hclient, -, hcases⟩ := stepClient_cases hs
  intro j other other' hother hother'
  by_cases hj : i = j
  · subst hj
    have hnext : other = client ∧ other' = next := by
      cases hclient.symm.trans hother
      have hlt := (List.getElem?_eq_some_iff.mp hclient).1
      rcases hcases with ⟨-, rfl, rfl⟩ | ⟨-, rfl⟩
      · rw [List.getElem?_set_self hlt] at hother'
        exact ⟨rfl, (Option.some.inj hother').symm⟩
      · rw [List.getElem?_set_self hlt] at hother'
        exact ⟨rfl, (Option.some.inj hother').symm⟩
    obtain ⟨rfl, rfl⟩ := hnext
    rcases hcases with ⟨-, rfl, -⟩ | ⟨hstep, -⟩
    · exact Or.inl rfl
    · cases (clientStep_handed hstep).1 with
      | same hhanded => exact Or.inl hhanded
      | snapshot frame hbefore hroute hhanded hready hvalue =>
          exact Or.inr ⟨frame, hhanded, hready, hvalue, Or.inl ⟨hbefore, hroute⟩⟩
      | streamed frame hbefore hhanded hstop hready _ hvalue =>
          exact Or.inr ⟨frame, hhanded, hready, hvalue, Or.inr ⟨hbefore, hstop⟩⟩
  · have hsame : g'.clients[j]? = g.clients[j]? := by
      rcases hcases with ⟨-, -, rfl⟩ | ⟨-, rfl⟩
      · exact List.getElem?_set_ne hj
      · exact List.getElem?_set_ne hj
    cases hother.symm.trans (hsame.symm.trans hother')
    exact Or.inl rfl

theorem publicationStep {action : Action} (h : Published g)
    (hs : g.step config action = some g') : PublicationStep g action g' := by
  cases action with
  | main ok => exact publicationStep_main h hs
  | capture event =>
      obtain ⟨step, hstep, rfl⟩ := Option.map_eq_some_iff.mp hs
      exact publicationStep_capture hstep
  | client i event => exact publicationStep_client hs
  | peer event =>
      obtain ⟨peers, backlog, rfl⟩ := stepPeer_frame hs
      refine ⟨nofun, fun _ => rfl, fun _ _ _ => ⟨rfl, rfl⟩, fun _ _ hready => hready, ?_⟩
      intro i client client' hclient hclient'
      cases hclient.symm.trans hclient'
      exact Or.inl rfl

section Captured

/-- A filled buffer as the driver hands it out. -/
structure DriverBuffer where
  buffer : Buffer
  bytesused : UInt32
  sequence : UInt32
  timestampUs : UInt64

namespace DriverBuffer

def frame (config : CameraConfig) (filled : DriverBuffer) : Frame :=
  driverFrame config filled.buffer filled.bytesused filled.sequence filled.timestampUs

def bytes (filled : DriverBuffer) : List UInt8 :=
  filled.buffer.bytes.take filled.bytesused.toNat

/-- The picture in the negotiated format, with the numbers that the driver has given it. -/
def value (config : CameraConfig) (filled : DriverBuffer) : FrameValue :=
  { bytes := filled.bytes, size := filled.bytesused.toNat, width := config.width
    height := config.height, pixelFormat := config.pixelFormat, sequence := filled.sequence
    timestampUs := filled.timestampUs }

end DriverBuffer

/-- The filled buffers of a run: those whose copy has succeeded, and the one to be copied
next. -/
structure CaptureLog where
  copied : List DriverBuffer
  pending : Option DriverBuffer

def CaptureLog.empty : CaptureLog := { copied := [], pending := none }

def watchFilled (log : CaptureLog) : CaptureState → CaptureEvent → CaptureLog
  | .dequeue, .dequeued buffer bytesused sequence timestampUs =>
      if bytesused = 0 then log
      else { log with pending := some ⟨buffer, bytesused, sequence, timestampUs⟩ }
  | .publish _, .copied malloc =>
      { copied := if malloc.isSome then log.copied ++ log.pending.toList else log.copied
        pending := none }
  | _, _ => log

def watchCaptured (g : Gateway) (action : Action) (log : CaptureLog) : CaptureLog :=
  match action with
  | .capture event => watchFilled log g.capture event
  | _ => log

def capturingGateway (config : CameraConfig) :
    TransitionSystem.System (Gateway × CaptureLog) Action :=
  (gateway config).observe CaptureLog.empty watchCaptured

/-- The published frames are the filled buffers that could be copied, in their order. -/
structure Captured (config : CameraConfig) (g : Gateway) (log : CaptureLog) : Prop where
  published : g.published.map Frame.value = log.copied.map (DriverBuffer.value config)
  pending : ∀ frame, g.capture = .publish frame → ∃ filled, log.pending = some filled ∧
    frame = filled.frame config ∧ filled.bytesused ≠ 0

variable {log : CaptureLog} {state : CaptureState} {event : CaptureEvent} {step : CaptureStep}

theorem filled_copied_iff {filled : DriverBuffer} (h : filled.bytesused ≠ 0)
    (malloc : Option Nat) :
    (frameCopyAlloc (filled.frame config) malloc).1 = 0 ↔ malloc.isSome := by
  have hsize : filled.bytesused.toNat ≠ 0 := fun hzero => h (UInt32.toNat_inj.mp hzero)
  rw [frameCopyAlloc_ok_iff]
  simp [DriverBuffer.frame, driverFrame, hsize]

theorem drawStep_next (config : CameraConfig) (service : HttpService) (frame : Frame)
    (picture : Option Picture) (malloc : Bool) (frame' : Frame) :
    (drawStep config service frame picture malloc).next ≠ .publish frame' := by
  fun_cases drawStep config service frame picture malloc <;> simp [CaptureStep.quiet]

theorem captureStep_publish {service : HttpService} {frame : Frame}
    (hs : captureStep config service state event = some step)
    (hnext : step.next = .publish frame) :
    ∃ filled : DriverBuffer, state = .dequeue ∧ filled.bytesused ≠ 0 ∧
      event = .dequeued filled.buffer filled.bytesused filled.sequence filled.timestampUs ∧
      frame = filled.frame config := by
  revert hs hnext
  fun_cases captureStep config service state event
  case case1 =>
      intro hs hnext
      cases hs
      split at hnext <;> cases hnext
  case case7 buffer bytesused sequence timestampUs hbytes frame' =>
      intro hs hnext
      cases hs
      exact ⟨⟨buffer, bytesused, sequence, timestampUs⟩, rfl, hbytes, rfl,
        (CaptureState.publish.inj hnext).symm⟩
  case case10 frame' picture malloc =>
      intro hs hnext
      cases hs
      exact absurd hnext (drawStep_next config service frame' picture malloc frame)
  case case18 ok =>
      intro hs hnext
      cases hs
      cases ok <;> cases hnext
  case case20 =>
      intro hs
      cases hs
  all_goals
    intro hs hnext
    cases hs
    cases hnext

theorem watchFilled_copied (log : CaptureLog)
    (h : ∀ frame malloc, state = .publish frame → event ≠ .copied malloc) :
    (watchFilled log state event).copied = log.copied := by
  revert h
  fun_cases watchFilled log state event
  case case3 frame malloc =>
      intro h
      exact absurd rfl (h frame malloc rfl)
  all_goals
    intro _
    rfl

theorem captured_capture (h : Captured config g log)
    (hs : captureStep config g.service g.capture event = some step) :
    Captured config (g.applyCapture step) (watchFilled log g.capture event) := by
  have hstep := publicationStep_capture hs
  constructor
  · by_cases hcopy : ∃ frame malloc, g.capture = .publish frame ∧ event = .copied malloc
    · obtain ⟨frame, malloc, hcapture, rfl⟩ := hcopy
      obtain ⟨filled, hpending, rfl, hfull⟩ := h.pending frame hcapture
      rw [hstep.publish _ malloc hcapture rfl, hcapture]
      simp only [watchFilled, filled_copied_iff hfull, hpending, Option.toList_some]
      split
      · rw [List.map_append, List.map_append, h.published]
        rfl
      · exact h.published
    · have hother : ∀ frame malloc, g.capture = .publish frame → event ≠ .copied malloc :=
        fun frame malloc hcapture hevent => hcopy ⟨frame, malloc, hcapture, hevent⟩
      rw [watchFilled_copied log hother, hstep.unpublished, h.published]
      intro frame malloc hcapture hevent
      cases hevent
      exact hother frame malloc hcapture rfl
  · intro frame hnext
    obtain ⟨filled, hcapture, hfull, rfl, rfl⟩ := captureStep_publish hs hnext
    refine ⟨filled, ?_, rfl, hfull⟩
    rw [hcapture]
    simp only [watchFilled, if_neg hfull]

theorem captured_step {action : Action} (h : Captured config g log)
    (hs : g.step config action = some g') : Captured config g' (watchCaptured g action log) := by
  cases action with
  | main ok =>
      obtain ⟨hpublished, -⟩ := mainStep_history hs
      refine ⟨by rw [hpublished]; exact h.published, fun frame hcapture => h.pending frame ?_⟩
      cases mainStep_capture hs with
      | inl hsame => rw [← hsame, hcapture]
      | inr hcreate => simp [hcreate.2] at hcapture
  | capture event =>
      obtain ⟨step, hstep, rfl⟩ := Option.map_eq_some_iff.mp hs
      exact captured_capture h hstep
  | client i event =>
      have hframe := stepClient_frame hs
      refine ⟨by rw [hframe.published]; exact h.published, fun frame hcapture => ?_⟩
      rw [hframe.capture] at hcapture
      exact h.pending frame hcapture
  | peer event =>
      obtain ⟨peers, backlog, rfl⟩ := stepPeer_frame hs
      exact ⟨h.published, h.pending⟩

theorem reachable_captured (h : TransitionSystem.Reachable (capturingGateway config) (g, log)) :
    Captured config g log :=
  TransitionSystem.Reachable.observed_invariant (I := Captured config)
    ⟨rfl, fun _ hcapture => by cases hcapture⟩ (fun _ _ hg hs => captured_step hg hs) h

/-- The latest frame is that of the last filled buffer whose copy has succeeded. -/
structure LatestCaptured (config : CameraConfig) (g : Gateway) (log : CaptureLog) : Prop where
  published : g.published.map Frame.value = log.copied.map (DriverBuffer.value config)
  ready : g.alive = true → (g.service.hasFrame = true ↔ log.copied ≠ [])
  exact : g.alive = true → ∀ filled, log.copied.getLast? = some filled →
    g.service.latest.value = filled.value config

theorem latestCaptured (h : TransitionSystem.Reachable (capturingGateway config) (g, log)) :
    LatestCaptured config g log := by
  have hcaptured := (reachable_captured h).published
  have hpublished := reachable_published h.unobserved
  refine ⟨hcaptured, fun halive => ?_, fun halive filled hlast => ?_⟩
  · rw [(hpublished.newest halive).ready, not_iff_not, ← List.map_eq_nil_iff, hcaptured,
      List.map_eq_nil_iff]
  · have hvalue : (g.published.map Frame.value).getLast? = some (filled.value config) := by
      rw [hcaptured, List.getLast?_map, hlast]
      rfl
    rw [List.getLast?_map, Option.map_eq_some_iff] at hvalue
    obtain ⟨frame, hframe, heq⟩ := hvalue
    exact ((hpublished.newest halive).exact frame hframe).trans heq

end Captured

/-- The latest frame is always the newest published one, which is the last frame of the driver
that could be copied, frames are handed out exactly as they were published, and no client is
handed a frame twice or after a newer one. -/
theorem latest_publication_is_atomic (h : TransitionSystem.Reachable (gateway config) g) :
    ((∃ log, TransitionSystem.Reachable (capturingGateway config) (g, log)) ∧
      ∀ log, TransitionSystem.Reachable (capturingGateway config) (g, log) →
        LatestCaptured config g log) ∧
      (g.alive = true → Newest g.service g.published) ∧
      (∀ client ∈ g.clients,
        (∀ entry ∈ client.handed, ∃ frame,
          g.published[entry.1]? = some frame ∧ entry.2.value = frame.value) ∧
        client.handed.Pairwise fun first second => first.1 < second.1) ∧
      ∀ action g', g.step config action = some g' → PublicationStep g action g' := by
  have hpublished := reachable_published h
  refine ⟨⟨h.observed, fun _ => latestCaptured⟩, hpublished.newest, fun client hclient => ?_,
    fun action g' hs => publicationStep hpublished hs⟩
  have hdelivery := hpublished.delivery client hclient
  exact ⟨hdelivery.exact, hdelivery.increasing⟩

section Runs

def streamConfig : CameraConfig :=
  { device := ascii "/dev/video1", width := 640, height := 480, fps := 30, frameCount := 0
    fbPreview := false, motionDetect := false, motionThreshold := 20, motionSave := false
    motionDir := ascii "/tmp/motion", pixelFormat := v4l2PixFmtMjpeg }

/-- Main up to its accept loop. -/
def startup : List Action := [.main true, .main true, .main true, .main true]

def serve (i : Nat) (path : List UInt8) : List Action :=
  [.peer .connect, .peer (.send i (ascii "GET " ++ path ++ ascii " HTTP/1.0\r\n\r\n")),
    .main true, .main true, .main true, .main true]

def startStream (i : Nat) : List Action :=
  [.client i (.copied none), .client i (.sent [.accepted 1000]), .client i (.copied none)]

def publishFrame (sequence : UInt32) : List Action :=
  [.capture .go, .capture .selectReady,
    .capture (.dequeued ⟨1, [0xff, 0xd8]⟩ 2 sequence 0), .capture (.copied (some 2))]

end Runs

/-- A stream client that waits is handed the first frame, which is that of the driver. -/
theorem latest_publication_is_atomic_firstFrame :
    ∃ g log, TransitionSystem.Reachable (capturingGateway streamConfig) (g, log) ∧
      (g.alive = true ∧ g.service.hasFrame = true ∧
        (g.clients.map fun client => client.handed.length) = [1] ∧
        g.service.latest.value =
          { bytes := [0xff, 0xd8], size := 2, width := 640, height := 480
            pixelFormat := v4l2PixFmtMjpeg, sequence := 7, timestampUs := 0 }) ∧
      LatestCaptured streamConfig g log ∧
      (g.alive = true → Newest g.service g.published) ∧
      (∀ client ∈ g.clients,
        (∀ entry ∈ client.handed, ∃ frame,
          g.published[entry.1]? = some frame ∧ entry.2.value = frame.value) ∧
        client.handed.Pairwise fun first second => first.1 < second.1) ∧
      ∀ action g', g.step streamConfig action = some g' → PublicationStep g action g' := by
  have hrun : (TransitionSystem.exec (capturingGateway streamConfig)
      (capturingGateway streamConfig).init
      (startup ++ serve 0 (ascii "/stream") ++ startStream 0 ++ publishFrame 7 ++
        [.client 0 (.copied (some 3))])).any
      (fun s => decide (s.1.alive = true ∧ s.1.service.hasFrame = true ∧
        (s.1.clients.map fun client => client.handed.length) = [1] ∧
        s.1.service.latest.value =
          { bytes := [0xff, 0xd8], size := 2, width := 640, height := 480
            pixelFormat := v4l2PixFmtMjpeg, sequence := 7, timestampUs := 0 })) = true := by
    decide +kernel
  obtain ⟨⟨g, log⟩, hexec, hg⟩ := TransitionSystem.exists_exec_of_any hrun
  have hreach := (TransitionSystem.Reachable.init (capturingGateway streamConfig)).exec hexec
  obtain ⟨⟨-, hcaptured⟩, hrest⟩ := latest_publication_is_atomic hreach.unobserved
  exact ⟨g, log, hreach, of_decide_eq_true hg, hcaptured log hreach, hrest⟩

end CameraGateway
