import CameraGateway.Metatheory.Publication

/-!
How main leaves its accept loop. `http_mjpeg_accept_request` has one result for a
failing listener and for a connection that closed before its first byte, and the
loop takes both as its end.
-/
namespace CameraGateway
variable {config : CameraConfig} {g g' : Gateway}

def MainState.left : MainState → Bool
  | .out _ | .joinCapture _ | .destroy _ | .returned _ => true
  | _ => false

/-- The reasons for which main goes to `out`, as conditions before the step. -/
inductive Leaves (config : CameraConfig) (g : Gateway) (ok : Bool) : Prop where
  | format (main : g.main = .start) (h : config.pixelFormat ≠ v4l2PixFmtMjpeg)
  | setup (main : g.main = .start ∨ g.main = .initService ∨ g.main = .createCapture ∨
      g.main = .listen) (failed : ok = false)
  | listener (main : g.main = .accept) (failed : ok = false)
  | noRequest (peer : Nat) (connection : Peer) (main : g.main = .recv peer)
      (h : g.peers[peer]? = some connection) (empty : connection.reset = true ∨
        connection.pending = [])
  | allocation (peer : Nat) (path : List UInt8) (main : g.main = .countIn peer path)
      (failed : ok = false)
  | thread (peer : Nat) (path : List UInt8) (main : g.main = .createClient peer path)
      (failed : ok = false)
  | served (i : Nat) (main : g.main = .join i)
      (done : (g.clients[i]?.map HttpClient.state) = some .done)

/-- A request is accepted when its connection has a first chunk to read. -/
theorem acceptRequest_none_iff {connection : Peer} {received : RecvResult}
    (h : connection.recv = some received) :
    httpMjpegAcceptRequest true received 256 = none ↔
      connection.reset = true ∨ connection.pending = [] := by
  cases hreset : connection.reset with
  | true =>
      simp only [Peer.recv, hreset, if_true, Option.some.injEq] at h
      subst h
      simp [httpMjpegAcceptRequest]
  | false =>
      by_cases hpending : connection.pending = []
      · cases hclosed : connection.closed with
        | true =>
            simp only [Peer.recv, hreset, hpending, hclosed, Bool.false_eq_true, if_false, ne_eq,
              not_true_eq_false, if_true, Option.some.injEq] at h
            subst h
            simp [httpMjpegAcceptRequest, hpending]
        | false => simp [Peer.recv, hreset, hpending, hclosed] at h
      · simp only [Peer.recv, hreset, Bool.false_eq_true, if_false, ne_eq, hpending,
          not_false_eq_true, if_true, Option.some.injEq] at h
        subst h
        have htake : connection.pending.take 1023 ≠ [] := by
          simpa [List.take_eq_nil_iff] using hpending
        simp [httpMjpegAcceptRequest, hpending, htake]

theorem mainStep_leaves {ok : Bool} (h : g.mainStep config ok = some g')
    (hleft : g'.main.left = true) : g.main.left = true ∨ Leaves config g ok := by
  revert h hleft
  fun_cases Gateway.mainStep config g ok
  case case1 hmain hformat => exact fun _ _ => Or.inr (.format hmain hformat)
  case case2 hmain _ =>
      intro h hleft
      cases h
      cases ok with
      | true => simp [MainState.left] at hleft
      | false => exact Or.inr (.setup (Or.inl hmain) rfl)
  case case4 hmain hok =>
      exact fun _ _ => Or.inr (.setup (Or.inr (Or.inl hmain)) (by simpa using hok))
  case case6 hmain hok =>
      exact fun _ _ => Or.inr (.setup (Or.inr (Or.inr (Or.inl hmain))) (by simpa using hok))
  case case7 hmain =>
      intro h hleft
      cases h
      cases ok with
      | true => simp [MainState.left] at hleft
      | false => exact Or.inr (.setup (Or.inr (Or.inr (Or.inr hmain))) rfl)
  case case10 hmain hok => exact fun _ _ => Or.inr (.listener hmain (by simpa using hok))
  case case13 peer hmain connection hconnection received hreceived hnone =>
      intro _ _
      exact Or.inr (.noRequest peer connection hmain hconnection
        ((acceptRequest_none_iff hreceived).mp hnone))
  case case17 peer path hmain hok =>
      exact fun _ _ => Or.inr (.allocation peer path hmain (by simpa using hok))
  case case18 =>
      intro h hleft
      cases h
      dsimp only at hleft
      split at hleft <;> simp [MainState.left] at hleft
  case case19 peer path hmain hok =>
      exact fun _ _ => Or.inr (.thread peer path hmain (by simpa using hok))
  case case20 i hmain hdone => exact fun _ _ => Or.inr (.served i hmain hdone)
  all_goals
    intro h hleft
    cases h <;> first
      | exact absurd hleft Bool.false_ne_true
      | exact Or.inl (by simp [MainState.left, *])

/-- Every external call of main itself succeeds: display, directory, mutex,
threads, listener and allocation. -/
def MainSucceeds (action : Action) : Prop := ∀ ok, action = .main ok → ok = true

/-- When main reads from an accepted connection, the peer has sent something and
has not reset the connection. -/
def RecvDelivers (g : Gateway) (action : Action) : Prop :=
  ∀ ok peer connection, action = .main ok → g.main = .recv peer →
    g.peers[peer]? = some connection → connection.reset = false ∧ connection.pending ≠ []

theorem mainStep_continuous {ok : Bool} {i : Nat} (hcontinuous : config.frameCount = 0)
    (h : g.mainStep config ok = some g') : g'.main ≠ .join i := by
  revert h
  fun_cases Gateway.mainStep config g ok
  case case2 | case7 =>
      intro h
      cases h
      cases ok <;> simp
  case case18 =>
      intro h
      cases h
      simp [hcontinuous]
  all_goals
    intro h
    cases h <;> simp

/-- With its own calls succeeding, main leaves the loop of continuous mode for an
empty-handed `recv` and for nothing else. -/
theorem left_iff_recv (hformat : config.pixelFormat = v4l2PixFmtMjpeg) (hmain : g.main.left = false)
    (hjoin : ∀ i, g.main ≠ .join i) (h : g.mainStep config true = some g') :
    g'.main.left = true ↔ ¬ RecvDelivers g (.main true) := by
  constructor
  · intro hleft hdelivers
    cases mainStep_leaves h hleft with
    | inl hgone => simp [hmain] at hgone
    | inr hleaves =>
        cases hleaves with
        | format _ hne => exact hne hformat
        | setup _ failed | listener _ failed | allocation _ _ _ failed | thread _ _ _ failed =>
            simp at failed
        | noRequest peer connection hrecv hconnection hempty =>
            obtain ⟨hreset, hpending⟩ := hdelivers true peer connection rfl hrecv hconnection
            simp [hreset, hpending] at hempty
        | served i hi _ => exact hjoin i hi
  · intro hfails
    simp only [RecvDelivers, Classical.not_forall] at hfails
    obtain ⟨ok, peer, connection, -, hrecv, hconnection, hempty⟩ := hfails
    have hor : connection.reset = true ∨ connection.pending = [] := by
      cases hreset : connection.reset with
      | true => exact Or.inl rfl
      | false => exact Or.inr (by simpa [hreset] using hempty)
    simp only [Gateway.mainStep, hrecv, hconnection] at h
    cases hreceived : connection.recv with
    | none => simp [hreceived] at h
    | some received =>
        simp only [hreceived, (acceptRequest_none_iff hreceived).mpr hor,
          Option.some.injEq] at h
        cases h
        rfl

theorem reachable_continuous (hcontinuous : config.frameCount = 0)
    (h : TransitionSystem.Reachable (gateway config) g) : ∀ i, g.main ≠ .join i := by
  refine TransitionSystem.Reachable.invariant (I := fun g => ∀ i, g.main ≠ .join i)
    (by simp [gateway, Gateway.init]) ?_ h
  intro g g' action _ hg hs
  cases action with
  | main ok => exact fun i => mainStep_continuous hcontinuous hs
  | capture event =>
      obtain ⟨step, -, rfl⟩ := Option.map_eq_some_iff.mp hs
      exact hg
  | client i event =>
      rw [(stepClient_frame hs).main]
      exact hg
  | peer event =>
      obtain ⟨peers, backlog, rfl⟩ := stepPeer_frame hs
      exact hg

/-- Until main creates the capture thread there is none, and no client either. -/
def Setup (g : Gateway) : Prop :=
  g.main = .start ∨ g.main = .initService ∨ g.main = .createCapture →
    g.capture = .absent ∧ g.clients = []

theorem reachable_setup (h : TransitionSystem.Reachable (gateway config) g) : Setup g := by
  refine TransitionSystem.Reachable.invariant (I := Setup) (fun _ => ⟨rfl, rfl⟩) ?_ h
  intro g g' action _ hg hs hmain
  cases action with
  | main ok =>
      obtain ⟨hbefore, hcapture, hclients⟩ := mainStep_setup hs hmain
      rw [hcapture, hclients]
      apply hg
      cases hbefore with
      | inl h => exact Or.inl h
      | inr h => exact Or.inr (Or.inl h)
  | capture event =>
      obtain ⟨step, hstep, rfl⟩ := Option.map_eq_some_iff.mp hs
      rw [(hg hmain).1] at hstep
      simp [captureStep] at hstep
  | client i event =>
      have hframe := stepClient_frame hs
      rw [hframe.main] at hmain
      obtain ⟨hcapture, hnone⟩ := hg hmain
      refine ⟨hframe.capture.trans hcapture, List.length_eq_zero_iff.mp ?_⟩
      rw [hframe.length, hnone, List.length_nil]
  | peer event =>
      obtain ⟨peers, backlog, rfl⟩ := stepPeer_frame hs
      exact hg hmain

/-- Main is still in the service of connections, and only the capture thread
itself has raised the stop flag. -/
structure InService (g : Gateway) : Prop where
  main : g.main.left = false
  stop : g.service.stop = true → g.capture = .ended

theorem inService_step {action : Action} (hformat : config.pixelFormat = v4l2PixFmtMjpeg)
    (hjoin : ∀ i, g.main ≠ .join i) (hsetup : Setup g) (hg : InService g)
    (hok : MainSucceeds action) (hdelivers : RecvDelivers g action)
    (hs : g.step config action = some g') : InService g' := by
  cases action with
  | main ok =>
      obtain rfl := hok ok rfl
      have hleft : g'.main.left = false := by
        cases hleft : g'.main.left with
        | false => rfl
        | true => exact absurd hdelivers ((left_iff_recv hformat hg.main hjoin hs).mp hleft)
      refine ⟨hleft, fun hstop => ?_⟩
      have hended : g.service.stop = true → g'.capture = .ended := by
        intro hstop
        cases mainStep_capture hs with
        | inl hsame => exact hsame.trans (hg.stop hstop)
        | inr hcreate =>
            have habsent := (hsetup (Or.inr (Or.inr hcreate.1))).1
            rw [hg.stop hstop] at habsent
            cases habsent
      apply hended
      cases mainStep_service hs with
      | same _ hservice => rwa [hservice] at hstop
      | countedIn _ _ _ _ _ hservice => rwa [hservice] at hstop
      | countedOut _ hservice => rwa [hservice, (countOut_kept g.service).2.2] at hstop
      | stopped result hout =>
          have hgone := hg.main
          rw [hout] at hgone
          cases hgone
      | started _ _ hservice | destroyed _ _ _ hservice =>
          rw [hservice] at hstop
          cases hstop
  | capture event =>
      obtain ⟨step, hstep, rfl⟩ := Option.map_eq_some_iff.mp hs
      refine ⟨hg.main, fun hstop => ?_⟩
      have hrunning : g.service.stop = false := by
        cases hbefore : g.service.stop with
        | false => rfl
        | true =>
            rw [hg.stop hbefore] at hstep
            simp [captureStep] at hstep
      cases captureStep_shared hstep with
      | quiet _ _ hshared =>
          rw [Gateway.applyCapture] at hstop
          simp [hshared.stop, hrunning] at hstop
      | publishes _ _ _ _ _ _ _ hok =>
          simp only [httpServiceUpdateLatest] at hok
          split at hok
          · cases hok
          · simp only [Prod.mk.injEq, true_and] at hok
            simp [Gateway.applyCapture, ← hok, hrunning] at hstop
      | stops _ _ hnext => exact hnext
  | client i event =>
      have hframe := stepClient_frame hs
      refine ⟨by rw [hframe.main]; exact hg.main, ?_⟩
      rw [hframe.stop, hframe.capture]
      exact hg.stop
  | peer event =>
      obtain ⟨peers, backlog, rfl⟩ := stepPeer_frame hs
      exact ⟨hg.main, hg.stop⟩

theorem reachable_inService (hcontinuous : config.frameCount = 0)
    (hformat : config.pixelFormat = v4l2PixFmtMjpeg)
    (h : TransitionSystem.ReachableUnder (gateway config)
      (fun g action => MainSucceeds action ∧ RecvDelivers g action) g) : InService g := by
  refine TransitionSystem.ReachableUnder.invariant (I := InService)
    ⟨rfl, by simp [gateway, Gateway.init, HttpService.zero]⟩ ?_ h
  intro g g' action hreach hg hguard hs
  exact inService_step hformat (reachable_continuous hcontinuous hreach) (reachable_setup hreach)
    hg hguard.1 hguard.2 hs

/-- A connection that waits is accepted, and one that has sent a byte is served. -/
structure Accepts (config : CameraConfig) (g : Gateway) : Prop where
  accepts : ∀ peer backlog, g.main = .accept → g.backlog = peer :: backlog →
    ∃ g', g.step config (.main true) = some g' ∧ g'.main = .recv peer
  serves : ∀ peer connection, g.main = .recv peer → g.peers[peer]? = some connection →
    connection.reset = false → connection.pending ≠ [] → g.requestCount < Gateway.requestLimit →
    ∃ g', TransitionSystem.exec (gateway config) g [.main true, .main true, .main true] = some g' ∧
      g'.main = .accept ∧ ∃ path, g'.clients = g.clients ++ [HttpClient.start peer path]

theorem accepts_connections (hcontinuous : config.frameCount = 0) (g : Gateway) :
    Accepts config g := by
  constructor
  · intro peer backlog hmain hbacklog
    simp [Gateway.step, Gateway.mainStep, hmain, hbacklog]
  · intro peer connection hmain hconnection hreset hpending hlimit
    have hreceived : connection.recv = some (.received connection.pending) := by
      simp [Peer.recv, hreset, hpending]
    have haccepted : httpMjpegAcceptRequest true (.received connection.pending) 256 ≠ none := by
      rw [ne_eq, acceptRequest_none_iff hreceived]
      simp [hreset, hpending]
    obtain ⟨path, hpath⟩ := Option.ne_none_iff_exists'.mp haccepted
    simp [TransitionSystem.exec, gateway, Gateway.step, Gateway.mainStep, hmain, hconnection,
      hreceived, hpath, hlimit, hcontinuous]

/-- In continuous mode, with its own calls succeeding, main stays in its accept
loop as long as no connection ends before its first byte, and leaves it at the
first one that does. -/
theorem accept_loop_survives (hcontinuous : config.frameCount = 0)
    (hformat : config.pixelFormat = v4l2PixFmtMjpeg) :
    (∀ g, TransitionSystem.ReachableUnder (gateway config)
        (fun g action => MainSucceeds action ∧ RecvDelivers g action) g →
      g.main.left = false ∧ (g.service.stop = true → g.capture = .ended) ∧ Accepts config g) ∧
    ∀ g g', TransitionSystem.ReachableUnder (gateway config)
        (fun _ action => MainSucceeds action) g →
      g.main.left = false → g.step config (.main true) = some g' →
      (g'.main.left = true ↔ ¬ RecvDelivers g (.main true)) := by
  constructor
  · intro g h
    have hg := reachable_inService hcontinuous hformat h
    exact ⟨hg.main, hg.stop, accepts_connections hcontinuous g⟩
  · intro g g' h hmain hs
    exact left_iff_recv hformat hmain (reachable_continuous hcontinuous h.reachable) hs

section Runs

/-- The assumptions on main's calls and on the connections it reads from, as a
check of one step. -/
def served (g : Gateway) : Action → Bool
  | .main ok => ok &&
      match g.main with
      | .recv peer => g.peers[peer]?.all fun connection =>
          !connection.reset && !connection.pending.isEmpty
      | _ => true
  | _ => true

theorem served_sound (g : Gateway) (action : Action) (h : served g action = true) :
    MainSucceeds action ∧ RecvDelivers g action := by
  cases action with
  | main ok =>
      simp only [served, Bool.and_eq_true] at h
      constructor
      · intro ok' hok
        cases hok
        exact h.1
      · intro ok' peer connection _ hmain hconnection
        simpa [hmain, hconnection] using h.2
  | capture _ | client _ _ | peer _ => exact ⟨nofun, nofun⟩

end Runs

/-- One request has been served and main is back in its accept call. -/
theorem accept_loop_survives_oneRequest :
    ∃ g, TransitionSystem.ReachableUnder (gateway streamConfig)
        (fun g action => MainSucceeds action ∧ RecvDelivers g action) g ∧
      (g.main = .accept ∧ g.clients.length = 1) ∧
      (g.main.left = false ∧ (g.service.stop = true → g.capture = .ended) ∧
        Accepts streamConfig g) ∧
      ∀ g', g.step streamConfig (.main true) = some g' →
        (g'.main.left = true ↔ ¬ RecvDelivers g (.main true)) := by
  have hrun : (TransitionSystem.exec ((gateway streamConfig).restrict served) Gateway.init
      (startup ++ serve 0 (ascii "/stream"))).any
      (fun g => decide (g.main = .accept ∧ g.clients.length = 1)) = true := by
    decide +kernel
  obtain ⟨g, hexec, hg⟩ := TransitionSystem.exists_exec_of_any hrun
  have hserved := TransitionSystem.RunUnder.restrict served_sound .refl hexec
  have hsucceeds := TransitionSystem.RunUnder.restrict
    (fun g action h => (served_sound g action h).1) .refl hexec
  obtain ⟨hsafe, hexact⟩ := @accept_loop_survives streamConfig rfl rfl
  obtain ⟨hmain, hclients⟩ := of_decide_eq_true hg
  exact ⟨g, hserved, ⟨hmain, hclients⟩, hsafe g hserved,
    fun g' hs => hexact g g' hsucceeds (by rw [hmain]; rfl) hs⟩

/-- A peer that connects and closes without sending a byte ends the service. -/
theorem accept_loop_ends_with_silent_peer :
    ¬ ∀ (config : CameraConfig) (g : Gateway), config.frameCount = 0 →
      config.pixelFormat = v4l2PixFmtMjpeg →
      TransitionSystem.ReachableUnder (gateway config) (fun _ action => MainSucceeds action) g →
      g.main.left = false := by
  intro claim
  have hrun : (TransitionSystem.exec (gateway streamConfig) Gateway.init
      (startup ++ [.peer .connect, .peer (.close 0), .main true, .main true])).any
      (fun g => decide (g.main.left = true)) = true := by
    decide +kernel
  obtain ⟨g, hexec, hg⟩ := TransitionSystem.exists_exec_of_any hrun
  have hreach : TransitionSystem.ReachableUnder (gateway streamConfig)
      (fun _ action => MainSucceeds action) g := by
    refine TransitionSystem.RunUnder.exec .refl ?_ hexec
    intro action haction _ ok hok
    subst hok
    simpa [startup] using haction
  have hleft := claim streamConfig g rfl rfl hreach
  rw [of_decide_eq_true hg] at hleft
  cases hleft

end CameraGateway
