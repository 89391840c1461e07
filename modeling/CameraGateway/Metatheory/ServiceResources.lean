import CameraGateway.Metatheory.ResourceSteps
import CameraGateway.Metatheory.Teardown
import CameraGateway.Metatheory.MetricsCoherence

/-!
The heap blocks and client descriptors of the HTTP service over whole runs. Between two
steps each live block has one owner. No thread uses or frees a block that is not live, and
when all threads have ended nothing is left.
-/
namespace CameraGateway
variable {config : CameraConfig} {g g' : Gateway}

section Runs
variable {log : ResourceLog} {action : Action}

/-- `malloc` gives a frame copy an address that no live copy has. -/
def MallocFresh (s : Gateway × ResourceLog) : Action → Prop
  | .capture (.copied (some address)) | .client _ (.copied (some address)) =>
      ¬ Heap.Live s.2.ops (.frameCopy address)
  | _ => True

instance (s : Gateway × ResourceLog) (action : Action) : Decidable (MallocFresh s action) :=
  match action with
  | .capture (.copied (some _)) | .client _ (.copied (some _)) => inferInstanceAs (Decidable (¬ _))
  | .capture (.copied none) | .client _ (.copied none) => .isTrue trivial
  | .capture .go | .capture .selectFailed | .capture .selectTimeout | .capture .selectReady
  | .capture .dequeueFailed | .capture (.dequeued _ _ _ _) | .capture (.decoded _ _)
  | .capture (.drawn _) | .capture (.written _) | .capture (.requeued _) => .isTrue trivial
  | .client _ .go | .client _ (.sent _) | .client _ .wakeUp | .client _ .timeout =>
      .isTrue trivial
  | .main _ | .peer _ => .isTrue trivial

structure ResourcesOwned (g : Gateway) (log : ResourceLog) : Prop where
  owns : Heap.Owns log.ops (g.holds log.held)
  picture : g.capture.PictureHeld log.held
  idle : g.alive = false → g.service.holds = []
  returned : ∀ result, g.main = .returned result → g.alive = false

theorem mainStep_idle {ok : Bool} (hs : g.mainStep config ok = some g')
    (hunstarted : g.main = .start → g.alive = false) :
    (g'.alive = false → g.alive = false ∧ g'.service.holds = g.service.holds ∨
        g'.service = HttpService.zero) ∧
      ∀ result, g'.main = .returned result → g'.alive = false := by
  revert hs
  fun_cases Gateway.mainStep config g ok
  case case1 hmain _ =>
      intro hs
      cases hs
      exact ⟨fun halive => Or.inl ⟨halive, rfl⟩, fun _ _ => hunstarted hmain⟩
  case case2 | case7 | case18 =>
      intro hs
      cases hs
      refine ⟨fun halive => Or.inl ⟨halive, rfl⟩, fun result hreturned => ?_⟩
      dsimp only at hreturned
      split at hreturned <;> cases hreturned
  case case3 =>
      intro hs
      cases hs
      exact ⟨fun hdead => (by cases hdead), fun _ hreturned => by cases hreturned⟩
  case case19 =>
      intro hs
      cases hs
      refine ⟨fun halive => Or.inl ⟨halive, countOut_holds g.service⟩, fun _ hreturned => ?_⟩
      cases hreturned
  case case22 result hmain halive =>
      intro hs
      cases hs
      exact ⟨fun hdead => Or.inl ⟨hdead, rfl⟩, fun _ hreturned => by cases hreturned⟩
  case case27 result hmain halive =>
      intro hs
      cases hs
      exact ⟨fun _ => Or.inr rfl, fun _ _ => rfl⟩
  case case28 result hmain halive =>
      intro hs
      cases hs
      have hdead := Bool.eq_false_iff.mpr halive
      exact ⟨fun _ => Or.inl ⟨hdead, rfl⟩, fun _ _ => hdead⟩
  all_goals
    intro hs
    cases hs <;> exact ⟨fun halive => Or.inl ⟨halive, rfl⟩, fun _ hreturned => by cases hreturned⟩

theorem resources_main {ok : Bool} (hreach : TransitionSystem.Reachable (gateway config) g)
    (h : ResourcesOwned g log) (hs : g.mainStep config ok = some g') :
    ResourcesOwned g' (watchResources config g (.main ok) log) := by
  have hpublished := reachable_published hreach
  have hnext := mainStep_idle hs fun hstart => (hpublished.unstarted (Or.inl hstart)).1
  have hpicture : ∀ peer, .clientFd peer ∉ pictureBlocks log.held ∧
      .clientArgs peer ∉ pictureBlocks log.held := by
    intro peer
    constructor
    · intro hmem
      cases (mem_pictureBlocks hmem).2
    · intro hmem
      cases (mem_pictureBlocks hmem).2
  have toMain : ∀ service main threads : List HttpBlock,
      (service ++ (pictureBlocks log.held ++ (main ++ threads))).Perm
        (service ++ (main ++ (threads ++ pictureBlocks log.held))) := by
    intro service main threads
    rw [← List.append_assoc main]
    exact List.Perm.append_left service List.perm_append_comm
  refine ⟨?_, ?_, ?_, hnext.2⟩
  · have howns := main_owns hs (reachable_connections hreach)
      (fun hinit => h.idle (hpublished.unstarted (Or.inr hinit)).1) hpicture
      (h.owns.perm (toMain _ _ _))
    exact howns.perm (toMain _ _ _).symm
  · cases mainStep_capture hs with
    | inl hsame => exact hsame ▸ h.picture
    | inr hcreate =>
        have habsent := (reachable_setup hreach (Or.inr (Or.inr hcreate.1))).1
        have hheld := h.picture
        rw [habsent] at hheld
        rw [hcreate.2]
        exact hheld
  · intro hdead
    cases hnext.1 hdead with
    | inl hkept => rw [hkept.2, h.idle hkept.1]
    | inr hzero => rw [hzero]; rfl

theorem resources_capture {event : CaptureEvent}
    (hreach : TransitionSystem.Reachable (gateway config) g) (h : ResourcesOwned g log)
    (hfresh : MallocFresh (g, log) (.capture event))
    (hs : g.step config (.capture event) = some g') :
    ResourcesOwned g' (watchResources config g (.capture event) log) := by
  obtain ⟨step, hstep, rfl⟩ := Option.map_eq_some_iff.mp hs
  have halive := captureStep_alive hreach hstep
  have hothers : ∀ {block : HttpBlock}, block ∈ g.main.holds ++ g.threadBlocks →
      (∃ address, block = .frameCopy address) ∨
        ∃ peer, block = .clientFd peer ∨ block = .clientArgs peer := by
    intro block hmem
    rw [List.mem_append] at hmem
    cases hmem with
    | inl hmain =>
        obtain ⟨peer, -, hown⟩ := mem_mainHolds hmain
        exact Or.inr ⟨peer, hown⟩
    | inr hthread =>
        rcases mem_threadBlocks hthread with hcopy | ⟨peer, -, hown⟩
        · exact Or.inl hcopy
        · exact Or.inr ⟨peer, hown⟩
  have hnext := capture_owns hstep h.picture h.owns
    (fun hmem => by rcases hothers hmem with ⟨_, hown⟩ | ⟨_, hown | hown⟩ <;> cases hown)
    (fun hmem => by rcases hothers hmem with ⟨_, hown⟩ | ⟨_, hown | hown⟩ <;> cases hown)
    (fun address hevent hmem => by
      subst hevent
      exact hfresh (h.owns.live_iff.mpr hmem))
  refine ⟨?_, hnext.2, ?_, h.returned⟩
  · have hthreads : (g.applyCapture step).threadBlocks = g.threadBlocks := by
      simp only [Gateway.threadBlocks, Gateway.applyCapture]
      split
      · exact threadBlocks_wake g.clients
      · rfl
    rw [Gateway.holds, hthreads]
    exact hnext.1
  · intro hdead
    rw [show (g.applyCapture step).alive = g.alive from rfl, halive] at hdead
    cases hdead

theorem resources_client {i : Nat} {event : ClientEvent} (h : ResourcesOwned g log)
    (hfresh : MallocFresh (g, log) (.client i event))
    (hs : g.stepClient config i event = some g') :
    ResourcesOwned g' (watchResources config g (.client i event) log) := by
  have hframe := stepClient_frame hs
  obtain ⟨client, client', hclient, -, hcases⟩ := stepClient_cases hs
  obtain ⟨rest, hthreads, hset⟩ := threadBlocks_set hclient
  have hservice : g'.service.holds = g.service.holds := by
    rcases hcases with ⟨-, -, rfl⟩ | ⟨-, rfl⟩
    · exact countOut_holds g.service
    · rfl
  -- the thread's blocks in front of those of the others
  have toFront : ∀ own : List HttpBlock, (g.service.holds ++ (pictureBlocks log.held ++
      (g.main.holds ++ (own ++ rest)))).Perm (own ++ (g.service.holds ++
        (pictureBlocks log.held ++ (g.main.holds ++ rest)))) := by
    intro own
    have hmain : (g.main.holds ++ (own ++ rest)).Perm (own ++ (g.main.holds ++ rest)) :=
      List.perm_append_comm_assoc _ _ _
    have hpicture := (hmain.append_left (pictureBlocks log.held)).trans
      (List.perm_append_comm_assoc _ _ _)
    exact (hpicture.append_left g.service.holds).trans (List.perm_append_comm_assoc _ _ _)
  have howns : Heap.Owns log.ops (client.holds ++ (g.service.holds ++
      (pictureBlocks log.held ++ (g.main.holds ++ rest)))) := by
    refine h.owns.perm (List.Perm.trans ?_ (toFront client.holds))
    exact ((hthreads.append_left _).append_left _).append_left _
  have hnext : Heap.Owns (log.ops ++ clientOps g.service client event)
      (client'.holds ++ (g.service.holds ++
        (pictureBlocks log.held ++ (g.main.holds ++ rest)))) := by
    rcases hcases with ⟨hstate, rfl, -⟩ | ⟨hstep, -⟩
    · rw [@holds_emptyHanded (client.goto .closing) rfl]
      rw [holds_emptyHanded (by rw [hstate]; rfl)] at howns
      cases event <;> simp only [clientOps, hstate, List.append_nil] <;> exact howns
    · refine client_owns hstep howns (fun _ block hblock => ?_) (fun address hevent hmem => ?_)
      · exact List.mem_append_left _ (List.mem_append_left _ hblock)
      · subst hevent
        exact hfresh (howns.live_iff.mpr hmem)
  have hclients : g'.clients = g.clients.set i client' := by
    rcases hcases with ⟨-, rfl, rfl⟩ | ⟨-, rfl⟩ <;> rfl
  have hlog : watchResources config g (.client i event) log =
      { log with ops := log.ops ++ clientOps g.service client event } := by
    simp only [watchResources, hclient]
  rw [hlog]
  refine ⟨?_, hframe.capture ▸ h.picture, ?_, ?_⟩
  · rw [Gateway.holds, hservice, hframe.main, Gateway.threadBlocks, hclients]
    refine hnext.perm (List.Perm.trans (toFront client'.holds).symm ?_)
    exact (((hset client').symm.append_left _).append_left _).append_left _
  · intro hdead
    rw [hservice]
    exact h.idle (hframe.alive ▸ hdead)
  · intro result hmain
    rw [hframe.alive]
    exact h.returned result (hframe.main ▸ hmain)

theorem resources_step (hreach : TransitionSystem.Reachable (gateway config) g)
    (h : ResourcesOwned g log) (hfresh : MallocFresh (g, log) action)
    (hs : g.step config action = some g') :
    ResourcesOwned g' (watchResources config g action log) := by
  cases action with
  | main ok => exact resources_main hreach h hs
  | capture event => exact resources_capture hreach h hfresh hs
  | client i event => exact resources_client h hfresh hs
  | peer event =>
      obtain ⟨peers, backlog, rfl⟩ := stepPeer_frame hs
      exact ⟨h.owns, h.picture, h.idle, h.returned⟩

theorem reachable_resources
    (h : TransitionSystem.ReachableUnder (resourceGateway config) MallocFresh (g, log)) :
    ResourcesOwned g log := by
  refine TransitionSystem.ReachableUnder.invariant
    (I := fun s : Gateway × ResourceLog => ResourcesOwned s.1 s.2) ?_ ?_ h
  · exact ⟨Heap.Owns.nil, rfl, fun _ => rfl, fun _ => nofun⟩
  · rintro ⟨g, log⟩ ⟨g', log'⟩ action hreach hg hfresh hs
    obtain ⟨hstep, rfl⟩ := TransitionSystem.observe_step.mp hs
    exact resources_step hreach.unobserved hg hfresh hstep

/-- When main has returned, only client threads that still run hold anything. -/
theorem ResourcesOwned.rest (hreach : TransitionSystem.Reachable (gateway config) g)
    (h : ResourcesOwned g log) {result : Int} (hmain : g.main = .returned result) :
    Heap.Owns log.ops g.threadBlocks := by
  have hcapture := reachable_captureJoined hreach (by rw [hmain]; rfl)
  have hheld : log.held = false := by
    have hpicture := h.picture
    cases hcapture with
    | inl habsent => rwa [habsent] at hpicture
    | inr hended => rwa [hended] at hpicture
  have howns := h.owns
  rw [Gateway.holds, h.idle (h.returned result hmain), hheld, hmain] at howns
  exact howns

theorem threadBlocks_done (hdone : ClientsDone g) : g.threadBlocks = [] := by
  rw [Gateway.threadBlocks, List.flatMap_eq_nil_iff]
  intro client hclient
  rw [HttpClient.holds, hdone client hclient]

end Runs

/-- Up to the point where a client looks at a destroyed service, every block and descriptor is
used and freed only while it is live, and each live one has an owner. When main has returned,
only the threads that still run own any; when these have ended too, each was freed as often as
it was allocated. -/
theorem http_resources_owned (h : TransitionSystem.ReachableUnder (resourceGateway config)
      MallocFresh (g, log)) :
    Heap.Owns log.ops (g.holds log.held) ∧
      ∀ result, g.main = .returned result →
        Heap.Owns log.ops g.threadBlocks ∧
          (ClientsDone g → ∀ block,
            (Heap.freed log.ops).count block = (Heap.allocated log.ops).count block) := by
  have hg := reachable_resources h
  refine ⟨hg.owns, fun result hmain => ?_⟩
  have hrest := hg.rest h.reachable.unobserved hmain
  refine ⟨hrest, fun hdone block => ?_⟩
  have hcount := hrest.count_eq block
  rwa [threadBlocks_done hdone, List.count_nil, Nat.zero_add] at hcount

def oneRequestConfig : CameraConfig := { motionConfig with frameCount := 1 }

/-- A frame is shown, compared and sent to a client, and everything is released. -/
theorem http_resources_owned_snapshot :
    ∃ g log, TransitionSystem.ReachableUnder (resourceGateway oneRequestConfig) MallocFresh
        (g, log) ∧
      (g.main = .returned 0 ∧ ClientsDone g ∧ (Heap.allocated log.ops).length = 6) ∧
      Heap.Owns log.ops (g.holds log.held) ∧
        ∀ result, g.main = .returned result →
          Heap.Owns log.ops g.threadBlocks ∧
            (ClientsDone g → ∀ block,
              (Heap.freed log.ops).count block = (Heap.allocated log.ops).count block) := by
  have hrun : (TransitionSystem.exec ((resourceGateway oneRequestConfig).restrict
        fun s action => decide (MallocFresh s action)) (resourceGateway oneRequestConfig).init
      (startup ++ processPixel 1 0 ++ finishFrame ++ serve 0 (ascii "/snapshot") ++
        [.client 0 (.copied (some 3)), .client 0 (.sent (List.replicate 3 (.accepted 1000))),
          .client 0 .go, .client 0 .go, .main true] ++ endCapture ++ [.main true])).any
      (fun s => decide (s.1.main = .returned 0 ∧ (∀ client ∈ s.1.clients, client.state = .done) ∧
        (Heap.allocated s.2.ops).length = 6)) = true := by
    decide +kernel
  obtain ⟨⟨g, log⟩, hexec, hg⟩ := (Option.any_eq_true _ _).mp hrun
  have hreach := TransitionSystem.RunUnder.refl.restrict
    (fun _ _ hpass => of_decide_eq_true hpass) hexec
  obtain ⟨hmain, hdone, hcount⟩ := of_decide_eq_true hg
  exact ⟨g, log, hreach, ⟨hmain, hdone, hcount⟩, http_resources_owned hreach⟩

end CameraGateway
