import CameraGateway.Core.ServiceResources
import CameraGateway.Metatheory.WaitingClients
import CameraGateway.Metatheory.DrawingRuns

/-!
Who owns the heap blocks and the client descriptors of the HTTP service, and what one step
of a thread does with them: the service, the call that draws, main and each client thread
own theirs, and a step uses and frees only what its thread or the service owns.
-/
namespace CameraGateway
variable {config : CameraConfig} {g g' : Gateway}

section Owners

def baselineBlocks (service : HttpService) : List HttpBlock :=
  if service.motionPrevious.isSome then [.motionPrevious] else []

def HttpService.holds (service : HttpService) : List HttpBlock :=
  frameBlocks service.latest ++ baselineBlocks service

def pictureBlocks (held : Bool) : List HttpBlock := if held then [.rgb565] else []

def MainState.holds : MainState → List HttpBlock
  | .recv peer | .countIn peer _ => [.clientFd peer]
  | .createClient peer _ => [.clientFd peer, .clientArgs peer]
  | _ => []

def HttpClient.holds (client : HttpClient) : List HttpBlock :=
  match client.state with
  | .done => []
  | .respond (.jpeg frame) | .sendFrame frame =>
      frameBlocks frame ++ [.clientFd client.peer, .clientArgs client.peer]
  | _ => [.clientFd client.peer, .clientArgs client.peer]

def Gateway.threadBlocks (g : Gateway) : List HttpBlock := g.clients.flatMap HttpClient.holds

def Gateway.holds (g : Gateway) (held : Bool) : List HttpBlock :=
  g.service.holds ++ (pictureBlocks held ++ (g.main.holds ++ g.threadBlocks))

/-- When `rgb565` can point to a block. -/
def CaptureState.PictureHeld (held : Bool) : CaptureState → Prop
  | .show _ _ _ | .readEventId _ | .saveSnapshot _ _ => held = true
  | .countLcd _ _ => True
  | _ => held = false

theorem mem_frameBlocks {frame : Frame} {block : HttpBlock} (h : block ∈ frameBlocks frame) :
    ∃ address, block = .frameCopy address := by
  rw [frameBlocks, List.mem_map] at h
  obtain ⟨address, -, hblock⟩ := h
  exact ⟨address, hblock.symm⟩

theorem mem_serviceHolds {service : HttpService} {block : HttpBlock}
    (h : block ∈ service.holds) :
    (∃ address, block = .frameCopy address) ∨ block = .motionPrevious := by
  rw [HttpService.holds, List.mem_append] at h
  cases h with
  | inl hframe => exact Or.inl (mem_frameBlocks hframe)
  | inr hbaseline =>
      rw [baselineBlocks] at hbaseline
      split at hbaseline
      · exact Or.inr (List.mem_singleton.mp hbaseline)
      · cases hbaseline

theorem mem_pictureBlocks {held : Bool} {block : HttpBlock} (h : block ∈ pictureBlocks held) :
    held = true ∧ block = .rgb565 := by
  rw [pictureBlocks] at h
  split at h
  · rename_i hheld
    exact ⟨hheld, List.mem_singleton.mp h⟩
  · cases h

theorem mem_mainHolds {main : MainState} {block : HttpBlock} (h : block ∈ main.holds) :
    ∃ peer ∈ main.inHand, block = .clientFd peer ∨ block = .clientArgs peer := by
  cases main with
  | recv peer | countIn peer path =>
      exact ⟨peer, List.mem_singleton_self peer, Or.inl (List.mem_singleton.mp h)⟩
  | createClient peer path =>
      refine ⟨peer, List.mem_singleton_self peer, ?_⟩
      rwa [MainState.holds, List.mem_pair] at h
  | _ => cases h

theorem mem_clientHolds {client : HttpClient} {block : HttpBlock} (h : block ∈ client.holds) :
    (∃ address, block = .frameCopy address) ∨ block = .clientFd client.peer ∨
      block = .clientArgs client.peer := by
  rw [HttpClient.holds] at h
  split at h
  · cases h
  · rw [List.mem_append, List.mem_pair] at h
    exact h.imp mem_frameBlocks id
  · rw [List.mem_append, List.mem_pair] at h
    exact h.imp mem_frameBlocks id
  · rw [List.mem_pair] at h
    exact Or.inr h

theorem mem_threadBlocks {block : HttpBlock} (h : block ∈ g.threadBlocks) :
    (∃ address, block = .frameCopy address) ∨
      ∃ peer ∈ g.clients.map HttpClient.peer,
        block = .clientFd peer ∨ block = .clientArgs peer := by
  rw [Gateway.threadBlocks, List.mem_flatMap] at h
  obtain ⟨client, hclient, hblock⟩ := h
  exact (mem_clientHolds hblock).imp id fun hown =>
    ⟨client.peer, List.mem_map_of_mem hclient, hown⟩

theorem holds_wake (client : HttpClient) : client.wake.holds = client.holds := by
  rw [HttpClient.wake]
  split
  · rename_i hblocked
    simp only [HttpClient.holds, hblocked]
  · rfl

theorem threadBlocks_wake (clients : List HttpClient) :
    (clients.map HttpClient.wake).flatMap HttpClient.holds = clients.flatMap HttpClient.holds := by
  rw [List.flatMap_map]
  exact congrArg (clients.flatMap ·) (funext holds_wake)

theorem countOut_holds (service : HttpService) : (countOut service).holds = service.holds := by
  rw [countOut]
  split <;> rfl

theorem httpServiceDestroyOps_eq (service : HttpService) :
    httpServiceDestroyOps service = service.holds.map Heap.Op.free := by
  rw [httpServiceDestroyOps, HttpService.holds, List.map_append, baselineBlocks]
  split <;> rfl

theorem threadBlocks_set {i : Nat} {client : HttpClient} (h : g.clients[i]? = some client) :
    ∃ rest, g.threadBlocks.Perm (client.holds ++ rest) ∧
      ∀ next, ((g.clients.set i next).flatMap HttpClient.holds).Perm (next.holds ++ rest) := by
  obtain ⟨hlt, hget⟩ := List.getElem?_eq_some_iff.mp h
  refine ⟨((g.clients.take i).flatMap HttpClient.holds) ++
    ((g.clients.drop (i + 1)).flatMap HttpClient.holds), ?_, ?_⟩
  · have hsplit : g.clients = g.clients.take i ++ client :: g.clients.drop (i + 1) := by
      rw [← hget, List.getElem_cons_drop, List.take_append_drop]
    rw [Gateway.threadBlocks]
    conv_lhs => rw [hsplit]
    rw [List.flatMap_append, List.flatMap_cons]
    exact List.perm_append_comm_assoc _ _ _
  · intro next
    rw [List.set_eq_take_append_cons_drop, if_pos hlt, List.flatMap_append, List.flatMap_cons]
    exact List.perm_append_comm_assoc _ _ _

end Owners

section Copies
variable {ops : List (Heap.Op HttpBlock)} {blocks : List HttpBlock} {src : Frame}
  {malloc : Option Nat}

theorem frameCopyAlloc_failed (h : (frameCopyAlloc src malloc).1 ≠ 0) :
    frameBlocks (frameCopyAlloc src malloc).2 = [] := by
  revert h
  rw [frameCopyAlloc]
  split
  · exact fun _ => rfl
  · cases malloc with
    | none => exact fun _ => rfl
    | some address => exact fun h => absurd rfl h

theorem frameCopyAlloc_blocks (h : (frameCopyAlloc src malloc).1 = 0) :
    ∃ address, malloc = some address ∧
      frameBlocks (frameCopyAlloc src malloc).2 = [.frameCopy address] := by
  obtain ⟨hdata, hsize, hmalloc⟩ := (frameCopyAlloc_ok_iff src malloc).mp h
  obtain ⟨address, rfl⟩ := Option.isSome_iff_exists.mp hmalloc
  refine ⟨address, rfl, ?_⟩
  rw [frameCopyAlloc, if_neg (not_or.mpr ⟨hdata, hsize⟩)]
  rfl

theorem copyOps_failed {copy : Int × Frame} (h : copy.1 ≠ 0) : copyOps src copy = [] := if_neg h

/-- The destination of `frame_copy_alloc` owns the new block, if there is one. -/
theorem copy_owns (h : Heap.Owns ops blocks) (hsrc : ∀ block ∈ frameBlocks src, block ∈ blocks)
    (hfresh : ∀ address, malloc = some address → .frameCopy address ∉ blocks) :
    Heap.Owns (ops ++ copyOps src (frameCopyAlloc src malloc))
      (frameBlocks (frameCopyAlloc src malloc).2 ++ blocks) := by
  by_cases hcopy : (frameCopyAlloc src malloc).1 = 0
  · obtain ⟨address, hmalloc, hblocks⟩ := frameCopyAlloc_blocks hcopy
    rw [copyOps, if_pos hcopy, hblocks, ← List.append_assoc]
    have hnew : Heap.Owns (ops ++ [.alloc (.frameCopy address)]) (.frameCopy address :: blocks) :=
      h.alloc (hfresh address hmalloc)
    exact hnew.useAll fun block hblock => List.mem_cons_of_mem _ (hsrc block hblock)
  · rw [copyOps_failed hcopy, frameCopyAlloc_failed hcopy, List.append_nil]
    exact h

end Copies

section Client
variable {ops : List (Heap.Op HttpBlock)} {others : List HttpBlock} {service : HttpService}
  {index : Nat} {client client' : HttpClient}

/-- What a thread has all the time. -/
def HttpClient.ownBlocks (client : HttpClient) : List HttpBlock :=
  [.clientFd client.peer, .clientArgs client.peer]

def ClientState.emptyHanded : ClientState → Bool
  | .done | .respond (.jpeg _) | .sendFrame _ => false
  | _ => true

theorem holds_emptyHanded (h : client.state.emptyHanded = true) :
    client.holds = client.ownBlocks := by
  rw [HttpClient.holds]
  split
  · rename_i hstate
    rw [hstate] at h
    cases h
  · rename_i hstate
    rw [hstate] at h
    cases h
  · rename_i hstate
    rw [hstate] at h
    cases h
  · rfl

theorem dispatch_owns {malloc : Option Nat} (hstate : client.state = .route)
    (h : Heap.Owns ops (client.holds ++ others))
    (hlatest : ∀ block ∈ frameBlocks service.latest, block ∈ others)
    (hfresh : ∀ address, malloc = some address → .frameCopy address ∉ client.holds ++ others) :
    Heap.Owns (ops ++ clientOps service client (.copied malloc))
      ((client.dispatch config service index malloc).holds ++ others) := by
  have hholds : client.holds = client.ownBlocks := holds_emptyHanded (by rw [hstate]; rfl)
  rw [hholds] at h hfresh
  have hread : Heap.Owns (ops ++ [.use (.clientArgs client.peer)]) (client.ownBlocks ++ others) :=
    h.use (by simp [HttpClient.ownBlocks])
  have hquiet : Heap.Owns (ops ++ [.use (.clientArgs client.peer)] ++ [])
      (client.ownBlocks ++ others) := by
    rwa [List.append_nil]
  simp only [clientOps, hstate]
  rw [List.append_cons, HttpClient.dispatch]
  cases httpClientRoute client.path with
  | metrics | stream | notFound => exact hquiet
  | snapshot =>
      rw [if_pos rfl, httpServiceCopyLatest]
      by_cases hframe : service.hasFrame = true
      · rw [if_pos hframe]
        have hcopied := copy_owns hread (fun block hblock =>
          List.mem_append_right _ (hlatest block hblock)) hfresh
        by_cases hcopy : (frameCopyAlloc service.latest malloc).1 = 0
        · simp only [hcopy, ne_eq, not_true_eq_false, if_false]
          rwa [← List.append_assoc (frameBlocks _)] at hcopied
        · simp only [hcopy, ne_eq, not_false_eq_true, if_true]
          rwa [frameCopyAlloc_failed hcopy] at hcopied
      · rw [if_neg hframe]
        exact hquiet

theorem waitStep_owns {timedOut : Bool} {malloc : Option Nat}
    (hempty : client.state.emptyHanded = true) (h : Heap.Owns ops (client.holds ++ others))
    (hlatest : ∀ block ∈ frameBlocks service.latest, block ∈ others)
    (hfresh : ∀ address, malloc = some address → .frameCopy address ∉ client.holds ++ others) :
    Heap.Owns (ops ++ waitOps service client timedOut malloc)
      ((client.waitStep service index timedOut malloc).holds ++ others) := by
  rw [holds_emptyHanded hempty] at h hfresh
  have hnone : ∀ out, copyOps service.latest (-1, out) = [] := fun out => if_neg (by simp)
  rw [waitOps, HttpClient.waitStep]
  fun_cases httpServiceWaitLatest service client.lastSequence timedOut malloc
  case case1 =>
      rw [List.append_nil]
      exact h
  case case2 copy hcopy =>
      have hcopied := copy_owns h (fun block hblock =>
        List.mem_append_right _ (hlatest block hblock)) hfresh
      rw [← List.append_assoc (frameBlocks _)] at hcopied
      have hpair : frameCopyAlloc service.latest malloc = (0, copy.2) := Prod.ext hcopy rfl
      rwa [hpair] at hcopied
  all_goals
    dsimp only
    rw [hnone, List.append_nil]
    exact h

/-- A completed send: the descriptor is used, and a frame is used and freed. -/
theorem sent_owns {frame : Frame}
    (h : Heap.Owns ops (frameBlocks frame ++ client.ownBlocks ++ others)) :
    Heap.Owns (ops ++ .use (.clientFd client.peer) ::
        ((frameBlocks frame).map .use ++ (frameBlocks frame).map .free))
      (client.ownBlocks ++ others) := by
  have hsent : Heap.Owns (ops ++ [.use (.clientFd client.peer)])
      (frameBlocks frame ++ client.ownBlocks ++ others) :=
    h.use (by simp [HttpClient.ownBlocks])
  have hread := hsent.useAll fun block (hblock : block ∈ frameBlocks frame) =>
    List.mem_append_left _ (List.mem_append_left _ hblock)
  rw [List.append_assoc (frameBlocks frame)] at hread
  rw [List.append_cons, ← List.append_assoc]
  exact hread.freeAll

/-- The last step of a thread. -/
theorem closing_owns (h : Heap.Owns ops (client.ownBlocks ++ others)) :
    Heap.Owns (ops ++ [.free (.clientFd client.peer), .use (.clientArgs client.peer),
      .free (.clientArgs client.peer)]) others := by
  have hclosed : Heap.Owns (ops ++ [.free (.clientFd client.peer)])
      (.clientArgs client.peer :: others) := h.free
  have hprinted := (hclosed.use List.mem_cons_self).free
  rwa [List.append_assoc, List.append_assoc] at hprinted

theorem client_owns {event : ClientEvent}
    (hs : clientStep config service index client event = some client')
    (h : Heap.Owns ops (client.holds ++ others))
    (hlatest : client.state.usesService = true →
      ∀ block ∈ frameBlocks service.latest, block ∈ others)
    (hfresh : ∀ address, event = .copied (some address) →
      .frameCopy address ∉ client.holds ++ others) :
    Heap.Owns (ops ++ clientOps service client event) (client'.holds ++ others) := by
  have hpeer := clientStep_peer hs
  have hown : client'.ownBlocks = client.ownBlocks := by
    rw [HttpClient.ownBlocks, HttpClient.ownBlocks, hpeer]
  have empty : ∀ {state : ClientState}, client'.state = state → state.emptyHanded = true →
      client'.holds = client.ownBlocks := by
    intro state hstate hempty
    rw [holds_emptyHanded (by rw [hstate]; exact hempty), hown]
  revert hs
  fun_cases clientStep config service index client event
  case case1 malloc hstate =>
      intro hs
      cases hs
      refine dispatch_owns hstate h (hlatest (by rw [hstate]; rfl)) ?_
      intro address haddress
      exact hfresh address (congrArg _ haddress)
  case case2 malloc hstate | case3 malloc hstate =>
      intro hs
      cases hs
      simp only [clientOps, hstate]
      refine waitStep_owns (by rw [hstate]; rfl) h (hlatest (by rw [hstate]; rfl)) ?_
      intro address haddress
      exact hfresh address (congrArg _ haddress)
  case case5 outcomes response hstate =>
      intro hs
      obtain ⟨-, -, hstate'⟩ := afterSend_state hs
      rw [empty (hstate'.elim id id) rfl]
      cases response with
      | jpeg frame =>
          simp only [clientOps, hstate]
          simp only [HttpClient.holds, hstate] at h
          exact sent_owns h
      | metrics body | unavailable | notFound =>
          simp only [clientOps, hstate]
          rw [holds_emptyHanded (by rw [hstate]; rfl)] at h
          exact h.use (by simp [HttpClient.ownBlocks])
  case case6 outcomes hstate =>
      intro hs
      obtain ⟨-, -, hstate'⟩ := afterSend_state hs
      simp only [clientOps, hstate]
      rw [holds_emptyHanded (by rw [hstate]; rfl)] at h
      have hused : Heap.Owns (ops ++ [.use (.clientFd client.peer)]) (client.ownBlocks ++ others) :=
        h.use (by simp [HttpClient.ownBlocks])
      cases hstate' with
      | inl hwait => rwa [empty hwait rfl]
      | inr hended => rwa [empty hended rfl]
  case case7 outcomes frame hstate =>
      intro hs
      obtain ⟨-, -, hstate'⟩ := afterSend_state hs
      simp only [clientOps, hstate]
      simp only [HttpClient.holds, hstate] at h
      have hfreed := sent_owns h
      cases hstate' with
      | inl hwait => rwa [empty hwait rfl]
      | inr hended => rwa [empty hended rfl]
  case case9 hstate | case11 hstate =>
      intro hs
      cases hs
      rw [holds_emptyHanded (by rw [hstate]; rfl)] at h
      rw [empty rfl rfl]
      show Heap.Owns (ops ++ []) (client.ownBlocks ++ others)
      rw [List.append_nil]
      exact h
  case case13 hstate =>
      intro hs
      cases hs
      rw [holds_emptyHanded (by rw [hstate]; rfl)] at h
      simp only [clientOps, hstate, List.append_nil]
      split
      · exact h
      · exact h
  case case14 hstate =>
      intro hs
      cases hs
      rw [holds_emptyHanded (by rw [hstate]; rfl)] at h
      simp only [clientOps, hstate]
      exact closing_owns h
  all_goals
    intro hs
    cases hs

end Client

section Capture
variable {ops : List (Heap.Op HttpBlock)} {others : List HttpBlock} {service : HttpService}
  {held : Bool}

theorem motionBlock_service (config : CameraConfig) (service : HttpService) (picture : Picture)
    (malloc : Bool) :
    (motionBlock config service picture malloc).service.latest = service.latest ∧
      baselineBlocks (motionBlock config service picture malloc).service =
        if (resizeBaseline service picture).motionPrevious = none ∧ malloc = false then []
        else [.motionPrevious] := by
  have hlatest : (resizeBaseline service picture).latest = service.latest :=
    (sameShared_resizeBaseline service picture).latest
  rw [motionBlock]
  dsimp only
  split
  · rename_i hnone
    refine ⟨hlatest, ?_⟩
    show baselineBlocks (countMotionError (resizeBaseline service picture)) = []
    rw [baselineBlocks]
    exact if_neg (by simp [countMotionError, hnone.1])
  · exact ⟨hlatest, rfl⟩

theorem resizeBaseline_previous (service : HttpService) (picture : Picture) :
    (resizeBaseline service picture).motionPrevious = none ∨
      (resizeBaseline service picture).motionPrevious = service.motionPrevious := by
  rw [resizeBaseline]
  split
  · exact Or.inl rfl
  · exact Or.inr rfl

/-- The motion block frees a baseline of another size and allocates a missing one. -/
theorem motionBlock_owns (config : CameraConfig) (picture : Picture) (malloc : Bool)
    (h : Heap.Owns ops (baselineBlocks service ++ others)) (hrgb : .rgb565 ∈ others)
    (hprev : .motionPrevious ∉ others) :
    Heap.Owns (ops ++ motionBlockOps service picture malloc)
      (baselineBlocks (motionBlock config service picture malloc).service ++ others) := by
  have compared : ∀ {ops : List (Heap.Op HttpBlock)},
      Heap.Owns ops (.motionPrevious :: others) →
      Heap.Owns (ops ++ [.use .rgb565, .use .motionPrevious]) (.motionPrevious :: others) := by
    intro ops howned
    have hused := (howned.use (List.mem_cons_of_mem _ hrgb)).use List.mem_cons_self
    rwa [List.append_assoc] at hused
  rw [(motionBlock_service config service picture malloc).2, motionBlockOps]
  cases hold : service.motionPrevious with
  | none =>
      have hresized : (resizeBaseline service picture).motionPrevious = none := by
        cases resizeBaseline_previous service picture with
        | inl hnone => exact hnone
        | inr hsame => rw [hsame, hold]
      have howned : Heap.Owns ops others := by simpa [baselineBlocks, hold] using h
      cases malloc with
      | false => simpa [hresized] using howned
      | true =>
          have hnew := compared (howned.alloc hprev)
          simpa [hresized] using hnew
  | some pixels =>
      have howned : Heap.Owns ops (.motionPrevious :: others) := by
        simpa [baselineBlocks, hold] using h
      cases resizeBaseline_previous service picture with
      | inr hsame =>
          rw [hold] at hsame
          have hused := compared howned
          simpa [hsame] using hused
      | inl hnone =>
          have hfreed := howned.free
          cases malloc with
          | false => simpa [hnone] using hfreed
          | true =>
              have hnew := compared (hfreed.alloc hprev)
              simpa [hnone] using hnew

theorem capture_owns_quiet {service' : HttpService}
    (h : Heap.Owns ops (service.holds ++ (pictureBlocks held ++ others)))
    (hservice : service'.holds = service.holds) :
    Heap.Owns (ops ++ []) (service'.holds ++ (pictureBlocks held ++ others)) := by
  rw [List.append_nil, hservice]
  exact h

theorem countLcd_holds (service : HttpService) (display : Bool) (ret : Int) :
    (countLcd service display ret).holds = service.holds := by
  rw [countLcd]
  split
  · rfl
  · split <;> rfl

theorem countSnapshot_holds (service : HttpService) (written : Bool) :
    (countSnapshot service written).holds = service.holds := by
  cases written <;> rfl

theorem draw_owns {frame : Frame} (picture : Option Picture) (malloc : Bool)
    (h : Heap.Owns ops (service.holds ++ others)) (hrgb : .rgb565 ∉ others)
    (hprev : .motionPrevious ∉ others) :
    let step := drawStep config service frame picture malloc
    let now := captureHeld config false (.draw frame) (.decoded picture malloc)
    Heap.Owns (ops ++ captureOps config service false (.draw frame) (.decoded picture malloc))
        (step.service.holds ++ (pictureBlocks now ++ others)) ∧
      step.next.PictureHeld now := by
  have hnew : .rgb565 ∉ service.holds ++ others := by
    rw [List.mem_append, not_or]
    refine ⟨?_, hrgb⟩
    intro hmem
    rcases mem_serviceHolds hmem with ⟨address, hframe⟩ | hbaseline
    · cases hframe
    · cases hbaseline
  have hpicture : Heap.Owns (ops ++ [.alloc .rgb565])
      (service.holds ++ (.rgb565 :: others)) :=
    (h.alloc hnew).perm List.perm_middle.symm
  have hmotion : ∀ picture : Picture, Heap.Owns
      (ops ++ .alloc .rgb565 :: motionBlockOps service picture malloc)
      ((motionBlock config service picture malloc).service.holds ++ (.rgb565 :: others)) := by
    intro picture
    have hfree : .motionPrevious ∉ frameBlocks service.latest ++ .rgb565 :: others := by
      rw [List.mem_append, List.mem_cons, not_or, not_or]
      refine ⟨?_, nofun, hprev⟩
      intro hmem
      obtain ⟨address, hframe⟩ := mem_frameBlocks hmem
      cases hframe
    rw [HttpService.holds, List.append_assoc] at hpicture
    have hinside := motionBlock_owns config picture malloc
      (hpicture.perm (List.perm_append_comm_assoc _ _ _))
      (List.mem_append_right _ List.mem_cons_self) hfree
    rw [List.append_cons, HttpService.holds,
      (motionBlock_service config service picture malloc).1, List.append_assoc (frameBlocks _)]
    exact hinside.perm (List.perm_append_comm_assoc _ _ _)
  dsimp only
  fun_cases drawStep config service frame picture malloc
  case case1 hoff =>
      simp only [captureOps, captureHeld, hoff, if_true, List.append_nil]
      exact ⟨h, rfl⟩
  case case2 hon =>
      simp only [captureOps, captureHeld, if_neg hon, List.append_nil, Option.isSome_none]
      exact ⟨h, trivial⟩
  case case3 hon picture hdetect service' hblock =>
      simp only [captureOps, captureHeld, hdetect, Bool.not_true, Bool.and_false,
        Bool.false_eq_true, if_false, if_true, Option.isSome_some]
      have hinside := hmotion picture
      rw [hblock] at hinside
      exact ⟨hinside, trivial⟩
  case case4 hon picture hdetect service' result event hblock =>
      simp only [captureOps, captureHeld, hdetect, Bool.not_true, Bool.and_false,
        Bool.false_eq_true, if_false, if_true, Option.isSome_some]
      have hinside := hmotion picture
      rw [hblock] at hinside
      exact ⟨hinside, rfl⟩
  case case5 hon picture hdetect =>
      simp only [captureOps, captureHeld, if_neg hon, if_neg hdetect, Option.isSome_some]
      exact ⟨hpicture, rfl⟩

theorem publish_owns {frame : Frame} {malloc : Option Nat}
    (hcopy : (frameCopyAlloc frame malloc).1 = 0)
    (h : Heap.Owns ops (service.holds ++ others))
    (hfresh : ∀ address, malloc = some address → .frameCopy address ∉ service.holds ++ others) :
    Heap.Owns (ops ++ captureOps config service held (.publish frame) (.copied malloc))
      ((httpServiceUpdateLatest service frame malloc).2.holds ++ others) := by
  obtain ⟨address, hmalloc, hblocks⟩ := frameCopyAlloc_blocks hcopy
  have hupdated : (httpServiceUpdateLatest service frame malloc).2.holds =
      .frameCopy address :: baselineBlocks service := by
    rw [httpServiceUpdateLatest]
    simp only [hcopy, ne_eq, not_true_eq_false, if_false, HttpService.holds, hblocks]
    rfl
  have hnew : Heap.Owns (ops ++ [.alloc (.frameCopy address)])
      (.frameCopy address ::
        (frameBlocks service.latest ++ (baselineBlocks service ++ others))) := by
    have halloc := h.alloc (hfresh address hmalloc)
    rwa [HttpService.holds, List.append_assoc] at halloc
  simp only [captureOps, hcopy, if_true, hblocks, List.map_singleton]
  rw [hupdated, ← List.append_assoc]
  exact (hnew.perm List.perm_middle.symm).freeAll

theorem show_owns (frame : Frame) (pixels : List UInt16) (motionEvent ok : Bool)
    (h : Heap.Owns ops (service.holds ++ (pictureBlocks true ++ others))) :
    Heap.Owns (ops ++ captureOps config service true (.show frame pixels motionEvent) (.drawn ok))
      (service.holds ++ (pictureBlocks true ++ others)) := by
  rw [captureOps]
  split
  · exact h.use (List.mem_append_right _ (List.mem_append_left _ List.mem_cons_self))
  · rwa [List.append_nil]

theorem capture_owns {state : CaptureState} {event : CaptureEvent} {step : CaptureStep}
    (hs : captureStep config service state event = some step) (hheld : state.PictureHeld held)
    (h : Heap.Owns ops (service.holds ++ (pictureBlocks held ++ others)))
    (hrgb : .rgb565 ∉ others) (hprev : .motionPrevious ∉ others)
    (hfresh : ∀ address, event = .copied (some address) →
      .frameCopy address ∉ service.holds ++ (pictureBlocks held ++ others)) :
    let now := captureHeld config held state event
    Heap.Owns (ops ++ captureOps config service held state event)
        (step.service.holds ++ (pictureBlocks now ++ others)) ∧ step.next.PictureHeld now := by
  have quiet : ∀ {service' : HttpService}, service'.holds = service.holds →
      Heap.Owns (ops ++ []) (service'.holds ++ (pictureBlocks held ++ others)) :=
    fun hservice => capture_owns_quiet h hservice
  dsimp only
  revert hs
  fun_cases captureStep config service state event
  case case1 =>
      intro hs
      cases hs
      split
      · exact ⟨quiet rfl, hheld⟩
      · exact ⟨quiet rfl, hheld⟩
  case case8 frame malloc updated hfailed =>
      intro hs
      cases hs
      have hcopy : (frameCopyAlloc frame malloc).1 ≠ 0 := by
        intro hok
        simp [updated, httpServiceUpdateLatest, hok] at hfailed
      simp only [captureOps, if_neg hcopy]
      exact ⟨quiet rfl, hheld⟩
  case case9 frame malloc updated hok =>
      intro hs
      cases hs
      have hcopy : (frameCopyAlloc frame malloc).1 = 0 := by
        apply Decidable.byContradiction
        intro hfailed
        simp [updated, httpServiceUpdateLatest, hfailed] at hok
      exact ⟨publish_owns hcopy h fun address haddress => hfresh address (congrArg _ haddress),
        hheld⟩
  case case10 frame picture malloc =>
      intro hs
      cases hs
      cases hheld
      exact draw_owns picture malloc h hrgb hprev
  case case11 frame pixels motionEvent ok _ | case13 frame pixels motionEvent ok _ _ =>
      intro hs
      cases hs
      cases hheld
      exact ⟨show_owns frame pixels motionEvent ok h, trivial⟩
  case case12 frame pixels motionEvent ok _ _ =>
      intro hs
      cases hs
      cases hheld
      exact ⟨show_owns frame pixels motionEvent ok h, rfl⟩
  case case15 frame eventId calls stored =>
      intro hs
      cases hs
      exact ⟨quiet (storeSnapshot_keeps service _ calls (countSnapshot_holds service)), trivial⟩
  case case16 frame ret =>
      intro hs
      cases hs
      refine ⟨?_, rfl⟩
      have hservice := countLcd_holds service config.fbPreview ret
      simp only [CaptureStep.quiet]
      rw [hservice]
      cases held with
      | false => exact quiet rfl
      | true =>
          have hfreed := (h.perm List.perm_middle).free
          exact hfreed
  case case18 ok =>
      intro hs
      cases hs
      cases ok <;> exact ⟨quiet rfl, hheld⟩
  all_goals
    intro hs
    cases hs <;> exact ⟨quiet rfl, hheld⟩

end Capture

section Main
variable {ops : List (Heap.Op HttpBlock)} {others : List HttpBlock} {ok : Bool}

theorem connection_fresh {peer : Nat} {block : HttpBlock}
    (hblock : block = .clientFd peer ∨ block = .clientArgs peer)
    (hpeer : peer ∉ g.clients.map HttpClient.peer) (hothers : block ∉ others) :
    block ∉ g.service.holds ++ (g.threadBlocks ++ others) := by
  rw [List.mem_append, List.mem_append, not_or, not_or]
  refine ⟨?_, ?_, hothers⟩
  · intro hmem
    rcases mem_serviceHolds hmem with ⟨address, hframe⟩ | hbaseline
    · subst hframe
      cases hblock <;> contradiction
    · subst hbaseline
      cases hblock <;> contradiction
  · intro hmem
    rcases mem_threadBlocks hmem with ⟨address, hframe⟩ | ⟨other, hother, hown⟩
    · subst hframe
      cases hblock <;> contradiction
    · apply hpeer
      cases hblock with
      | inl hfd =>
          subst hfd
          cases hown with
          | inl hsame => cases hsame; exact hother
          | inr hsame => cases hsame
      | inr hargs =>
          subst hargs
          cases hown with
          | inl hsame => cases hsame
          | inr hsame => cases hsame; exact hother

theorem main_owns_kept (hops : mainOps g ok = []) (hservice : g'.service.holds = g.service.holds)
    (hmain : g'.main.holds = g.main.holds) (hthreads : g'.threadBlocks = g.threadBlocks)
    (h : Heap.Owns ops (g.service.holds ++ (g.main.holds ++ (g.threadBlocks ++ others)))) :
    Heap.Owns (ops ++ mainOps g ok)
      (g'.service.holds ++ (g'.main.holds ++ (g'.threadBlocks ++ others))) := by
  rw [hops, hservice, hmain, hthreads, List.append_nil]
  exact h

/-- Main hands its connection to the new thread. -/
theorem handed_perm (peer : Nat) (path : List UInt8) (others : List HttpBlock) :
    ((MainState.createClient peer path).holds ++ (g.threadBlocks ++ others)).Perm
      ((if config.frameCount = 0 then MainState.accept else .join g.clients.length).holds ++
        ((g.clients ++ [HttpClient.start peer path]).flatMap HttpClient.holds ++ others)) := by
  have hmain : (if config.frameCount = 0 then MainState.accept
      else .join g.clients.length).holds = [] := by
    split <;> rfl
  rw [hmain, List.nil_append, List.flatMap_append, List.append_assoc]
  exact List.perm_append_comm_assoc _ _ _

theorem main_owns (hs : g.mainStep config ok = some g') (hconnections : Connections g)
    (hidle : g.main = .initService → g.service.holds = [])
    (hothers : ∀ peer, .clientFd peer ∉ others ∧ .clientArgs peer ∉ others)
    (h : Heap.Owns ops (g.service.holds ++ (g.main.holds ++ (g.threadBlocks ++ others)))) :
    Heap.Owns (ops ++ mainOps g ok)
      (g'.service.holds ++ (g'.main.holds ++ (g'.threadBlocks ++ others))) := by
  have fresh : ∀ {peer : Nat}, peer ∈ g.main.inHand ++ g.backlog →
      peer ∉ g.clients.map HttpClient.peer := by
    intro peer hmem hthread
    exact (List.nodup_append.mp hconnections.nodup).2.2 peer hthread peer hmem rfl
  revert hs
  fun_cases Gateway.mainStep config g ok
  case case2 hmain _ | case7 hmain =>
      intro hs
      cases hs
      refine main_owns_kept (by simp only [mainOps, hmain]) rfl ?_ rfl h
      rw [hmain]
      cases ok <;> rfl
  case case3 hmain _ =>
      intro hs
      cases hs
      refine main_owns_kept (by simp only [mainOps, hmain]) (hidle hmain).symm ?_ rfl h
      rw [hmain]
      rfl
  case case9 hmain hok peer backlog hbacklog =>
      intro hs
      cases hs
      have hpeer : peer ∉ g.clients.map HttpClient.peer := by
        apply fresh
        rw [hbacklog]
        exact List.mem_append_right _ List.mem_cons_self
      rw [hmain] at h
      simp only [mainOps, hmain, hok, if_true, hbacklog]
      have hnew := h.alloc (connection_fresh (Or.inl rfl) hpeer (hothers peer).1)
      exact hnew.perm List.perm_middle.symm
  case case10 hmain hok =>
      intro hs
      cases hs
      refine main_owns_kept (by simp only [mainOps, hmain, if_neg hok]) rfl ?_ rfl h
      rw [hmain]
      rfl
  case case13 peer hmain connection hknown received hreceived hnone =>
      intro hs
      cases hs
      rw [hmain] at h
      simp only [mainOps, hmain, hknown, Option.bind_some, hreceived, hnone, if_true]
      have hread := (h.perm List.perm_middle).use List.mem_cons_self
      have hclosed := hread.free
      rwa [List.append_assoc] at hclosed
  case case14 peer hmain connection hknown received hreceived path hsome _ =>
      intro hs
      cases hs
      rw [hmain] at h
      simp only [mainOps, hmain, hknown, Option.bind_some, hreceived, hsome, reduceCtorEq,
        if_false]
      exact h.use (List.mem_append_right _ List.mem_cons_self)
  case case16 peer path hmain hok =>
      intro hs
      cases hs
      have hpeer : peer ∉ g.clients.map HttpClient.peer := by
        apply fresh
        rw [hmain]
        exact List.mem_append_left _ (List.mem_singleton_self peer)
      rw [hmain] at h
      simp only [mainOps, hmain, hok, if_true]
      have hargs : .clientArgs peer ∉
          g.service.holds ++ (.clientFd peer :: (g.threadBlocks ++ others)) := by
        have hrest := @connection_fresh g others peer _ (Or.inr rfl) hpeer (hothers peer).2
        simp only [List.mem_append, List.mem_cons, reduceCtorEq, false_or] at hrest ⊢
        exact hrest
      have hnew := (h.alloc hargs).use List.mem_cons_self
      rw [List.append_assoc] at hnew
      refine hnew.perm ?_
      refine List.perm_middle.symm.trans ?_
      exact List.Perm.append_left _ (List.Perm.swap _ _ _)
  case case17 peer path hmain hok =>
      intro hs
      cases hs
      rw [hmain] at h
      simp only [mainOps, hmain, if_neg hok]
      exact (h.perm List.perm_middle).free
  case case18 peer path hmain hok =>
      intro hs
      cases hs
      rw [hmain] at h
      simp only [mainOps, hmain, hok, if_true, List.append_nil]
      exact h.perm (List.Perm.append_left _ (handed_perm peer path _))
  case case19 peer path hmain hok =>
      intro hs
      cases hs
      rw [hmain] at h
      simp only [mainOps, hmain, if_neg hok]
      rw [countOut_holds]
      have hfront := h.perm (List.perm_append_comm_assoc _ [_, _] _)
      have hclosed := hfront.free.free
      rwa [List.append_assoc] at hclosed
  case case22 result hmain halive =>
      intro hs
      cases hs
      refine main_owns_kept (by simp only [mainOps, hmain]) rfl ?_ (threadBlocks_wake _) h
      rw [hmain]
      rfl
  case case27 result hmain halive =>
      intro hs
      cases hs
      rw [hmain] at h
      simp only [mainOps, hmain, halive, if_true, httpServiceDestroyOps_eq]
      exact h.freeAll
  case case28 result hmain halive =>
      intro hs
      cases hs
      refine main_owns_kept (by simp only [mainOps, hmain, if_neg halive]) rfl ?_ rfl h
      rw [hmain]
      rfl
  case case1 hmain _ | case4 hmain _ | case5 hmain _ | case6 hmain _ | case20 hmain _ |
      case23 hmain _ | case24 hmain _ | case25 hmain _ =>
      intro hs
      cases hs
      refine main_owns_kept (by simp only [mainOps, hmain]) rfl ?_ rfl h
      rw [hmain]
      rfl
  all_goals
    intro hs
    cases hs

end Main

end CameraGateway
