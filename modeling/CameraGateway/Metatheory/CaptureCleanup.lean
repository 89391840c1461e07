import CameraGateway.Core.Lifetime

/-!
The capture functions release what they acquire, whatever fails in them, and leave the
camera alone. For `camera_capture_http_mjpeg` the local variables at the label `out` say
what is held; the calls of the step that has failed have cleaned up after themselves.
-/
namespace CameraGateway
open Ledger (Balanced)

/-- A capture function releases what it acquires and leaves the camera alone. -/
structure Clean (ops : List (Ledger.Op Resource)) : Prop where
  balanced : Balanced Resource.uses ops
  ofCamera : ∀ resource ∈ Ledger.acquired ops, resource.ofCamera = false

theorem clean_nil : Clean [] := ⟨Balanced.nil, List.forall_mem_nil _⟩

section Pieces

theorem clean_bracket {items order : List Resource} {inner : List (Ledger.Op Resource)}
    (hinner : Clean inner) (hperm : items.Perm order) (hnodup : items.Nodup)
    (hkinds : ∀ resource ∈ Ledger.acquired inner, resource ∉ items ∧
      ∀ other ∈ items, other.uses resource = false)
    (horder : order.Pairwise fun item later => later.uses item = false)
    (hcamera : ∀ item ∈ items, item.ofCamera = false) :
    Clean (items.map .acquire ++ inner ++ order.map .release) := by
  constructor
  · exact hinner.balanced.bracket hperm hnodup (fun item hitem => (hkinds item hitem).1)
      (fun item hitem => (hkinds item hitem).2) horder
  · intro resource hresource
    simp only [Ledger.acquired_append, Ledger.acquired_map_acquire, Ledger.acquired_map_release,
      List.append_nil, List.mem_append] at hresource
    exact hresource.elim (hcamera resource) (hinner.ofCamera resource)

/-- One resource, or two in the reverse order, with nothing in between. -/
theorem clean_pair {resource : Resource} (h : resource.ofCamera = false) :
    Clean [.acquire resource, .release resource] := by
  have hbracket : Clean ([resource].map .acquire ++ [] ++ [resource].map .release) := by
    apply clean_bracket clean_nil (List.Perm.refl _) (List.pairwise_singleton _ _)
    · exact List.forall_mem_nil _
    · exact List.pairwise_singleton _ _
    · intro other hother
      rwa [List.mem_singleton.mp hother]
  exact hbracket

theorem clean_nested {outer inner : Resource} (hne : outer ≠ inner)
    (hcamera : outer.ofCamera = false ∧ inner.ofCamera = false)
    (huses : outer.uses inner = false) :
    Clean [.acquire outer, .acquire inner, .release inner, .release outer] := by
  have hbracket : Clean ([outer, inner].map .acquire ++ [] ++ [inner, outer].map .release) := by
    apply clean_bracket clean_nil (List.Perm.swap _ _ _)
    · exact List.nodup_cons.mpr ⟨by rwa [List.mem_singleton], List.pairwise_singleton _ _⟩
    · exact List.forall_mem_nil _
    · refine List.pairwise_cons.mpr ⟨?_, List.pairwise_singleton _ _⟩
      intro other hother
      rwa [List.mem_singleton.mp hother]
    · intro other hother
      cases hother with
      | head => exact hcamera.1
      | tail _ hother =>
          rw [List.mem_singleton.mp hother]
          exact hcamera.2
  exact hbracket

end Pieces

section Display

theorem ofCamera_of_display {item : Resource} (h : item.ofDisplay = true) :
    item.ofCamera = false := by
  cases item with
  | cameraFd fd => cases h
  | mapping index start length => cases h
  | stream => cases h
  | _ => rfl

def displayHeld : Option Display → List Resource
  | none => []
  | some display =>
      .displayBlock :: .displayFd display.fd ::
        (display.mem.map fun start => Resource.displayMemory start display.memSize).toList

/-- A display that was opened: `framebuffer_display_close` releases all it holds. -/
def DisplayReady (display : Option Display) : Prop :=
  framebufferDisplayClose display = (displayHeld display).reverse.map .release

theorem displayReady_none : DisplayReady none := rfl

theorem displayOpen_inversion (outcomes : DisplayOutcomes) :
    ((framebufferDisplayOpen outcomes).ret = -1 ∧ (framebufferDisplayOpen outcomes).out = none ∧
      ((framebufferDisplayOpen outcomes).ops = [] ∨
        (framebufferDisplayOpen outcomes).ops = [.acquire .displayBlock, .release .displayBlock] ∨
        ∃ fd : Nat, (framebufferDisplayOpen outcomes).ops = [.acquire .displayBlock,
          .acquire (.displayFd fd), .release (.displayFd fd), .release .displayBlock])) ∨
    ((framebufferDisplayOpen outcomes).ret = 0 ∧ ∃ fd start size : Nat,
      (framebufferDisplayOpen outcomes).out = some { fd := fd, mem := some start, memSize := size } ∧
      (framebufferDisplayOpen outcomes).ops =
        [.acquire .displayBlock, .acquire (.displayFd fd),
          .acquire (.displayMemory start size)]) := by
  unfold framebufferDisplayOpen
  split
  · exact Or.inl ⟨rfl, rfl, Or.inl rfl⟩
  · split
    · exact Or.inl ⟨rfl, rfl, Or.inr (Or.inl rfl)⟩
    · split
      · exact Or.inl ⟨rfl, rfl, Or.inr (Or.inr ⟨_, rfl⟩)⟩
      · split
        · exact Or.inl ⟨rfl, rfl, Or.inr (Or.inr ⟨_, rfl⟩)⟩
        · split
          · exact Or.inl ⟨rfl, rfl, Or.inr (Or.inr ⟨_, rfl⟩)⟩
          · exact Or.inr ⟨rfl, _, _, _, rfl, rfl⟩

/-- `framebuffer_display_open` cleans up, or hands out a display with all its resources. -/
theorem displayOpen_cases (outcomes : DisplayOutcomes) :
    ((framebufferDisplayOpen outcomes).ret = -1 ∧ (framebufferDisplayOpen outcomes).out = none ∧
      Clean (framebufferDisplayOpen outcomes).ops) ∨
    ((framebufferDisplayOpen outcomes).ret = 0 ∧
      (framebufferDisplayOpen outcomes).ops =
        (displayHeld (framebufferDisplayOpen outcomes).out).map .acquire ∧
      DisplayReady (framebufferDisplayOpen outcomes).out) := by
  cases displayOpen_inversion outcomes with
  | inl hfailed =>
      obtain ⟨hret, hout, hops⟩ := hfailed
      refine Or.inl ⟨hret, hout, ?_⟩
      rcases hops with hops | hops | ⟨fd, hops⟩ <;> rw [hops]
      · exact clean_nil
      · exact clean_pair rfl
      · exact clean_nested Resource.noConfusion ⟨rfl, rfl⟩ rfl
  | inr hopened =>
      obtain ⟨hret, fd, start, size, hout, hops⟩ := hopened
      have hfd : (fd : Int) ≠ -1 := by omega
      rw [hout]
      refine Or.inr ⟨hret, hops, ?_⟩
      rw [DisplayReady, framebufferDisplayClose, if_pos hfd]
      rfl

theorem displayOpen_kinds (outcomes : DisplayOutcomes) {item : Resource}
    (h : item ∈ Ledger.acquired (framebufferDisplayOpen outcomes).ops) :
    item.ofDisplay = true := by
  have hall : ∀ fd start size, item ∈ [Resource.displayBlock, .displayFd fd,
      .displayMemory start size] → item.ofDisplay = true := by
    intro fd start size hitem
    simp only [List.mem_cons, List.not_mem_nil, or_false] at hitem
    rcases hitem with rfl | rfl | rfl <;> rfl
  cases displayOpen_inversion outcomes with
  | inl hfailed =>
      rcases hfailed.2.2 with hops | hops | ⟨fd, hops⟩ <;> rw [hops] at h
      · cases h
      · exact hall 0 0 0 (List.mem_append_left _ h)
      · exact hall fd 0 0 (List.mem_append_left _ h)
  | inr hopened =>
      obtain ⟨-, fd, start, size, -, hops⟩ := hopened
      rw [hops] at h
      exact hall fd start size h

theorem displayHeld_ofDisplay {display : Option Display} {item : Resource}
    (h : item ∈ displayHeld display) : item.ofDisplay = true := by
  cases display with
  | none => cases h
  | some display =>
      cases h with
      | head => rfl
      | tail _ h =>
          cases h with
          | head => rfl
          | tail _ h =>
              obtain ⟨start, -, rfl⟩ := Option.map_eq_some_iff.mp (Option.mem_toList.mp h)
              rfl

theorem displayHeld_nodup (display : Option Display) : (displayHeld display).Nodup := by
  cases display with
  | none => exact List.nodup_nil
  | some display =>
      cases hmem : display.mem with
      | none => simp [displayHeld, hmem]
      | some start => simp [displayHeld, hmem]

theorem displayHeld_order (display : Option Display) :
    (displayHeld display).reverse.Pairwise fun item later => later.uses item = false := by
  cases display with
  | none => exact List.Pairwise.nil
  | some display =>
      cases hmem : display.mem with
      | none => simp [displayHeld, hmem, Resource.uses]
      | some start => simp [displayHeld, hmem, Resource.uses]

end Display

section Http

/-- The service, the capture thread and the socket, in the order of the label `out`. -/
def HttpLocals.served (locals : HttpLocals) : List Resource :=
  (if locals.captureStarted then [.captureThread] else []) ++
    (if locals.serverFd ≠ -1 then [.serverFd locals.serverFd] else []) ++
    (if locals.serviceInitialized then [.cond, .mutex] else [])

/-- What the local variables stand for, in the order in which it was acquired. -/
def HttpLocals.held (locals : HttpLocals) : List Resource :=
  displayHeld locals.display ++ (if locals.serviceInitialized then [.mutex, .cond] else []) ++
    (if locals.captureStarted then [.captureThread] else []) ++
    (if locals.serverFd ≠ -1 then [.serverFd locals.serverFd] else [])

theorem out_ops {locals : HttpLocals} (hdisplay : DisplayReady locals.display) (result : Int)
    (ops : List (Ledger.Op Resource)) : (locals.out result ops).ops =
      ops ++ (locals.served ++ (displayHeld locals.display).reverse).map .release := by
  have hclose : framebufferDisplayClose locals.display =
      (displayHeld locals.display).reverse.map .release := hdisplay
  rw [HttpLocals.out, HttpLocals.served, hclose]
  simp only [httpMjpegClose, httpServiceDestroy, List.map_append, apply_ite (List.map _),
    List.map_cons, List.map_nil]

theorem held_perm (locals : HttpLocals) :
    locals.held.Perm (locals.served ++ (displayHeld locals.display).reverse) := by
  have hservice : (if locals.serviceInitialized then [Resource.mutex, .cond] else []).Perm
      (if locals.serviceInitialized then [.cond, .mutex] else []) := by
    cases locals.serviceInitialized with
    | false => exact List.Perm.refl _
    | true => exact List.Perm.swap _ _ _
  have hdisplay := List.reverse_perm (displayHeld locals.display)
  rw [List.perm_iff_count]
  intro item
  have hservice' := hservice.count_eq item
  have hdisplay' := hdisplay.count_eq item
  simp only [HttpLocals.held, HttpLocals.served, List.count_append, hservice', hdisplay']
  omega

theorem served_kinds {locals : HttpLocals} {item : Resource} (h : item ∈ locals.served) :
    item.ofDisplay = false ∧ item.ofCamera = false := by
  simp only [HttpLocals.served, List.mem_append, List.mem_ite_nil_right, List.mem_cons,
    List.not_mem_nil, or_false] at h
  rcases h with (⟨-, rfl⟩ | ⟨-, rfl⟩) | ⟨-, rfl | rfl⟩ <;> exact ⟨rfl, rfl⟩

theorem served_nodup (locals : HttpLocals) : locals.served.Nodup := by
  rcases locals with ⟨serverFd, _ | _, _ | _, display⟩ <;> by_cases hfd : serverFd = -1 <;>
    simp [HttpLocals.served, hfd]

theorem served_order (locals : HttpLocals) :
    locals.served.Pairwise fun item later => later.uses item = false := by
  rcases locals with ⟨serverFd, _ | _, _ | _, display⟩ <;> by_cases hfd : serverFd = -1 <;>
    simp [HttpLocals.served, hfd, Resource.uses]

theorem uses_of_display {item other : Resource} (h : item.ofDisplay = true)
    (hother : other.ofDisplay = false) : item.uses other = false := by
  cases item with
  | displayBlock => cases other <;> rfl
  | displayFd fd =>
      cases other with
      | displayBlock => cases hother
      | _ => rfl
  | displayMemory start length =>
      cases other with
      | displayBlock => cases hother
      | displayFd fd => cases hother
      | _ => rfl
  | _ => cases h

theorem order_nodup (locals : HttpLocals) :
    (locals.served ++ (displayHeld locals.display).reverse).Nodup := by
  refine List.nodup_append.mpr ⟨served_nodup locals, ?_, ?_⟩
  · exact List.nodup_reverse.mpr (displayHeld_nodup locals.display)
  · intro item hitem other hother heq
    have hdisplay := displayHeld_ofDisplay (List.mem_reverse.mp hother)
    rw [← heq, (served_kinds hitem).1] at hdisplay
    exact Bool.false_ne_true hdisplay

theorem order_pairwise (locals : HttpLocals) :
    (locals.served ++ (displayHeld locals.display).reverse).Pairwise fun item later =>
      later.uses item = false := by
  refine List.pairwise_append.mpr ⟨served_order locals, displayHeld_order locals.display, ?_⟩
  intro item hitem other hother
  exact uses_of_display (displayHeld_ofDisplay (List.mem_reverse.mp hother)) (served_kinds hitem).1

theorem held_cases {locals : HttpLocals} {item : Resource} (h : item ∈ locals.held) :
    item.ofCamera = false ∧ (item.ofDisplay = true ∨ item ∈ locals.served) := by
  cases List.mem_append.mp ((held_perm locals).mem_iff.mp h) with
  | inl hserved => exact ⟨(served_kinds hserved).2, Or.inr hserved⟩
  | inr hdisplay =>
      have hkind := displayHeld_ofDisplay (List.mem_reverse.mp hdisplay)
      exact ⟨ofCamera_of_display hkind, Or.inl hkind⟩

/-- The label `out` makes a clean piece of what has been acquired and of the calls of the
step that has failed. -/
theorem out_clean {locals : HttpLocals} {inner : List (Ledger.Op Resource)} (result : Int)
    (hdisplay : DisplayReady locals.display) (hinner : Clean inner)
    (hkinds : ∀ item ∈ Ledger.acquired inner, item ∉ locals.held ∧
      ∀ other ∈ locals.held, other.uses item = false) :
    Clean (locals.out result (locals.held.map .acquire ++ inner)).ops := by
  rw [out_ops hdisplay]
  apply clean_bracket hinner (held_perm locals)
  · exact (held_perm locals).nodup_iff.mpr (order_nodup locals)
  · exact hkinds
  · exact order_pairwise locals
  · intro item hitem
    exact (held_cases hitem).1

theorem serviceInit_cases (mutexInit condInit : Bool) :
    ((httpServiceInit mutexInit condInit).ret = -1 ∧
      Clean (httpServiceInit mutexInit condInit).ops ∧
      ∀ item ∈ Ledger.acquired (httpServiceInit mutexInit condInit).ops, item = .mutex) ∨
    ((httpServiceInit mutexInit condInit).ret = 0 ∧
      (httpServiceInit mutexInit condInit).ops = [.acquire .mutex, .acquire .cond]) := by
  cases mutexInit with
  | false => exact Or.inl ⟨rfl, clean_nil, List.forall_mem_nil _⟩
  | true =>
      cases condInit with
      | false => exact Or.inl ⟨rfl, clean_pair rfl, fun _ h => List.mem_singleton.mp h⟩
      | true => exact Or.inr ⟨rfl, rfl⟩

theorem listen_cases (outcomes : ListenOutcomes) :
    ((httpMjpegListen outcomes).ret = -1 ∧ Clean (httpMjpegListen outcomes).ops ∧
      ∀ item ∈ Ledger.acquired (httpMjpegListen outcomes).ops, ∃ fd, item = .serverFd fd) ∨
    ((httpMjpegListen outcomes).ret ≠ -1 ∧ (httpMjpegListen outcomes).ops =
      [.acquire (.serverFd (httpMjpegListen outcomes).ret)]) := by
  have hpair : ∀ fd : Nat, ∀ item ∈ [Resource.serverFd fd], ∃ fd, item = .serverFd fd :=
    fun fd item hitem => ⟨fd, List.mem_singleton.mp hitem⟩
  unfold httpMjpegListen
  split
  · exact Or.inl ⟨rfl, clean_nil, List.forall_mem_nil _⟩
  · split
    · exact Or.inl ⟨rfl, clean_pair rfl, hpair _⟩
    · split
      · exact Or.inl ⟨rfl, clean_pair rfl, hpair _⟩
      · split
        · exact Or.inl ⟨rfl, clean_pair rfl, hpair _⟩
        · refine Or.inr ⟨?_, rfl⟩
          change ((_ : Nat) : Int) ≠ -1
          omega

theorem rounds_clean (config : CameraConfig) (failure : RoundFailure) (served : Nat) :
    Clean (acceptRounds config failure served).ops ∧
      ∀ item ∈ Ledger.acquired (acceptRounds config failure served).ops,
        item = .clientArgs ∨ ∃ fd, item = .clientFd fd := by
  induction served with
  | zero =>
      have hfd : ∀ fd : Nat, (fd : Int) ≠ -1 := by omega
      cases failure with
      | accept => exact ⟨clean_nil, List.forall_mem_nil _⟩
      | recv fd => exact ⟨clean_pair rfl, fun _ h => Or.inr ⟨fd, List.mem_singleton.mp h⟩⟩
      | calloc fd =>
          rw [acceptRounds, RoundFailure.ops, httpMjpegClose, if_pos (hfd fd)]
          exact ⟨clean_pair rfl, fun _ h => Or.inr ⟨fd, List.mem_singleton.mp h⟩⟩
      | createClient fd =>
          rw [acceptRounds, RoundFailure.ops, httpMjpegClose, if_pos (hfd fd)]
          have hbracket : Clean ([Resource.clientFd fd, .clientArgs].map .acquire ++ [] ++
              [Resource.clientFd fd, .clientArgs].map .release) := by
            apply clean_bracket clean_nil (List.Perm.refl _)
            all_goals simp [Ledger.acquired, Resource.uses, Resource.ofCamera]
          refine ⟨hbracket, ?_⟩
          intro item hitem
          change item ∈ [Resource.clientFd fd, .clientArgs] at hitem
          cases hitem with
          | head => exact Or.inr ⟨fd, rfl⟩
          | tail _ hitem => exact Or.inl (List.mem_singleton.mp hitem)
  | succ served ih =>
      rw [acceptRounds]
      split
      · exact ih
      · exact ⟨clean_nil, List.forall_mem_nil _⟩

section Branches
variable {display : Option Display} (hdisplay : DisplayReady display)
include hdisplay

theorem setup_clean {inner : List (Ledger.Op Resource)} (hinner : Clean inner)
    (hkinds : ∀ item ∈ Ledger.acquired inner, item = .mutex) :
    Clean (HttpLocals.out ⟨-1, false, false, display⟩ (-1)
      ((displayHeld display).map .acquire ++ inner)).ops := by
  have hheld : HttpLocals.held ⟨-1, false, false, display⟩ = displayHeld display := by
    simp [HttpLocals.held]
  rw [← hheld]
  apply out_clean (-1) hdisplay hinner
  intro item hitem
  rw [hkinds item hitem, hheld]
  refine ⟨fun hmem => Bool.noConfusion (displayHeld_ofDisplay hmem), ?_⟩
  intro other hother
  exact uses_of_display (displayHeld_ofDisplay hother) rfl

theorem created_clean : Clean (HttpLocals.out ⟨-1, true, false, display⟩ (-1)
    ((displayHeld display).map .acquire ++ [.acquire .mutex, .acquire .cond])).ops := by
  have hops : (displayHeld display).map Ledger.Op.acquire ++ [.acquire .mutex, .acquire .cond] =
      (HttpLocals.held ⟨-1, true, false, display⟩).map .acquire ++ [] := by
    simp [HttpLocals.held]
  rw [hops]
  exact out_clean (-1) hdisplay clean_nil (List.forall_mem_nil _)

theorem serving_clean (serverFd result : Int) {inner : List (Ledger.Op Resource)}
    (hinner : Clean inner)
    (hkinds : ∀ item ∈ Ledger.acquired inner, item = .clientArgs ∨ (∃ fd, item = .clientFd fd) ∨
      serverFd = -1 ∧ ∃ fd, item = .serverFd fd) :
    Clean (HttpLocals.out ⟨serverFd, true, true, display⟩ result
      ((displayHeld display).map .acquire ++ [.acquire .mutex, .acquire .cond] ++
        [.acquire .captureThread] ++
        (if serverFd ≠ -1 then [.acquire (.serverFd serverFd)] else []) ++ inner)).ops := by
  have hops : (displayHeld display).map .acquire ++ [.acquire .mutex, .acquire .cond] ++
      [.acquire .captureThread] ++
      (if serverFd ≠ -1 then [.acquire (.serverFd serverFd)] else []) ++ inner =
      (HttpLocals.held ⟨serverFd, true, true, display⟩).map .acquire ++ inner := by
    simp only [HttpLocals.held, List.map_append, apply_ite (List.map _), List.map_cons,
      List.map_nil, if_true]
  rw [hops]
  apply out_clean result hdisplay hinner
  intro item hitem
  have hkind := hkinds item hitem
  constructor
  · intro hmem
    cases (held_cases hmem).2 with
    | inl hdisplayed =>
        rcases hkind with rfl | ⟨fd, rfl⟩ | ⟨-, fd, rfl⟩ <;> cases hdisplayed
    | inr hserved =>
        rcases hkind with rfl | ⟨fd, rfl⟩ | ⟨rfl, fd, rfl⟩ <;> simp [HttpLocals.served] at hserved
  · intro other _
    rcases hkind with rfl | ⟨fd, rfl⟩ | ⟨-, fd, rfl⟩ <;> cases other <;> rfl

end Branches

theorem preview_cases (config : CameraConfig) (outcomes : DisplayOutcomes) {opened : DisplayCall}
    (h : opened = if config.fbPreview then framebufferDisplayOpen outcomes
      else { ret := 0, out := none, ops := [] }) :
    (opened.ret = -1 ∧ opened.out = none ∧ Clean opened.ops) ∨
    (opened.ret = 0 ∧ opened.ops = (displayHeld opened.out).map .acquire ∧
      DisplayReady opened.out) := by
  subst h
  split
  · exact displayOpen_cases outcomes
  · exact Or.inr ⟨rfl, rfl, displayReady_none⟩

/-- Wherever `camera_capture_http_mjpeg` fails, and when it succeeds, it cleans up. -/
theorem http_clean (config : CameraConfig) (outcomes : HttpOutcomes) :
    Clean (cameraCaptureHttpMjpeg config outcomes).ops := by
  unfold cameraCaptureHttpMjpeg
  split
  · exact clean_nil
  · dsimp only
    generalize hopened : (if config.fbPreview then framebufferDisplayOpen outcomes.display
      else { ret := 0, out := none, ops := [] }) = opened
    cases preview_cases config outcomes.display hopened.symm with
    | inl hfailed =>
        obtain ⟨hret, -, hclean⟩ := hfailed
        rw [if_pos (by rw [hret]; decide)]
        exact out_clean (-1) displayReady_none hclean fun item _ =>
          ⟨List.not_mem_nil, List.forall_mem_nil _⟩
    | inr hready =>
        obtain ⟨hret, hops, hdisplay⟩ := hready
        rw [if_neg (by rw [hret]; decide), hops]
        split
        · have hsetup := setup_clean hdisplay clean_nil (List.forall_mem_nil _)
          rwa [List.append_nil] at hsetup
        · cases serviceInit_cases outcomes.mutexInit outcomes.condInit with
          | inl hservice =>
              rw [if_pos (by rw [hservice.1]; decide)]
              exact setup_clean hdisplay hservice.2.1 hservice.2.2
          | inr hservice =>
              rw [if_neg (by rw [hservice.1]; decide), hservice.2]
              split
              · exact created_clean hdisplay
              · cases listen_cases outcomes.listen with
                | inl hlisten =>
                    rw [if_pos hlisten.1, hlisten.1]
                    have hserving := serving_clean hdisplay (-1) (-1) hlisten.2.1
                      fun item hitem => Or.inr (Or.inr ⟨rfl, hlisten.2.2 item hitem⟩)
                    rwa [if_neg (by decide), List.append_nil] at hserving
                | inr hlisten =>
                    obtain ⟨hrounds, hkinds⟩ :=
                      rounds_clean config outcomes.failure outcomes.served
                    rw [if_neg hlisten.1, hlisten.2]
                    have hserving := serving_clean hdisplay
                      (httpMjpegListen outcomes.listen).ret
                      (acceptRounds config outcomes.failure outcomes.served).ret hrounds
                      fun item hitem => (hkinds item hitem).imp_right Or.inl
                    rwa [if_pos hlisten.1] at hserving

end Http

section Loops

theorem displayClose_acquires (display : Option Display) :
    Ledger.acquired (framebufferDisplayClose display) = [] := by
  cases display with
  | none => rfl
  | some display =>
      rw [framebufferDisplayClose]
      cases display.mem <;> split <;> rfl

theorem display_clean (outcomes : DisplayOutcomes) :
    Clean ((framebufferDisplayOpen outcomes).ops ++
      framebufferDisplayClose (framebufferDisplayOpen outcomes).out) := by
  cases displayOpen_cases outcomes with
  | inl hfailed =>
      rw [hfailed.2.1, framebufferDisplayClose, List.append_nil]
      exact hfailed.2.2
  | inr hready =>
      obtain ⟨-, hops, hdisplay⟩ := hready
      have hclose : framebufferDisplayClose (framebufferDisplayOpen outcomes).out = _ := hdisplay
      rw [hops, hclose]
      have hbracket := clean_bracket clean_nil (List.reverse_perm _).symm
        (displayHeld_nodup (framebufferDisplayOpen outcomes).out)
        (List.forall_mem_nil _) (displayHeld_order _)
        (fun item hitem => ofCamera_of_display (displayHeld_ofDisplay hitem))
      rwa [List.append_nil] at hbracket

theorem framebuffer_clean (config : CameraConfig) (outcomes : LoopOutcomes) :
    Clean (outcomes.framebuffer config).ops := by
  unfold LoopOutcomes.framebuffer
  split
  · exact clean_nil
  · split
    · exact clean_nil
    · have hdisplay := display_clean outcomes.display
      dsimp only
      split
      · apply clean_bracket hdisplay (List.Perm.refl _) (List.pairwise_singleton _ _)
        · intro item hitem
          rw [Ledger.acquired_append, displayClose_acquires, List.append_nil] at hitem
          have hkind := displayOpen_kinds outcomes.display hitem
          refine ⟨fun hmem => ?_, fun other hother => ?_⟩
          · rw [List.mem_singleton.mp hmem] at hkind
            cases hkind
          · rw [List.mem_singleton.mp hother]
            rfl
        · exact List.pairwise_singleton _ _
        · intro item hitem
          rw [List.mem_singleton.mp hitem]
          rfl
      · simpa using hdisplay

theorem file_clean (config : CaptureConfig) (outcomes : LoopOutcomes) :
    Clean (outcomes.file config).ops := by
  unfold LoopOutcomes.file
  split
  · exact clean_nil
  · split
    · exact clean_nil
    · split
      · exact clean_nil
      · exact clean_pair rfl

theorem capture_clean (config : CaptureConfig) (outcomes : Outcomes) :
    Clean (cameraCapture config outcomes).ops := by
  unfold cameraCapture
  split
  · exact http_clean config.toCameraConfig outcomes.http
  · split
    · exact framebuffer_clean config.toCameraConfig outcomes.loops
    · exact file_clean config outcomes.loops

end Loops

end CameraGateway
