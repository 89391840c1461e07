import CameraGateway.Metatheory.CaptureCleanup

/-!
Every way through `main` releases what it has acquired. The capture functions are
balanced pieces of the ledger; the camera's descriptor, its mappings and the stream are
the bracket around them. The slots of `ctx->buffers` say what has been mapped, however
far the loop of `camera_configure` has come.
-/
namespace CameraGateway
open Ledger (Balanced)

section Mappings
variable {driver : Driver} {ctx : CameraContext} {i n : Nat}

theorem setBuffer_length (buffer : CameraBuffer) :
    (ctx.setBuffer i buffer).buffers.length = ctx.buffers.length :=
  List.length_set

theorem setBuffer_slot (h : i < ctx.buffers.length) (buffer : CameraBuffer) :
    (ctx.setBuffer i buffer).buffers[i]? = some buffer :=
  List.getElem?_set_self h

theorem setBuffer_other {j : Nat} (h : j ≠ i) (buffer : CameraBuffer) :
    (ctx.setBuffer i buffer).buffers[j]? = ctx.buffers[j]? :=
  List.getElem?_set_ne h.symm

def slotMapping (ctx : CameraContext) (index : Nat) : List Resource :=
  (ctx.buffers[index]?.bind fun buffer =>
    buffer.start.map fun start => Resource.mapping index start buffer.length).toList

def mappings (ctx : CameraContext) (i : Nat) : Nat → List Resource
  | 0 => []
  | n + 1 => slotMapping ctx i ++ mappings ctx (i + 1) n

theorem mappings_congr {ctx' : CameraContext}
    (h : ∀ j, i ≤ j → ctx'.buffers[j]? = ctx.buffers[j]?) :
    mappings ctx' i n = mappings ctx i n := by
  induction n generalizing i with
  | zero => rfl
  | succ n ih =>
      rw [mappings, mappings, slotMapping, slotMapping, h i (Nat.le_refl i),
        ih fun j hj => h j (Nat.le_of_succ_le hj)]

theorem mappings_setBuffer (buffer : CameraBuffer) :
    mappings (ctx.setBuffer i buffer) (i + 1) n = mappings ctx (i + 1) n := by
  apply mappings_congr
  intro j hj
  exact setBuffer_other (Nat.ne_of_gt hj) buffer

theorem mem_mappings {item : Resource} (h : item ∈ mappings ctx i n) :
    ∃ index start length, item = .mapping index start length ∧ i ≤ index := by
  induction n generalizing i with
  | zero => cases h
  | succ n ih =>
      cases List.mem_append.mp h with
      | inl hslot =>
          simp only [slotMapping, Option.mem_toList, Option.bind_eq_some_iff,
            Option.map_eq_some_iff] at hslot
          obtain ⟨buffer, -, start, -, rfl⟩ := hslot
          exact ⟨i, start, buffer.length, rfl, Nat.le_refl i⟩
      | inr hrest =>
          obtain ⟨index, start, length, heq, hindex⟩ := ih hrest
          exact ⟨index, start, length, heq, Nat.le_of_succ_le hindex⟩

theorem mappings_nodup (ctx : CameraContext) (i n : Nat) : (mappings ctx i n).Nodup := by
  induction n generalizing i with
  | zero => exact List.nodup_nil
  | succ n ih =>
      refine List.nodup_append.mpr ⟨?_, ih (i + 1), ?_⟩
      · unfold slotMapping
        cases ctx.buffers[i]?.bind _ with
        | none => exact List.nodup_nil
        | some item => exact List.pairwise_singleton _ _
      · intro item hitem other hother heq
        simp only [slotMapping, Option.mem_toList, Option.bind_eq_some_iff,
          Option.map_eq_some_iff] at hitem
        obtain ⟨buffer, -, start, -, rfl⟩ := hitem
        obtain ⟨index, start', length, rfl, hindex⟩ := mem_mappings hother
        cases heq
        omega

theorem mappings_order (ctx : CameraContext) (i n : Nat) :
    (mappings ctx i n).Pairwise fun item later => later.uses item = false := by
  refine List.Pairwise.imp_of_mem ?_ (mappings_nodup ctx i n)
  intro item later hitem hlater _
  obtain ⟨index, start, length, rfl, -⟩ := mem_mappings hitem
  obtain ⟨index', start', length', rfl, -⟩ := mem_mappings hlater
  rfl

theorem mappings_unmapped (h : ∀ j buffer, i ≤ j → ctx.buffers[j]? = some buffer →
    buffer.start = none) : mappings ctx i n = [] := by
  induction n generalizing i with
  | zero => rfl
  | succ n ih =>
      rw [mappings, ih fun j buffer hj => h j buffer (Nat.le_of_succ_le hj), List.append_nil,
        slotMapping]
      cases hbuffer : ctx.buffers[i]? with
      | none => rfl
      | some buffer =>
          rw [Option.bind_some, h i buffer (Nat.le_refl i) hbuffer]
          rfl

/-- `camera_close` unmaps the mappings of the slots it reads. -/
theorem unmapBuffers_eq (h : i + n ≤ ctx.buffers.length) :
    unmapBuffers ctx i n = some ((mappings ctx i n).map .release) := by
  induction n generalizing i ctx with
  | zero => rfl
  | succ n ih =>
      have hi : i < ctx.buffers.length := by omega
      rw [unmapBuffers, List.getElem?_eq_getElem hi, mappings, slotMapping,
        List.getElem?_eq_getElem hi, Option.bind_some]
      dsimp only
      cases hstart : ctx.buffers[i].start with
      | none =>
          rw [ih (by omega)]
          rfl
      | some start =>
          have hlength : i + 1 + n ≤
              (ctx.setBuffer i { start := none, length := 0 }).buffers.length := by
            rw [setBuffer_length]
            omega
          rw [ih hlength, mappings_setBuffer]
          rfl

/-- What `mmap` has returned is in the slots when the loop of `camera_configure` ends. -/
theorem mapBuffers_cases (hlength : ctx.buffers.length = cameraMaxBuffers)
    (hfits : i + n ≤ cameraMaxBuffers)
    (hempty : ∀ j buffer, i ≤ j → ctx.buffers[j]? = some buffer → buffer.start = none) :
    ∃ call, mapBuffers driver ctx i n = some call ∧
      call.ops = (mappings call.ctx i n).map .acquire ∧
      call.ctx.buffers.length = cameraMaxBuffers ∧ call.ctx.fd = ctx.fd ∧
      call.ctx.bufferCount = ctx.bufferCount ∧
      ∀ j, j < i → call.ctx.buffers[j]? = ctx.buffers[j]? := by
  induction n generalizing i ctx with
  | zero => exact ⟨_, rfl, rfl, hlength, rfl, rfl, fun _ _ => rfl⟩
  | succ n ih =>
      rw [mapBuffers]
      cases driver.queryBuffer i with
      | none =>
          refine ⟨_, rfl, ?_, hlength, rfl, rfl, fun _ _ => rfl⟩
          rw [mappings_unmapped hempty]
          rfl
      | some length =>
          have hi : i < cameraMaxBuffers := by omega
          have hslot : ∀ new, (ctx.setBuffer i new).buffers[i]? = some new := fun new =>
            setBuffer_slot (by omega) new
          -- a slot after this one is still empty, whatever is stored here
          have hempty' : ∀ new j buffer, i + 1 ≤ j →
              (ctx.setBuffer i new).buffers[j]? = some buffer → buffer.start = none := by
            intro new j buffer hj hbuffer
            rw [setBuffer_other (Nat.ne_of_gt hj)] at hbuffer
            exact hempty j buffer (Nat.le_of_succ_le hj) hbuffer
          have hbefore : ∀ new j, j < i →
              (ctx.setBuffer i new).buffers[j]? = ctx.buffers[j]? := fun new j hj =>
            setBuffer_other (Nat.ne_of_lt hj) new
          have hlength' : ∀ new, (ctx.setBuffer i new).buffers.length = cameraMaxBuffers :=
            fun new => (setBuffer_length new).trans hlength
          dsimp only
          rw [if_pos hi]
          cases driver.mmap i with
          | none =>
              refine ⟨_, rfl, ?_, hlength' _, rfl, rfl, hbefore _⟩
              rw [mappings_unmapped]
              · rfl
              · intro j buffer hj hbuffer
                cases Nat.eq_or_lt_of_le hj with
                | inl heq =>
                    rw [← heq, hslot, Option.some.injEq] at hbuffer
                    rw [← hbuffer]
                | inr hlt => exact hempty' _ j buffer hlt hbuffer
          | some start =>
              obtain ⟨call, hcall, hops, hcallLength, hfd, hcount, hkept⟩ :=
                ih (hlength' { start := some start, length := length }) (by omega) (hempty' _)
              refine ⟨{ call with ops := .acquire (.mapping i start length) :: call.ops }, ?_, ?_,
                hcallLength, hfd, hcount, ?_⟩
              · dsimp only
                rw [hcall]
                rfl
              · -- the later buffers have left this slot as it is
                have hmapped : slotMapping call.ctx i = [.mapping i start length] := by
                  rw [slotMapping, hkept i (Nat.lt_succ_self i), hslot]
                  rfl
                rw [mappings, hmapped, List.map_append, ← hops]
                rfl
              · intro j hj
                exact (hkept j (Nat.lt_succ_of_lt hj)).trans (hbefore _ j hj)

end Mappings

section Main
variable {driver : Driver} {ctx : CameraContext}

/-- The slots hold what has been mapped, and `camera_close` reads no others. -/
structure Mapped (fd : Int) (call : CameraCall) : Prop where
  ops_eq : call.ops = (mappings call.ctx 0 call.ctx.bufferCount).map .acquire
  fd_eq : call.ctx.fd = fd
  count_le : call.ctx.bufferCount ≤ call.ctx.buffers.length

theorem mapped_nothing {fd : Int} {call : CameraCall} (hops : call.ops = [])
    (hcount : call.ctx.bufferCount = 0) (hfd : call.ctx.fd = fd) : Mapped fd call := by
  constructor
  · rw [hops, hcount]
    rfl
  · exact hfd
  · rw [hcount]
    exact Nat.zero_le _

theorem mapBuffers_mapped (hlength : ctx.buffers.length = cameraMaxBuffers)
    (hfits : ctx.bufferCount ≤ cameraMaxBuffers)
    (hempty : ∀ (j : Nat) (buffer : CameraBuffer), ctx.buffers[j]? = some buffer →
      buffer.start = none) :
    ∃ call, mapBuffers driver ctx 0 ctx.bufferCount = some call ∧ Mapped ctx.fd call := by
  have hfits' : 0 + ctx.bufferCount ≤ cameraMaxBuffers := by rwa [Nat.zero_add]
  obtain ⟨call, hcall, hops, hlength', hfd, hcount, -⟩ :=
    mapBuffers_cases hlength hfits' fun j buffer _ => hempty j buffer
  refine ⟨call, hcall, ?_, hfd, ?_⟩
  · rw [hops, hcount]
  · rw [hcount, hlength']
    exact hfits

/-- `camera_configure` leaves in the slots what it has mapped, whether it succeeds or not. -/
theorem configure_mapped (hlength : ctx.buffers.length = cameraMaxBuffers)
    (hcount : ctx.bufferCount = 0)
    (hempty : ∀ (j : Nat) (buffer : CameraBuffer), ctx.buffers[j]? = some buffer →
      buffer.start = none)
    (hgrant : ∀ count, driver.requestBuffers = some count → count ≤ cameraMaxBuffers) :
    ∃ call, cameraConfigure ctx driver = some call ∧ Mapped ctx.fd call := by
  unfold cameraConfigure
  dsimp only
  split
  · exact ⟨_, rfl, mapped_nothing rfl hcount rfl⟩
  · split
    · exact ⟨_, rfl, mapped_nothing rfl hcount rfl⟩
    · split
      · exact ⟨_, rfl, mapped_nothing rfl hcount rfl⟩
      · split
        · exact ⟨_, rfl, mapped_nothing rfl hcount rfl⟩
        · split
          · exact ⟨_, rfl, mapped_nothing rfl hcount rfl⟩
          · rename_i count hrequested
            split
            · exact ⟨_, rfl, mapped_nothing rfl hcount rfl⟩
            · exact mapBuffers_mapped hlength (hgrant count hrequested) hempty

theorem uses_of_camera {item other : Resource} (h : item.ofCamera = true)
    (hother : other.ofCamera = false) : item.uses other = false := by
  cases item with
  | cameraFd fd => rfl
  | mapping index start length =>
      cases other with
      | cameraFd fd => cases hother
      | _ => rfl
  | stream =>
      cases other with
      | cameraFd fd => cases hother
      | mapping index start length => cases hother
      | _ => rfl
  | _ => cases h

theorem camera_cases {fd : Int} {n : Nat} {item : Resource}
    (h : item ∈ mappings ctx 0 n ++ [Resource.cameraFd fd]) :
    (∃ index start length, item = .mapping index start length) ∨ item = .cameraFd fd := by
  cases List.mem_append.mp h with
  | inl hmapped =>
      obtain ⟨index, start, length, heq, -⟩ := mem_mappings hmapped
      exact Or.inl ⟨index, start, length, heq⟩
  | inr hfd => exact Or.inr (List.mem_singleton.mp hfd)

/-- The mappings before the descriptor: no resource twice, none before what uses it. -/
theorem camera_order (ctx : CameraContext) (fd : Int) (n : Nat) :
    (mappings ctx 0 n ++ [Resource.cameraFd fd]).Nodup ∧
      (mappings ctx 0 n ++ [Resource.cameraFd fd]).Pairwise fun item later =>
        later.uses item = false := by
  constructor
  · refine List.nodup_append.mpr ⟨mappings_nodup ctx 0 n, List.pairwise_singleton _ _, ?_⟩
    intro item hitem other hother heq
    obtain ⟨index, start, length, rfl, -⟩ := mem_mappings hitem
    cases heq.trans (List.mem_singleton.mp hother)
  · refine List.pairwise_append.mpr ⟨mappings_order ctx 0 n, List.pairwise_singleton _ _, ?_⟩
    intro item _ other hother
    rw [List.mem_singleton.mp hother]
    rfl

/-- The stream, if there is one, before them. -/
theorem streaming_order (ctx : CameraContext) (fd : Int) (n : Nat) {streaming : List Resource}
    (hstreaming : streaming = [] ∨ streaming = [.stream]) :
    (streaming ++ (mappings ctx 0 n ++ [Resource.cameraFd fd])).Nodup ∧
      ((streaming ++ (mappings ctx 0 n ++ [Resource.cameraFd fd])).Pairwise fun item later =>
        later.uses item = false) ∧
      ∀ item ∈ streaming ++ (mappings ctx 0 n ++ [Resource.cameraFd fd]),
        item.ofCamera = true := by
  obtain ⟨hnodup, horder⟩ := camera_order ctx fd n
  have hkind : ∀ item ∈ mappings ctx 0 n ++ [Resource.cameraFd fd],
      item.ofCamera = true ∧ item ≠ .stream ∧ item.uses .stream = false := by
    intro item hitem
    rcases camera_cases hitem with ⟨index, start, length, rfl⟩ | rfl
    · exact ⟨rfl, Resource.noConfusion, rfl⟩
    · exact ⟨rfl, Resource.noConfusion, rfl⟩
  cases hstreaming with
  | inl hnil =>
      rw [hnil]
      exact ⟨hnodup, horder, fun item hitem => (hkind item hitem).1⟩
  | inr hone =>
      rw [hone]
      refine ⟨List.nodup_cons.mpr ⟨fun hmem => (hkind _ hmem).2.1 rfl, hnodup⟩,
        List.pairwise_cons.mpr ⟨fun item hitem => (hkind item hitem).2.2, horder⟩, ?_⟩
      intro item hitem
      cases hitem with
      | head => rfl
      | tail _ hitem => exact (hkind item hitem).1

theorem camera_balanced (ctx : CameraContext) (fd : Int) (n : Nat) {streaming : List Resource}
    (hstreaming : streaming = [] ∨ streaming = [.stream])
    {inner : List (Ledger.Op Resource)} (hinner : Clean inner) :
    Balanced Resource.uses ((Resource.cameraFd fd :: mappings ctx 0 n ++ streaming).map .acquire ++
      inner ++ (streaming ++ (mappings ctx 0 n ++ [Resource.cameraFd fd])).map .release) := by
  have hperm : (Resource.cameraFd fd :: mappings ctx 0 n ++ streaming).Perm
      (streaming ++ (mappings ctx 0 n ++ [Resource.cameraFd fd])) :=
    ((List.perm_append_singleton _ _).symm.append_right _).trans List.perm_append_comm
  obtain ⟨hnodup, horder, hkind⟩ := streaming_order ctx fd n hstreaming
  have hcamera : ∀ item ∈ Resource.cameraFd fd :: mappings ctx 0 n ++ streaming,
      item.ofCamera = true := fun item hitem => hkind item (hperm.mem_iff.mp hitem)
  apply hinner.balanced.bracket hperm (hperm.nodup_iff.mpr hnodup)
  · intro item hitem hmem
    have houtside := hinner.ofCamera item hitem
    rw [hcamera item hmem] at houtside
    cases houtside
  · intro item hitem other hother
    exact uses_of_camera (hcamera other hother) (hinner.ofCamera item hitem)
  · exact horder

theorem close_eq (hfd : ctx.fd ≠ -1) (hcount : ctx.bufferCount ≤ ctx.buffers.length) :
    cameraClose ctx =
      some ((mappings ctx 0 ctx.bufferCount ++ [Resource.cameraFd ctx.fd]).map .release) := by
  have hunmapped : unmapBuffers ctx 0 ctx.bufferCount = _ :=
    unmapBuffers_eq (by rwa [Nat.zero_add])
  rw [cameraClose, hunmapped, if_pos hfd, Option.map_some, List.map_append]
  rfl

theorem start_cases (ctx : CameraContext) (driver : Driver) :
    (cameraStart ctx driver).ret ≠ 0 ∧ (cameraStart ctx driver).ops = [] ∨
      (cameraStart ctx driver).ret = 0 ∧ (cameraStart ctx driver).ops = [.acquire .stream] := by
  have hfailed : (-1 : Int) ≠ 0 := by decide
  unfold cameraStart
  split
  · exact Or.inl ⟨hfailed, rfl⟩
  · split
    · exact Or.inl ⟨hfailed, rfl⟩
    · exact Or.inr ⟨rfl, rfl⟩

/-- `camera_open` leaves a context without mappings. -/
theorem open_cases (config : CaptureConfig) (driver : Driver) :
    (cameraOpen config driver).ret ≠ 0 ∧ (cameraOpen config driver).ops = [] ∨
      (cameraOpen config driver).ret = 0 ∧ (cameraOpen config driver).ctx.fd ≠ -1 ∧
        (cameraOpen config driver).ops =
          [.acquire (.cameraFd (cameraOpen config driver).ctx.fd)] := by
  have hfailed : (-1 : Int) ≠ 0 := by decide
  unfold cameraOpen
  dsimp only
  split
  · exact Or.inl ⟨hfailed, rfl⟩
  · split
    · exact Or.inl ⟨hfailed, rfl⟩
    · refine Or.inr ⟨rfl, ?_, rfl⟩
      change ((_ : Nat) : Int) ≠ -1
      omega

theorem open_empty (config : CaptureConfig) (driver : Driver) :
    (cameraOpen config driver).ctx.buffers.length = cameraMaxBuffers ∧
      (cameraOpen config driver).ctx.bufferCount = 0 ∧
      ∀ (j : Nat) (buffer : CameraBuffer),
        (cameraOpen config driver).ctx.buffers[j]? = some buffer → buffer.start = none := by
  have hbuffers : (cameraOpen config driver).ctx.buffers =
      List.replicate cameraMaxBuffers { start := none, length := 0 } ∧
      (cameraOpen config driver).ctx.bufferCount = 0 := by
    unfold cameraOpen
    dsimp only
    split
    · exact ⟨rfl, rfl⟩
    · split <;> exact ⟨rfl, rfl⟩
  refine ⟨?_, hbuffers.2, ?_⟩
  · rw [hbuffers.1, List.length_replicate]
  · intro j buffer hbuffer
    rw [hbuffers.1, List.getElem?_replicate] at hbuffer
    split at hbuffer
    · cases hbuffer
      rfl
    · cases hbuffer

/-- From the label `out_close` on, after a clean piece with the stream or without. -/
theorem outClose_balanced {fd : Int} {call : CameraCall} (hmapped : Mapped fd call) (hfd : fd ≠ -1)
    {streaming : List Resource} (hstreaming : streaming = [] ∨ streaming = [.stream])
    {inner : List (Ledger.Op Resource)} (hinner : Clean inner) (ret : Int) (started : Bool) :
    ∃ last, outClose call.ctx ret started ([.acquire (.cameraFd fd)] ++ call.ops ++
        streaming.map .acquire ++ inner ++ streaming.map .release) = some last ∧
      last.started = started ∧ Balanced Resource.uses last.ops ∧
      (.stream ∈ Ledger.acquired last.ops ↔ .stream ∈ streaming) := by
  have hfd' : call.ctx.fd ≠ -1 := by rwa [hmapped.fd_eq]
  have hclose := close_eq hfd' hmapped.count_le
  rw [hmapped.fd_eq] at hclose
  refine ⟨_, by rw [outClose, hclose, Option.map_some], rfl, ?_, ?_⟩
  · have hbalanced := camera_balanced call.ctx fd call.ctx.bufferCount hstreaming hinner
    rw [hmapped.ops_eq]
    simpa only [List.map_append, List.map_cons, List.map_nil, List.append_assoc, List.cons_append,
      List.nil_append] using hbalanced
  · rw [hmapped.ops_eq]
    simp only [Ledger.acquired_append, Ledger.acquired_map_acquire, Ledger.acquired_map_release,
      List.append_nil, List.mem_append]
    constructor
    · rintro (((hopen | hmapping) | hstream) | hcapture)
      · cases List.mem_singleton.mp hopen
      · obtain ⟨index, start, length, heq, -⟩ := mem_mappings hmapping
        cases heq
      · exact hstream
      · cases hinner.ofCamera _ hcapture
    · intro hstream
      exact Or.inl (Or.inr hstream)

/-- The run of `main`: a balanced piece, with the stream in it if `camera_start` returned 0. -/
theorem captureMain_balanced (config : CaptureConfig) (outcomes : Outcomes)
    (hgrant : ∀ count, outcomes.driver.requestBuffers = some count → count ≤ cameraMaxBuffers) :
    ∃ call, captureMain config outcomes = some call ∧ Balanced Resource.uses call.ops ∧
      (Resource.stream ∈ Ledger.acquired call.ops ↔ call.started = true) := by
  unfold captureMain
  dsimp only
  cases open_cases config outcomes.driver with
  | inl hfailed =>
      rw [if_pos hfailed.1, hfailed.2]
      refine ⟨_, rfl, Balanced.nil, ?_⟩
      exact iff_of_false List.not_mem_nil Bool.false_ne_true
  | inr hopened =>
      obtain ⟨hret, hfd, hops⟩ := hopened
      obtain ⟨hlength, hcount, hempty⟩ := open_empty config outcomes.driver
      obtain ⟨configured, hconfigured, hmapped⟩ :=
        configure_mapped hlength hcount hempty hgrant
      have hstop : cameraStop configured.ctx = [.release .stream] :=
        if_pos (by rwa [hmapped.fd_eq])
      have hunstarted := outClose_balanced hmapped hfd (Or.inl rfl) clean_nil 1 false
      simp only [List.map_nil, List.append_nil] at hunstarted
      have hfailed : ∃ last, outClose configured.ctx 1 false
          ([.acquire (.cameraFd (cameraOpen config outcomes.driver).ctx.fd)] ++ configured.ops) =
            some last ∧ Balanced Resource.uses last.ops ∧
          (Resource.stream ∈ Ledger.acquired last.ops ↔ last.started = true) := by
        obtain ⟨last, hlast, hnot, hbalanced, hstream⟩ := hunstarted
        refine ⟨last, hlast, hbalanced, ?_⟩
        rw [hstream, hnot]
        exact iff_of_false List.not_mem_nil Bool.false_ne_true
      rw [if_neg (not_not.mpr hret), hconfigured]
      dsimp only
      rw [hops, hstop]
      split
      · exact hfailed
      · cases start_cases configured.ctx outcomes.driver with
        | inl hstart =>
            rw [if_pos hstart.1, hstart.2, List.append_nil]
            exact hfailed
        | inr hstart =>
            rw [if_neg (not_not.mpr hstart.1), hstart.2]
            obtain ⟨last, hlast, hstarted, hbalanced, hstream⟩ :=
              outClose_balanced hmapped hfd (Or.inr rfl)
                (capture_clean configured.ctx.config outcomes)
                (if (cameraCapture configured.ctx.config outcomes).ret = 0 then 0 else 1) true
            refine ⟨last, hlast, hbalanced, ?_⟩
            rw [hstream, hstarted]
            exact iff_of_true List.mem_cons_self rfl

theorem uses_ne {item other : Resource} (h : other.uses item = true) : other ≠ item := by
  rintro rfl
  cases other <;> cases h

end Main

/-- For every outcome of the calls, if the driver grants no more buffers than it was asked
for: when `main` returns, everything acquired has been released exactly once and nothing
else has, VIDIOC_STREAMOFF was issued if and only if `camera_start` succeeded, and no
resource was released while another one that uses it was held. -/
theorem main_releases_what_it_acquires (config : CaptureConfig) (outcomes : Outcomes)
    (hgrant : ∀ count, outcomes.driver.requestBuffers = some count → count ≤ cameraMaxBuffers) :
    ∃ call, captureMain config outcomes = some call ∧
      (∃ book, Ledger.after Resource.uses call.ops = some book ∧ book.held = []) ∧
      (∀ item, (Ledger.released call.ops).count item = (Ledger.acquired call.ops).count item ∧
        (Ledger.acquired call.ops).count item ≤ 1) ∧
      (.stream ∈ Ledger.released call.ops ↔ call.started = true) ∧
      ∀ before item later other, call.ops = before ++ .release item :: later →
        other.uses item = true → other ∈ Ledger.acquired call.ops →
        other ∈ Ledger.released before := by
  obtain ⟨call, hcall, hbalanced, hstream⟩ := captureMain_balanced config outcomes hgrant
  have hholds : Ledger.Holds Resource.uses call.ops [] := by
    apply hbalanced Ledger.Holds.nil
    · intro item _
      exact List.not_mem_nil
    · intro item _ other hother
      cases hother
    · intro item _ other hother
      cases hother
  have hcount : ∀ item, (Ledger.released call.ops).count item =
      (Ledger.acquired call.ops).count item := by
    intro item
    rw [← hholds.count_eq item, List.count_nil, Nat.zero_add]
  refine ⟨call, hcall, ?_, ?_, ?_, ?_⟩
  · obtain ⟨book, hafter, hheld⟩ := hholds
    exact ⟨book, hafter, hheld.eq_nil⟩
  · intro item
    exact ⟨hcount item, List.nodup_iff_count.mp hholds.acquired_nodup item⟩
  · rw [← hstream, ← List.count_pos_iff, ← List.count_pos_iff, hcount]
  · intro before item later other hops huses hother
    rw [hops] at hholds hother
    exact hholds.released_before huses (uses_ne huses) hother

def previewConfig : CaptureConfig where
  device := ascii "/dev/video1"
  width := 640
  height := 480
  fps := 30
  frameCount := 0
  fbPreview := true
  motionDetect := false
  motionThreshold := 20
  motionSave := false
  motionDir := []
  pixelFormat := v4l2PixFmtMjpeg
  output := []
  frameDir := []
  noSave := true
  saveFrames := false
  httpMjpeg := true

def bindFails : Outcomes :=
  let display : DisplayOutcomes :=
    { calloc := true, openDevice := some 4, fixInfo := some 768000, varInfo := true
      mmap := some 0x20000 }
  { driver :=
      { stat := some true, openDevice := some 3, queryCap := some 0x04000001
        setFormat := some { width := 640, height := 480, pixelFormat := v4l2PixFmtMjpeg }
        requestBuffers := some 2, queryBuffer := fun _ => some 4096
        mmap := fun i => some (0x10000 + 0x1000 * i), queueBuffer := fun _ => true
        streamOn := true }
    http :=
      { display := display, directory := true, mutexInit := true, condInit := true
        createCapture := true, served := 0, failure := .accept
        listen := { socket := some 5, setsockopt := true, bind := false, listen := true } }
    loops := { malloc := true, display := display, opened := true, loop := true } }

theorem main_releases_what_it_acquires_bindFails :
    ∃ call, captureMain previewConfig bindFails = some call ∧
      (call.ret = 1 ∧ call.started = true ∧ Ledger.released call.ops =
        [.serverFd 5, .captureThread, .cond, .mutex, .displayMemory 0x20000 768000, .displayFd 4,
          .displayBlock, .stream, .mapping 0 0x10000 4096, .mapping 1 0x11000 4096,
          .cameraFd 3]) ∧
      ∀ item, (Ledger.released call.ops).count item = (Ledger.acquired call.ops).count item := by
  have hrun : (captureMain previewConfig bindFails).any (fun call =>
      decide (call.ret = 1 ∧ call.started = true ∧ Ledger.released call.ops =
        [.serverFd 5, .captureThread, .cond, .mutex, .displayMemory 0x20000 768000, .displayFd 4,
          .displayBlock, .stream, .mapping 0 0x10000 4096, .mapping 1 0x11000 4096,
          .cameraFd 3])) = true := by
    decide
  have hgrant : ∀ count, bindFails.driver.requestBuffers = some count →
      count ≤ cameraMaxBuffers := by
    intro count hcount
    cases hcount
    decide
  obtain ⟨call, hcall, -, hcount, -⟩ :=
    main_releases_what_it_acquires previewConfig bindFails hgrant
  rw [hcall] at hrun
  exact ⟨call, hcall, of_decide_eq_true hrun, fun item => (hcount item).1⟩

end CameraGateway
