import CameraGateway.Core.BufferTable
import CameraGateway.Metatheory.BufferOwnership
import CameraGateway.Metatheory.ResourceRelease

/-!
The indices of `ctx->buffers`. `camera_configure` refuses a grant of fewer than two buffers but
not one of more than the table holds, so the accesses stay in the table, and consumers get
mappings, in all runs with a driver exactly when it grants no more than was asked for.
-/
namespace CameraGateway
open TransitionSystem

section Configure
variable {driver : Driver} {ctx : CameraContext} {i n : Nat}

theorem mapAccesses_lt (hfits : i + n ≤ cameraMaxBuffers) :
    ∀ j ∈ mapAccesses driver i n, j < cameraMaxBuffers := by
  induction n generalizing i with
  | zero => simp [mapAccesses]
  | succ n ih =>
      have hi : i < cameraMaxBuffers := by omega
      rw [mapAccesses]
      cases driver.queryBuffer i with
      | none => simp
      | some length =>
          intro j hj
          rcases List.mem_cons.mp hj with rfl | hrest
          · exact hi
          · split at hrest
            · exact ih (by omega) j hrest
            · cases hrest

/-- The loop writes no entry before its first one, and those from there on hold mappings if it
succeeds. -/
theorem mapBuffers_filled {call : CameraCall} (hlength : ctx.buffers.length = cameraMaxBuffers)
    (h : mapBuffers driver ctx i n = some call) :
    call.ctx.buffers.length = cameraMaxBuffers ∧ call.ctx.bufferCount = ctx.bufferCount ∧
      (∀ j < i, call.ctx.buffers[j]? = ctx.buffers[j]?) ∧
      (call.ret = 0 → ∀ j, i ≤ j → j < i + n →
        ∃ buffer, call.ctx.buffers[j]? = some buffer ∧ buffer.start ≠ none) := by
  induction n generalizing i ctx call with
  | zero =>
      rw [mapBuffers, Option.some.injEq] at h
      rw [← h]
      exact ⟨hlength, rfl, fun _ _ => rfl, fun _ j hj hlt => absurd hlt (by omega)⟩
  | succ n ih =>
      rw [mapBuffers] at h
      cases hquery : driver.queryBuffer i with
      | none =>
          simp only [hquery, Option.some.injEq] at h
          rw [← h]
          exact ⟨hlength, rfl, fun _ _ => rfl, fun hok => absurd hok (by simp)⟩
      | some length =>
          simp only [hquery] at h
          split at h
          · rename_i hi
            cases hmap : driver.mmap i with
            | none =>
                simp only [hmap, Option.some.injEq] at h
                rw [← h]
                refine ⟨(setBuffer_length _).trans hlength, rfl, ?_,
                  fun hok => absurd hok (by simp)⟩
                intro j hj
                exact setBuffer_other (Nat.ne_of_lt hj) _
            | some start =>
                simp only [hmap, Option.map_eq_some_iff] at h
                obtain ⟨rest, hrest, rfl⟩ := h
                obtain ⟨hlength', hcount, hkept, hfilled⟩ :=
                  ih ((setBuffer_length _).trans hlength) hrest
                refine ⟨hlength', hcount, ?_, ?_⟩
                · intro j hj
                  exact (hkept j (Nat.lt_succ_of_lt hj)).trans
                    (setBuffer_other (Nat.ne_of_lt hj) _)
                · intro hok j hj hlt
                  cases Nat.eq_or_lt_of_le hj with
                  | inl heq =>
                      refine ⟨{ start := some start, length := length }, ?_, by simp⟩
                      rw [← heq]
                      exact (hkept i (Nat.lt_succ_self i)).trans (setBuffer_slot (by omega) _)
                  | inr hnext => exact hfilled hok j hnext (by omega)
          · cases h

theorem mapBuffers_isSome (hfits : i + n ≤ cameraMaxBuffers) :
    (mapBuffers driver ctx i n).isSome := by
  induction n generalizing i ctx with
  | zero => rfl
  | succ n ih =>
      have hi : i < cameraMaxBuffers := by omega
      rw [mapBuffers]
      cases driver.queryBuffer i with
      | none => rfl
      | some length =>
          dsimp only
          rw [if_pos hi]
          cases driver.mmap i with
          | none => rfl
          | some start =>
              dsimp only
              rw [Option.isSome_map]
              exact ih (by omega)

/-- `camera_configure` fails before the table is used, or it is the loop over what was
granted. -/
theorem cameraConfigure_cases :
    (driver.granted = none ∧ ∃ call, cameraConfigure ctx driver = some call ∧ call.ret ≠ 0 ∧
      call.ctx.buffers = ctx.buffers ∧ call.ctx.bufferCount = ctx.bufferCount) ∨
    ∃ count config, driver.granted = some count ∧
      cameraConfigure ctx driver =
        mapBuffers driver { ctx with config := config, bufferCount := count } 0 count := by
  unfold cameraConfigure Driver.granted
  cases driver.queryCap with
  | none => exact .inl ⟨rfl, _, rfl, by simp, rfl, rfl⟩
  | some capabilities =>
      dsimp only
      by_cases hcapture : capabilities &&& v4l2CapVideoCapture = 0
      · rw [if_pos hcapture, if_pos (.inl hcapture)]
        exact .inl ⟨rfl, _, rfl, by simp, rfl, rfl⟩
      by_cases hstreaming : capabilities &&& v4l2CapStreaming = 0
      · rw [if_neg hcapture, if_pos hstreaming, if_pos (.inr (.inl hstreaming))]
        exact .inl ⟨rfl, _, rfl, by simp, rfl, rfl⟩
      rw [if_neg hcapture, if_neg hstreaming]
      cases driver.setFormat with
      | none => exact .inl ⟨by simp, _, rfl, by simp, rfl, rfl⟩
      | some format =>
          dsimp only
          cases driver.requestBuffers with
          | none => exact .inl ⟨by simp, _, rfl, by simp, rfl, rfl⟩
          | some count =>
              dsimp only
              by_cases hfew : count < 2
              · have hnone : (some count).filter (fun count => decide (2 ≤ count)) = none := by
                  rw [Option.filter_some, if_neg]
                  exact fun h => absurd (of_decide_eq_true h) (Nat.not_le_of_lt hfew)
                rw [if_pos hfew, hnone, ite_self]
                exact .inl ⟨rfl, _, rfl, by simp, rfl, rfl⟩
              · rw [if_neg hfew]
                refine .inr ⟨count, _, ?_, rfl⟩
                simp [hcapture, hstreaming, Nat.le_of_not_lt hfew]

end Configure

section Sessions
variable {config : CaptureConfig} {driver : Driver}

/-- No access outside of the table, and no consumer without a mapping. -/
structure Session.InTable (session : Session) : Prop where
  accesses : ∀ i ∈ session.accesses, i < cameraMaxBuffers
  consumed : ∀ start ∈ session.consumed, start ≠ none

/-- What keeps it so: all entries that the loops use are in the table, and are mapped while
frames are captured. -/
structure Session.TableKept (session : Session) : Prop extends session.InTable where
  length : session.ctx.buffers.length = cameraMaxBuffers
  count_le : session.ctx.bufferCount ≤ cameraMaxBuffers
  mapped : session.phase = .configured ∨ session.phase = .capturing →
    ∀ i < session.ctx.bufferCount,
      ∃ buffer, session.ctx.buffers[i]? = some buffer ∧ buffer.start ≠ none

variable (hgrant : ∀ count, driver.granted = some count → count ≤ cameraMaxBuffers)
include hgrant

theorem configureAccesses_lt : ∀ i ∈ configureAccesses driver, i < cameraMaxBuffers := by
  apply mapAccesses_lt
  cases hgranted : driver.granted with
  | none => exact Nat.zero_le _
  | some count =>
      rw [Option.getD_some, Nat.zero_add]
      exact hgrant count hgranted

theorem cameraConfigure_filled {ctx : CameraContext}
    (hlength : ctx.buffers.length = cameraMaxBuffers)
    (hcount : ctx.bufferCount ≤ cameraMaxBuffers) :
    ∃ call, cameraConfigure ctx driver = some call ∧
      call.ctx.buffers.length = cameraMaxBuffers ∧ call.ctx.bufferCount ≤ cameraMaxBuffers ∧
      (call.ret = 0 → ∀ i < call.ctx.bufferCount,
        ∃ buffer, call.ctx.buffers[i]? = some buffer ∧ buffer.start ≠ none) := by
  obtain ⟨-, call, hcall, hret, hbuffers, hcount'⟩ | ⟨count, config, hgranted, hloop⟩ :=
    @cameraConfigure_cases driver ctx
  · exact ⟨call, hcall, hbuffers ▸ hlength, hcount' ▸ hcount, fun hok => absurd hok hret⟩
  · have hfits := hgrant count hgranted
    obtain ⟨call, hcall⟩ := Option.isSome_iff_exists.mp (@mapBuffers_isSome driver
      { ctx with config := config, bufferCount := count } 0 count (by rwa [Nat.zero_add]))
    have hlength₀ : ({ ctx with config := config, bufferCount := count } :
        CameraContext).buffers.length = cameraMaxBuffers := hlength
    obtain ⟨hlength', hcount', -, hfilled⟩ := mapBuffers_filled hlength₀ hcall
    refine ⟨call, hloop.trans hcall, hlength', hcount' ▸ hfits, ?_⟩
    intro hok i hi
    rw [hcount'] at hi
    exact hfilled hok i (Nat.zero_le i) (by rwa [Nat.zero_add])

theorem Session.TableKept.configure {session session' : Session} (h : session.TableKept)
    (hstep : session.step driver .configure = some session') : session'.TableKept := by
  obtain ⟨call, hcall, hlength, hcount, hfilled⟩ :=
    cameraConfigure_filled hgrant h.length h.count_le
  simp only [Session.step, hcall] at hstep
  split at hstep
  · cases hstep
  · rw [← Option.some.inj hstep]
    refine ⟨⟨?_, h.consumed⟩, hlength, hcount, ?_⟩
    · exact List.forall_mem_append.mpr ⟨h.accesses, configureAccesses_lt hgrant⟩
    · intro hphase
      apply hfilled
      apply Decidable.byContradiction
      intro hfailed
      simp [hfailed] at hphase

omit hgrant in
/-- The index that the driver returned is of a buffer that it counts, so it is in the table and
mapped. -/
theorem Session.TableKept.dequeue {session session' : Session} (h : session.TableKept)
    {index : Nat} {bytesused : UInt32}
    (hstep : session.step driver (.dequeue index bytesused) = some session') :
    session'.TableKept := by
  simp only [Session.step] at hstep
  split at hstep
  · cases hstep
  · rename_i hphase
    rw [not_or, Nat.not_le, not_ne_iff] at hphase
    obtain ⟨buffer, hbuffer, hstart⟩ := h.mapped (.inr hphase.1) index hphase.2
    have hlt : index < cameraMaxBuffers := Nat.lt_of_lt_of_le hphase.2 h.count_le
    split at hstep
    · simp only [hbuffer, Option.some.injEq] at hstep
      rw [← hstep]
      refine ⟨⟨?_, ?_⟩, h.length, h.count_le, h.mapped⟩
      · exact List.forall_mem_append.mpr ⟨h.accesses, List.forall_mem_singleton.mpr hlt⟩
      · exact List.forall_mem_append.mpr ⟨h.consumed, List.forall_mem_singleton.mpr hstart⟩
    · rw [← Option.some.inj hstep]
      exact h

omit hgrant in
theorem Session.TableKept.close {session session' : Session} (h : session.TableKept)
    (hstep : session.step driver .close = some session') : session'.TableKept := by
  simp only [Session.step] at hstep
  split at hstep
  · cases hstep
  · rw [← Option.some.inj hstep]
    refine ⟨⟨?_, h.consumed⟩, h.length, h.count_le, ?_⟩
    · refine List.forall_mem_append.mpr ⟨h.accesses, ?_⟩
      intro i hunmapped
      have hlt := List.mem_range.mp (List.mem_of_mem_take hunmapped)
      exact Nat.lt_of_lt_of_le hlt h.count_le
    · intro hphase
      exfalso
      split at hphase <;> simp at hphase

theorem Session.TableKept.step {session session' : Session} (h : session.TableKept)
    {action : SessionAction} (hstep : session.step driver action = some session') :
    session'.TableKept := by
  cases action with
  | configure => exact h.configure hgrant hstep
  | start =>
      simp only [Session.step] at hstep
      split at hstep
      · cases hstep
      · rename_i hphase
        rw [← Option.some.inj hstep]
        exact ⟨⟨h.accesses, h.consumed⟩, h.length, h.count_le,
          fun _ => h.mapped (.inl (Decidable.byContradiction hphase))⟩
  | dequeue index bytesused => exact h.dequeue hstep
  | leave =>
      simp only [Session.step] at hstep
      split at hstep
      · rw [← Option.some.inj hstep]
        exact ⟨⟨h.accesses, h.consumed⟩, h.length, h.count_le, by simp⟩
      · cases hstep
  | close => exact h.close hstep

end Sessions

section Loops
variable {config : CaptureConfig} {index : Nat} {memory : List UInt8} {bytesused : UInt32}

theorem requeue_ops (capture : FramebufferCapture) (requeued : Bool) :
    (capture.requeue index requeued).ops = capture.ops ++ [.giveBack index requeued] := by
  cases requeued <;> rfl

theorem display_ops {capture next : FramebufferCapture} {pass : FramebufferPass}
    {pixels : List UInt16} (h : capture.display pixels index pass = some next) :
    next.ops = capture.ops ++ [.giveBack index pass.requeued] := by
  simp only [FramebufferCapture.display] at h
  split at h
  · rw [← Option.some.inj h]
    rfl
  · split at h
    · cases h
    · rw [← Option.some.inj h, requeue_ops]

/-- The preview uses the buffer of a frame exactly when it reads its entry. -/
theorem preview_uses_iff (hhttp : config.httpMjpeg = false) (hpreview : config.fbPreview = true)
    {capture next : FramebufferCapture} {pass : FramebufferPass}
    (hdriver : pass.driver = .dequeued index memory bytesused)
    (hpass : capture.pass config.toCameraConfig pass = some next) :
    (∃ rest, next.ops = capture.ops ++ .take index :: .use index :: rest) ↔
      readsEntry config bytesused = true := by
  have hreads : readsEntry config bytesused = true ↔
      ¬ (bytesused = 0 ∨ config.pixelFormat = v4l2PixFmtYuyv ∧
        bytesused.toNat < FramebufferCapture.yuyvSize config.toCameraConfig) := by
    simp [readsEntry, hhttp, hpreview, Decidable.imp_iff_not_or]
  rw [hreads]
  simp only [FramebufferCapture.pass, hdriver] at hpass
  split at hpass
  · rename_i hskipped
    have hops : next.ops = capture.ops ++ [.take index, .giveBack index pass.requeued] := by
      rw [← Option.some.inj hpass, requeue_ops]
      simp [FramebufferCapture.op]
    constructor
    · intro h
      obtain ⟨rest, hrest⟩ := h
      rw [hops] at hrest
      have htail := List.append_cancel_left hrest
      simp at htail
    · intro h
      exact absurd hskipped h
  · rename_i htaken
    have hops : next.ops = capture.ops ++ [.take index, .use index] ++
        [.giveBack index pass.requeued] := by
      split at hpass
      · rw [display_ops hpass]
        simp [FramebufferCapture.op]
      · split at hpass
        · rw [← Option.some.inj hpass]
          simp [FramebufferCapture.op, FramebufferCapture.fail]
        · rw [display_ops hpass]
          simp [FramebufferCapture.op]
    constructor
    · intro _
      exact htaken
    · intro _
      exact ⟨[.giveBack index pass.requeued], by rw [hops, List.append_assoc]; rfl⟩

theorem finishPass_ops {capture next : FileCapture} {requeued : Bool}
    (h : capture.finishPass index bytesused requeued = some next) :
    next.ops = capture.ops ++ [.giveBack index requeued] := by
  simp only [FileCapture.finishPass] at h
  split at h
  · rw [← Option.some.inj h]
    rfl
  · split at h
    · cases h
    · rw [← Option.some.inj h]
      rfl

/-- `camera_capture_to_file` uses no buffer of which it has not read the entry. -/
theorem file_use_reads (hhttp : config.httpMjpeg = false) (hpreview : config.fbPreview = false)
    {capture next : FileCapture} {pass : FilePass}
    (houtput : capture.output.isSome → config.noSave = false)
    (hdriver : pass.driver = .dequeued index memory bytesused)
    (hpass : capture.pass config pass = some next)
    (huse : ∃ rest, next.ops = capture.ops ++ .take index :: .use index :: rest) :
    readsEntry config bytesused = true := by
  obtain ⟨rest, hrest⟩ := huse
  simp only [FileCapture.pass, hdriver] at hpass
  split at hpass
  · have hops : next.ops = capture.ops ++ [.take index, .giveBack index pass.requeued] := by
      rw [← Option.some.inj hpass]
      cases pass.requeued <;> simp [FileCapture.op, FileCapture.fail]
    rw [hops] at hrest
    have htail := List.append_cancel_left hrest
    simp at htail
  · rename_i hsome
    simp only [readsEntry, hhttp, hpreview, Bool.false_eq_true, if_false, Bool.and_eq_true,
      Bool.or_eq_true, Bool.not_eq_true', bne_iff_ne]
    refine ⟨hsome, ?_⟩
    cases hsave : config.saveFrames with
    | true => exact .inl rfl
    | false =>
        cases hfile : capture.output with
        | some contents => exact .inr (houtput (by rw [hfile]; rfl))
        | none =>
            have hnone : (capture.op (.take index)).output = none := hfile
            simp only [FileCapture.record, hsave, Bool.false_eq_true, if_false, hnone] at hpass
            have hops := finishPass_ops hpass
            rw [FileCapture.op, List.append_assoc, hrest] at hops
            have htail := List.append_cancel_left hops
            simp at htail

end Loops
end CameraGateway
