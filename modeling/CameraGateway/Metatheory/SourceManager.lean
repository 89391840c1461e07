import CameraGateway.Core.JpegDecoder
import CameraGateway.Library.BlockReader

/-!
What libjpeg gets to read through the source manager, whatever it asks for: the input in its
order and then the end-of-image marker over and over, apart from what it skips. The pointer and
the count always describe the rest of the block that they are in.
-/
namespace CameraGateway
open BlockReader TransitionSystem

section Steps
variable {source source' : MemorySource}

/-- A step takes bytes off the front of the range, or starts the marker again. -/
theorem source_step_cases {action : SourceAction} (h : source.step action = some source') :
    (∃ count ≤ source.bytesInBuffer, source' = { source with
        nextInputByte := source.nextInputByte + count
        bytesInBuffer := source.bytesInBuffer - count }) ∨
      source' = memoryFillInputBuffer source := by
  cases action with
  | consume count =>
      rw [MemorySource.step] at h
      split at h
      · rename_i hle
        exact .inl ⟨count, hle, (Option.some.inj h).symm⟩
      · cases h
  | fillInputBuffer =>
      rw [MemorySource.step] at h
      split at h
      · exact .inr (Option.some.inj h).symm
      · cases h
  | skipInputData numBytes =>
      rw [MemorySource.step, Option.some.injEq, memorySkipInputData] at h
      split at h
      · exact .inl ⟨0, Nat.zero_le _, h.symm⟩
      · split at h
        · exact .inr h.symm
        · rename_i hle
          exact .inl ⟨numBytes.toNat, Nat.le_of_not_lt hle, h.symm⟩

theorem source_step_stays {action : SourceAction} (h : source.step action = some source')
    (hentered : source.block = .eoiBuffer) : source'.block = .eoiBuffer := by
  obtain ⟨count, -, rfl⟩ | rfl := source_step_cases h
  · exact hentered
  · rfl

end Steps

section Runs
variable {data : List UInt8}

def watchSource (source : MemorySource) (action : SourceAction) (reader : Reader UInt8) :
    Reader UInt8 :=
  match action with
  | .consume count => reader.take true count
  | .fillInputBuffer => reader.enter eoiBuffer
  | .skipInputData numBytes =>
      if numBytes ≤ 0 then reader
      else if numBytes.toNat > source.bytesInBuffer then reader.enter eoiBuffer
      else reader.take false numBytes.toNat

def watchedSource (data : List UInt8) : System (MemorySource × Reader UInt8) SourceAction :=
  (memorySource data).observe (.start data) watchSource

/-- The range is the rest of its block, and it is the window of the reader. -/
structure Follows (data : List UInt8) (source : MemorySource) (reader : Reader UInt8) : Prop where
  data_eq : source.data = data
  range : source.nextInputByte + source.bytesInBuffer = source.contents.length
  window : reader.window = source.contents.drop source.nextInputByte
  inOrder : reader.InOrder
  blocks : ∃ markers, reader.blocks = data :: List.replicate markers eoiBuffer ∧
    (source.block = .data ↔ markers = 0)

namespace Follows
variable {source : MemorySource} {reader : Reader UInt8}

theorem start : Follows data (jpegMemorySource data) (.start data) :=
  ⟨rfl, Nat.zero_add _, rfl, Reader.inOrder_start data, 0, rfl, by simp [jpegMemorySource]⟩

theorem enter (h : Follows data source reader) :
    Follows data (memoryFillInputBuffer source) (reader.enter eoiBuffer) := by
  obtain ⟨markers, hblocks, -⟩ := h.blocks
  refine ⟨h.data_eq, rfl, rfl, h.inOrder.enter eoiBuffer, markers + 1, ?_,
    by simp [memoryFillInputBuffer]⟩
  rw [Reader.enter, hblocks, List.replicate_succ', List.cons_append]

theorem take (h : Follows data source reader) (delivered : Bool) {count : Nat}
    (hcount : count ≤ source.bytesInBuffer) :
    Follows data { source with
      nextInputByte := source.nextInputByte + count
      bytesInBuffer := source.bytesInBuffer - count } (reader.take delivered count) := by
  refine ⟨h.data_eq, ?_, ?_, h.inOrder.take delivered count, h.blocks⟩
  · have hrange := h.range
    show source.nextInputByte + count + (source.bytesInBuffer - count) = source.contents.length
    omega
  · rw [Reader.take, h.window, List.drop_drop]
    rfl

theorem step (h : Follows data source reader) {source' : MemorySource} {action : SourceAction}
    (hstep : source.step action = some source') :
    Follows data source' (watchSource source action reader) := by
  cases action with
  | consume count =>
      rw [MemorySource.step] at hstep
      split at hstep
      · rename_i hle
        rw [← Option.some.inj hstep]
        exact h.take true hle
      · cases hstep
  | fillInputBuffer =>
      rw [MemorySource.step] at hstep
      split at hstep
      · rw [← Option.some.inj hstep]
        exact h.enter
      · cases hstep
  | skipInputData numBytes =>
      rw [MemorySource.step, Option.some.injEq, memorySkipInputData] at hstep
      rw [watchSource]
      split at hstep
      · rename_i hneg
        rw [if_pos hneg, ← hstep]
        exact h
      · rename_i hpos
        rw [if_neg hpos]
        split at hstep
        · rename_i hmore
          rw [if_pos hmore, ← hstep]
          exact h.enter
        · rename_i hle
          rw [if_neg hle, ← hstep]
          exact h.take false (Nat.le_of_not_lt hle)

theorem window_eq (h : Follows data source reader) : source.window = reader.window := by
  rw [h.window, MemorySource.window]
  apply List.take_of_length_le
  have hrange := h.range
  rw [List.length_drop]
  omega

end Follows

theorem watched_follows {source : MemorySource} {reader : Reader UInt8}
    (h : Reachable (watchedSource data) (source, reader)) : Follows data source reader := by
  apply Reachable.observed_invariant Follows.start ?_ h
  intro source source' reader action _ hfollows hstep
  exact hfollows.step hstep

/-- libjpeg gets the bytes of the input and of markers, in their order and none of them twice. -/
theorem Follows.delivered_sublist {source : MemorySource} {reader : Reader UInt8}
    (h : Follows data source reader) {markers : Nat}
    (hblocks : reader.blocks = data :: List.replicate markers eoiBuffer) :
    reader.delivered.Sublist (data ++ (List.replicate markers eoiBuffer).flatten) := by
  rw [← List.flatten_cons, ← hblocks]
  exact h.inOrder.delivered_sublist

theorem watchSource_extends (source : MemorySource) (action : SourceAction)
    (reader : Reader UInt8) : reader.Extends (watchSource source action reader) := by
  cases action with
  | consume count => exact reader.extends_take true count
  | fillInputBuffer => exact reader.extends_enter eoiBuffer
  | skipInputData numBytes =>
      rw [watchSource]
      split
      · exact reader.extends_refl
      · split
        · exact reader.extends_enter eoiBuffer
        · exact reader.extends_take false numBytes.toNat

/-- Once the marker is being read, all of the input has gone by. -/
theorem Follows.data_passed {source : MemorySource} {reader : Reader UInt8}
    (h : Follows data source reader) (hentered : source.block = .eoiBuffer) :
    data <+: reader.passed.map Prod.fst := by
  obtain ⟨markers, hblocks, hdata⟩ := h.blocks
  have hsome : markers ≠ 0 := by
    rw [Ne, ← hdata, hentered]
    simp
  obtain ⟨before, rfl⟩ := Nat.exists_eq_succ_of_ne_zero hsome
  have horder : reader.passed.map Prod.fst ++ reader.window =
      data ++ ((List.replicate before eoiBuffer).flatten ++ eoiBuffer) := by
    rw [h.inOrder, hblocks, List.flatten_cons, List.replicate_succ', List.flatten_append,
      List.flatten_singleton]
  have hwindow : reader.window.length ≤ eoiBuffer.length := by
    rw [h.window, MemorySource.contents, hentered, List.length_drop]
    exact Nat.sub_le _ _
  apply List.prefix_of_prefix_length_le (List.prefix_append data _)
    (horder ▸ List.prefix_append (reader.passed.map Prod.fst) reader.window)
  have hlength := congrArg List.length horder
  simp only [List.length_append] at hlength
  omega

theorem marker_run {s t : MemorySource × Reader UInt8}
    (hs : Reachable (watchedSource data) s)
    (hrun : RunUnder (watchedSource data) (fun _ _ => True) s t)
    (hentered : s.1.block = .eoiBuffer) :
    t.1.block = .eoiBuffer ∧
      ∃ later, t.2.passed = s.2.passed ++ later ∧ ∀ byte ∈ later, byte.1 ∈ eoiBuffer := by
  refine hrun.invariant (I := fun t => t.1.block = .eoiBuffer ∧
    ∃ later, t.2.passed = s.2.passed ++ later ∧ ∀ byte ∈ later, byte.1 ∈ eoiBuffer)
    ⟨hentered, [], (List.append_nil _).symm, by simp⟩ ?_
  intro t u action hreached hi _ hstep
  obtain ⟨hblock, later, hpassed, hlater⟩ := hi
  obtain ⟨hsource, hwatch⟩ := observe_step.mp hstep
  obtain ⟨more, hmore, hwindow⟩ := watchSource_extends t.1 action t.2
  have hfollows := watched_follows (hreached.reachable hs)
  refine ⟨source_step_stays hsource hblock, later ++ more, ?_, ?_⟩
  · rw [hwatch, hmore, hpassed, List.append_assoc]
  · intro byte hbyte
    rcases List.mem_append.mp hbyte with hold | hnew
    · exact hlater byte hold
    · have hmem := hwindow byte hnew
      rw [hfollows.window, MemorySource.contents, hblock] at hmem
      exact List.mem_of_mem_drop hmem

/-- The source manager never leaves its block, and delivers the input and then the marker. -/
theorem memory_source_in_order (data : List UInt8) :
    (∀ source reader, Reachable (watchedSource data) (source, reader) →
      source.nextInputByte + source.bytesInBuffer = source.contents.length ∧
      source.contents = (if source.block = .data then data else eoiBuffer) ∧
      (∃ markers, reader.passed.map Prod.fst ++ source.window =
          data ++ (List.replicate markers eoiBuffer).flatten ∧
        reader.delivered.Sublist (data ++ (List.replicate markers eoiBuffer).flatten)) ∧
      (source.block = .eoiBuffer → data <+: reader.passed.map Prod.fst)) ∧
    (∀ s t, Reachable (watchedSource data) s →
      RunUnder (watchedSource data) (fun _ _ => True) s t → s.1.block = .eoiBuffer →
        t.1.block = .eoiBuffer ∧
          ∃ later, t.2.passed = s.2.passed ++ later ∧ ∀ byte ∈ later, byte.1 ∈ eoiBuffer) ∧
    (∀ source source', (memorySource data).step source .fillInputBuffer = some source' →
      0 < source'.bytesInBuffer) := by
  refine ⟨?_, ?_, ?_⟩
  · intro source reader h
    have hfollows := watched_follows h
    obtain ⟨markers, hblocks, -⟩ := hfollows.blocks
    refine ⟨hfollows.range, ?_, ⟨markers, ?_, hfollows.delivered_sublist hblocks⟩,
      hfollows.data_passed⟩
    · rw [MemorySource.contents, hfollows.data_eq]
      cases source.block <;> rfl
    · rw [hfollows.window_eq, hfollows.inOrder, hblocks, List.flatten_cons]
  · intro s t hs hrun hentered
    exact marker_run hs hrun hentered
  · intro source source' hstep
    simp only [memorySource, MemorySource.step] at hstep
    split at hstep
    · rw [← Option.some.inj hstep]
      exact Nat.zero_lt_two
    · cases hstep

/-- One byte of three is read, then a skip leads past the end of the input. -/
theorem memory_source_in_order_skipPastEnd :
    ∃ source reader, Reachable (watchedSource [1, 2, 3]) (source, reader) ∧
      source.block = .eoiBuffer ∧ reader.delivered = [1, 0xFF, 0xD9, 0xFF] ∧
      source.nextInputByte + source.bytesInBuffer = source.contents.length ∧
      [1, 2, 3] <+: reader.passed.map Prod.fst := by
  have hrun : (exec (watchedSource [1, 2, 3]) (watchedSource [1, 2, 3]).init
      [.consume 1, .skipInputData (-4), .skipInputData 9, .consume 2, .fillInputBuffer,
        .consume 1]).any (fun s => s.1.block = .eoiBuffer ∧
          s.2.delivered = [1, 0xFF, 0xD9, 0xFF]) = true := by
    decide
  obtain ⟨⟨source, reader⟩, hexec, hs⟩ := exists_exec_of_any hrun
  obtain ⟨hentered, hdelivered⟩ := of_decide_eq_true hs
  have hreach := (Reachable.init _).exec hexec
  obtain ⟨hrange, -, -, hpassed⟩ := (memory_source_in_order [1, 2, 3]).1 source reader hreach
  exact ⟨source, reader, hreach, hentered, hdelivered, hrange, hpassed hentered⟩

end Runs
end CameraGateway
