import CameraGateway.Core.StreamHttpMjpeg
import CameraGateway.Library.Framing

/-!
What a `/stream` client puts on the wire, for every sequence of results of
`send`: at each moment a prefix of one self-delimiting encoding of the frames.
-/
namespace CameraGateway

/-- The bytes accepted so far are a prefix of the message, and the call returns 0
exactly when they are all of it. -/
structure Sent.Delivers (sent : Sent) (message : List UInt8) : Prop where
  wire_within : sent.wire <+: message
  ok_iff : sent.ret = some 0 ↔ sent.wire = message

theorem sendAll_delivers (outcomes : List SendResult) (data : List UInt8) :
    (sendAll outcomes data).Delivers data := by
  fun_induction sendAll outcomes data with
  | case1 => exact ⟨List.prefix_rfl, by simp⟩
  | case2 data hdata => exact ⟨List.nil_prefix, by simpa using Ne.symm hdata⟩
  | case3 data hdata outcomes ih => exact ih
  | case4 data hdata outcomes => exact ⟨List.nil_prefix, by simpa using Ne.symm hdata⟩
  | case5 data hdata outcomes => exact ⟨List.nil_prefix, by simpa using Ne.symm hdata⟩
  | case6 data hdata room outcomes hroom rest ih =>
      have hsplit : data.take room ++ data.drop room = data := List.take_append_drop room data
      refine ⟨?_, ?_⟩
      · have hprefix := (List.prefix_append_right_inj (data.take room)).mpr ih.wire_within
        rwa [hsplit] at hprefix
      · refine ih.ok_iff.trans ⟨fun h => ?_, fun h => ?_⟩
        · show data.take room ++ rest.wire = data
          rw [h, hsplit]
        · have h' : data.take room ++ rest.wire = data.take room ++ data.drop room := by
            rw [hsplit]
            exact h
          exact List.append_cancel_left h'

/-- Two messages in a row are one message, whichever of the two stops. -/
theorem Sent.Delivers.andThen {first : Sent} {next : List SendResult → Sent}
    {message message' : List UInt8} (h : first.Delivers message)
    (h' : ∀ outcomes, (next outcomes).Delivers message') :
    (first.andThen next).Delivers (message ++ message') := by
  by_cases hok : first.ret = some 0
  · have hrest := h' first.outcomes
    rw [Sent.andThen, if_pos hok]
    simp only [h.ok_iff.mp hok]
    refine ⟨(List.prefix_append_right_inj message).mpr hrest.wire_within, ?_⟩
    exact hrest.ok_iff.trans (List.append_right_inj message).symm
  · rw [Sent.andThen, if_neg hok]
    refine ⟨h.wire_within.trans (List.prefix_append message message'), ?_⟩
    refine ⟨fun h0 => absurd h0 hok, fun hall => absurd (h.ok_iff.mpr ?_) hok⟩
    have hle := h.wire_within.length_le
    rw [hall, List.length_append] at hle
    have hnil : message' = [] := List.length_eq_zero_iff.mp (by omega)
    rw [hall, hnil, List.append_nil]

theorem delivers_nothing (outcomes : List SendResult) :
    (Sent.mk (some 0) [] outcomes).Delivers [] :=
  ⟨List.prefix_rfl, by simp⟩

theorem sendParts_delivers (outcomes : List SendResult) (parts : List (List UInt8)) :
    (sendParts outcomes parts).Delivers parts.flatten := by
  induction parts generalizing outcomes with
  | nil => exact delivers_nothing outcomes
  | cons part parts ih => exact (sendAll_delivers outcomes part).andThen ih

theorem sendMessage_delivers (limit : Nat) (outcomes : List SendResult)
    {header : List UInt8} (hheader : header ≠ []) (parts : List (List UInt8)) :
    (sendMessage limit outcomes header parts).Delivers (header ++ parts.flatten) := by
  unfold sendMessage
  split
  · refine ⟨List.nil_prefix, ?_⟩
    simp [hheader]
  · exact sendParts_delivers outcomes (header :: parts)

section Socket
variable {outcomes : List SendResult} {sent : Sent}

/-- Some `send` fails, or takes nothing. -/
def SocketFails (outcomes : List SendResult) : Prop :=
  .failed ∈ outcomes ∨ .accepted 0 ∈ outcomes

/-- The results that are not EINTR. -/
def answered (outcomes : List SendResult) : Nat :=
  (outcomes.filter fun outcome => outcome ≠ .interrupted).length

theorem SocketFails.mono {later : List SendResult} (h : SocketFails outcomes)
    (hsub : outcomes ⊆ later) : SocketFails later :=
  h.imp (fun h => hsub h) (fun h => hsub h)

/-- A failure is a failure of the socket, the results not used yet are the socket's, and every
other result but EINTR has brought at least one byte. -/
structure SocketBound (outcomes : List SendResult) (sent : Sent) : Prop where
  failed : ∀ ret, sent.ret = some ret → ret ≠ 0 → SocketFails outcomes
  unused : sent.outcomes ⊆ outcomes
  running : sent.ret = none → answered outcomes ≤ sent.wire.length
  used : sent.ret = some 0 → answered outcomes ≤ answered sent.outcomes + sent.wire.length

theorem socketBound_done (outcomes : List SendResult) :
    SocketBound outcomes ⟨some 0, [], outcomes⟩ := by
  refine ⟨?_, List.Subset.refl outcomes, ?_, fun _ => Nat.le_refl _⟩
  · rintro value ⟨⟩ hne
    exact absurd rfl hne
  · intro hnone
    cases hnone

theorem socketBound_failed {ret : Int} {outcome : SendResult} (hret : ret ≠ 0)
    (h : SocketFails (outcome :: outcomes)) :
    SocketBound (outcome :: outcomes) ⟨some ret, [], outcomes⟩ := by
  refine ⟨fun _ _ _ => h, List.subset_cons_self _ _, ?_, ?_⟩
  · intro hnone
    cases hnone
  · intro hzero
    exact absurd (Option.some.inj hzero) hret

theorem sendAll_bound (outcomes : List SendResult) (data : List UInt8) :
    SocketBound outcomes (sendAll outcomes data) := by
  fun_induction sendAll outcomes data with
  | case1 outcomes => exact socketBound_done outcomes
  | case2 data hdata =>
      refine ⟨?_, List.Subset.refl [], fun _ => Nat.le_refl _, ?_⟩
      · intro ret hret
        cases hret
      · intro hzero
        cases hzero
  | case3 data hdata outcomes ih =>
      have htail : outcomes ⊆ .interrupted :: outcomes := List.subset_cons_self _ _
      exact ⟨fun ret h hne => (ih.failed ret h hne).mono htail, List.Subset.trans ih.unused htail,
        ih.running, ih.used⟩
  | case4 data hdata outcomes => exact socketBound_failed (by decide) (Or.inl List.mem_cons_self)
  | case5 data hdata outcomes => exact socketBound_failed (by decide) (Or.inr List.mem_cons_self)
  | case6 data hdata room outcomes hroom rest ih =>
      have htail : outcomes ⊆ .accepted room :: outcomes := List.subset_cons_self _ _
      have hpos : 0 < (data.take room).length := by
        rw [List.length_take]
        exact Nat.lt_min.mpr ⟨Nat.pos_of_ne_zero hroom, List.length_pos_iff.mpr hdata⟩
      have hanswered : answered (.accepted room :: outcomes) = answered outcomes + 1 := by
        simp [answered]
      refine ⟨fun ret h hne => (ih.failed ret h hne).mono htail,
        List.Subset.trans ih.unused htail, ?_, ?_⟩
      · intro hnone
        have hrest : answered outcomes ≤ rest.wire.length := ih.running hnone
        rw [hanswered]
        simp only [List.length_append]
        omega
      · intro hzero
        have hrest : answered outcomes ≤ answered rest.outcomes + rest.wire.length :=
          ih.used hzero
        rw [hanswered]
        simp only [List.length_append]
        omega

theorem SocketBound.andThen {next : List SendResult → Sent} (h : SocketBound outcomes sent)
    (hnext : ∀ outcomes, SocketBound outcomes (next outcomes)) :
    SocketBound outcomes (sent.andThen next) := by
  rw [Sent.andThen]
  split
  · rename_i hzero
    have hfirst := h.used hzero
    have hrest := hnext sent.outcomes
    refine ⟨fun ret hret hne => (hrest.failed ret hret hne).mono h.unused,
      List.Subset.trans hrest.unused h.unused, ?_, ?_⟩
    · intro hnone
      have hlater := hrest.running hnone
      simp only [List.length_append]
      omega
    · intro hdone
      have hlater := hrest.used hdone
      simp only [List.length_append]
      omega
  · exact h

theorem sendParts_bound (outcomes : List SendResult) (parts : List (List UInt8)) :
    SocketBound outcomes (sendParts outcomes parts) := by
  induction parts generalizing outcomes with
  | nil => exact socketBound_done outcomes
  | cons part parts ih => exact (sendAll_bound outcomes part).andThen ih

theorem sendMessage_bound {limit : Nat} {header : List UInt8} (hfits : header.length < limit)
    (outcomes : List SendResult) (parts : List (List UInt8)) :
    SocketBound outcomes (sendMessage limit outcomes header parts) := by
  rw [sendMessage, if_neg (Nat.not_le.mpr hfits)]
  exact sendParts_bound outcomes (header :: parts)

/-- Whatever the sizes of the pieces, as many results as there are bytes are enough. -/
theorem Sent.Delivers.succeeds {message : List UInt8} (h : sent.Delivers message)
    (hbound : SocketBound outcomes sent) (hworks : ¬ SocketFails outcomes)
    (henough : message.length ≤ answered outcomes) : sent.ret = some 0 := by
  cases hret : sent.ret with
  | none =>
      have hrunning := hbound.running hret
      have hall := h.wire_within.eq_of_length_le (by omega)
      have hdone := h.ok_iff.mpr hall
      rw [hret] at hdone
      cases hdone
  | some ret =>
      by_cases hzero : ret = 0
      · rw [hzero]
      · exact absurd (hbound.failed ret hret hzero) hworks

end Socket

theorem partHeader_ne_nil (size : Nat) : partHeader size ≠ [] := by
  have hfixed : ascii "--frame\r\nContent-Type: image/jpeg\r\nContent-Length: " ≠ [] := by decide
  intro h
  exact hfixed (List.append_eq_nil_iff.mp h).1

/-- The size printed with `%lu` takes at most twenty digits. -/
theorem partHeader_length {size : Nat} (h : size < 2 ^ 64) : (partHeader size).length < 128 := by
  have hdigits : (decimal size).length ≤ 20 :=
    decimal_length_le (by decide) (Nat.lt_of_lt_of_le h (by decide))
  have hbefore :
      (ascii "--frame\r\nContent-Type: image/jpeg\r\nContent-Length: ").length = 51 := by decide
  have hafter : (ascii "\n\r\n").length = 3 := by decide
  rw [partHeader, List.length_append, List.length_append, List.length_cons, hbefore, hafter]
  omega

theorem partHeader_delimited : Framing.Delimited partHeader :=
  Framing.delimited_field decimal_injective (fun _ _ hb => decimal_digits hb) (by decide) _ _

def framePart (data : List UInt8) : List UInt8 := partHeader data.length ++ (data ++ crlf)

theorem framePart_delimited : Framing.Delimited framePart :=
  Framing.delimited_payload partHeader_delimited crlf

theorem framePart_ne_nil (data : List UInt8) : framePart data ≠ [] := by
  intro h
  exact partHeader_ne_nil data.length (List.append_eq_nil_iff.mp h).1

/-- The bytes that a client is owed for the frames it was handed. -/
def mjpegStream (frames : List (List UInt8)) : List UInt8 :=
  streamHeader ++ Framing.stream framePart frames

theorem httpMjpegSendFrame_delivers (outcomes : List SendResult) (data : List UInt8) :
    (httpMjpegSendFrame outcomes data).Delivers (framePart data) := by
  have h := sendMessage_delivers 128 outcomes (partHeader_ne_nil data.length) [data, crlf]
  simpa [framePart, httpMjpegSendFrame] using h

theorem streamFrames_delivers (outcomes : List SendResult) (frames : List (List UInt8)) :
    (streamFrames outcomes frames).Delivers (Framing.stream framePart frames) := by
  induction frames generalizing outcomes with
  | nil => exact delivers_nothing outcomes
  | cons data frames ih => exact (httpMjpegSendFrame_delivers outcomes data).andThen ih

theorem streamClient_delivers (outcomes : List SendResult) (frames : List (List UInt8)) :
    (streamClient outcomes frames).Delivers (mjpegStream frames) :=
  (sendAll_delivers outcomes streamHeader).andThen fun outcomes =>
    streamFrames_delivers outcomes frames

theorem Sent.andThen_of_failed {first : Sent} (next : List SendResult → Sent)
    (h : first.ret ≠ some 0) : first.andThen next = first :=
  if_neg h

theorem Sent.andThen_assoc (first : Sent) (second third : List SendResult → Sent) :
    (first.andThen second).andThen third =
      first.andThen fun outcomes => (second outcomes).andThen third := by
  by_cases hfirst : first.ret = some 0
  · by_cases hsecond : (second first.outcomes).ret = some 0
    · simp [Sent.andThen, hfirst, hsecond]
    · simp [Sent.andThen, hfirst, hsecond]
  · simp [Sent.andThen, hfirst]

theorem streamFrames_append (outcomes : List SendResult) (frames more : List (List UInt8)) :
    streamFrames outcomes (frames ++ more) =
      (streamFrames outcomes frames).andThen fun outcomes => streamFrames outcomes more := by
  induction frames generalizing outcomes with
  | nil => simp [streamFrames, Sent.andThen]
  | cons data frames ih =>
      simp only [List.cons_append, streamFrames, Sent.andThen_assoc]
      congr 1
      funext outcomes
      exact ih outcomes

theorem streamClient_append (outcomes : List SendResult) (frames more : List (List UInt8)) :
    streamClient outcomes (frames ++ more) =
      (streamClient outcomes frames).andThen fun outcomes => streamFrames outcomes more := by
  rw [streamClient, streamClient, Sent.andThen_assoc]
  congr 1
  funext outcomes
  exact streamFrames_append outcomes frames more

/-- Partial sends never corrupt the stream, a part is sent if the socket takes enough of its
pieces, and the stream tells the frames. -/
theorem mjpeg_wire_format :
    (∀ outcomes frames, (streamClient outcomes frames).wire <+: mjpegStream frames) ∧
    (∀ outcomes data, (httpMjpegSendFrame outcomes data).ret = some 0 ↔
      (httpMjpegSendFrame outcomes data).wire = framePart data) ∧
    (∀ outcomes data, data.length < 2 ^ 64 → ¬ SocketFails outcomes →
      (framePart data).length ≤ answered outcomes →
      (httpMjpegSendFrame outcomes data).ret = some 0) ∧
    (∀ outcomes frames more, (streamClient outcomes frames).ret ≠ some 0 →
      streamClient outcomes (frames ++ more) = streamClient outcomes frames) ∧
    (∀ frames frames', mjpegStream frames <+: mjpegStream frames' → frames <+: frames') ∧
    Function.Injective mjpegStream ∧
    (∀ size, size < 2 ^ 64 → (partHeader size).length < 128) := by
  refine ⟨fun outcomes frames => (streamClient_delivers outcomes frames).wire_within,
    fun outcomes data => (httpMjpegSendFrame_delivers outcomes data).ok_iff, ?_, ?_, ?_, ?_,
    fun _ h => partHeader_length h⟩
  · intro outcomes data hsize
    exact (httpMjpegSendFrame_delivers outcomes data).succeeds
      (sendMessage_bound (partHeader_length hsize) outcomes [data, crlf])
  · intro outcomes frames more hfailed
    rw [streamClient_append, Sent.andThen_of_failed _ hfailed]
  · intro frames frames' h
    exact framePart_delimited.stream_prefix framePart_ne_nil
      ((List.prefix_append_right_inj streamHeader).mp h)
  · intro frames frames' h
    exact framePart_delimited.stream_injective framePart_ne_nil (List.append_cancel_left h)

/-- A picture that contains the mark of a part is sent in pieces of one byte, with an EINTR
before them. -/
theorem mjpeg_wire_format_singleBytes :
    let outcomes : List SendResult := .interrupted :: List.replicate 70 (.accepted 1)
    (httpMjpegSendFrame outcomes (ascii "--frame")).ret = some 0 ∧
      (httpMjpegSendFrame outcomes (ascii "--frame")).wire =
        ascii ("--frame\r\nContent-Type: image/jpeg\r\nContent-Length: 7\r\n\r\n" ++
          "--frame\r\n") := by
  obtain ⟨-, hexact, henough, -⟩ := mjpeg_wire_format
  have hok := henough (.interrupted :: List.replicate 70 (.accepted 1)) (ascii "--frame")
    (by decide) (by simp [SocketFails]) (by decide +kernel)
  exact ⟨hok, ((hexact _ _).mp hok).trans (by decide +kernel)⟩

end CameraGateway
