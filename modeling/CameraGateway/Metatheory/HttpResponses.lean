import CameraGateway.Metatheory.StreamFraming

/-!
`send_all` from one result of `send` to the next: what has been accepted only grows, every
result but EINTR ends the loop or brings at least one byte, and the loop ends with 0 when all
is accepted and with -1 before that. A response is a header and a body sent in this way.
-/
namespace CameraGateway

section Moments

theorem sendAll_nil (outcomes : List SendResult) :
    sendAll outcomes [] = ⟨some 0, [], outcomes⟩ := by
  rw [sendAll.eq_def, if_pos rfl]

theorem sendAll_interrupted {data : List UInt8} (hdata : data ≠ [])
    (outcomes : List SendResult) :
    sendAll (.interrupted :: outcomes) data = sendAll outcomes data := by
  rw [sendAll, if_neg hdata]

theorem sendAll_accepted {data : List UInt8} (hdata : data ≠ []) {room : Nat} (hroom : room ≠ 0)
    (outcomes : List SendResult) :
    sendAll (.accepted room :: outcomes) data =
      { sendAll outcomes (data.drop room) with
        wire := data.take room ++ (sendAll outcomes (data.drop room)).wire } := by
  rw [sendAll, if_neg hdata]
  dsimp only
  rw [if_neg hroom]

theorem drop_taken (data : List UInt8) (room more : Nat) :
    data.drop ((data.take room).length + more) = (data.drop room).drop more := by
  rw [List.drop_drop, List.length_take]
  by_cases hroom : room ≤ data.length
  · rw [Nat.min_eq_left hroom]
  · rw [List.drop_of_length_le (by omega), List.drop_of_length_le (by omega)]

/-- A call that has not returned goes on with the rest of the data. -/
theorem sendAll_continues {outcomes : List SendResult} {data : List UInt8}
    (h : (sendAll outcomes data).ret = none) (later : List SendResult) :
    (sendAll (outcomes ++ later) data).ret =
        (sendAll later (data.drop (sendAll outcomes data).wire.length)).ret ∧
      (sendAll (outcomes ++ later) data).wire = (sendAll outcomes data).wire ++
        (sendAll later (data.drop (sendAll outcomes data).wire.length)).wire := by
  fun_induction sendAll outcomes data with
  | case1 => cases h
  | case2 data hdata => exact ⟨rfl, rfl⟩
  | case3 data hdata outcomes ih =>
      rw [List.cons_append, sendAll_interrupted hdata]
      exact ih h
  | case4 data hdata outcomes => cases h
  | case5 data hdata outcomes => cases h
  | case6 data hdata room outcomes hroom rest ih =>
      obtain ⟨hret, hwire⟩ := ih h
      rw [List.cons_append, sendAll_accepted hdata hroom, List.length_append, drop_taken]
      exact ⟨hret, by rw [hwire, List.append_assoc]⟩

/-- A call that has returned uses no more results. -/
theorem sendAll_returned {outcomes : List SendResult} {data : List UInt8}
    (h : (sendAll outcomes data).ret ≠ none) (later : List SendResult) :
    (sendAll (outcomes ++ later) data).ret = (sendAll outcomes data).ret ∧
      (sendAll (outcomes ++ later) data).wire = (sendAll outcomes data).wire := by
  fun_induction sendAll outcomes data with
  | case1 outcomes =>
      rw [sendAll_nil]
      exact ⟨rfl, rfl⟩
  | case2 data hdata => exact absurd rfl h
  | case3 data hdata outcomes ih =>
      rw [List.cons_append, sendAll_interrupted hdata]
      exact ih h
  | case4 data hdata outcomes =>
      rw [List.cons_append, sendAll, if_neg hdata]
      exact ⟨rfl, rfl⟩
  | case5 data hdata outcomes =>
      rw [List.cons_append, sendAll, if_neg hdata]
      exact ⟨rfl, rfl⟩
  | case6 data hdata room outcomes hroom rest ih =>
      obtain ⟨hret, hwire⟩ := ih h
      rw [List.cons_append, sendAll_accepted hdata hroom]
      exact ⟨hret, by rw [hwire]⟩

theorem sendAll_wire_mono (outcomes later : List SendResult) (data : List UInt8) :
    (sendAll outcomes data).wire <+: (sendAll (outcomes ++ later) data).wire := by
  by_cases h : (sendAll outcomes data).ret = none
  · rw [(sendAll_continues h later).2]
    exact List.prefix_append _ _
  · exact ⟨[], by rw [List.append_nil, (sendAll_returned h later).2]⟩

end Moments

section Reports

def Sent.Reports (sent : Sent) : Prop := ∀ ret, sent.ret = some ret → ret = 0 ∨ ret = -1

theorem sendAll_reports (outcomes : List SendResult) (data : List UInt8) :
    (sendAll outcomes data).Reports := by
  fun_induction sendAll outcomes data with
  | case1 => exact fun ret h => .inl (Option.some.inj h).symm
  | case2 data hdata => exact fun ret h => by cases h
  | case3 data hdata outcomes ih => exact ih
  | case4 data hdata outcomes => exact fun ret h => .inr (Option.some.inj h).symm
  | case5 data hdata outcomes => exact fun ret h => .inr (Option.some.inj h).symm
  | case6 data hdata room outcomes hroom rest ih => exact ih

theorem Sent.Reports.andThen {first : Sent} {next : List SendResult → Sent} (h : first.Reports)
    (h' : ∀ outcomes, (next outcomes).Reports) : (first.andThen next).Reports := by
  rw [Sent.andThen]
  split
  · exact h' first.outcomes
  · exact h

theorem sendParts_reports (outcomes : List SendResult) (parts : List (List UInt8)) :
    (sendParts outcomes parts).Reports := by
  induction parts generalizing outcomes with
  | nil => exact fun ret h => .inl (Option.some.inj h).symm
  | cons part parts ih => exact (sendAll_reports outcomes part).andThen ih

theorem sendMessage_reports (limit : Nat) (outcomes : List SendResult) (header : List UInt8)
    (parts : List (List UInt8)) : (sendMessage limit outcomes header parts).Reports := by
  rw [sendMessage]
  split
  · exact fun ret h => .inr (Option.some.inj h).symm
  · exact sendParts_reports outcomes (header :: parts)

/-- A message is delivered, or the failure is reported with a proper prefix on the wire. -/
structure Sent.Complete (sent : Sent) (message : List UInt8) : Prop extends
    sent.Delivers message where
  failed : ∀ ret, sent.ret = some ret → ret ≠ 0 → ret = -1 ∧ sent.wire ≠ message

theorem Sent.Delivers.complete {sent : Sent} {message : List UInt8} (h : sent.Delivers message)
    (hreports : sent.Reports) : sent.Complete message := by
  refine ⟨h, ?_⟩
  intro ret hret hne
  refine ⟨(hreports ret hret).resolve_left hne, ?_⟩
  intro hall
  rw [← h.ok_iff, hret, Option.some.injEq] at hall
  exact hne hall

end Reports

section Responses

def contentLength (size : Nat) : List UInt8 :=
  ascii "Content-Length: " ++ (decimal size ++ 13 :: ascii "\n\r\n")

theorem ascii_append (text more : String) : ascii (text ++ more) = ascii text ++ ascii more := by
  rw [ascii, String.toList_append, List.map_append]
  rfl

theorem jpegHeader_contentLength (size : Nat) : contentLength size <:+ jpegHeader size := by
  refine ⟨ascii ("HTTP/1.0 200 OK\r\n" ++ "Server: ov5640_capture\r\n" ++
    "Connection: close\r\n" ++ "Cache-Control: no-cache\r\n" ++
    "Content-Type: image/jpeg\r\n"), ?_⟩
  rw [contentLength, ← List.append_assoc, ← ascii_append, jpegHeader]

theorem textHeader_contentLength (status : List UInt8) (size : Nat) :
    contentLength size <:+ textHeader status size := by
  refine ⟨ascii "HTTP/1.0 " ++ status ++ ascii ("\r\n" ++ "Server: ov5640_capture\r\n" ++
    "Connection: close\r\n" ++ "Cache-Control: no-cache\r\n" ++
    "Content-Type: text/plain\r\n"), ?_⟩
  rw [contentLength, ← List.append_assoc, List.append_assoc _ _ (ascii "Content-Length: "),
    ← ascii_append, textHeader]

theorem header_ne_nil {size : Nat} {header : List UInt8} (h : contentLength size <:+ header) :
    header ≠ [] := by
  intro hnil
  rw [hnil, List.suffix_nil] at h
  have hfixed : ascii "Content-Length: " ≠ [] := by decide
  exact hfixed (List.append_eq_nil_iff.mp h).1

/-- The printed header of a picture always fits into its buffer. -/
theorem jpegHeader_length {size : Nat} (h : size < 2 ^ 64) : (jpegHeader size).length < 256 := by
  have hdigits : (decimal size).length ≤ 20 :=
    decimal_length_le (by decide) (Nat.lt_of_lt_of_le h (by decide))
  have hbefore : (ascii ("HTTP/1.0 200 OK\r\n" ++ "Server: ov5640_capture\r\n" ++
      "Connection: close\r\n" ++ "Cache-Control: no-cache\r\n" ++
      "Content-Type: image/jpeg\r\n" ++ "Content-Length: ")).length = 127 := by
    decide +kernel
  have hafter : (ascii "\n\r\n").length = 3 := by decide
  rw [jpegHeader, List.length_append, List.length_append, List.length_cons, hbefore, hafter]
  omega

theorem textHeader_length {status : List UInt8} (hstatus : status.length ≤ 30) {size : Nat}
    (hsize : size < 2 ^ 64) : (textHeader status size).length < 256 := by
  have hdigits : (decimal size).length ≤ 20 :=
    decimal_length_le (by decide) (Nat.lt_of_lt_of_le hsize (by decide))
  have hversion : (ascii "HTTP/1.0 ").length = 9 := by decide
  have hlines : (ascii ("\r\n" ++ "Server: ov5640_capture\r\n" ++ "Connection: close\r\n" ++
      "Cache-Control: no-cache\r\n" ++ "Content-Type: text/plain\r\n" ++
      "Content-Length: ")).length = 112 := by
    decide +kernel
  have hafter : (ascii "\n\r\n").length = 3 := by decide
  simp only [textHeader, List.length_append, List.length_cons, hversion, hlines, hafter]
  omega

theorem response_complete (outcomes : List SendResult) {size : Nat} {header : List UInt8}
    (hheader : contentLength size <:+ header) (body : List UInt8) :
    (sendMessage 256 outcomes header [body]).Complete (header ++ body) := by
  have hdelivers := sendMessage_delivers 256 outcomes (header_ne_nil hheader) [body]
  rw [List.flatten_singleton] at hdelivers
  exact hdelivers.complete (sendMessage_reports 256 outcomes header [body])

theorem response_succeeds {outcomes : List SendResult} {size : Nat} {header body : List UInt8}
    (hheader : contentLength size <:+ header) (hfits : header.length < 256)
    (hworks : ¬ SocketFails outcomes) (henough : (header ++ body).length ≤ answered outcomes) :
    (sendMessage 256 outcomes header [body]).ret = some 0 :=
  (response_complete outcomes hheader body).toDelivers.succeeds
    (sendMessage_bound hfits outcomes [body]) hworks henough

/-- Every buffer is sent exactly or the failure is reported, every response is its header, which
ends with the length of the body, and its body, and a socket that never fails and answers as
often as there are bytes makes each call return 0. -/
theorem responses_sent_exactly :
    (∀ outcomes data, (sendAll outcomes data).Complete data ∧
      (∀ later, (sendAll outcomes data).wire <+: (sendAll (outcomes ++ later) data).wire) ∧
      ((sendAll outcomes data).ret = none →
        answered outcomes ≤ (sendAll outcomes data).wire.length) ∧
      (¬ SocketFails outcomes → data.length ≤ answered outcomes →
        (sendAll outcomes data).ret = some 0)) ∧
    (∀ outcomes data, contentLength data.length <:+ jpegHeader data.length ∧
      (httpMjpegSendJpegResponse outcomes data).Complete (jpegHeader data.length ++ data) ∧
      (data.length < 2 ^ 64 → ¬ SocketFails outcomes →
        (jpegHeader data.length ++ data).length ≤ answered outcomes →
        (httpMjpegSendJpegResponse outcomes data).ret = some 0)) ∧
    (∀ outcomes status body, contentLength body.length <:+ textHeader status body.length ∧
      (httpMjpegSendTextResponse outcomes status body).Complete
        (textHeader status body.length ++ body) ∧
      (status.length ≤ 30 → body.length < 2 ^ 64 → ¬ SocketFails outcomes →
        (textHeader status body.length ++ body).length ≤ answered outcomes →
        (httpMjpegSendTextResponse outcomes status body).ret = some 0)) := by
  refine ⟨?_, ?_, ?_⟩
  · intro outcomes data
    have hdelivers := sendAll_delivers outcomes data
    have hbound := sendAll_bound outcomes data
    exact ⟨hdelivers.complete (sendAll_reports outcomes data),
      fun later => sendAll_wire_mono outcomes later data, hbound.running,
      hdelivers.succeeds hbound⟩
  · intro outcomes data
    have hlength := jpegHeader_contentLength data.length
    refine ⟨hlength, response_complete outcomes hlength data, ?_⟩
    intro hsize
    exact response_succeeds hlength (jpegHeader_length hsize)
  · intro outcomes status body
    have hlength := textHeader_contentLength status body.length
    refine ⟨hlength, response_complete outcomes hlength body, ?_⟩
    intro hstatus hsize
    exact response_succeeds hlength (textHeader_length hstatus hsize)

/-- A text goes out in pieces of one byte after an EINTR, and a socket that fails in the middle
of it leaves the bytes it has taken. -/
theorem responses_sent_exactly_notFound :
    let pieces : List SendResult := .interrupted :: List.replicate 163 (.accepted 1)
    (httpMjpegSendNotFound pieces).ret = some 0 ∧
      (httpMjpegSendNotFound pieces).wire =
        textHeader (ascii "404 Not Found") 10 ++ ascii "not found\n" ∧
      (httpMjpegSendNotFound [.accepted 9, .failed]).ret = some (-1) ∧
      (httpMjpegSendNotFound [.accepted 9, .failed]).wire = ascii "HTTP/1.0 " := by
  obtain ⟨-, -, htext⟩ := responses_sent_exactly
  obtain ⟨-, hcomplete, henough⟩ := htext (.interrupted :: List.replicate 163 (.accepted 1))
    (ascii "404 Not Found") (ascii "not found\n")
  have hworks : ¬ SocketFails (.interrupted :: List.replicate 163 (.accepted 1)) := by
    rw [SocketFails]
    decide +kernel
  have hok := henough (by decide) (by decide) hworks (by decide +kernel)
  exact ⟨hok, hcomplete.ok_iff.mp hok, by decide +kernel, by decide +kernel⟩

end Responses
end CameraGateway
