import CameraGateway.Core.HttpRequest
import Mathlib.Data.List.TakeWhile

/-!
How the path of a request depends on the way the network cuts it. Only the first
chunk is received, so the path is cut where that chunk ends; a chunk without any
byte of the path gives the default path instead.
-/
namespace CameraGateway

/-- `GET <path> HTTP/1.x`, a line end, and whatever follows. -/
structure Request where
  path : List UInt8
  minor : UInt8
  rest : List UInt8
  path_ne : path ≠ []
  path_chars : ∀ b ∈ path, isSpace b = false ∧ b ≠ 0

namespace Request

def afterPath (request : Request) : List UInt8 :=
  ascii "HTTP/1." ++ (request.minor :: 13 :: 10 :: request.rest)

def bytes (request : Request) : List UInt8 :=
  ascii "GET " ++ (request.path ++ 32 :: request.afterPath)

end Request

/-- The chunks that successive `recv` calls return for one request. -/
structure Segmentation (request : Request) where
  first : List UInt8
  later : List (List UInt8)
  first_ne : first ≠ []
  later_ne : ∀ chunk ∈ later, chunk ≠ []
  whole : first ++ later.flatten = request.bytes

namespace Segmentation
variable {request : Request}

def acceptedPath (cut : Segmentation request) : Option (List UInt8) :=
  httpMjpegAcceptRequest true (.received cut.first) 256

def pathBytes (cut : Segmentation request) : Nat :=
  min (cut.first.length - 4) (min 255 request.path.length)

theorem first_eq (cut : Segmentation request) :
    cut.first = request.bytes.take cut.first.length := by
  rw [← cut.whole, List.take_left]

end Segmentation

/-- A word of the request line, up to the chunk's end or the blank after it. -/
private theorem scan_word {word tail : List UInt8} (hword : ∀ b ∈ word, isSpace b = false)
    (htail : tail = [] ∨ word ≠ [] ∧ ∃ t, tail = 32 :: t) :
    ((32 :: (word ++ tail)).dropWhile isSpace).takeWhile (fun b => !isSpace b) = word := by
  have hblank : isSpace 32 = true := by decide
  rw [List.dropWhile_cons_of_pos hblank]
  have hall : ∀ b ∈ word, (!isSpace b) = true := fun b hb => by simp [hword b hb]
  have hstart : (word ++ tail).dropWhile isSpace = word ++ tail := by
    cases word with
    | nil =>
        rcases htail with rfl | ⟨hne, -⟩
        · rfl
        · exact absurd rfl hne
    | cons b word =>
        exact List.dropWhile_cons_of_neg (by simp [hword b (List.mem_cons_self ..)])
  rw [hstart]
  rcases htail with rfl | ⟨-, t, rfl⟩
  · rw [List.append_nil]
    exact List.takeWhile_eq_self_iff.mpr hall
  · rw [List.takeWhile_append_of_pos hall, List.takeWhile_cons_of_neg (by decide),
      List.append_nil]

/-- The chunk after `GET ` as a C string: a piece of the path, and the rest of the
line once the path is complete. -/
private theorem cString_chunk (request : Request) (m : Nat) :
    ∃ tail, cString ((request.path ++ 32 :: request.afterPath).take m) =
        request.path.take m ++ tail ∧
      (tail = [] ∨ request.path.take m ≠ [] ∧ ∃ t, tail = 32 :: t) := by
  have hchars : ∀ b ∈ request.path.take m, (b != 0) = true := fun b hb => by
    simpa using (request.path_chars b (List.mem_of_mem_take hb)).2
  by_cases hm : m ≤ request.path.length
  · refine ⟨[], ?_, Or.inl rfl⟩
    rw [List.take_append_of_le_length hm, cString, List.takeWhile_eq_self_iff.mpr hchars,
      List.append_nil]
  · have hfull : request.path.take m = request.path := List.take_of_length_le (by omega)
    have hpos : m - request.path.length = (m - request.path.length - 1) + 1 := by omega
    refine ⟨32 :: cString (request.afterPath.take (m - request.path.length - 1)), ?_,
      Or.inr ⟨by rw [hfull]; exact request.path_ne, _, rfl⟩⟩
    rw [List.take_append, hfull, hpos, List.take_succ_cons, cString]
    rw [hfull] at hchars
    rw [List.takeWhile_append_of_pos hchars, List.takeWhile_cons_of_pos (by decide)]
    rfl

/-- What the scan finds in the first `n` bytes of a request. -/
theorem scanPath_take (request : Request) (n : Nat) :
    scanPath (request.bytes.take n) =
      if n ≤ 4 then none
      else some (request.path.take (min (n - 4) (min 255 request.path.length))) := by
  have hget : ascii "GET " = [71, 69, 84, 32] := by decide
  match n with
  | 0 | 1 | 2 | 3 => simp [Request.bytes, hget, scanPath, cString]
  | m + 4 =>
      obtain ⟨tail, hstring, htail⟩ := cString_chunk request m
      have hword : ∀ b ∈ request.path.take m, isSpace b = false := fun b hb =>
        (request.path_chars b (List.mem_of_mem_take hb)).1
      have hscan := scan_word hword htail
      have hcut : (request.path.take m).take 255 =
          request.path.take (min m (min 255 request.path.length)) := by
        rw [List.take_take, List.take_eq_take_iff]
        omega
      have hline : cString ((request.bytes).take (m + 4)) =
          71 :: 69 :: 84 :: 32 :: (request.path.take m ++ tail) := by
        rw [← hstring]
        simp [Request.bytes, hget, cString]
      simp only [scanPath, hline, hscan, hcut, Nat.add_sub_cancel]
      have hlength : 0 < request.path.length := List.length_pos_iff.mpr request.path_ne
      by_cases hm : m = 0
      · simp [hm]
      · have hne : request.path.take (min m (min 255 request.path.length)) ≠ [] := by
          intro hnil
          have := congrArg List.length hnil
          simp only [List.length_take, List.length_nil] at this
          omega
        rw [if_neg hne, if_neg (by omega)]

/-- The path of a cut request, in terms of the bytes of it in the first chunk. -/
theorem acceptedPath_eq {request : Request} (fits : request.bytes.length ≤ 1023)
    (cut : Segmentation request) :
    cut.acceptedPath =
      some (if cut.pathBytes = 0 then ascii "/" else request.path.take cut.pathBytes) := by
  have hle : cut.first.length ≤ 1023 := by
    have := congrArg List.length cut.whole
    rw [List.length_append] at this
    omega
  have hwhole : cut.first.take 1023 = cut.first := List.take_of_length_le hle
  have hscan := scanPath_take request cut.first.length
  rw [← cut.first_eq] at hscan
  have hpath : 0 < request.path.length := List.length_pos_iff.mpr request.path_ne
  have hslash : (ascii "/").take 255 = ascii "/" := by decide
  simp only [Segmentation.acceptedPath, httpMjpegAcceptRequest, hwhole, cut.first_ne, hscan]
  by_cases hn : cut.first.length ≤ 4
  · have hzero : cut.pathBytes = 0 := by
      unfold Segmentation.pathBytes
      omega
    simp [hn, hzero, hslash]
  · have hpos : cut.pathBytes ≠ 0 := by
      unfold Segmentation.pathBytes
      omega
    have h255 : (request.path.take cut.pathBytes).take 255 = request.path.take cut.pathBytes := by
      rw [List.take_take, List.take_eq_take_iff]
      unfold Segmentation.pathBytes
      omega
    simp only [hn, hpos, if_false, Option.getD_some]
    exact congrArg some h255

/-- The first chunks hold equally many bytes of the path; or the path starts with
the default path, and neither chunk goes beyond it. -/
def SamePathBytes {request : Request} (cut cut' : Segmentation request) : Prop :=
  cut.pathBytes = cut'.pathBytes ∨
    request.path.take 1 = ascii "/" ∧ cut.pathBytes ≤ 1 ∧ cut'.pathBytes ≤ 1

private theorem pathBytes_le {request : Request} (cut : Segmentation request) :
    cut.pathBytes ≤ request.path.length := by
  unfold Segmentation.pathBytes
  omega

private theorem take_eq_default_iff {request : Request} {k : Nat} (hk : k ≠ 0)
    (hle : k ≤ request.path.length) :
    request.path.take k = ascii "/" ↔ k = 1 ∧ request.path.take 1 = ascii "/" := by
  constructor
  · intro h
    have hlength := congrArg List.length h
    rw [List.length_take, Nat.min_eq_left hle] at hlength
    obtain rfl : k = 1 := hlength
    exact ⟨rfl, h⟩
  · rintro ⟨rfl, h⟩
    exact h

/-- Two cuts of one request give the same path and the same handler exactly when
their first chunks hold the same part of the path. -/
theorem acceptRequest_segmentation {request : Request} (fits : request.bytes.length ≤ 1023)
    (cut cut' : Segmentation request) :
    (cut.acceptedPath = cut'.acceptedPath ∧
      cut.acceptedPath.map httpClientRoute = cut'.acceptedPath.map httpClientRoute) ↔
      SamePathBytes cut cut' := by
  have hboth : (cut.acceptedPath = cut'.acceptedPath ∧
      cut.acceptedPath.map httpClientRoute = cut'.acceptedPath.map httpClientRoute) ↔
      cut.acceptedPath = cut'.acceptedPath :=
    ⟨And.left, fun h => ⟨h, congrArg _ h⟩⟩
  have hle := pathBytes_le cut
  have hle' := pathBytes_le cut'
  rw [hboth, acceptedPath_eq fits, acceptedPath_eq fits, Option.some.injEq, SamePathBytes]
  by_cases hk : cut.pathBytes = 0
  · by_cases hk' : cut'.pathBytes = 0
    · simp [hk, hk']
    · rw [if_pos hk, if_neg hk', eq_comm, take_eq_default_iff hk' hle']
      constructor
      · rintro ⟨hone, hdefault⟩
        exact Or.inr ⟨hdefault, by omega, by omega⟩
      · rintro (h | ⟨hdefault, -, h⟩)
        · omega
        · exact ⟨by omega, hdefault⟩
  · by_cases hk' : cut'.pathBytes = 0
    · rw [if_neg hk, if_pos hk', take_eq_default_iff hk hle]
      constructor
      · rintro ⟨hone, hdefault⟩
        exact Or.inr ⟨hdefault, by omega, by omega⟩
      · rintro (h | ⟨hdefault, h, -⟩)
        · omega
        · exact ⟨by omega, hdefault⟩
    · rw [if_neg hk, if_neg hk']
      constructor
      · intro h
        have hlength := congrArg List.length h
        rw [List.length_take, List.length_take, Nat.min_eq_left hle,
          Nat.min_eq_left hle'] at hlength
        exact Or.inl hlength
      · rintro (h | ⟨-, h, h'⟩)
        · rw [h]
        · obtain hone : cut.pathBytes = 1 := by omega
          obtain hone' : cut'.pathBytes = 1 := by omega
          rw [hone, hone']

def snapshotRequest : Request where
  path := ascii "/snapshot"
  minor := 48
  rest := [13, 10]
  path_ne := by decide
  path_chars := fun b hb => by
    have hall : ((ascii "/snapshot").all fun b => !isSpace b && b != 0) = true := by decide
    simpa using List.all_eq_true.mp hall b hb

def snapshotWhole : Segmentation snapshotRequest where
  first := snapshotRequest.bytes
  later := []
  first_ne := by decide
  later_ne := by decide
  whole := by decide

def snapshotSplit : Segmentation snapshotRequest where
  first := ascii "GE"
  later := [snapshotRequest.bytes.drop 2]
  first_ne := by decide
  later_ne := by decide
  whole := by decide

theorem acceptRequest_segmentation_snapshot :
    (snapshotWhole.acceptedPath = snapshotSplit.acceptedPath ∧
      snapshotWhole.acceptedPath.map httpClientRoute =
        snapshotSplit.acceptedPath.map httpClientRoute) ↔
      SamePathBytes snapshotWhole snapshotSplit :=
  acceptRequest_segmentation (by decide) _ _

/-- Cut inside `GET`, a request for a snapshot is answered with the endless stream. -/
theorem acceptRequest_depends_on_segmentation :
    ¬ ∀ (request : Request) (cut cut' : Segmentation request),
      request.bytes.length ≤ 1023 →
      cut.acceptedPath = cut'.acceptedPath ∧
        cut.acceptedPath.map httpClientRoute = cut'.acceptedPath.map httpClientRoute := by
  intro claim
  have h := (claim snapshotRequest snapshotWhole snapshotSplit (by decide)).2
  exact absurd h (by decide)

end CameraGateway
