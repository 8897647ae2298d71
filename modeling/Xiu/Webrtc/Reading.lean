import Mathlib.Data.List.Infix
import Xiu.Common.Http
import Xiu.ProofKit.Collect
import Xiu.ProofKit.Utf8

/-! How a WebRTC session reads its request, of `protocol/webrtc/src/session/mod.rs`: when the offer does
not depend on how the connection is cut into reads.  The length that a request announces is compared with
that of all that has been read, the head with it, and only if the announcement comes in the first
read. -/

namespace Xiu.Webrtc

open Common ProofKit

/-- What becomes of what is read: it does not suffice, it is no text, or it is given to
`HttpRequest::unmarshal`. -/
inductive Reception where
  | readError
  | utf8Error
  | unmarshalled (request : Option HttpRequest)
  deriving DecidableEq

def pass (requestData : List UInt8) : Reception :=
  match decodeUtf8 requestData with
  | none => .utf8Error
  | some text => .unmarshalled (HttpRequest.unmarshal text)

/-- `run` up to `HttpRequest::unmarshal`.  There is nothing to read behind the last read. -/
def receive (reads : List (List UInt8)) : Reception :=
  match collect (· ++ ·) 4 0 reads [] with
  | none => .readError
  | some (remainingData, reads) =>
    match decodeUtf8 remainingData with
    | none => .utf8Error
    | some text =>
      match parseContentLength text with
      | none => pass remainingData
      | some contentLength =>
        match collect (· ++ ·) contentLength remainingData.length reads remainingData with
        | none => .readError
        | some (requestData, _) => pass requestData

/-! ### The announcement -/

/-- Where the value of the first announcement of a length begins, and how long it is. -/
def located (text : List Char) : Option (Nat × Nat) := do
  let start := "Content-Length:".toList
  let startIndex := (← find start text) + start.length
  let endIndex ← find ['\r', '\n'] (text.drop startIndex)
  return (startIndex, endIndex)

/-- The first announcement: where its line ends, in bytes, and the length. -/
def announcement (text : List Char) : Option (Nat × Nat) := do
  let (startIndex, endIndex) ← located text
  let contentLength ← parseU32 (trim ((text.drop startIndex).take endIndex))
  return ((encodeUtf8 (text.take (startIndex + endIndex + 2))).length, contentLength)

theorem parseContentLength_eq (text : List Char) : parseContentLength text =
    (located text).bind fun place => parseU32 (trim ((text.drop place.1).take place.2)) := by
  cases hFind : find "Content-Length:".toList text with
  | none => simp only [parseContentLength, located, hFind, bind, Option.bind]
  | some i =>
    cases hEnd : find ['\r', '\n'] (text.drop (i + "Content-Length:".toList.length)) with
    | none => simp only [parseContentLength, located, hFind, hEnd, bind, Option.bind]
    | some j => simp only [parseContentLength, located, hFind, hEnd, bind, Option.bind, pure]

theorem located_eq_some {text : List Char} {startIndex endIndex : Nat} :
    located text = some (startIndex, endIndex) ↔
      ∃ i, find "Content-Length:".toList text = some i ∧ startIndex = i + 15 ∧
        find ['\r', '\n'] (text.drop startIndex) = some endIndex := by
  cases hFind : find "Content-Length:".toList text with
  | none =>
    simp only [located, hFind, bind, Option.bind]
    constructor
    · intro h
      cases h
    · rintro ⟨i, hNone, -⟩
      cases hNone
  | some i =>
    simp only [located, hFind, bind, Option.bind]
    constructor
    · intro h
      cases hEnd : find ['\r', '\n'] (text.drop (i + "Content-Length:".toList.length)) with
      | none =>
        rw [hEnd] at h
        cases h
      | some j =>
        rw [hEnd] at h
        cases h
        exact ⟨i, rfl, rfl, hEnd⟩
    · rintro ⟨i', hSome, rfl, hEnd⟩
      cases hSome
      have hEnd' : find ['\r', '\n'] (text.drop (i + "Content-Length:".toList.length)) =
          some endIndex := hEnd
      rw [hEnd']
      rfl

/-- Where a text ends that holds the line. -/
theorem located_le {text : List Char} {startIndex endIndex : Nat}
    (h : located text = some (startIndex, endIndex)) : startIndex + endIndex + 2 ≤ text.length := by
  obtain ⟨i, hFind, rfl, hEnd⟩ := located_eq_some.mp h
  have hStart := find_le hFind
  have hLine := find_le hEnd
  rw [List.length_drop] at hLine
  have hTwo : ['\r', '\n'].length = 2 := rfl
  have hFifteen : "Content-Length:".toList.length = 15 := rfl
  omega

/-- What a beginning of a text announces the text does. -/
theorem located_append {text : List Char} {place : Nat × Nat} (h : located text = some place)
    (more : List Char) : located (text ++ more) = some place := by
  obtain ⟨startIndex, endIndex⟩ := place
  have hLength := located_le h
  obtain ⟨i, hFind, rfl, hEnd⟩ := located_eq_some.mp h
  refine located_eq_some.mpr ⟨i, find_append hFind more, rfl, ?_⟩
  rw [List.drop_append_of_le_length (by omega)]
  exact find_append hEnd more

/-- A beginning that holds the line announces what the text does. -/
theorem located_of_beginning {text all : List Char} {startIndex endIndex : Nat} (hPrefix : text <+: all)
    (h : located all = some (startIndex, endIndex)) (hLength : startIndex + endIndex + 2 ≤ text.length) :
    located text = some (startIndex, endIndex) := by
  obtain ⟨i, hFind, rfl, hEnd⟩ := located_eq_some.mp h
  have hFifteen : "Content-Length:".toList.length = 15 := rfl
  have hTwo : ['\r', '\n'].length = 2 := rfl
  refine located_eq_some.mpr ⟨i, find_of_beginning hPrefix hFind (by omega), rfl, ?_⟩
  refine find_of_beginning (List.IsPrefix.drop hPrefix _) hEnd ?_
  rw [List.length_drop]
  omega

theorem length_encodeUtf8_le {text text' : List Char} (h : text <+: text') :
    (encodeUtf8 text).length ≤ (encodeUtf8 text').length := by
  obtain ⟨more, rfl⟩ := h
  rw [encodeUtf8_append, List.length_append]
  exact Nat.le_add_right _ _

/-- Of two beginnings of a text the longer one has more bytes. -/
theorem length_le_of_encodeUtf8 {text text' all : List Char} (h : text <+: all) (h' : text' <+: all)
    (hLength : (encodeUtf8 text).length ≤ (encodeUtf8 text').length) : text.length ≤ text'.length := by
  by_contra hLonger
  have hPrefix : text' <+: text := List.prefix_of_prefix_length_le h' h (by omega)
  obtain ⟨more, rfl⟩ := hPrefix
  have hMore := length_le_length_encodeUtf8 more
  rw [encodeUtf8_append, List.length_append] at hLength
  rw [List.length_append] at hLonger
  omega

/-- A beginning of a text announces what the text does, if the line is in it. -/
theorem parseContentLength_beginning {text all : List Char} (hPrefix : text <+: all) :
    parseContentLength text = (announcement all).bind fun found =>
      if found.1 ≤ (encodeUtf8 text).length then some found.2 else none := by
  rw [parseContentLength_eq]
  cases hText : located text with
  | some place =>
    obtain ⟨startIndex, endIndex⟩ := place
    have hLength := located_le hText
    obtain ⟨more, rfl⟩ := hPrefix
    have hAll := located_append hText more
    have hValue : ((text ++ more).drop startIndex).take endIndex =
        (text.drop startIndex).take endIndex := by
      rw [List.drop_append_of_le_length (by omega),
        List.take_append_of_le_length (by rw [List.length_drop]; omega)]
    have hLine : (text ++ more).take (startIndex + endIndex + 2) =
        text.take (startIndex + endIndex + 2) := List.take_append_of_le_length hLength
    have hEnd := length_encodeUtf8_le (List.take_prefix (startIndex + endIndex + 2) text)
    simp only [announcement, hAll, bind, Option.bind, hValue, hLine]
    cases parseU32 (trim ((text.drop startIndex).take endIndex)) with
    | none => rfl
    | some contentLength => exact (if_pos hEnd).symm
  | none =>
    cases hAll : located all with
    | none =>
      rw [announcement, hAll]
      rfl
    | some place =>
      obtain ⟨startIndex, endIndex⟩ := place
      have hLength := located_le hAll
      -- otherwise the line would be in the beginning
      have hNot : ¬(encodeUtf8 (all.take (startIndex + endIndex + 2))).length ≤
          (encodeUtf8 text).length := by
        intro hLess
        have hLine := length_le_of_encodeUtf8 (List.take_prefix _ _) hPrefix hLess
        rw [List.length_take_of_le hLength] at hLine
        rw [located_of_beginning hPrefix hAll hLine] at hText
        cases hText
      simp only [announcement, hAll, bind, Option.bind]
      cases parseU32 (trim ((all.drop startIndex).take endIndex)) with
      | none => rfl
      | some contentLength => exact (if_neg hNot).symm

/-! ### Requests -/

/-- A POST request as it is written: a head that its first empty line ends, which
`HttpRequest::unmarshal` takes, and the offer that its header announces. -/
structure PostRequest where
  head : List Char
  body : List Char
  parsed : HttpRequest
  blank : find HttpRequest.blankLine head = some (head.length - 4)
  isRequest : HttpRequest.unmarshal head = some parsed
  isPost : parsed.method = "POST"
  announced : ∃ header ∈ parsed.headers,
    toLowercase header.1.toList = "content-length".toList ∧
      parseUsize (trim header.2.toList) = some (encodeUtf8 body).length
  offered : body ≠ []

namespace PostRequest

variable (r : PostRequest)

def text : List Char := r.head ++ r.body

def bytes : List UInt8 := encodeUtf8 r.text

/-- The reception of the complete request, with the whole offer as its body. -/
def complete : Reception := .unmarshalled (some (r.parsed.setBody r.body))

/-- How many bytes are waited for, from those on that are there when the announcement is looked for: as
many as are announced, if the line is there, the head counted with the body. -/
def awaited (length : Nat) : Nat :=
  match announcement r.text with
  | some (lineEnd, contentLength) => if lineEnd ≤ length then max length contentLength else length
  | none => length

/-- The first read to end behind the third byte ends between characters, and from as many bytes on as are
waited for then no read ends but at the end of the request. -/
def Clean (stops : Nat → Prop) : Prop :=
  ∀ first, stops first → 4 ≤ first → (∀ stop, stops stop → 4 ≤ stop → first ≤ stop) →
    (decodeUtf8 (r.bytes.take first)).isSome ∧ r.awaited first ≤ r.bytes.length ∧
      ∀ stop, stops stop → r.awaited first ≤ stop → stop = r.bytes.length

theorem le_awaited (length : Nat) : length ≤ r.awaited length := by
  unfold awaited
  split
  · split
    · exact Nat.le_max_left _ _
    · exact Nat.le_refl _
  · exact Nat.le_refl _

theorem four_le : 4 ≤ r.bytes.length := by
  have hLength := find_le r.blank
  have hFour : HttpRequest.blankLine.length = 4 := rfl
  have hText := length_le_length_encodeUtf8 r.text
  have hHead : r.text.length = r.head.length + r.body.length := List.length_append
  unfold bytes
  omega

theorem pass_bytes : pass r.bytes = r.complete := by
  have hRequest : HttpRequest.unmarshal r.text = some (r.parsed.setBody r.body) := by
    rw [text, HttpRequest.unmarshal_append r.blank, r.isRequest]
    rfl
  rw [pass, bytes, decodeUtf8_encodeUtf8, complete, ← hRequest]

/-- A beginning of the request that is taken for the request is all of it. -/
theorem eq_of_pass {data : List UInt8} (hPrefix : data <+: r.bytes) (h : pass data = r.complete) :
    data = r.bytes := by
  obtain ⟨more, hMore⟩ := hPrefix
  unfold pass at h
  cases hText : decodeUtf8 data with
  | none =>
    rw [hText] at h
    cases h
  | some text =>
    rw [hText] at h
    injection h with hRequest
    have hBeginning : text <+: r.head ++ r.body := isPrefix_of_decodeUtf8 hText hMore
    have hAll := HttpRequest.eq_of_unmarshal r.blank r.isRequest hBeginning hRequest
    rw [decodeUtf8_eq_some.mp hText, hAll]
    rfl

end PostRequest

variable {r : PostRequest} {reads taken rest : List (List UInt8)}

/-- What is waited for, and then passed on. -/
def await (enough : Nat) (first : List UInt8) (rest : List (List UInt8)) : Reception :=
  match collect (· ++ ·) enough first.length rest first with
  | none => .readError
  | some (requestData, _) => pass requestData

theorem await_of_le {enough : Nat} {first : List UInt8} (h : enough ≤ first.length) :
    await enough first rest = pass first := by
  have hCollect := @collect_of_suffices _ _ (· ++ ·) _ _ [] rest first (suffices_nil h)
  rw [List.nil_append, List.foldl_nil] at hCollect
  rw [await, hCollect]

/-- What becomes of a first read that ends between characters. -/
theorem receive_text {text : List Char} (hTaken : Suffices 4 0 taken)
    (hText : decodeUtf8 taken.flatten = some text) (hPrefix : text <+: r.text) :
    receive (taken ++ rest) = await (r.awaited taken.flatten.length) taken.flatten rest := by
  have hFold : taken.foldl (· ++ ·) [] = taken.flatten := foldl_append taken []
  have hLength : (encodeUtf8 text).length = taken.flatten.length := by
    rw [← decodeUtf8_eq_some.mp hText]
  simp only [receive, collect_of_suffices hTaken, hFold, hText]
  rw [parseContentLength_beginning hPrefix, hLength, PostRequest.awaited]
  cases announcement r.text with
  | none => exact (await_of_le (Nat.le_refl _)).symm
  | some found =>
    obtain ⟨lineEnd, contentLength⟩ := found
    by_cases hLine : lineEnd ≤ taken.flatten.length
    · simp only [Option.bind_some, if_pos hLine]
      rcases Nat.le_total contentLength taken.flatten.length with hLess | hMore
      · rw [Nat.max_eq_left hLess, await_of_le (Nat.le_refl _)]
        exact await_of_le hLess
      · rw [Nat.max_eq_right hMore]
        rfl
    · simp only [Option.bind_some, if_neg hLine]
      exact (await_of_le (Nat.le_refl _)).symm

/-- What is waited for is the request if and only if no read ends before that would suffice. -/
theorem await_iff {enough : Nat} (hBytes : taken.flatten ++ rest.flatten = r.bytes)
    (hEnough : taken.flatten.length ≤ enough) :
    await enough taken.flatten rest = r.complete ↔ enough ≤ r.bytes.length ∧
      ∀ stop, StopsAt (taken ++ rest) stop → enough ≤ stop → stop = r.bytes.length := by
  have hLength : r.bytes.length = taken.flatten.length + rest.flatten.length := by
    rw [← hBytes, List.length_append]
  by_cases hAll : enough ≤ r.bytes.length
  · obtain ⟨more, later, rfl, hMore⟩ := exists_suffices (hLength ▸ hAll)
    have hAwait : await enough taken.flatten (more ++ later) = pass (taken.flatten ++ more.flatten) := by
      rw [await, collect_of_suffices hMore, foldl_append]
    have hBeginning : taken.flatten ++ more.flatten <+: r.bytes := by
      rw [← hBytes, List.flatten_append, ← List.append_assoc]
      exact List.prefix_append _ _
    rw [hAwait, and_iff_right hAll]
    constructor
    · intro h stop hStop hLe
      have hRequest := congrArg List.length (r.eq_of_pass hBeginning h)
      rw [List.length_append] at hRequest
      obtain ⟨behind, hBehind, rfl⟩ := (stopsAt_append (by omega)).mp hStop
      have hLeast := hMore.le_of_stopsAt (List.prefix_append more later) hBehind hLe
      obtain ⟨first, hFirst, rfl⟩ := hBehind
      have hMost := flatten_length_le hFirst
      omega
    · intro h
      have hStop := h (taken.flatten.length + more.flatten.length)
        ((stopsAt_append (Nat.le_add_right _ _)).mpr
          ⟨_, ⟨more, List.prefix_append more later, rfl⟩, rfl⟩) hMore.reaches
      have hRequest := hBeginning.eq_of_length (by rw [List.length_append, hStop])
      rw [hRequest]
      exact r.pass_bytes
  · refine iff_of_false ?_ fun h => hAll h.1
    rw [await, collect_of_lt (by omega)]
    exact Reception.noConfusion

/-- An offer is read whole if and only if the cuts are clean. -/
theorem receive_complete_iff (r : PostRequest) (reads : List (List UInt8))
    (hReads : reads.flatten = r.bytes) : receive reads = r.complete ↔ r.Clean (StopsAt reads) := by
  have hFour := r.four_le
  obtain ⟨taken, rest, rfl, hTaken⟩ :=
    @exists_suffices _ 4 0 reads (by rw [hReads, Nat.zero_add]; exact hFour)
  rw [List.flatten_append] at hReads
  have hReaches := hTaken.reaches
  rw [Nat.zero_add] at hReaches
  -- the reads that are taken first end at the first stop behind the third byte
  have hFirst : ∀ first, StopsAt (taken ++ rest) first → 4 ≤ first →
      (∀ stop, StopsAt (taken ++ rest) stop → 4 ≤ stop → first ≤ stop) →
      first = taken.flatten.length := by
    intro first hStop hLe hLeast
    refine Nat.le_antisymm (hLeast _ ⟨taken, List.prefix_append taken rest, rfl⟩ hReaches) ?_
    exact hTaken.le_of_stopsAt (List.prefix_append taken rest) hStop (by omega)
  have hLeast : ∀ stop, StopsAt (taken ++ rest) stop → 4 ≤ stop → taken.flatten.length ≤ stop :=
    fun stop hStop hLe => hTaken.le_of_stopsAt (List.prefix_append taken rest) hStop (by omega)
  have hTake : r.bytes.take taken.flatten.length = taken.flatten := by
    rw [← hReads, List.take_left]
  have hClean : r.Clean (StopsAt (taken ++ rest)) ↔ (decodeUtf8 taken.flatten).isSome ∧
      r.awaited taken.flatten.length ≤ r.bytes.length ∧
        ∀ stop, StopsAt (taken ++ rest) stop → r.awaited taken.flatten.length ≤ stop →
          stop = r.bytes.length := by
    constructor
    · intro h
      have hAll := h _ ⟨taken, List.prefix_append taken rest, rfl⟩ hReaches hLeast
      rwa [hTake] at hAll
    · intro h first hStop hLe hLeast'
      rw [hFirst first hStop hLe hLeast', hTake]
      exact h
  rw [hClean]
  cases hText : decodeUtf8 taken.flatten with
  | none =>
    refine iff_of_false ?_ fun h => absurd h.1 Bool.false_ne_true
    have hFold : taken.foldl (· ++ ·) [] = taken.flatten := foldl_append taken []
    simp only [receive, collect_of_suffices hTaken, hFold, hText]
    exact Reception.noConfusion
  | some text =>
    have hPrefix : text <+: r.text := isPrefix_of_decodeUtf8 hText hReads
    rw [receive_text hTaken hText hPrefix, await_iff hReads (r.le_awaited _)]
    exact (and_iff_right rfl).symm

/-! ### A request with a short offer -/

/-- A first read that announces no more bytes than it has is passed on alone. -/
theorem receive_first {text : List Char} {contentLength : Nat} (hFour : 4 ≤ text.length)
    (hParse : parseContentLength text = some contentLength) (hLe : contentLength ≤ text.length) :
    receive (encodeUtf8 text :: rest) = pass (encodeUtf8 text) := by
  have hLength := length_le_length_encodeUtf8 text
  have hTaken : Suffices 4 0 [encodeUtf8 text] :=
    (suffices_cons (by decide)).mpr (suffices_nil (by omega))
  have hFirst := @collect_of_suffices _ _ (· ++ ·) _ _ _ rest [] hTaken
  have hFold : [encodeUtf8 text].foldl (· ++ ·) [] = encodeUtf8 text := rfl
  rw [List.singleton_append, hFold] at hFirst
  simp only [receive, hFirst, decodeUtf8_encodeUtf8, hParse]
  exact await_of_le (Nat.le_trans hLe hLength)

def whipHead : List Char :=
  "POST /whip?app=live&stream=test HTTP/1.1\r\nContent-Length: 5\r\n\r\n".toList

def whipBody : List Char := "v=0\r\n".toList

def whipParsed : HttpRequest := (HttpRequest.unmarshal whipHead).getD .default

/-- What the request has of a request, evaluated at once. -/
theorem whip_wellFormed :
    find HttpRequest.blankLine whipHead = some (whipHead.length - 4) ∧
      HttpRequest.unmarshal whipHead = some whipParsed ∧ whipParsed.method = "POST" ∧
        (∃ header ∈ whipParsed.headers,
          toLowercase header.1.toList = "content-length".toList ∧
            parseUsize (trim header.2.toList) = some (encodeUtf8 whipBody).length) ∧
          whipBody ≠ [] := by
  decide +kernel

theorem whip_blank : find HttpRequest.blankLine whipHead = some (whipHead.length - 4) :=
  whip_wellFormed.1

theorem whip_isRequest : HttpRequest.unmarshal whipHead = some whipParsed := whip_wellFormed.2.1

theorem whip_isPost : whipParsed.method = "POST" := whip_wellFormed.2.2.1

theorem whip_announced : ∃ header ∈ whipParsed.headers,
    toLowercase header.1.toList = "content-length".toList ∧
      parseUsize (trim header.2.toList) = some (encodeUtf8 whipBody).length :=
  whip_wellFormed.2.2.2.1

theorem whip_offered : whipBody ≠ [] := whip_wellFormed.2.2.2.2

/-- An offer of five bytes. -/
def whipRequest : PostRequest where
  head := whipHead
  body := whipBody
  parsed := whipParsed
  blank := whip_blank
  isRequest := whip_isRequest
  isPost := whip_isPost
  announced := whip_announced
  offered := whip_offered

/-- In one read it is read whole. -/
theorem one_read_complete : receive [whipRequest.bytes] = whipRequest.complete := by
  have hAwaited : whipRequest.awaited whipRequest.bytes.length ≤ whipRequest.bytes.length := by
    decide +kernel
  -- the only read ends with the request
  have hStops : ∀ stop, StopsAt [whipRequest.bytes] stop → 4 ≤ stop →
      stop = whipRequest.bytes.length := by
    intro stop hStop hLe
    rcases stopsAt_cons.mp hStop with rfl | ⟨more, hMore, rfl⟩
    · omega
    · rw [stopsAt_nil.mp hMore, Nat.add_zero]
  refine (receive_complete_iff whipRequest [whipRequest.bytes] (List.append_nil _)).mpr ?_
  intro first hFirst hLe _
  rw [hStops first hFirst hLe, List.take_length]
  refine ⟨?_, hAwaited, fun stop hStop hEnough => hStops stop hStop ?_⟩
  · rw [PostRequest.bytes, decodeUtf8_encodeUtf8]
    rfl
  · refine Nat.le_trans (Nat.le_trans whipRequest.four_le ?_) hEnough
    exact whipRequest.le_awaited _

/-- With the offer in a read of its own nothing is read of it. -/
theorem offer_behind_head_lost :
    [encodeUtf8 whipHead, encodeUtf8 whipBody].flatten = whipRequest.bytes ∧
      receive [encodeUtf8 whipHead, encodeUtf8 whipBody] ≠ whipRequest.complete := by
  have hBytes : whipRequest.bytes = encodeUtf8 whipHead ++ encodeUtf8 whipBody :=
    encodeUtf8_append whipHead whipBody
  refine ⟨?_, fun h => ?_⟩
  · rw [hBytes, List.flatten_cons, List.flatten_singleton]
  · have hParse : parseContentLength whipHead = some 5 := by decide +kernel
    have hFour : 4 ≤ whipHead.length := by decide +kernel
    have hFive : 5 ≤ whipHead.length := by decide +kernel
    rw [receive_first hFour hParse hFive] at h
    have hBeginning : encodeUtf8 whipHead <+: whipRequest.bytes := by
      rw [hBytes]
      exact List.prefix_append _ _
    have hAll := whipRequest.eq_of_pass hBeginning h
    rw [hBytes, List.self_eq_append_right] at hAll
    have hSome := length_le_length_encodeUtf8 whipBody
    rw [hAll] at hSome
    exact absurd hSome (by decide +kernel)

end Xiu.Webrtc
