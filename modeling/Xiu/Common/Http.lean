import Xiu.Common.Text

/-! HTTP requests, as RTSP and WebRTC sessions read them, of `library/common/src/http.rs`. -/

namespace Xiu.Common

inductive Schema where
  | webrtc
  | rtsp
  | unknown
  deriving DecidableEq

structure Uri where
  schema : Schema
  host : String
  port : Option Nat
  path : String
  query : Option String
  deriving DecidableEq

namespace Uri

def default : Uri := ⟨.unknown, "", none, "", none⟩

/-- Sets what a text `host:port` names. -/
def setHost (uri : Uri) (hostWithPort : List Char) : Uri :=
  let (host, port) := scanf hostWithPort ':'
  { uri with
    host := (host.map String.ofList).getD uri.host
    port := (port.bind parseU16) <|> uri.port }

/-- The path, and after the first question mark the query. -/
def setPath (uri : Uri) (pathWithQuery : List Char) : Uri :=
  let (path, query) := splitn2 '?' pathWithQuery
  { uri with path := String.ofList path, query := query.map String.ofList }

/-- `Uri::unmarshal`: `rtsp://host:port/path?query`, or else `path?query`. -/
def unmarshal (url : List Char) : Option Uri :=
  if "rtsp://".toList.isPrefixOf url then
    let withoutPrefix := url.drop 7
    match find ['/'] withoutPrefix with
    | some index =>
      some (({ default with schema := .rtsp }.setHost (withoutPrefix.take index)).setPath
        (withoutPrefix.drop (index + 1)))
    | none => none
  else if "/whip".toList.isPrefixOf url || "/whep".toList.isPrefixOf url then
    some ({ default with schema := .webrtc }.setPath url)
  else
    some (default.setPath url)

/-- `Uri::marshal`: the host is written for RTSP only. -/
def marshal (uri : Uri) : String :=
  let pathWithQuery := uri.path ++ (uri.query.map ("?" ++ ·)).getD ""
  match uri.schema with
  | .rtsp =>
    "rtsp://" ++ uri.host ++ (uri.port.map fun port => s!":{port}").getD "" ++ "/" ++ pathWithQuery
  | .webrtc => pathWithQuery
  | .unknown => pathWithQuery

end Uri

structure HttpRequest where
  method : String
  uri : Uri
  queryPairs : IndexMap String
  version : String
  headers : IndexMap String
  body : Option String
  deriving DecidableEq

structure HttpResponse where
  version : String
  statusCode : Nat
  reasonPhrase : String
  headers : IndexMap String
  body : Option String
  deriving DecidableEq

/-- A response with one header more. -/
def HttpResponse.insertHeader (response : HttpResponse) (name value : String) : HttpResponse :=
  { response with headers := IndexMap.insert response.headers name value }

namespace HttpRequest

def default : HttpRequest := ⟨"", .default, [], "", [], none⟩

def getHeader (request : HttpRequest) (headerName : String) : Option String :=
  request.headers.lookup headerName

/-- The first line: the method, the URI and the version, as far as they are there. -/
def setFirstLine (request : HttpRequest) (line : List Char) : Option HttpRequest :=
  match splitAsciiWhitespace line with
  | [] => some request
  | [method] => some { request with method := String.ofList method }
  | method :: url :: fields =>
    match Uri.unmarshal url with
    | none => none
    | some uri =>
      some { request with
        method := String.ofList method
        uri
        queryPairs := (uri.query.map Common.queryPairs).getD []
        version := (fields.head?.map String.ofList).getD request.version }

/-- A header line; one without a colon and a space is left out. -/
def addHeader (request : HttpRequest) (line : List Char) : HttpRequest :=
  match find [':', ' '] line with
  | none => request
  | some index =>
    let name := line.take index
    let value := line.drop (index + 2)
    { request with
      uri := if name = "Host".toList then request.uri.setHost value else request.uri
      headers := IndexMap.insert request.headers (String.ofList name) (String.ofList value) }

/-- `HttpRequest::unmarshal`: what follows the empty line is the body. -/
def unmarshal (requestData : List Char) : Option HttpRequest :=
  match find ['\r', '\n', '\r', '\n'] requestData with
  | none => none
  | some idx =>
    let request :=
      match lines (requestData.take idx) with
      | [] => some default
      | first :: headers =>
        (default.setFirstLine first).map fun request => headers.foldl addHeader request
    let body := requestData.drop (idx + 4)
    request.map fun request =>
      if body.isEmpty then request else { request with body := some (String.ofList body) }

end HttpRequest

/-- `parse_content_length`. -/
def parseContentLength (requestData : List Char) : Option Nat := do
  let start := "Content-Length:".toList
  let startIndex := (← find start requestData) + start.length
  let endIndex ← find ['\r', '\n'] (requestData.drop startIndex)
  parseU32 (trim ((requestData.drop startIndex).take endIndex))

/-! ### Where a request ends -/

theorem find_le {pattern text : List Char} {i : Nat} (h : find pattern text = some i) :
    i + pattern.length ≤ text.length := by
  induction text generalizing i with
  | nil =>
    simp only [find] at h
    split at h
    · rename_i hEmpty
      obtain rfl := Option.some.inj h
      simp [List.isEmpty_iff.mp hEmpty]
    · cases h
  | cons c rest ih =>
    simp only [find] at h
    split at h
    · rename_i hPrefix
      obtain rfl := Option.some.inj h
      have hLength := (List.isPrefixOf_iff_prefix.mp hPrefix).length_le
      omega
    · obtain ⟨j, hj, rfl⟩ := Option.map_eq_some_iff.mp h
      have := ih hj
      simp only [List.length_cons]
      omega

/-- What follows a text does not change where a pattern occurs in it first. -/
theorem find_append {pattern text : List Char} {i : Nat} (h : find pattern text = some i)
    (more : List Char) : find pattern (text ++ more) = some i := by
  induction text generalizing i with
  | nil =>
    simp only [find] at h
    split at h
    · rename_i hEmpty
      obtain rfl := Option.some.inj h
      obtain rfl := List.isEmpty_iff.mp hEmpty
      cases more <;> rfl
    · cases h
  | cons c rest ih =>
    have hLength := find_le h
    simp only [find] at h
    simp only [List.cons_append, find]
    split at h
    · rename_i hPrefix
      obtain ⟨tail, hTail⟩ := List.isPrefixOf_iff_prefix.mp hPrefix
      have hLonger : pattern.isPrefixOf (c :: (rest ++ more)) := by
        rw [← List.cons_append, ← hTail, List.append_assoc]
        exact List.isPrefixOf_iff_prefix.mpr (List.prefix_append _ _)
      rw [if_pos hLonger]
      exact h
    · rename_i hPrefix
      obtain ⟨j, hj, rfl⟩ := Option.map_eq_some_iff.mp h
      have hNot : ¬pattern.isPrefixOf (c :: (rest ++ more)) := by
        intro hLonger
        apply hPrefix
        have hPrefixes := List.isPrefixOf_iff_prefix.mp hLonger
        refine List.isPrefixOf_iff_prefix.mpr (List.prefix_of_prefix_length_le hPrefixes ?_ ?_)
        · exact ⟨more, by simp⟩
        · simp only [List.length_cons] at hLength ⊢
          omega
      rw [if_neg hNot, ih hj]
      rfl

/-- A pattern that occurs in a text first occurs there in a beginning of the text that is long enough. -/
theorem find_of_beginning {pattern text all : List Char} {i : Nat} (hPrefix : text <+: all)
    (h : find pattern all = some i) (hLength : i + pattern.length ≤ text.length) :
    find pattern text = some i := by
  obtain ⟨more, rfl⟩ := hPrefix
  induction text generalizing i with
  | nil =>
    rw [List.length_nil, Nat.le_zero, Nat.add_eq_zero_iff, List.length_eq_zero_iff] at hLength
    obtain ⟨rfl, rfl⟩ := hLength
    rfl
  | cons c rest ih =>
    rw [List.cons_append, find] at h
    rw [find]
    split at h
    · rename_i hLonger
      cases h
      rw [Nat.zero_add] at hLength
      have hFirst : pattern <+: c :: rest := by
        refine List.prefix_of_prefix_length_le (List.isPrefixOf_iff_prefix.mp hLonger) ?_ hLength
        exact ⟨more, by rw [List.cons_append]⟩
      rw [if_pos (List.isPrefixOf_iff_prefix.mpr hFirst)]
    · rename_i hNot
      obtain ⟨j, hj, rfl⟩ := Option.map_eq_some_iff.mp h
      have hShorter : ¬pattern.isPrefixOf (c :: rest) = true := by
        intro hFirst
        refine hNot (List.isPrefixOf_iff_prefix.mpr ?_)
        rw [← List.cons_append]
        exact (List.isPrefixOf_iff_prefix.mp hFirst).trans (List.prefix_append _ _)
      rw [List.length_cons] at hLength
      rw [if_neg hShorter, ih (by omega) hj]
      rfl

namespace HttpRequest

/-- The empty line that ends the head of a request. -/
def blankLine : List Char := ['\r', '\n', '\r', '\n']

/-- A request with a body, unless the body is empty. -/
def setBody (request : HttpRequest) (body : List Char) : HttpRequest :=
  if body.isEmpty then request else { request with body := some (String.ofList body) }

/-- What follows the head is the body, however long. -/
theorem unmarshal_append {head : List Char} (hBlank : find blankLine head = some (head.length - 4))
    (body : List Char) :
    unmarshal (head ++ body) = (unmarshal head).map (·.setBody body) := by
  have hLength := find_le hBlank
  have hFour : blankLine.length = 4 := rfl
  have hAll := find_append hBlank body
  simp only [blankLine] at hBlank hAll
  simp only [unmarshal, hBlank, hAll]
  have hTake : (head ++ body).take (head.length - 4) = head.take (head.length - 4) :=
    List.take_append_of_le_length (by omega)
  have hDrop : (head ++ body).drop (head.length - 4 + 4) = body := by
    rw [Nat.sub_add_cancel (by omega), List.drop_left]
  have hNone : head.drop (head.length - 4 + 4) = [] := by
    rw [Nat.sub_add_cancel (by omega), List.drop_length]
  rw [hTake, hDrop, hNone]
  simp only [List.isEmpty_nil, if_true, Option.map_map]
  congr 1

/-- A head that is not all there is no request. -/
theorem unmarshal_short {head text : List Char} (hBlank : find blankLine head = some (head.length - 4))
    (hPrefix : text <+: head) (hShort : text.length < head.length) : unmarshal text = none := by
  cases hFind : find blankLine text with
  | none =>
    simp only [blankLine] at hFind
    simp only [unmarshal, hFind]
  | some i =>
    obtain ⟨more, rfl⟩ := hPrefix
    have hAll := find_append hFind more
    have hLength := find_le hFind
    have hFour : blankLine.length = 4 := rfl
    rw [hBlank] at hAll
    obtain rfl := Option.some.inj hAll
    omega

theorem setBody_getHeader (request : HttpRequest) (body : List Char) (name : String) :
    (request.setBody body).getHeader name = request.getHeader name := by
  simp only [setBody]
  split <;> rfl

theorem setFirstLine_body {request request' : HttpRequest} {line : List Char}
    (h : request.setFirstLine line = some request') : request'.body = request.body := by
  simp only [setFirstLine] at h
  split at h
  · cases h
    rfl
  · cases h
    rfl
  · split at h
    · cases h
    · cases h
      rfl

theorem addHeaders_body (request : HttpRequest) (headers : List (List Char)) :
    (headers.foldl addHeader request).body = request.body := by
  induction headers generalizing request with
  | nil => rfl
  | cons line headers ih =>
    rw [List.foldl_cons, ih]
    simp only [addHeader]
    split <;> rfl

/-- A head alone has no body. -/
theorem unmarshal_body {head : List Char} {request : HttpRequest}
    (hBlank : find blankLine head = some (head.length - 4)) (h : unmarshal head = some request) :
    request.body = none := by
  have hLength := find_le hBlank
  have hFour : blankLine.length = 4 := rfl
  simp only [blankLine] at hBlank
  have hNone : head.drop (head.length - 4 + 4) = [] := by
    rw [Nat.sub_add_cancel (by omega), List.drop_length]
  simp only [unmarshal, hBlank, hNone, List.isEmpty_nil, if_true] at h
  obtain ⟨request', hRequest, rfl⟩ := Option.map_eq_some_iff.mp h
  split at hRequest
  · cases hRequest
    rfl
  · obtain ⟨first, hFirst, rfl⟩ := Option.map_eq_some_iff.mp hRequest
    rw [addHeaders_body, setFirstLine_body hFirst]
    rfl

/-- A request without a body is given different ones by different texts. -/
theorem setBody_inj {request : HttpRequest} {body body' : List Char} (hNone : request.body = none)
    (h : request.setBody body = request.setBody body') : body = body' := by
  have hBody := congrArg HttpRequest.body h
  simp only [setBody] at hBody
  cases body with
  | nil =>
    cases body' with
    | nil => rfl
    | cons c rest => simp [hNone] at hBody
  | cons c rest =>
    cases body' with
    | nil => simp [hNone] at hBody
    | cons c' rest' =>
      simp only [List.isEmpty_cons, Bool.false_eq_true, if_false, Option.some.injEq] at hBody
      exact String.ofList_injective hBody

/-- A beginning of a request that is taken for the request is all of it. -/
theorem eq_of_unmarshal {head body text : List Char} {request : HttpRequest}
    (hBlank : find blankLine head = some (head.length - 4)) (hHead : unmarshal head = some request)
    (hPrefix : text <+: head ++ body) (h : unmarshal text = some (request.setBody body)) :
    text = head ++ body := by
  by_cases hShort : text.length < head.length
  · have hInHead : text <+: head :=
      List.prefix_of_prefix_length_le hPrefix (List.prefix_append head body) (Nat.le_of_lt hShort)
    rw [unmarshal_short hBlank hInHead hShort] at h
    cases h
  · have hHeadIn : head <+: text :=
      List.prefix_of_prefix_length_le (List.prefix_append head body) hPrefix (Nat.not_lt.mp hShort)
    obtain ⟨body', rfl⟩ := hHeadIn
    rw [unmarshal_append hBlank, hHead] at h
    rw [setBody_inj (unmarshal_body hBlank hHead) (Option.some.inj h)]

end HttpRequest

end Xiu.Common
