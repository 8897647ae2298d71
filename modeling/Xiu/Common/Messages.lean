import Xiu.Common.Http
import Xiu.Common.Written

/-! How the messages of `library/common/src/http.rs` are written, how responses are read, and that the
messages are read as they were written. -/

namespace Xiu.Common

/-! ### Writing -/

/-- A header of a request: the length of the body is written for the one that tells it. -/
def HttpRequest.writeHeader (request : HttpRequest) (requestStr : String) (header : String × String) :
    String :=
  if header.1 = "Content-Length" then
    match request.body with
    | some body => requestStr ++ s!"Content-Length: {body.utf8ByteSize}\r\n"
    | none => requestStr
  else requestStr ++ s!"{header.1}: {header.2}\r\n"

/-- `HttpRequest::marshal`. -/
def HttpRequest.marshal (request : HttpRequest) : String :=
  let requestStr := s!"{request.method} {request.uri.marshal} {request.version}\r\n"
  let requestStr := request.headers.foldl request.writeHeader requestStr
  let requestStr := requestStr ++ "\r\n"
  match request.body with
  | some body => requestStr ++ body
  | none => requestStr

namespace HttpResponse

def default : HttpResponse := ⟨"", 0, "", [], none⟩

/-- `HttpResponse::marshal`: the length of the body is the last header. -/
def marshal (response : HttpResponse) : String :=
  let responseStr := s!"{response.version} {response.statusCode} {response.reasonPhrase}\r\n"
  let responseStr := response.headers.foldl (fun responseStr header =>
    if header.1 ≠ "Content-Length" then responseStr ++ s!"{header.1}: {header.2}\r\n"
    else responseStr) responseStr
  match response.body with
  | some body => responseStr ++ s!"Content-Length: {body.utf8ByteSize}\r\n" ++ "\r\n" ++ body
  | none => responseStr ++ "\r\n"

/-- The first line: the version, the status and one word of the reason. -/
def setFirstLine (response : HttpResponse) (line : List Char) : HttpResponse :=
  let fields := splitAsciiWhitespace line
  { response with
    version := (fields[0]?.map String.ofList).getD response.version
    statusCode := (fields[1]?.bind parseU16).getD response.statusCode
    reasonPhrase := (fields[2]?.map String.ofList).getD response.reasonPhrase }

/-- A header line; one without a colon and a space is left out. -/
def addHeader (response : HttpResponse) (line : List Char) : HttpResponse :=
  match find [':', ' '] line with
  | none => response
  | some index =>
    response.insertHeader (String.ofList (line.take index)) (String.ofList (line.drop (index + 2)))

/-- `HttpResponse::unmarshal`. -/
def unmarshal (requestData : List Char) : Option HttpResponse :=
  match find ['\r', '\n', '\r', '\n'] requestData with
  | none => none
  | some idx =>
    let response :=
      match lines (requestData.take idx) with
      | [] => default
      | first :: headers => headers.foldl addHeader (default.setFirstLine first)
    let body := requestData.drop (idx + 4)
    some (if body.isEmpty then response else { response with body := some (String.ofList body) })

end HttpResponse

/-! ### URIs -/

/-- A text without white space. -/
def Solid (text : List Char) : Prop := ∀ c ∈ text, isAsciiWhitespace c = false

instance (text : List Char) : Decidable (Solid text) :=
  List.decidableBAll (fun c => isAsciiWhitespace c = false) text

theorem Solid.append {first second : List Char} (h : Solid first) (h' : Solid second) :
    Solid (first ++ second) := by
  intro c hMem
  rcases List.mem_append.mp hMem with hMem | hMem
  · exact h c hMem
  · exact h' c hMem

theorem Solid.left {first second : List Char} (h : Solid (first ++ second)) : Solid first :=
  fun c hMem => h c (List.mem_append_left _ hMem)

theorem Solid.right {first second : List Char} (h : Solid (first ++ second)) : Solid second :=
  fun c hMem => h c (List.mem_append_right _ hMem)

theorem solid_toDigits (n : Nat) : Solid (Nat.toDigits 10 n) := by
  intro c hMem
  have hDigit := Nat.isDigit_of_mem_toDigits (by decide) (by decide) hMem
  cases hSpace : isAsciiWhitespace c with
  | false => rfl
  | true =>
    simp only [isAsciiWhitespace, Bool.or_eq_true, beq_iff_eq] at hSpace
    rcases hSpace with (((rfl | rfl) | rfl) | rfl) | rfl
    all_goals exact absurd hDigit (by decide)

namespace Uri

/-- The part of a URI that is written: for WebRTC the host is that of a header. -/
def bare (uri : Uri) : Uri :=
  if uri.schema = .webrtc then { uri with host := "", port := none } else uri

/-- A URI of RTSP or of WebRTC as `Uri::unmarshal` produces it, with any host for WebRTC. -/
def Produced (uri : Uri) : Prop :=
  uri.schema ≠ .unknown ∧ ∃ url, Solid url ∧ unmarshal url = some uri.bare

@[simp] theorem bare_query (uri : Uri) : uri.bare.query = uri.query := by
  rw [bare]
  split <;> rfl

def pathWithQuery (uri : Uri) : List Char :=
  uri.path.toList ++ (uri.query.map fun query => '?' :: query.toList).getD []

/-- The path and the query make up the text that they are taken from. -/
theorem pathWithQuery_setPath (uri : Uri) (text : List Char) : (uri.setPath text).pathWithQuery = text := by
  rw [setPath]
  rcases hSplit : splitn2 '?' text with ⟨path, _ | query⟩
  · obtain ⟨rfl, -⟩ := splitn2_none hSplit
    simp [pathWithQuery]
  · obtain ⟨rfl, -⟩ := splitn2_some hSplit
    simp [pathWithQuery]

theorem toList_marshal_webrtc {uri : Uri} (h : uri.schema = .webrtc) :
    uri.marshal.toList = uri.pathWithQuery := by
  rw [marshal, h]
  cases hQuery : uri.query with
  | none => simp [pathWithQuery, hQuery]
  | some query => simp [pathWithQuery, hQuery]

def hostWithPort (uri : Uri) : List Char :=
  uri.host.toList ++ (uri.port.map fun port => ':' :: Nat.toDigits 10 port).getD []

theorem toList_marshal_rtsp {uri : Uri} (h : uri.schema = .rtsp) :
    uri.marshal.toList = "rtsp://".toList ++ (uri.hostWithPort ++ '/' :: uri.pathWithQuery) := by
  rw [marshal, h]
  cases hQuery : uri.query with
  | none => cases hPort : uri.port <;> simp [pathWithQuery, hostWithPort, hQuery, hPort]
  | some query => cases hPort : uri.port <;> simp [pathWithQuery, hostWithPort, hQuery, hPort]

/-- The host and the port that a text names are named by what is written of them. -/
theorem setHost_hostWithPort (text : List Char) (schema : Schema) :
    let uri := setHost { default with schema } text
    setHost { default with schema } uri.hostWithPort = uri ∧
      ∀ c ∈ uri.hostWithPort, c ∈ text ∨ c = ':' ∨ c ∈ Nat.toDigits 10 (uri.port.getD 0) := by
  rcases scanf_cases ':' text with ⟨hNot, hScan⟩ | ⟨first, rest, second, rfl, hNot, hScan⟩
  · have hUri : setHost { default with schema } text = ⟨schema, String.ofList text, none, "", none⟩ := by
      rw [setHost, hScan]
      rfl
    rw [hUri]
    refine ⟨?_, fun c hMem => .inl (by simpa [hostWithPort] using hMem)⟩
    simpa [hostWithPort] using hUri
  · cases hPort : parseU16 second with
    | none =>
      have hUri : setHost { default with schema } (first ++ ':' :: rest) =
          ⟨schema, String.ofList first, none, "", none⟩ := by
        rw [setHost, hScan]
        simp [hPort, default]
      rw [hUri]
      refine ⟨?_, fun c hMem => .inl (by simp_all [hostWithPort])⟩
      rw [setHost, hostWithPort]
      simp [scanf_of_not_mem hNot, default]
    | some port =>
      have hUri : setHost { default with schema } (first ++ ':' :: rest) =
          ⟨schema, String.ofList first, some port, "", none⟩ := by
        rw [setHost, hScan]
        simp [hPort, default]
      have hDigits : parseU16 (Nat.toDigits 10 port) = some port :=
        parseUnsigned_toDigits (lt_of_parseUnsigned hPort)
      rw [hUri]
      refine ⟨?_, fun c hMem => ?_⟩
      · rw [setHost, hostWithPort]
        simp [scanf_append hNot (not_mem_toDigits (by decide) port), hDigits, default]
      · simp only [hostWithPort, Option.map_some, Option.getD_some, List.mem_append, List.mem_cons,
          String.toList_ofList] at hMem ⊢
        tauto

theorem unmarshal_rtsp {host : List Char} (h : '/' ∉ host) (path : List Char) :
    unmarshal ("rtsp://".toList ++ (host ++ '/' :: path)) =
      some ((setHost { default with schema := .rtsp } host).setPath path) := by
  have hFind : find ['/'] (host ++ '/' :: path) = some host.length := by
    have hSelf := find_self ['/'] path
    rw [List.singleton_append] at hSelf
    rw [find_append_of_not_mem h, hSelf, Option.map_some, Nat.zero_add]
  have hSeven : "rtsp://".toList.length = 7 := rfl
  rw [unmarshal, if_pos (List.isPrefixOf_iff_prefix.mpr (List.prefix_append _ _))]
  simp only [List.drop_left' hSeven, hFind, List.take_left, List.drop_length_add_append, List.drop_succ_cons,
    List.drop_zero]

/-- A URI with the host that a text names is read as it is written, and is one word if the text is. -/
theorem unmarshal_marshal_rtsp {uri : Uri} {host path : List Char} (hHost : '/' ∉ host)
    (h : uri = (setHost { default with schema := .rtsp } host).setPath path) :
    unmarshal uri.marshal.toList = some uri ∧
      (Solid host → Solid path → Solid uri.marshal.toList) := by
  obtain ⟨hSame, hMem⟩ := setHost_hostWithPort host .rtsp
  have hSchema : uri.schema = .rtsp := by rw [h]; rfl
  have hPath : uri.pathWithQuery = path := by rw [h, pathWithQuery_setPath]
  have hWritten : uri.hostWithPort = (setHost { default with schema := .rtsp } host).hostWithPort := by
    rw [h]
    rfl
  have hText : uri.marshal.toList = "rtsp://".toList ++ (uri.hostWithPort ++ '/' :: path) := by
    rw [toList_marshal_rtsp hSchema, hPath]
  rw [← hWritten] at hSame hMem
  refine ⟨?_, fun hSolid hPathSolid => ?_⟩
  · have hNot : '/' ∉ uri.hostWithPort := by
      intro hSlash
      rcases hMem '/' hSlash with hIn | hIn | hIn
      · exact hHost hIn
      · cases hIn
      · exact not_mem_toDigits (by decide) _ hIn
    rw [hText, unmarshal_rtsp hNot, hSame, ← h]
  · rw [hText]
    refine Solid.append (by decide) (Solid.append (fun c hc => ?_) (fun c hc => ?_))
    · rcases hMem c hc with hIn | rfl | hIn
      · exact hSolid c hIn
      · rfl
      · exact solid_toDigits _ c hIn
    · rcases List.mem_cons.mp hc with rfl | hIn
      · rfl
      · exact hPathSolid c hIn

/-- A URI is read as far as it has been written, and it is one word. -/
theorem Produced.unmarshal_marshal {uri : Uri} (h : uri.Produced) :
    unmarshal uri.marshal.toList = some uri.bare ∧ Solid uri.marshal.toList ∧
      uri.marshal.toList ≠ [] := by
  obtain ⟨hKnown, url, hSolid, hRead⟩ := h
  have hSchema : uri.bare.schema = uri.schema := by
    rw [bare]
    split <;> rfl
  have hAll := hRead
  rw [unmarshal] at hRead
  split at hRead
  · rename_i hRtsp
    obtain ⟨rest, rfl⟩ := List.isPrefixOf_iff_prefix.mp hRtsp
    have hSeven : "rtsp://".toList.length = 7 := rfl
    simp only [List.drop_left' hSeven] at hRead
    split at hRead
    · rename_i index hFind
      obtain ⟨host, path, rfl, hNot, rfl⟩ := find_char hFind
      rw [unmarshal_rtsp hNot, Option.some.injEq] at hAll
      have hRtspSchema : uri.schema = .rtsp := by
        rw [← hSchema, ← hAll]
        rfl
      have hBare : uri.bare = uri := by
        rw [bare, hRtspSchema]
        rfl
      rw [hBare] at hAll ⊢
      obtain ⟨hSame, hOne⟩ := unmarshal_marshal_rtsp hNot hAll.symm
      refine ⟨hSame, hOne hSolid.right.left ?_, ?_⟩
      · exact fun c hMem => hSolid.right.right c (List.mem_cons_of_mem _ hMem)
      · rw [toList_marshal_rtsp hRtspSchema]
        exact List.append_ne_nil_of_left_ne_nil (by decide) _
    · cases hRead
  · split at hRead
    · rename_i hPath
      rw [Option.some.injEq] at hRead
      have hWebrtc : uri.schema = .webrtc := by
        rw [← hSchema, ← hRead]
        rfl
      have hText : uri.marshal.toList = url := by
        have hBare : uri.pathWithQuery = uri.bare.pathWithQuery := by
          rw [bare, hWebrtc]
          rfl
        rw [toList_marshal_webrtc hWebrtc, hBare, ← hRead, pathWithQuery_setPath]
      rw [hText]
      refine ⟨hAll, hSolid, ?_⟩
      rintro rfl
      exact absurd hPath (by decide)
    · rw [Option.some.injEq] at hRead
      refine absurd ?_ hKnown
      rw [← hSchema, ← hRead]
      rfl

end Uri

/-! ### Heads -/

/-- A text that is all on one line. -/
def Unbroken (text : List Char) : Prop := '\r' ∉ text ∧ '\n' ∉ text

instance (text : List Char) : Decidable (Unbroken text) :=
  inferInstanceAs (Decidable ('\r' ∉ text ∧ '\n' ∉ text))

theorem Solid.unbroken {text : List Char} (h : Solid text) : Unbroken text :=
  ⟨fun hMem => absurd (h _ hMem) (by decide), fun hMem => absurd (h _ hMem) (by decide)⟩

theorem Unbroken.append {first second : List Char} (h : Unbroken first) (h' : Unbroken second) :
    Unbroken (first ++ second) := by
  simp only [Unbroken, List.mem_append, not_or]
  exact ⟨⟨h.1, h'.1⟩, h.2, h'.2⟩

theorem Unbroken.spaced {first second : List Char} (h : Unbroken first) (h' : Unbroken second) :
    IsLine (first ++ ' ' :: second) := by
  have hSpace : Unbroken [' '] := by decide
  have hAll := h.append (hSpace.append h')
  exact ⟨List.append_ne_nil_of_right_ne_nil _ (List.cons_ne_nil _ _), hAll.1, hAll.2⟩

/-- A header that is read as it is written: nothing ends the name early or breaks the line. -/
structure Fits (header : String × String) : Prop where
  separator : find [':', ' '] header.1.toList = none
  name : Unbroken header.1.toList
  value : Unbroken header.2.toList

def headerLine (header : String × String) : List Char := header.1.toList ++ ':' :: ' ' :: header.2.toList

theorem Fits.isLine {header : String × String} (h : Fits header) : IsLine (headerLine header) := by
  have hColon : Unbroken [':'] := by decide
  have hLine := (h.name.append hColon).spaced h.value
  rw [List.append_assoc] at hLine
  exact hLine

theorem fits_contentLength (n : Nat) : Fits ("Content-Length", toString n) := by
  have hSeparator : find [':', ' '] "Content-Length".toList = none := by decide
  have hName : Unbroken "Content-Length".toList := by decide
  refine ⟨hSeparator, hName, ?_⟩
  rw [Nat.toString_eq_repr, Nat.toList_repr]
  exact (solid_toDigits n).unbroken

/-- A header line is taken apart where it has been put together. -/
theorem Fits.parts {header : String × String} (h : Fits header) :
    find [':', ' '] (headerLine header) = some header.1.toList.length ∧
      (headerLine header).take header.1.toList.length = header.1.toList ∧
      (headerLine header).drop (header.1.toList.length + 2) = header.2.toList := by
  refine ⟨find_colon h.separator _, List.take_left, ?_⟩
  rw [headerLine, List.drop_length_add_append]
  rfl

/-- An empty body is no body. -/
theorem filter_body_iff (body : Option String) : body.filter (· ≠ "") = body ↔ body ≠ some "" := by
  cases body with
  | none => simp
  | some text => simp [Option.filter]

/-- A text that is written piece by piece. -/
theorem toList_foldl {α : Type} {write : String → α → String} {piece : α → List Char} {all : List α}
    (h : ∀ text, ∀ a ∈ all, (write text a).toList = text.toList ++ piece a) (text : String) :
    (all.foldl write text).toList = text.toList ++ all.flatMap piece := by
  induction all generalizing text with
  | nil => simp
  | cons a all ih =>
    rw [List.foldl_cons, ih fun text b hMem => h text b (List.mem_cons_of_mem _ hMem),
      h text a List.mem_cons_self, List.flatMap_cons, List.append_assoc]

/-- Lines and an empty one: where the head ends, and the lines of it. -/
theorem head_found {texts : List (List Char)} (hSome : texts ≠ []) (h : ∀ line ∈ texts, IsLine line)
    (body : List Char) :
    ∃ idx, let text := withEnds texts ++ '\r' :: '\n' :: body
      find ['\r', '\n', '\r', '\n'] text = some idx ∧ lines (text.take idx) = texts ∧
        text.drop (idx + 4) = body := by
  have hText : withEnds texts ++ '\r' :: '\n' :: body =
      joined texts ++ '\r' :: '\n' :: '\r' :: '\n' :: body := by
    rw [withEnds_eq hSome, List.append_assoc]
    rfl
  refine ⟨(joined texts).length, ?_⟩
  simp only [hText]
  refine ⟨find_emptyLine hSome h body, ?_, ?_⟩
  · rw [List.take_left, lines_joined h]
  · rw [List.drop_length_add_append]
    rfl

/-! ### Requests -/

namespace HttpRequest

/-- The parts of a request are what the syntax of messages asks for. -/
structure Valid (request : HttpRequest) : Prop where
  method : Solid request.method.toList
  uri : request.uri.Produced
  version : Solid request.version.toList
  headers : ∀ header ∈ request.headers, Fits header
  distinct : (request.headers.map (·.1)).Nodup
  length : "Content-Length" ∈ request.headers.map (·.1) ↔ ∃ body, request.body = some body ∧ body ≠ ""

/-- A header that tells the length of the body, if it tells a length. -/
def tellLength (request : HttpRequest) (header : String × String) : String × String :=
  if header.1 = "Content-Length" then
    (header.1, toString ((request.body.map String.utf8ByteSize).getD 0))
  else header

def withLength (request : HttpRequest) : HttpRequest :=
  { request with headers := request.headers.map request.tellLength }

/-- The same request, whatever the order of its headers. -/
structure Same (request request' : HttpRequest) : Prop where
  method : request.method = request'.method
  uri : request.uri = request'.uri
  queryPairs : IndexMap.Same request.queryPairs request'.queryPairs
  version : request.version = request'.version
  headers : IndexMap.Same request.headers request'.headers
  body : request.body = request'.body

/-- The URI, with the host that a header names. -/
def addressed (request : HttpRequest) (uri : Uri) : Uri :=
  match request.getHeader "Host" with
  | some host => uri.setHost host.toList
  | none => uri

/-- A request that has a method and that tells nothing in two ways: its query pairs are those of its URI,
the host of the URI is that of the `Host` header, and an empty body is none. -/
structure Consistent (request : HttpRequest) : Prop where
  method : request.method ≠ ""
  queryPairs :
    IndexMap.Same ((request.uri.query.map Common.queryPairs).getD []) request.queryPairs
  uri : request.addressed request.uri.bare = request.uri
  body : request.body ≠ some ""

def firstLine (request : HttpRequest) : List Char :=
  request.method.toList ++ ' ' :: (request.uri.marshal.toList ++ ' ' :: request.version.toList)

@[simp] theorem tellLength_fst (request : HttpRequest) (header : String × String) :
    (request.tellLength header).1 = header.1 := by
  rw [tellLength]
  split <;> rfl

theorem names_withLength (request : HttpRequest) :
    request.withLength.headers.map (·.1) = request.headers.map (·.1) := by
  simp [withLength]

theorem getHeader_withLength {request : HttpRequest} {name : String} (h : name ≠ "Content-Length") :
    request.withLength.getHeader name = request.getHeader name := by
  simp only [getHeader, withLength]
  generalize request.headers = headers
  induction headers with
  | nil => rfl
  | cons header headers ih =>
    rw [List.map_cons, List.lookup_cons, List.lookup_cons, tellLength_fst, ih]
    cases hName : name == header.1 with
    | false => rfl
    | true =>
      have hEq : name = header.1 := eq_of_beq hName
      rw [tellLength, if_neg (hEq ▸ h)]

theorem fits_tellLength (request : HttpRequest) {header : String × String} (h : Fits header) :
    Fits (request.tellLength header) := by
  rw [tellLength]
  split
  · rename_i hName
    rw [hName]
    exact fits_contentLength _
  · exact h

/-- What is written of a request: its lines, an empty one, and the body. -/
theorem toList_marshal {request : HttpRequest}
    (h : "Content-Length" ∈ request.headers.map (·.1) → request.body ≠ none) :
    request.marshal.toList =
      withEnds (request.firstLine :: request.withLength.headers.map headerLine) ++
        '\r' :: '\n' :: (request.body.getD "").toList := by
  have hPieces (text : String) : ∀ header ∈ request.headers,
      (request.writeHeader text header).toList =
        text.toList ++ (headerLine (request.tellLength header) ++ ['\r', '\n']) := by
    intro header hMem
    rw [writeHeader, tellLength]
    split
    · rename_i hName
      obtain ⟨body, hBody⟩ := Option.ne_none_iff_exists'.mp (h (hName ▸ List.mem_map_of_mem hMem))
      simp [hBody, hName, headerLine]
    · simp [headerLine]
  have hFirst : s!"{request.method} {request.uri.marshal} {request.version}\r\n".toList =
      request.firstLine ++ ['\r', '\n'] := by
    simp [firstLine]
  rw [withEnds, List.flatMap_cons, withLength, List.flatMap_map, List.flatMap_map, marshal]
  cases hBody : request.body with
  | none =>
    simp only [String.toList_append, toList_foldl hPieces, hFirst]
    simp
  | some body =>
    simp only [String.toList_append, toList_foldl hPieces, hFirst]
    simp

/-- The lines of a head are read one by one, and what is behind them is the body. -/
theorem unmarshal_lines {first : List Char} {rest : List (List Char)}
    (h : ∀ line ∈ first :: rest, IsLine line) (body : List Char) :
    unmarshal (withEnds (first :: rest) ++ '\r' :: '\n' :: body) =
      (default.setFirstLine first).map fun request => (rest.foldl addHeader request).setBody body := by
  obtain ⟨idx, hFind, hLines, hBody⟩ := head_found (List.cons_ne_nil _ _) h body
  rw [unmarshal]
  simp only [hFind, hLines, hBody, Option.map_map]
  rfl

/-- Headers of names that are not there yet are put behind those that are; `Host` names the host. -/
theorem foldl_addHeader {request : HttpRequest} {headers : IndexMap String}
    (hFits : ∀ header ∈ headers, Fits header)
    (hDistinct : ((request.headers ++ headers).map (·.1)).Nodup) :
    (headers.map headerLine).foldl addHeader request =
      { request with
        uri := match headers.lookup "Host" with
          | some host => request.uri.setHost host.toList
          | none => request.uri
        headers := request.headers ++ headers } := by
  induction headers generalizing request with
  | nil => simp
  | cons header headers ih =>
    obtain ⟨hFind, hName, hValue⟩ := (hFits header List.mem_cons_self).parts
    have hNew : header.1 ∉ request.headers.map (·.1) := by
      intro hMem
      rw [List.map_append, List.nodup_append] at hDistinct
      exact hDistinct.2.2 _ hMem _ List.mem_cons_self rfl
    have hOther : header.1 ∉ headers.map (·.1) := by
      rw [List.map_append, List.nodup_append, List.map_cons, List.nodup_cons] at hDistinct
      exact hDistinct.2.1.1
    have hAdd : request.addHeader (headerLine header) =
        { request with
          uri := if header.1 = "Host" then request.uri.setHost header.2.toList else request.uri
          headers := request.headers ++ [header] } := by
      rw [addHeader, hFind]
      simp only [hName, hValue, String.ofList_toList, insert_of_not_mem _ hNew, String.toList_inj]
    rw [List.map_cons, List.foldl_cons, hAdd, ih]
    · by_cases hHost : header.1 = "Host"
      · have hNone : headers.lookup "Host" = none := by
          rw [List.lookup_eq_none_iff]
          intro p hMem
          rw [← hHost]
          simpa using fun hEq : header.1 = p.1 => hOther (hEq ▸ List.mem_map_of_mem hMem)
        rw [List.lookup_cons, hNone]
        simp [hHost]
      · rw [List.lookup_cons]
        have hNot : ("Host" == header.1) = false := by simpa using Ne.symm hHost
        simp [hHost, hNot]
    · exact fun p hMem => hFits p (List.mem_cons_of_mem _ hMem)
    · simpa using hDistinct

/-- What is read of a request that has been written. -/
def readBack (request : HttpRequest) : HttpRequest :=
  { request.withLength with
    uri := request.addressed request.uri.bare
    queryPairs := (request.uri.query.map Common.queryPairs).getD []
    body := request.body.filter (· ≠ "") }

theorem Valid.toList_marshal {request : HttpRequest} (h : request.Valid) :
    request.marshal.toList =
      withEnds (request.firstLine :: request.withLength.headers.map headerLine) ++
        '\r' :: '\n' :: (request.body.getD "").toList := by
  apply HttpRequest.toList_marshal
  intro hMem hNone
  obtain ⟨body, hSome, -⟩ := h.length.mp hMem
  rw [hNone] at hSome
  cases hSome

theorem Valid.lines {request : HttpRequest} (h : request.Valid) :
    ∀ line ∈ request.firstLine :: request.withLength.headers.map headerLine, IsLine line := by
  obtain ⟨-, hUri, hSome⟩ := h.uri.unmarshal_marshal
  simp only [List.forall_mem_cons, List.forall_mem_map, withLength]
  refine ⟨?_, fun header hMem => (fits_tellLength request (h.headers header hMem)).isLine⟩
  have hRest := hUri.unbroken.spaced h.version.unbroken
  exact h.method.unbroken.spaced ⟨hRest.cr, hRest.lf⟩

/-- A request that has a method is read but for what it tells twice. -/
theorem Valid.unmarshal_marshal {request : HttpRequest} (h : request.Valid) (hMethod : request.method ≠ "") :
    unmarshal request.marshal.toList = some request.readBack := by
  obtain ⟨hRead, hUri, hSome⟩ := h.uri.unmarshal_marshal
  have hWord : request.method.toList ≠ [] := by simpa using hMethod
  have hFirst : default.setFirstLine request.firstLine =
      some { default with
        method := request.method
        uri := request.uri.bare
        queryPairs := (request.uri.query.map Common.queryPairs).getD []
        version := request.version } := by
    rw [setFirstLine, firstLine, splitAsciiWhitespace_append h.method, if_neg hWord,
      splitAsciiWhitespace_append hUri, if_neg hSome, splitAsciiWhitespace_word h.version]
    simp only [List.cons_append, List.nil_append, hRead, Uri.bare_query, String.ofList_toList]
    split
    · rename_i hVersion
      rw [String.toList_eq_nil_iff.mp hVersion]
      rfl
    · rw [List.head?_cons, Option.map_some, Option.getD_some, String.ofList_toList]
  rw [h.toList_marshal, unmarshal_lines h.lines, hFirst, Option.map_some, foldl_addHeader]
  · have hHost : request.withLength.headers.lookup "Host" = request.getHeader "Host" :=
      getHeader_withLength (by decide)
    rw [hHost, setBody, readBack, addressed]
    cases hBody : request.body with
    | none => simp [default, withLength]
    | some body =>
      by_cases hEmpty : body = ""
      · simp [default, withLength, hEmpty, Option.filter]
      · simp [default, withLength, hEmpty, Option.filter]
  · simp only [withLength, List.forall_mem_map]
    exact fun header hMem => fits_tellLength request (h.headers header hMem)
  · rw [default, List.nil_append, names_withLength]
    exact h.distinct

theorem setBody_method (request : HttpRequest) (body : List Char) :
    (request.setBody body).method = request.method := by
  rw [setBody]
  split <;> rfl

theorem addHeaders_method (request : HttpRequest) (headers : List (List Char)) :
    (headers.foldl addHeader request).method = request.method := by
  induction headers generalizing request with
  | nil => rfl
  | cons line headers ih =>
    rw [List.foldl_cons, ih, addHeader]
    split <;> rfl

/-- A request without a method is never read as one without. -/
theorem Valid.method_unmarshal {request read : HttpRequest} (h : request.Valid) (hMethod : request.method = "")
    (hRead : unmarshal request.marshal.toList = some read) : read.method ≠ "" := by
  obtain ⟨-, hUri, hSome⟩ := h.uri.unmarshal_marshal
  rw [h.toList_marshal, unmarshal_lines h.lines] at hRead
  obtain ⟨first, hFirst, rfl⟩ := Option.map_eq_some_iff.mp hRead
  have hWords : splitAsciiWhitespace request.firstLine =
      request.uri.marshal.toList :: splitAsciiWhitespace request.version.toList := by
    rw [firstLine, hMethod, splitAsciiWhitespace_append (by simp), splitAsciiWhitespace_append hUri,
      if_neg hSome]
    rfl
  have hMethodRead : first.method = request.uri.marshal := by
    rw [setFirstLine, hWords] at hFirst
    split at hFirst
    · rename_i hNil
      cases hNil
    · rename_i method hOne
      obtain ⟨rfl, -⟩ := List.cons.inj hOne
      cases hFirst
      exact String.ofList_toList
    · rename_i method url fields hMore
      obtain ⟨rfl, -⟩ := List.cons.inj hMore
      split at hFirst
      · cases hFirst
      · cases hFirst
        exact String.ofList_toList
  rw [setBody_method, addHeaders_method, hMethodRead]
  simpa using hSome

/-- A request is read as it was written exactly when it is consistent. -/
theorem Valid.survives_iff {request : HttpRequest} (h : request.Valid) :
    (∃ read, unmarshal request.marshal.toList = some read ∧ read.Same request.withLength) ↔
      request.Consistent := by
  constructor
  · rintro ⟨read, hRead, hSame⟩
    have hMethod : request.method ≠ "" := fun hEmpty =>
      h.method_unmarshal hEmpty hRead (hSame.method.trans hEmpty)
    rw [h.unmarshal_marshal hMethod, Option.some.injEq] at hRead
    subst hRead
    exact ⟨hMethod, hSame.queryPairs, hSame.uri, (filter_body_iff _).mp hSame.body⟩
  · intro hAll
    exact ⟨_, h.unmarshal_marshal hAll.method, rfl, hAll.uri, hAll.queryPairs, rfl, .refl _,
      (filter_body_iff _).mpr hAll.body⟩

end HttpRequest

/-! ### Responses -/

namespace HttpResponse

/-- The parts of a response are what the syntax of messages asks for. -/
structure Valid (response : HttpResponse) : Prop where
  version : Solid response.version.toList
  statusCode : response.statusCode < 2 ^ 16
  reasonPhrase : Unbroken response.reasonPhrase.toList
  headers : ∀ header ∈ response.headers, Fits header
  distinct : (response.headers.map (·.1)).Nodup
  length : "Content-Length" ∈ response.headers.map (·.1) → ∃ body, response.body = some body ∧ body ≠ ""

/-- The same response, whatever the order of its headers. -/
structure Same (response response' : HttpResponse) : Prop where
  version : response.version = response'.version
  statusCode : response.statusCode = response'.statusCode
  reasonPhrase : response.reasonPhrase = response'.reasonPhrase
  headers : IndexMap.Same response.headers response'.headers
  body : response.body = response'.body

/-- A response whose headers tell the length of its body. -/
def withLength (response : HttpResponse) : HttpResponse :=
  match response.body with
  | some body => response.insertHeader "Content-Length" (toString body.utf8ByteSize)
  | none => response

/-- The headers that are written, the length last. -/
def writtenHeaders (response : HttpResponse) : IndexMap String :=
  response.headers.filter (·.1 ≠ "Content-Length") ++
    (response.body.map fun body => ("Content-Length", toString body.utf8ByteSize)).toList

def firstLine (response : HttpResponse) : List Char :=
  response.version.toList ++ ' ' :: (Nat.toDigits 10 response.statusCode ++ ' ' ::
    response.reasonPhrase.toList)

/-- What is written of a response: its lines, an empty one, and the body. -/
theorem toList_marshal (response : HttpResponse) :
    response.marshal.toList =
      withEnds (response.firstLine :: response.writtenHeaders.map headerLine) ++
        '\r' :: '\n' :: (response.body.getD "").toList := by
  have hPieces (text : String) : ∀ header ∈ response.headers,
      (if header.1 ≠ "Content-Length" then text ++ s!"{header.1}: {header.2}\r\n" else text).toList =
        text.toList ++ (if header.1 ≠ "Content-Length" then headerLine header ++ ['\r', '\n'] else []) := by
    intro header _
    split <;> simp [headerLine]
  have hFilter : (response.headers.flatMap fun header =>
      if header.1 ≠ "Content-Length" then headerLine header ++ ['\r', '\n'] else []) =
        withEnds ((response.headers.filter (·.1 ≠ "Content-Length")).map headerLine) := by
    generalize response.headers = headers
    induction headers with
    | nil => rfl
    | cons header headers ih =>
      rw [List.flatMap_cons, ih, List.filter_cons]
      split
      · rename_i hName
        rw [if_pos (by simpa using hName)]
        rfl
      · rename_i hName
        rw [if_neg (by simpa using hName)]
        rfl
  have hFirst : s!"{response.version} {response.statusCode} {response.reasonPhrase}\r\n".toList =
      response.firstLine ++ ['\r', '\n'] := by
    simp [firstLine]
  rw [marshal, writtenHeaders, List.map_append]
  cases hBody : response.body with
  | none =>
    simp only [String.toList_append, toList_foldl hPieces, hFirst, hFilter]
    simp [withEnds]
  | some body =>
    simp only [String.toList_append, toList_foldl hPieces, hFirst, hFilter]
    simp [withEnds, headerLine]

/-- The lines of a head are read one by one, and what is behind them is the body. -/
theorem unmarshal_lines {first : List Char} {rest : List (List Char)}
    (h : ∀ line ∈ first :: rest, IsLine line) (body : List Char) :
    unmarshal (withEnds (first :: rest) ++ '\r' :: '\n' :: body) =
      let response := rest.foldl addHeader (default.setFirstLine first)
      some (if body.isEmpty then response else { response with body := some (String.ofList body) }) := by
  obtain ⟨idx, hFind, hLines, hBody⟩ := head_found (List.cons_ne_nil _ _) h body
  rw [unmarshal]
  simp only [hFind, hLines, hBody]

/-- Headers of names that are not there yet are put behind those that are. -/
theorem foldl_addHeader {response : HttpResponse} {headers : IndexMap String}
    (hFits : ∀ header ∈ headers, Fits header)
    (hDistinct : ((response.headers ++ headers).map (·.1)).Nodup) :
    (headers.map headerLine).foldl addHeader response =
      { response with headers := response.headers ++ headers } := by
  induction headers generalizing response with
  | nil => simp
  | cons header headers ih =>
    obtain ⟨hFind, hName, hValue⟩ := (hFits header List.mem_cons_self).parts
    have hNew : header.1 ∉ response.headers.map (·.1) := by
      intro hMem
      rw [List.map_append, List.nodup_append] at hDistinct
      exact hDistinct.2.2 _ hMem _ List.mem_cons_self rfl
    have hAdd : response.addHeader (headerLine header) =
        { response with headers := response.headers ++ [header] } := by
      rw [addHeader, hFind]
      simp only [hName, hValue, String.ofList_toList, insertHeader, insert_of_not_mem _ hNew]
    rw [List.map_cons, List.foldl_cons, hAdd, ih]
    · simp
    · exact fun p hMem => hFits p (List.mem_cons_of_mem _ hMem)
    · simpa using hDistinct

/-- The first word of the reason, or none at all. -/
def firstWord (text : List Char) : List Char := ((splitAsciiWhitespace text)[0]?).getD []

/-- What is read of a response that has been written. -/
def readBack (response : HttpResponse) : HttpResponse :=
  ⟨response.version, response.statusCode, String.ofList (firstWord response.reasonPhrase.toList),
    response.writtenHeaders, response.body.filter (· ≠ "")⟩

theorem firstWord_eq_iff (text : List Char) : firstWord text = text ↔ Solid text := by
  constructor
  · intro h c hMem
    rw [firstWord] at h
    cases hWords : splitAsciiWhitespace text with
    | nil =>
      rw [hWords] at h
      rw [← h] at hMem
      cases hMem
    | cons word words =>
      rw [hWords] at h
      have hWord : word = text := h
      have hIn : word ∈ splitAsciiWhitespace text := by
        rw [hWords]
        exact List.mem_cons_self
      exact isAsciiWhitespace_of_mem_word hIn c (hWord ▸ hMem)
  · intro h
    rw [firstWord, splitAsciiWhitespace_word h]
    split
    · rename_i hEmpty
      rw [hEmpty]
      rfl
    · rfl

theorem Valid.fits {response : HttpResponse} (h : response.Valid) :
    ∀ header ∈ response.writtenHeaders, Fits header := by
  intro header hMem
  rcases List.mem_append.mp hMem with hOld | hLength
  · exact h.headers header (List.mem_filter.mp hOld).1
  · obtain ⟨body, -, rfl⟩ := Option.map_eq_some_iff.mp (Option.mem_toList.mp hLength)
    exact fits_contentLength _

theorem Valid.lines {response : HttpResponse} (h : response.Valid) :
    ∀ line ∈ response.firstLine :: response.writtenHeaders.map headerLine, IsLine line := by
  rw [List.forall_mem_cons, List.forall_mem_map]
  refine ⟨?_, fun header hMem => (h.fits header hMem).isLine⟩
  have hRest := (solid_toDigits response.statusCode).unbroken.spaced h.reasonPhrase
  exact h.version.unbroken.spaced ⟨hRest.cr, hRest.lf⟩

/-- What a response tells is there once, the length of the body included. -/
theorem Valid.same_withLength {response : HttpResponse} (h : response.Valid) :
    IndexMap.Same response.writtenHeaders response.withLength.headers := by
  rw [writtenHeaders, withLength]
  cases hBody : response.body with
  | none =>
    have hNot : "Content-Length" ∉ response.headers.map (·.1) := by
      intro hMem
      obtain ⟨body, hSome, -⟩ := h.length hMem
      rw [hBody] at hSome
      cases hSome
    rw [Option.map_none, Option.toList_none, List.append_nil, (eq_self_of_not_mem "" hNot).1]
  | some body => exact same_insert h.distinct _ _

theorem Valid.distinct_written {response : HttpResponse} (h : response.Valid) :
    (response.writtenHeaders.map (·.1)).Nodup := by
  rw [writtenHeaders, List.map_append, List.nodup_append]
  have hKept : ((response.headers.filter (·.1 ≠ "Content-Length")).map (·.1)).Sublist
      (response.headers.map (·.1)) := List.filter_sublist.map _
  refine ⟨h.distinct.sublist hKept, ?_, ?_⟩
  · cases response.body <;> simp
  · intro name hName other hOther hEq
    obtain ⟨header, hHeader, rfl⟩ := List.mem_map.mp hName
    obtain ⟨length, hLength, rfl⟩ := List.mem_map.mp hOther
    obtain ⟨body, -, rfl⟩ := Option.map_eq_some_iff.mp (Option.mem_toList.mp hLength)
    simpa [hEq] using (List.mem_filter.mp hHeader).2

/-- A response that has a version is read but for the words of the reason behind the first one. -/
theorem Valid.unmarshal_marshal {response : HttpResponse} (h : response.Valid)
    (hVersion : response.version ≠ "") :
    unmarshal response.marshal.toList = some response.readBack := by
  have hWord : response.version.toList ≠ [] := by simpa using hVersion
  have hStatus : parseU16 (Nat.toDigits 10 response.statusCode) = some response.statusCode :=
    parseUnsigned_toDigits h.statusCode
  have hFirst : default.setFirstLine response.firstLine =
      { default with
        version := response.version
        statusCode := response.statusCode
        reasonPhrase := String.ofList (firstWord response.reasonPhrase.toList) } := by
    rw [setFirstLine, firstLine, splitAsciiWhitespace_append h.version, if_neg hWord,
      splitAsciiWhitespace_append (solid_toDigits _), if_neg Nat.toDigits_ne_nil, firstWord]
    simp only [List.cons_append, List.nil_append, List.getElem?_cons_zero, List.getElem?_cons_succ,
      Option.map_some, Option.bind_some, Option.getD_some, hStatus, String.ofList_toList]
    cases (splitAsciiWhitespace response.reasonPhrase.toList)[0]? <;> rfl
  have hAdded : (response.writtenHeaders.map headerLine).foldl addHeader
      { default with
        version := response.version
        statusCode := response.statusCode
        reasonPhrase := String.ofList (firstWord response.reasonPhrase.toList) } = _ :=
    foldl_addHeader h.fits h.distinct_written
  rw [toList_marshal, unmarshal_lines h.lines, hFirst, hAdded, readBack]
  cases response.body with
  | none => simp [default]
  | some body =>
    by_cases hEmpty : body = ""
    · simp [default, hEmpty, Option.filter]
    · simp [default, hEmpty, Option.filter]

theorem addHeaders_version (response : HttpResponse) (headers : List (List Char)) :
    (headers.foldl addHeader response).version = response.version := by
  induction headers generalizing response with
  | nil => rfl
  | cons line headers ih =>
    rw [List.foldl_cons, ih, addHeader]
    split <;> rfl

/-- A response without a version is read as one of a version. -/
theorem Valid.version_unmarshal {response read : HttpResponse} (h : response.Valid)
    (hVersion : response.version = "") (hRead : unmarshal response.marshal.toList = some read) :
    read.version ≠ "" := by
  have hFirst : (default.setFirstLine response.firstLine).version =
      String.ofList (Nat.toDigits 10 response.statusCode) := by
    rw [setFirstLine, firstLine, hVersion, splitAsciiWhitespace_append (by simp),
      splitAsciiWhitespace_append (solid_toDigits _), if_neg Nat.toDigits_ne_nil]
    rfl
  have hRead' : read.version = (default.setFirstLine response.firstLine).version := by
    rw [toList_marshal, unmarshal_lines h.lines, Option.some.injEq] at hRead
    rw [← addHeaders_version (default.setFirstLine _) (response.writtenHeaders.map headerLine), ← hRead]
    split <;> rfl
  rw [hRead', hFirst]
  intro hEmpty
  exact Nat.toDigits_ne_nil (String.ofList_injective hEmpty)

/-- A response is read as it was written exactly when it has a version, its reason is at most one word and
it has no empty body. -/
theorem Valid.survives_iff {response : HttpResponse} (h : response.Valid) :
    (∃ read, unmarshal response.marshal.toList = some read ∧ read.Same response.withLength) ↔
      response.version ≠ "" ∧ Solid response.reasonPhrase.toList ∧ response.body ≠ some "" := by
  have hKept : response.withLength.version = response.version ∧
      response.withLength.statusCode = response.statusCode ∧
      response.withLength.reasonPhrase = response.reasonPhrase ∧
      response.withLength.body = response.body := by
    rw [withLength]
    cases hBody : response.body with
    | none => exact ⟨rfl, rfl, rfl, hBody⟩
    | some body => exact ⟨rfl, rfl, rfl, hBody⟩
  obtain ⟨hVersion, hStatus, hReason, hBody⟩ := hKept
  constructor
  · rintro ⟨read, hRead, hSame⟩
    have hSome : response.version ≠ "" := fun hEmpty =>
      h.version_unmarshal hEmpty hRead (hSame.version.trans (hVersion.trans hEmpty))
    rw [h.unmarshal_marshal hSome, Option.some.injEq] at hRead
    subst hRead
    refine ⟨hSome, ?_, (filter_body_iff _).mp (hSame.body.trans hBody)⟩
    have hWord : String.ofList (firstWord response.reasonPhrase.toList) = response.reasonPhrase :=
      hSame.reasonPhrase.trans hReason
    rw [← firstWord_eq_iff, ← String.toList_ofList (l := firstWord _), hWord]
  · rintro ⟨hSome, hOneWord, hNotEmpty⟩
    refine ⟨_, h.unmarshal_marshal hSome, hVersion.symm, hStatus.symm, ?_, h.same_withLength, ?_⟩
    · rw [hReason, readBack, (firstWord_eq_iff _).mpr hOneWord, String.ofList_toList]
    · rw [hBody]
      exact (filter_body_iff _).mpr hNotEmpty

end HttpResponse

/-- Requests and responses are read as they were written exactly when a request is consistent and when a
response has a version, a reason of at most one word and no empty body. -/
theorem messages_survive_iff {request : HttpRequest} {response : HttpResponse} (hRequest : request.Valid)
    (hResponse : response.Valid) :
    ((∃ read, HttpRequest.unmarshal request.marshal.toList = some read ∧ read.Same request.withLength) ↔
      request.Consistent) ∧
    ((∃ read, HttpResponse.unmarshal response.marshal.toList = some read ∧
        read.Same response.withLength) ↔
      response.version ≠ "" ∧ Solid response.reasonPhrase.toList ∧ response.body ≠ some "") :=
  ⟨hRequest.survives_iff, hResponse.survives_iff⟩

/-- A request of WHIP. -/
def whip : HttpRequest where
  method := "POST"
  uri := ⟨.webrtc, "localhost", some 3000, "/whip", some "app=live&stream=test"⟩
  queryPairs := [("app", "live"), ("stream", "test")]
  version := "HTTP/1.1"
  headers := [("Host", "localhost:3000"), ("Content-Length", "0")]
  body := some "v=0"

/-- A response with a reason of one word or of two. -/
def refusal (reasonPhrase : String) : HttpResponse := ⟨"HTTP/1.1", 404, reasonPhrase, [], none⟩

theorem whip_valid : whip.Valid where
  method := by decide
  uri := ⟨by decide, "/whip?app=live&stream=test".toList, by decide, by decide +kernel⟩
  version := by decide
  headers := by
    simp only [whip, List.forall_mem_cons]
    exact ⟨⟨by decide, by decide, by decide⟩, fits_contentLength 0, List.forall_mem_nil _⟩
  distinct := by decide
  length := ⟨fun _ => ⟨"v=0", rfl, by decide⟩, fun _ => by decide⟩

theorem refusal_valid {reasonPhrase : String} (h : Unbroken reasonPhrase.toList) :
    (refusal reasonPhrase).Valid where
  version := (by decide : Solid "HTTP/1.1".toList)
  statusCode := (by decide : 404 < 2 ^ 16)
  reasonPhrase := h
  headers := List.forall_mem_nil _
  distinct := List.nodup_nil
  length := by
    intro hMem
    cases hMem

theorem whip_survives :
    ((∃ read, HttpRequest.unmarshal whip.marshal.toList = some read ∧ read.Same whip.withLength) ↔
      whip.Consistent) ∧
    ((∃ read, HttpResponse.unmarshal (refusal "Gone").marshal.toList = some read ∧
        read.Same (refusal "Gone").withLength) ↔
      (refusal "Gone").version ≠ "" ∧ Solid (refusal "Gone").reasonPhrase.toList ∧
        (refusal "Gone").body ≠ some "") :=
  messages_survive_iff whip_valid (refusal_valid (by decide))

/-- `404 Not Found` is read as `404 Not`. -/
theorem not_found_lost :
    (refusal "Not Found").Valid ∧
      ¬∃ read, HttpResponse.unmarshal (refusal "Not Found").marshal.toList = some read ∧
        read.Same (refusal "Not Found").withLength := by
  have hValid : (refusal "Not Found").Valid := refusal_valid (by decide)
  refine ⟨hValid, ?_⟩
  rintro ⟨read, hRead, hSame⟩
  rw [hValid.unmarshal_marshal (by decide), Option.some.injEq] at hRead
  have hReason := hSame.reasonPhrase
  rw [← hRead] at hReason
  exact absurd hReason (by decide)

end Xiu.Common
