import Xiu.Common.Written

/-! The headers `Transport` and `Range`, of `protocol/rtsp/src/rtsp_transport.rs` and
`protocol/rtsp/src/rtsp_range.rs`.  `none` stands for a panic. -/

namespace Xiu.Rtsp

open Common

inductive CastType where
  | multicast
  | unicast
  deriving DecidableEq

inductive ProtocolType where
  | tcp
  | udp
  deriving DecidableEq

structure RtspTransport where
  castType : CastType
  protocolType : ProtocolType
  interleaved : Option (Nat × Nat)
  transportMod : Option String
  clientPort : Option (Nat × Nat)
  serverPort : Option (Nat × Nat)
  ssrc : Option Nat
  deriving DecidableEq

namespace RtspTransport

def default : RtspTransport := ⟨.unicast, .tcp, none, none, none, none, none⟩

/-- `scanf!(value, '-', T, T)`, with 0 for what is no number. -/
def range (parse : List Char → Option Nat) (value : List Char) : Nat × Nat :=
  let (first, second) := scanf value '-'
  ((first.bind parse).getD 0, (second.bind parse).getD 0)

/-- One part.  `kv[1]` panics for a part without an equals sign. -/
def setPart (transport : RtspTransport) (part : List Char) : Option RtspTransport :=
  let (key, value) := scanf part '='
  if key = some "RTP/AVP/TCP".toList then
    some { transport with protocolType := .tcp }
  else if key = some "RTP/AVP/UDP".toList ∨ key = some "RTP/AVP".toList then
    some { transport with protocolType := .udp }
  else if key = some "unicast".toList then
    some { transport with castType := .unicast }
  else if key = some "multicast".toList then
    some { transport with castType := .multicast }
  else if key = some "mode".toList then
    value.map fun value => { transport with transportMod := some (String.ofList value) }
  else if key = some "client_port".toList then
    value.map fun value => { transport with clientPort := some (range parseU16 value) }
  else if key = some "server_port".toList then
    value.map fun value => { transport with serverPort := some (range parseU16 value) }
  else if key = some "interleaved".toList then
    value.map fun value => { transport with interleaved := some (range parseU8 value) }
  else if key = some "ssrc".toList then
    value.map fun value => { transport with ssrc := parseU32 value <|> transport.ssrc }
  else
    some transport

/-- `RtspTransport::unmarshal`. -/
def unmarshal (rawData : String) : Option RtspTransport :=
  (rawData.toList.splitOn ';').foldlM setPart default

def marshal (transport : RtspTransport) : String :=
  let ports (name : String) (range : Option (Nat × Nat)) : String :=
    (range.map fun (first, second) => s!"{name}={first}-{second};").getD ""
  (match transport.protocolType with
    | .tcp => "RTP/AVP/TCP"
    | .udp => "RTP/AVP/UDP") ++ ";" ++
  (match transport.castType with
    | .multicast => "multicast"
    | .unicast => "unicast") ++ ";" ++
  ports "client_port" transport.clientPort ++ ports "server_port" transport.serverPort ++
  ports "interleaved" transport.interleaved ++
  (transport.ssrc.map fun ssrc => s!"ssrc={ssrc};").getD "" ++
  (transport.transportMod.map fun mode => s!"mode={mode}").getD ""

/-! ### A header that is read back -/

/-- The numbers have the sizes of their types, and the mode has no separators. -/
structure Fits (transport : RtspTransport) : Prop where
  interleaved : ∀ range, transport.interleaved = some range → range.1 < 2 ^ 8 ∧ range.2 < 2 ^ 8
  clientPort : ∀ range, transport.clientPort = some range → range.1 < 2 ^ 16 ∧ range.2 < 2 ^ 16
  serverPort : ∀ range, transport.serverPort = some range → range.1 < 2 ^ 16 ∧ range.2 < 2 ^ 16
  ssrc : ∀ ssrc, transport.ssrc = some ssrc → ssrc < 2 ^ 32
  transportMod : ∀ mode, transport.transportMod = some mode → ';' ∉ mode.toList ∧ '=' ∉ mode.toList

/-- What the parts of a text set. -/
def setParts (transport : RtspTransport) (text : List Char) : Option RtspTransport :=
  (text.splitOn ';').foldlM setPart transport

theorem setParts_append {part : List Char} (h : ';' ∉ part) (transport : RtspTransport)
    (rest : List Char) : setParts transport (part ++ ';' :: rest) =
      (setPart transport part).bind (setParts · rest) := by
  rw [setParts, List.splitOn_append_cons_self_of_not_mem h, List.foldlM_cons]
  rfl

theorem setParts_last {part : List Char} (h : ';' ∉ part) (transport : RtspTransport) :
    setParts transport part = setPart transport part := by
  rw [setParts, List.splitOn_eq_singleton h, List.foldlM_cons]
  exact Option.bind_fun_some _

theorem not_mem_range {c : Char} (h : c.isDigit = false) (hDash : c ≠ '-') (first second : Nat) :
    c ∉ Nat.toDigits 10 first ++ '-' :: Nat.toDigits 10 second := by
  simp [not_mem_toDigits h, hDash]

theorem range_toDigits {size first second : Nat} (hFirst : first < size) (hSecond : second < size) :
    range (parseUnsigned size) (Nat.toDigits 10 first ++ '-' :: Nat.toDigits 10 second) =
      (first, second) := by
  have hDash (n : Nat) : '-' ∉ Nat.toDigits 10 n := not_mem_toDigits (by decide) n
  simp only [range, scanf_append (hDash first) (hDash second), Option.bind_some,
    parseUnsigned_toDigits hFirst, parseUnsigned_toDigits hSecond, Option.getD_some]

theorem setParts_protocolType (protocolType : ProtocolType) (transport : RtspTransport)
    (rest : List Char) :
    setParts transport ((match protocolType with
      | .tcp => "RTP/AVP/TCP"
      | .udp => "RTP/AVP/UDP").toList ++ ';' :: rest) =
      setParts { transport with protocolType } rest := by
  cases protocolType <;> exact setParts_append (by decide) _ _

theorem setParts_castType (castType : CastType) (transport : RtspTransport) (rest : List Char) :
    setParts transport ((match castType with
      | .multicast => "multicast"
      | .unicast => "unicast").toList ++ ';' :: rest) =
      setParts { transport with castType } rest := by
  cases castType <;> exact setParts_append (by decide) _ _

/-- A range that may be there. -/
def rangeText (name : String) (range : Option (Nat × Nat)) : List Char :=
  match range with
  | none => []
  | some (first, second) =>
    name.toList ++ '=' :: (Nat.toDigits 10 first ++ '-' :: Nat.toDigits 10 second) ++ [';']

/-- A range is read with its type's size. -/
theorem setParts_rangeText {name : String} {size : Nat} {set : Option (Nat × Nat) → RtspTransport}
    (hName : '=' ∉ name.toList ∧ ';' ∉ name.toList)
    (hSet : ∀ value, '=' ∉ value → setPart (set none) (name.toList ++ '=' :: value) =
      some (set (some (range (parseUnsigned size) value))))
    {ports : Option (Nat × Nat)} (hFits : ∀ range, ports = some range → range.1 < size ∧ range.2 < size)
    (rest : List Char) :
    setParts (set none) (rangeText name ports ++ rest) = setParts (set ports) rest := by
  cases ports with
  | none => rfl
  | some ports =>
    obtain ⟨first, second⟩ := ports
    obtain ⟨hFirst, hSecond⟩ := hFits _ rfl
    have hPart : ';' ∉ name.toList ++ '=' :: (Nat.toDigits 10 first ++ '-' :: Nat.toDigits 10 second) := by
      simp [hName.2, not_mem_toDigits (c := ';') (by decide)]
    rw [rangeText, List.append_assoc, List.singleton_append, setParts_append hPart,
      hSet _ (not_mem_range (by decide) (by decide) first second), range_toDigits hFirst hSecond]
    rfl

theorem setPart_clientPort (transport : RtspTransport) {value : List Char} (h : '=' ∉ value) :
    setPart transport ("client_port".toList ++ '=' :: value) =
      some { transport with clientPort := some (range parseU16 value) } := by
  rw [setPart, scanf_append (by decide) h]
  rfl

theorem setPart_serverPort (transport : RtspTransport) {value : List Char} (h : '=' ∉ value) :
    setPart transport ("server_port".toList ++ '=' :: value) =
      some { transport with serverPort := some (range parseU16 value) } := by
  rw [setPart, scanf_append (by decide) h]
  rfl

theorem setPart_interleaved (transport : RtspTransport) {value : List Char} (h : '=' ∉ value) :
    setPart transport ("interleaved".toList ++ '=' :: value) =
      some { transport with interleaved := some (range parseU8 value) } := by
  rw [setPart, scanf_append (by decide) h]
  rfl

theorem setPart_ssrc (transport : RtspTransport) {ssrc : Nat} (h : ssrc < 2 ^ 32) :
    setPart transport ("ssrc".toList ++ '=' :: Nat.toDigits 10 ssrc) =
      some { transport with ssrc := some ssrc } := by
  have hParse : parseU32 (Nat.toDigits 10 ssrc) = some ssrc := parseUnsigned_toDigits h
  rw [setPart, scanf_append (by decide) (not_mem_toDigits (by decide) ssrc)]
  simp only [Option.map_some, hParse]
  rfl

theorem setPart_mode (transport : RtspTransport) {mode : String} (h : '=' ∉ mode.toList) :
    setPart transport ("mode".toList ++ '=' :: mode.toList) =
      some { transport with transportMod := some mode } := by
  rw [setPart, scanf_append (by decide) h]
  simp only [Option.map_some, String.ofList_toList]
  rfl

def ssrcText (ssrc : Option Nat) : List Char :=
  match ssrc with
  | none => []
  | some ssrc => "ssrc".toList ++ '=' :: Nat.toDigits 10 ssrc ++ [';']

def modeText (mode : Option String) : List Char :=
  match mode with
  | none => []
  | some mode => "mode".toList ++ '=' :: mode.toList

theorem setParts_ssrcText {transport : RtspTransport} (hNone : transport.ssrc = none)
    {ssrc : Option Nat} (hFits : ∀ n, ssrc = some n → n < 2 ^ 32) (rest : List Char) :
    setParts transport (ssrcText ssrc ++ rest) = setParts { transport with ssrc } rest := by
  cases ssrc with
  | none =>
    have hSame : transport = { transport with ssrc := none } := by rw [← hNone]
    exact congrArg (setParts · rest) hSame
  | some ssrc =>
    have hPart : ';' ∉ "ssrc".toList ++ '=' :: Nat.toDigits 10 ssrc := by
      simp [not_mem_toDigits (c := ';') (by decide)]
    rw [ssrcText, List.append_assoc, List.singleton_append, setParts_append hPart,
      setPart_ssrc transport (hFits ssrc rfl)]
    rfl

theorem setParts_modeText {transport : RtspTransport} (hNone : transport.transportMod = none)
    {mode : Option String} (hFits : ∀ m, mode = some m → ';' ∉ m.toList ∧ '=' ∉ m.toList) :
    setParts transport (modeText mode) = some { transport with transportMod := mode } := by
  cases mode with
  | none =>
    have hSame : transport = { transport with transportMod := none } := by rw [← hNone]
    exact congrArg some hSame
  | some mode =>
    obtain ⟨hSemicolon, hEquals⟩ := hFits mode rfl
    have hPart : ';' ∉ "mode".toList ++ '=' :: mode.toList := by simp [hSemicolon]
    rw [modeText, setParts_last hPart, setPart_mode transport hEquals]

theorem toList_marshal (transport : RtspTransport) :
    (marshal transport).toList =
      (match transport.protocolType with
        | .tcp => "RTP/AVP/TCP"
        | .udp => "RTP/AVP/UDP").toList ++ ';' ::
      ((match transport.castType with
        | .multicast => "multicast"
        | .unicast => "unicast").toList ++ ';' ::
      (rangeText "client_port" transport.clientPort ++
      (rangeText "server_port" transport.serverPort ++
      (rangeText "interleaved" transport.interleaved ++
      (ssrcText transport.ssrc ++ modeText transport.transportMod))))) := by
  have hRange (name : String) (range : Option (Nat × Nat)) :
      ((range.map fun (first, second) => s!"{name}={first}-{second};").getD "").toList =
        rangeText name range := by
    cases range with
    | none => rfl
    | some range => simp [rangeText]
  have hSsrc : ((transport.ssrc.map fun ssrc => s!"ssrc={ssrc};").getD "").toList =
      ssrcText transport.ssrc := by
    cases transport.ssrc with
    | none => rfl
    | some ssrc => simp [ssrcText]
  have hMode : ((transport.transportMod.map fun mode => s!"mode={mode}").getD "").toList =
      modeText transport.transportMod := by
    cases transport.transportMod with
    | none => rfl
    | some mode => simp [modeText]
  simp only [marshal, String.toList_append, hRange, hSsrc, hMode, List.append_assoc]
  rfl

/-- A header that has been written is read as it was. -/
theorem transport_readsBack {transport : RtspTransport} (h : transport.Fits) :
    unmarshal transport.marshal = some transport := by
  have hClient := @setParts_rangeText "client_port" _
    (fun clientPort => { transport with
      clientPort, serverPort := none, interleaved := none, ssrc := none, transportMod := none })
    (by decide) (fun _ hValue => setPart_clientPort _ hValue) _ h.clientPort
  have hServer := @setParts_rangeText "server_port" _
    (fun serverPort => { transport with
      serverPort, interleaved := none, ssrc := none, transportMod := none })
    (by decide) (fun _ hValue => setPart_serverPort _ hValue) _ h.serverPort
  have hInterleaved := @setParts_rangeText "interleaved" _
    (fun interleaved => { transport with interleaved, ssrc := none, transportMod := none })
    (by decide) (fun _ hValue => setPart_interleaved _ hValue) _ h.interleaved
  change setParts default (marshal transport).toList = _
  rw [toList_marshal, setParts_protocolType, setParts_castType, default]
  refine (hClient _).trans ((hServer _).trans ((hInterleaved _).trans ?_))
  rw [setParts_ssrcText rfl h.ssrc]
  exact setParts_modeText rfl h.transportMod

theorem full_transport_readsBack :
    unmarshal (marshal ⟨.multicast, .udp, some (0, 255), some "play", some (8000, 8001),
      some (65535, 0), some 4294967295⟩) =
        some ⟨.multicast, .udp, some (0, 255), some "play", some (8000, 8001), some (65535, 0),
          some 4294967295⟩ := by
  refine transport_readsBack ⟨?_, ?_, ?_, ?_, ?_⟩ <;> (rintro _ ⟨⟩; decide)

end RtspTransport

inductive RtspRangeType where
  | npt
  | clock
  deriving DecidableEq

structure RtspRange where
  rangeType : RtspRangeType
  rangeBegin : Int
  rangeEnd : Option Int
  deriving DecidableEq

namespace RtspRange

def default : RtspRange := ⟨.npt, 0, none⟩

/-- A result of 64-bit arithmetic with overflow checks. -/
def checkedI64 (n : Int) : Option Int := if -2 ^ 63 ≤ n ∧ n < 2 ^ 63 then some n else none

/-- `get_npt_time`: `hh:mm:ss.mill`, in milliseconds. -/
def nptTime (rangeTime : List Char) : Option Int :=
  let pieces := rangeTime.splitOnP fun c => c == ':' || c == '.'
  match pieces[0]?.bind parseI64, pieces[1]?.bind parseI64, pieces[2]?.bind parseI64 with
  | some hour, some minute, some second => do
    let hours ← checkedI64 (hour * 3600)
    let minutes ← checkedI64 (minute * 60)
    let whole ← checkedI64 (hours + minutes)
    let seconds ← checkedI64 (whole + second)
    let result ← checkedI64 (seconds * 1000)
    match pieces[3]?.bind parseI64 with
    | some mill => checkedI64 (result + mill)
    | none => return result
  | _, _, _ => some 0

/-- `RtspRange::unmarshal`, with the seconds of a UTC time as the crate `chrono` reads it: a panic,
nothing, or a range. -/
def unmarshal (clockTime : List Char → Option Int) (rawData : String) : Option (Option RtspRange) :=
  match splitn2 '=' rawData.toList with
  | (_, none) => some none
  | (kind, some value) =>
    let ranges := value.splitOn '-'
    let first := ranges[0]?.getD []
    if kind = "clock".toList then
      let time (text : List Char) : Int := (clockTime text).getD (-1)
      some (some ⟨.clock, time first, ranges[1]?.map time⟩)
    else if kind = "npt".toList then do
      let rangeBegin ← if first = "now".toList then some 0 else nptTime first
      match ranges with
      | [_, second] =>
        if second.isEmpty then
          return some ⟨.npt, rangeBegin, none⟩
        else
          let rangeEnd ← nptTime second
          return some ⟨.npt, rangeBegin, some rangeEnd⟩
      | _ => return some ⟨.npt, rangeBegin, none⟩
    else
      some (some default)

/-- `RtspRange::marshal` writes nothing. -/
def marshal (_ : RtspRange) : String := ""

end RtspRange

end Xiu.Rtsp
