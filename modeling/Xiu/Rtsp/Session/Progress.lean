import Xiu.Rtsp.Session.ReadLoop

/-! When the turns of the read loops get on: a turn reads from the network, takes a byte from the
buffer or leaves the loop, unless the buffer begins with what is neither a frame nor a request. -/

namespace Xiu.Rtsp.Session

open Bytesio Common ProofKit

/-- The bytes that are in the buffer or will be. -/
def Conn.pending (c : Conn) : Nat := c.buffer.length + c.incoming.flatten.length

/-- From one connection to another by reads from the network alone. -/
def Reads (c c' : Conn) : Prop :=
  ∃ reads, c.incoming = reads ++ c'.incoming ∧ c'.buffer = c.buffer ++ reads.flatten

/-- A read from the network, or a byte taken. -/
def Progress (c c' : Conn) : Prop :=
  c'.incoming.length < c.incoming.length ∨ c'.pending < c.pending

def Turn.Progresses (c : Conn) : Turn → Prop
  | .left => True
  | .idle c' => Progress c c'
  | .message _ c' => Progress c c'

theorem Reads.refl (c : Conn) : Reads c c := ⟨[], by simp⟩

theorem Reads.trans {c c1 c' : Conn} (h : Reads c c1) (h' : Reads c1 c') : Reads c c' := by
  obtain ⟨reads, hIncoming, hBuffer⟩ := h
  obtain ⟨reads', hIncoming', hBuffer'⟩ := h'
  refine ⟨reads ++ reads', ?_, ?_⟩
  · rw [hIncoming, hIncoming', List.append_assoc]
  · rw [hBuffer', hBuffer, List.append_assoc, List.flatten_append]

theorem Reads.next (buffer data : List UInt8) (rest : List (List UInt8)) :
    Reads ⟨buffer, data :: rest⟩ ⟨buffer ++ data, rest⟩ := ⟨[data], by simp⟩

theorem Reads.pending {c c' : Conn} (h : Reads c c') : c'.pending = c.pending := by
  obtain ⟨reads, hIncoming, hBuffer⟩ := h
  simp only [Conn.pending, hIncoming, hBuffer, List.flatten_append, List.length_append]
  omega

theorem Reads.length_le {c c' : Conn} (h : Reads c c') : c'.incoming.length ≤ c.incoming.length := by
  obtain ⟨reads, hIncoming, -⟩ := h
  rw [hIncoming, List.length_append]
  omega

/-- Reads that leave no read less leave everything as it was. -/
theorem Reads.eq {c c' : Conn} (h : Reads c c') (hLength : c.incoming.length ≤ c'.incoming.length) :
    c' = c := by
  obtain ⟨reads, hIncoming, hBuffer⟩ := h
  have hNil : reads = [] := by
    rw [hIncoming, List.length_append] at hLength
    exact List.length_eq_zero_iff.mp (by omega)
  subst hNil
  cases c
  cases c'
  simp_all

theorem fillFrom_some {n : Nat} {buffer : List UInt8} {incoming : List (List UInt8)} {c : Conn}
    (h : Conn.fillFrom n buffer incoming = some c) :
    Reads ⟨buffer, incoming⟩ c ∧ n ≤ c.buffer.length ∧ (n ≤ buffer.length → c = ⟨buffer, incoming⟩) := by
  induction incoming generalizing buffer with
  | nil =>
    simp only [Conn.fillFrom] at h
    split at h
    · rename_i hEnough
      obtain rfl := Option.some.inj h
      exact ⟨.refl _, hEnough, fun _ => rfl⟩
    · cases h
  | cons data rest ih =>
    simp only [Conn.fillFrom] at h
    split at h
    · rename_i hEnough
      obtain rfl := Option.some.inj h
      exact ⟨.refl _, hEnough, fun _ => rfl⟩
    · rename_i hShort
      obtain ⟨hReads, hEnough, -⟩ := ih h
      exact ⟨(Reads.next buffer data rest).trans hReads, hEnough, fun hLe => absurd hLe hShort⟩

theorem fill_some {n : Nat} {c c' : Conn} (h : c.fill n = some c') :
    Reads c c' ∧ n ≤ c'.buffer.length ∧ (n ≤ c.buffer.length → c' = c) := fillFrom_some h

theorem fill_of_le {n : Nat} {c : Conn} (h : n ≤ c.buffer.length) : c.fill n = some c := by
  obtain ⟨buffer, incoming⟩ := c
  cases incoming <;> exact if_pos h

/-! ### The head of a frame -/

theorem exists_four {buffer : List UInt8} (h : 4 ≤ buffer.length) :
    ∃ b0 b1 b2 b3 rest, buffer = b0 :: b1 :: b2 :: b3 :: rest := by
  match buffer, h with
  | b0 :: b1 :: b2 :: b3 :: rest, _ => exact ⟨b0, b1, b2, b3, rest, rfl⟩

theorem advanceU8_cons (b : UInt8) (rest : List UInt8) :
    advanceU8 ⟨(), ⟨b :: rest⟩⟩ = .ok b ⟨(), ⟨b :: rest⟩⟩ := by
  simp [advanceU8, BytesReader.advanceBytes, BytesReader.decodeU8]

theorem new_dollar (b1 b2 b3 : UInt8) (rest : List UInt8) :
    InterleavedBinaryData.new ⟨(), ⟨0x24 :: b1 :: b2 :: b3 :: rest⟩⟩ =
      .ok (some ⟨b1, BytesReader.decodeU16 .bigEndian [b2, b3]⟩) ⟨(), ⟨rest⟩⟩ := by
  simp only [InterleavedBinaryData.new]
  rw [bind_of_ok (advanceU8_cons _ _), if_pos rfl, bind_of_ok (Read.readU8_cons _),
    bind_of_ok (Read.readU8_cons _)]
  have hRead : Read.readU16 .bigEndian (⟨(), ⟨b2 :: b3 :: rest⟩⟩ : Reading Unit) =
      .ok (BytesReader.decodeU16 .bigEndian [b2, b3]) ⟨(), ⟨rest⟩⟩ :=
    Read.read_cursor_ok (by simp)
  rw [bind_of_ok hRead]
  rfl

theorem new_other {b : UInt8} (hOther : b ≠ 0x24) (rest : List UInt8) :
    InterleavedBinaryData.new ⟨(), ⟨b :: rest⟩⟩ = .ok none ⟨(), ⟨b :: rest⟩⟩ := by
  simp only [InterleavedBinaryData.new]
  rw [bind_of_ok (advanceU8_cons _ _), if_neg hOther]
  rfl

/-! ### Requests -/

/-- A text that is no request: it has no empty line, or its first line has an RTSP URL without a
path. -/
def NoRequest (data : List Char) : Prop :=
  find HttpRequest.blankLine data = none ∨
    ∃ idx, find HttpRequest.blankLine data = some idx ∧
      ∃ first headers, lines (data.take idx) = first :: headers ∧
        ∃ method url fields, splitAsciiWhitespace first = method :: url :: fields ∧
          "rtsp://".toList.isPrefixOf url ∧ find ['/'] (url.drop 7) = none

theorem uri_unmarshal_eq_none {url : List Char} :
    Uri.unmarshal url = none ↔
      "rtsp://".toList.isPrefixOf url ∧ find ['/'] (url.drop 7) = none := by
  simp only [Uri.unmarshal]
  by_cases hPrefix : "rtsp://".toList.isPrefixOf url = true
  · rw [if_pos hPrefix]
    cases find ['/'] (url.drop 7) with
    | none => exact ⟨fun _ => ⟨hPrefix, rfl⟩, fun _ => rfl⟩
    | some index => exact ⟨fun h => (nomatch h), fun h => nomatch h.2⟩
  · rw [if_neg hPrefix]
    split
    · exact ⟨fun h => (nomatch h), fun h => absurd h.1 hPrefix⟩
    · exact ⟨fun h => (nomatch h), fun h => absurd h.1 hPrefix⟩

theorem setFirstLine_eq_none {request : HttpRequest} {line : List Char} :
    request.setFirstLine line = none ↔
      ∃ method url fields, splitAsciiWhitespace line = method :: url :: fields ∧
        Uri.unmarshal url = none := by
  simp only [HttpRequest.setFirstLine]
  split
  · simp_all
  · simp_all
  · rename_i method url fields hFields
    split
    · rename_i hUri
      exact ⟨fun _ => ⟨method, url, fields, hFields, hUri⟩, fun _ => rfl⟩
    · rename_i uri hUri
      constructor
      · intro h
        cases h
      · rintro ⟨method', url', fields', hFields', hUri'⟩
        rw [hFields] at hFields'
        cases hFields'
        rw [hUri] at hUri'
        cases hUri'

theorem unmarshal_eq_none {data : List Char} : HttpRequest.unmarshal data = none ↔ NoRequest data := by
  cases hFind : find HttpRequest.blankLine data with
  | none =>
    simp only [HttpRequest.blankLine] at hFind
    simp only [HttpRequest.unmarshal, hFind, NoRequest, HttpRequest.blankLine, true_or]
  | some idx =>
    simp only [HttpRequest.blankLine] at hFind
    simp only [HttpRequest.unmarshal, hFind, NoRequest, HttpRequest.blankLine, reduceCtorEq, false_or,
      Option.map_eq_none_iff, Option.some.injEq]
    cases hLines : lines (data.take idx) with
    | nil => simp [hLines]
    | cons first headers =>
      rw [Option.map_eq_none_iff, setFirstLine_eq_none]
      simp only [uri_unmarshal_eq_none]
      constructor
      · rintro ⟨method, url, fields, hFields, hUrl⟩
        exact ⟨idx, rfl, first, headers, hLines, method, url, fields, hFields, hUrl⟩
      · rintro ⟨idx', rfl, first', headers', hLines', method, url, fields, hFields, hUrl⟩
        rw [hLines] at hLines'
        cases hLines'
        exact ⟨method, url, fields, hFields, hUrl⟩

/-- What `on_rtsp_message` leaves when it has no request. -/
theorem onRtspMessage_idle {retryCount : Nat} {buffer : List UInt8} {incoming : List (List UInt8)}
    {c : Conn} (h : onRtspMessage retryCount buffer incoming = .idle c) :
    Reads ⟨buffer, incoming⟩ c ∧ (retryCount < 5 → c.incoming.length = incoming.length →
      ∃ data, decodeUtf8 buffer = some data ∧ HttpRequest.unmarshal data = none) := by
  induction incoming generalizing retryCount buffer with
  | nil =>
    simp only [onRtspMessage] at h
    split at h
    · cases h
    · rename_i data hData
      split at h
      · rename_i hNone
        cases h
        exact ⟨.refl _, fun _ _ => ⟨data, hData, hNone⟩⟩
      · split at h
        · split at h
          · rename_i hRetry
            cases h
            exact ⟨.refl _, fun hFew _ => absurd hRetry (by omega)⟩
          · cases h
        · cases h
  | cons next rest ih =>
    simp only [onRtspMessage] at h
    split at h
    · cases h
    · rename_i data hData
      split at h
      · rename_i hNone
        cases h
        exact ⟨.refl _, fun _ _ => ⟨data, hData, hNone⟩⟩
      · split at h
        · split at h
          · rename_i hRetry
            cases h
            exact ⟨.refl _, fun hFew _ => absurd hRetry (by omega)⟩
          · obtain ⟨hReads, -⟩ := ih h
            refine ⟨(Reads.next buffer next rest).trans hReads, fun _ hLength => ?_⟩
            have hLe := hReads.length_le
            simp only [List.length_cons] at hLength hLe
            omega
        · cases h

/-- A request takes the whole buffer. -/
theorem onRtspMessage_message {retryCount : Nat} {buffer : List UInt8}
    {incoming : List (List UInt8)} {m : Message} {c : Conn}
    (h : onRtspMessage retryCount buffer incoming = .message m c) :
    ∃ c1, Reads ⟨buffer, incoming⟩ c1 ∧ c = ⟨[], c1.incoming⟩ := by
  induction incoming generalizing retryCount buffer with
  | nil =>
    simp only [onRtspMessage] at h
    split at h
    · cases h
    · split at h
      · cases h
      · split at h
        · split at h <;> cases h
        · cases h
          exact ⟨_, .refl _, rfl⟩
  | cons next rest ih =>
    simp only [onRtspMessage] at h
    split at h
    · cases h
    · split at h
      · cases h
      · split at h
        · split at h
          · cases h
          · obtain ⟨c1, hReads, hc⟩ := ih h
            exact ⟨c1, (Reads.next buffer next rest).trans hReads, hc⟩
        · cases h
          exact ⟨_, .refl _, rfl⟩

/-! ### Turns -/

theorem readFrame_message {c c' : Conn} {a : InterleavedBinaryData} {m : Message}
    (h : readFrame c a = .message m c') :
    c.buffer.length = a.length.toNat + c'.buffer.length ∧ c'.incoming = c.incoming := by
  simp only [readFrame] at h
  split at h
  · cases h
  · rename_i payload reader hRead
    cases h
    obtain ⟨hBuffer, hLength⟩ := BytesReader.readBytes_ok hRead
    simp only at hBuffer
    rw [hBuffer, List.length_append, hLength]
    exact ⟨rfl, rfl⟩

theorem readFrame_not_idle {c c' : Conn} {a : InterleavedBinaryData} :
    readFrame c a ≠ .idle c' := by
  simp only [readFrame]
  split <;> simp

/-- A frame takes its head at least. -/
theorem readFrame_progresses {c c1 c2 : Conn} {b0 b1 b2 b3 : UInt8} {rest : List UInt8}
    {a : InterleavedBinaryData} (hReads : Reads c c1) (hBuffer : c1.buffer = b0 :: b1 :: b2 :: b3 :: rest)
    (hMore : Reads ⟨rest, c1.incoming⟩ c2) : (readFrame c2 a).Progresses c := by
  cases hTurn : readFrame c2 a with
  | left => exact trivial
  | idle c' => exact absurd hTurn readFrame_not_idle
  | message m c' =>
    obtain ⟨hLength, hIncoming⟩ := readFrame_message hTurn
    have hPending := hReads.pending
    have hPending2 := hMore.pending
    refine .inr ?_
    simp only [Conn.pending, hBuffer, List.length_cons] at hPending hPending2 ⊢
    rw [hIncoming]
    omega

/-- Where the server's loop does not get on: no frame and no request begins the buffer. -/
def ServerStuck (c : Conn) : Prop :=
  4 ≤ c.buffer.length ∧ c.buffer.head? ≠ some 0x24 ∧
    ∃ data, decodeUtf8 c.buffer = some data ∧ NoRequest data

/-- Where the client's receive loop does not get on: no frame begins the buffer. -/
def ClientStuck (c : Conn) : Prop := 4 ≤ c.buffer.length ∧ c.buffer.head? ≠ some 0x24

theorem onRtspMessage_stuck {retryCount : Nat} {buffer : List UInt8} (incoming : List (List UInt8))
    {data : List Char} (hData : decodeUtf8 buffer = some data)
    (hNone : HttpRequest.unmarshal data = none) :
    onRtspMessage retryCount buffer incoming = .idle ⟨buffer, incoming⟩ := by
  cases incoming <;> simp only [onRtspMessage, hData, hNone]

theorem serverTurn_stuck {c : Conn} (h : ServerStuck c) : serverTurn c = .idle c := by
  obtain ⟨hFour, hHead, data, hData, hNone⟩ := h
  obtain ⟨b0, b1, b2, b3, rest, hBuffer⟩ := exists_four hFour
  have hOther : b0 ≠ 0x24 := by
    rintro rfl
    rw [hBuffer] at hHead
    exact hHead rfl
  simp only [serverTurn, fill_of_le hFour]
  rw [hBuffer, new_other hOther, ← hBuffer]
  exact onRtspMessage_stuck c.incoming hData (unmarshal_eq_none.mpr hNone)

theorem clientTurn_stuck {c : Conn} (h : ClientStuck c) : clientTurn c = .idle c := by
  obtain ⟨hFour, hHead⟩ := h
  obtain ⟨b0, b1, b2, b3, rest, hBuffer⟩ := exists_four hFour
  have hOther : b0 ≠ 0x24 := by
    rintro rfl
    rw [hBuffer] at hHead
    exact hHead rfl
  simp only [clientTurn, fill_of_le hFour]
  rw [hBuffer, new_other hOther, ← hBuffer]

theorem not_progress_self (c : Conn) : ¬Progress c c := by
  rintro (h | h)
  · exact Nat.lt_irrefl _ h
  · exact Nat.lt_irrefl _ h

theorem serverTurn_progresses_iff (c : Conn) : (serverTurn c).Progresses c ↔ ¬ServerStuck c := by
  constructor
  · intro hProgress hStuck
    rw [serverTurn_stuck hStuck] at hProgress
    exact not_progress_self c hProgress
  · intro hNot
    simp only [serverTurn]
    cases hFill : c.fill 4 with
    | none => exact trivial
    | some c1 =>
      obtain ⟨hReads, hFour, hSame⟩ := fill_some hFill
      obtain ⟨b0, b1, b2, b3, rest, hBuffer⟩ := exists_four hFour
      by_cases hDollar : b0 = 0x24
      · subst hDollar
        simp only [hBuffer, new_dollar]
        split
        · exact trivial
        · rename_i c2 hFill2
          exact readFrame_progresses hReads hBuffer (fill_some hFill2).1
      · simp only [hBuffer, new_other hDollar]
        rw [← hBuffer]
        cases hTurn : onRtspMessage 0 c1.buffer c1.incoming with
        | left => exact trivial
        | message m c' =>
          obtain ⟨c2, hMore, rfl⟩ := onRtspMessage_message hTurn
          have hPending := hReads.pending
          have hPending2 := hMore.pending
          obtain ⟨reads, -, hBuffer2⟩ := hMore
          refine .inr ?_
          have hLonger := congrArg List.length hBuffer2
          simp only [List.length_append] at hLonger
          simp only [Conn.pending, List.length_nil] at hPending hPending2 ⊢
          omega
        | idle c' =>
          obtain ⟨hMore, hStuck⟩ := onRtspMessage_idle hTurn
          have hLe := hReads.length_le
          have hLe2 := hMore.length_le
          by_cases hLess : c'.incoming.length < c.incoming.length
          · exact .inl hLess
          · have hEq1 : c1 = c := hReads.eq (by simp only at hLe2; omega)
            subst hEq1
            obtain ⟨data, hData, hNone⟩ := hStuck (by omega) (by simp only at hLe2; omega)
            refine absurd ⟨hFour, ?_, data, hData, unmarshal_eq_none.mp hNone⟩ hNot
            rw [hBuffer]
            exact fun h => hDollar (Option.some.inj h)

theorem clientTurn_progresses_iff (c : Conn) : (clientTurn c).Progresses c ↔ ¬ClientStuck c := by
  constructor
  · intro hProgress hStuck
    rw [clientTurn_stuck hStuck] at hProgress
    exact not_progress_self c hProgress
  · intro hNot
    simp only [clientTurn]
    cases hFill : c.fill 4 with
    | none => exact trivial
    | some c1 =>
      obtain ⟨hReads, hFour, hSame⟩ := fill_some hFill
      obtain ⟨b0, b1, b2, b3, rest, hBuffer⟩ := exists_four hFour
      by_cases hDollar : b0 = 0x24
      · subst hDollar
        simp only [hBuffer, new_dollar]
        split
        · cases hIncoming : c1.incoming with
          | nil => exact trivial
          | cons data more =>
            refine readFrame_progresses hReads hBuffer ?_
            rw [hIncoming]
            exact .next rest data more
        · exact readFrame_progresses hReads hBuffer (.refl _)
      · simp only [hBuffer, new_other hDollar]
        rw [← hBuffer]
        refine .inl ?_
        by_cases hEnough : 4 ≤ c.buffer.length
        · rw [hSame hEnough] at hBuffer
          refine absurd ⟨hEnough, ?_⟩ hNot
          rw [hBuffer]
          exact fun h => hDollar (Option.some.inj h)
        · refine Nat.lt_of_le_of_ne hReads.length_le fun hEq => ?_
          rw [hReads.eq (Nat.le_of_eq hEq.symm)] at hFour
          exact hEnough hFour

/-! ### Runs of turns -/

/-- The connection with which a loop goes on after a turn. -/
def Turn.conn : Turn → Option Conn
  | .left => none
  | .idle c => some c
  | .message _ c => some c

/-- So many turns of a loop, none of which leaves it. -/
inductive Iterates (turn : Conn → Turn) : Nat → Conn → Conn → Prop where
  | zero (c : Conn) : Iterates turn 0 c c
  | succ {n : Nat} {c c1 c2 : Conn} (first : Iterates turn n c c1) (last : (turn c1).conn = some c2) :
    Iterates turn (n + 1) c c2

/-- Neither the bytes nor the reads to come get more. -/
def Shrinks (c c' : Conn) : Prop :=
  c'.pending ≤ c.pending ∧ c'.incoming.length ≤ c.incoming.length

theorem Reads.shrinks {c c' : Conn} (h : Reads c c') : Shrinks c c' :=
  ⟨Nat.le_of_eq h.pending, h.length_le⟩

theorem Shrinks.trans {c c1 c' : Conn} (h : Shrinks c c1) (h' : Shrinks c1 c') : Shrinks c c' :=
  ⟨Nat.le_trans h'.1 h.1, Nat.le_trans h'.2 h.2⟩

theorem readFrame_shrinks {c c' : Conn} {a : InterleavedBinaryData}
    (h : (readFrame c a).conn = some c') : Shrinks c c' := by
  cases hTurn : readFrame c a with
  | left =>
    rw [hTurn] at h
    cases h
  | idle c1 => exact absurd hTurn readFrame_not_idle
  | message m c1 =>
    rw [hTurn] at h
    cases h
    obtain ⟨hLength, hIncoming⟩ := readFrame_message hTurn
    simp only [Shrinks, Conn.pending, hIncoming]
    omega

theorem drop_head_shrinks (b0 b1 b2 b3 : UInt8) (rest : List UInt8) (incoming : List (List UInt8)) :
    Shrinks ⟨b0 :: b1 :: b2 :: b3 :: rest, incoming⟩ ⟨rest, incoming⟩ := by
  simp only [Shrinks, Conn.pending, List.length_cons]
  omega

theorem serverTurn_shrinks {c c' : Conn} (h : (serverTurn c).conn = some c') : Shrinks c c' := by
  simp only [serverTurn] at h
  cases hFill : c.fill 4 with
  | none =>
    rw [hFill] at h
    cases h
  | some c1 =>
    obtain ⟨hReads, hFour, -⟩ := fill_some hFill
    obtain ⟨b0, b1, b2, b3, rest, hBuffer⟩ := exists_four hFour
    obtain ⟨buffer, incoming⟩ := c1
    simp only at hBuffer
    subst hBuffer
    refine hReads.shrinks.trans ?_
    by_cases hDollar : b0 = 0x24
    · subst hDollar
      simp only [hFill, new_dollar] at h
      cases hFill2 : Conn.fill ⟨rest, incoming⟩
          (BytesReader.decodeU16 .bigEndian [b2, b3]).toNat with
      | none =>
        rw [hFill2] at h
        cases h
      | some c2 =>
        rw [hFill2] at h
        exact (drop_head_shrinks _ b1 b2 b3 rest incoming).trans
          ((fill_some hFill2).1.shrinks.trans (readFrame_shrinks h))
    · simp only [hFill, new_other hDollar] at h
      cases hTurn : onRtspMessage 0 (b0 :: b1 :: b2 :: b3 :: rest) incoming with
      | left =>
        rw [hTurn] at h
        cases h
      | idle c2 =>
        rw [hTurn] at h
        cases h
        exact (onRtspMessage_idle hTurn).1.shrinks
      | message m c2 =>
        rw [hTurn] at h
        cases h
        obtain ⟨c3, hMore, rfl⟩ := onRtspMessage_message hTurn
        refine hMore.shrinks.trans ?_
        simp only [Shrinks, Conn.pending, List.length_nil]
        omega

theorem clientTurn_shrinks {c c' : Conn} (h : (clientTurn c).conn = some c') : Shrinks c c' := by
  simp only [clientTurn] at h
  cases hFill : c.fill 4 with
  | none =>
    rw [hFill] at h
    cases h
  | some c1 =>
    obtain ⟨hReads, hFour, -⟩ := fill_some hFill
    obtain ⟨b0, b1, b2, b3, rest, hBuffer⟩ := exists_four hFour
    obtain ⟨buffer, incoming⟩ := c1
    simp only at hBuffer
    subst hBuffer
    refine hReads.shrinks.trans ?_
    by_cases hDollar : b0 = 0x24
    · subst hDollar
      refine (drop_head_shrinks _ b1 b2 b3 rest incoming).trans ?_
      simp only [hFill, new_dollar] at h
      split at h
      · cases incoming with
        | nil => cases h
        | cons data more => exact (Reads.next rest data more).shrinks.trans (readFrame_shrinks h)
      · exact readFrame_shrinks h
    · simp only [hFill, new_other hDollar] at h
      cases h
      exact (Reads.refl _).shrinks

section Runs

variable {turn : Conn → Turn} {Stuck : Conn → Prop}
  (hProgresses : ∀ c, (turn c).Progresses c ↔ ¬Stuck c)
  (hShrinks : ∀ c c', (turn c).conn = some c' → Shrinks c c')

include hProgresses hShrinks in
/-- As long as no turn is stuck, there are no more turns than bytes and reads. -/
theorem Iterates.bounded {n : Nat} {c c' : Conn} (h : Iterates turn n c c')
    (hNever : ∀ k c1, Iterates turn k c c1 → ¬Stuck c1) :
    n + c'.pending + c'.incoming.length ≤ c.pending + c.incoming.length := by
  induction h with
  | zero c => omega
  | @succ n c c1 c2 hFirst hLast ih =>
    have hBefore := ih hNever
    have hLess := hShrinks c1 c2 hLast
    have hTurn : Progress c1 c2 := by
      have hProgress := (hProgresses c1).mpr (hNever n c1 hFirst)
      cases hResult : turn c1 with
      | left =>
        rw [hResult] at hLast
        cases hLast
      | idle c3 =>
        rw [hResult] at hLast hProgress
        cases hLast
        exact hProgress
      | message m c3 =>
        rw [hResult] at hLast hProgress
        cases hLast
        exact hProgress
    simp only [Progress, Shrinks] at hTurn hLess
    omega

/-- A loop that is stuck goes round for ever. -/
theorem Iterates.forever {n : Nat} {c c' : Conn} (h : Iterates turn n c c')
    (hSame : (turn c').conn = some c') (k : Nat) : Iterates turn (n + k) c c' := by
  induction k with
  | zero => exact h
  | succ k ih => exact ih.succ hSame

include hProgresses hShrinks in
/-- A loop goes round a bounded number of times if and only if it is never stuck. -/
theorem bounded_iff (hStuck : ∀ c, Stuck c → (turn c).conn = some c) (c : Conn) :
    (∃ bound, ∀ n c', Iterates turn n c c' → n ≤ bound) ↔
      ∀ n c', Iterates turn n c c' → ¬Stuck c' := by
  constructor
  · rintro ⟨bound, hBound⟩ n c' hIterates hHere
    have hMore := hBound _ _ (hIterates.forever (hStuck c' hHere) (bound + 1))
    omega
  · intro hNever
    refine ⟨c.pending + c.incoming.length, fun n c' hIterates => ?_⟩
    have := hIterates.bounded hProgresses hShrinks hNever
    omega

end Runs

/-- Every turn of the two loops reads, takes a byte or leaves the loop if and only if the loop is not
stuck before it, and a loop goes round a bounded number of times if and only if it never gets stuck. -/
theorem read_loops_progress_iff (c : Conn) :
    ((serverTurn c).Progresses c ↔ ¬ServerStuck c) ∧
    ((clientTurn c).Progresses c ↔ ¬ClientStuck c) ∧
    ((∃ bound, ∀ n c', Iterates serverTurn n c c' → n ≤ bound) ↔
      ∀ n c', Iterates serverTurn n c c' → ¬ServerStuck c') ∧
    ((∃ bound, ∀ n c', Iterates clientTurn n c c' → n ≤ bound) ↔
      ∀ n c', Iterates clientTurn n c c' → ¬ClientStuck c') := by
  refine ⟨serverTurn_progresses_iff c, clientTurn_progresses_iff c, ?_, ?_⟩
  · refine bounded_iff serverTurn_progresses_iff (fun _ _ => serverTurn_shrinks) ?_ c
    intro c hStuck
    rw [serverTurn_stuck hStuck]
    rfl
  · refine bounded_iff clientTurn_progresses_iff (fun _ _ => clientTurn_shrinks) ?_ c
    intro c hStuck
    rw [clientTurn_stuck hStuck]
    rfl

/-- The first four bytes of a request, with the rest still to come, or of a response are enough. -/
theorem four_bytes_stick :
    (∃ c : Conn, c.buffer = encodeUtf8 "OPTI".toList ∧
      c.incoming = [encodeUtf8 "ONS rtsp://host/live RTSP/1.0\r\n\r\n".toList] ∧
        ¬(serverTurn c).Progresses c) ∧
      ∃ c : Conn, c.buffer = encodeUtf8 "RTSP".toList ∧ ¬(clientTurn c).Progresses c := by
  refine ⟨⟨⟨_, _⟩, rfl, rfl, ?_⟩, ⟨⟨_, []⟩, rfl, ?_⟩⟩
  · rw [serverTurn_progresses_iff]
    refine fun h => h ⟨by decide +kernel, by decide +kernel, "OPTI".toList, ?_, ?_⟩
    · exact decodeUtf8_encodeUtf8 _
    · exact .inl (by decide +kernel)
  · rw [clientTurn_progresses_iff]
    exact fun h => h ⟨by decide +kernel, by decide +kernel⟩

end Xiu.Rtsp.Session
