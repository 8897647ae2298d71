import Mathlib.Data.List.Basic
import Xiu.ProofKit.Loop
import Xiu.Rtsp.Session.Progress

/-! When the server's read loop does not depend on how its connection is cut into reads.  Requests
and frames written one after the other are handled as they were written exactly when, for every
request, no read ends inside its head behind its fourth byte, a read ends where it ends, no read
inside its body ends within a character, and it does not announce an empty body. -/

namespace Xiu.Rtsp.Session

open Bytesio Common ProofKit

/-! ### What is written -/

/-- A request as it is written: a head that its first empty line ends, which `HttpRequest::unmarshal`
takes, and the body that its header `Content-Length` announces, or none. -/
structure WireRequest where
  head : List Char
  body : List Char
  parsed : HttpRequest
  blank : find HttpRequest.blankLine head = some (head.length - 4)
  isRequest : HttpRequest.unmarshal head = some parsed
  notFrame : (encodeUtf8 head).head? ≠ some 0x24
  announced : match parsed.getHeader "Content-Length" with
    | none => body = []
    | some length => parseUsize length.toList = some (encodeUtf8 body).length

inductive Wire where
  | request (r : WireRequest)
  | frame (channelIdentifier : UInt8) (payload : List UInt8) (fits : payload.length < 2 ^ 16)

namespace WireRequest

variable (r : WireRequest)

/-- Where the head ends. -/
def headEnd : Nat := (encodeUtf8 r.head).length

def bytes : List UInt8 := encodeUtf8 r.head ++ encodeUtf8 r.body

def announces : Bool := (r.parsed.getHeader "Content-Length").isSome

def message : Message := .request (r.parsed.setBody r.body)

/-- What the reads, by where they end behind the beginning of the request, must not do. -/
def Clean (ends : Nat → Prop) : Prop :=
  (∀ e, ends e → ¬(4 ≤ e ∧ e < r.headEnd)) ∧ ends r.bytes.length ∧
    (∀ e, ends e → r.headEnd ≤ e → e < r.bytes.length →
      (decodeUtf8 ((encodeUtf8 r.body).take (e - r.headEnd))).isSome) ∧
    (r.announces → r.body ≠ [])

end WireRequest

namespace Wire

def bytes : Wire → List UInt8
  | .request r => r.bytes
  | .frame channelIdentifier payload _ =>
    0x24 :: channelIdentifier :: (ByteOrder.bigEndian.encode 2 payload.length ++ payload)

def message : Wire → Message
  | .request r => r.message
  | .frame channelIdentifier payload _ => .frame channelIdentifier payload

end Wire

/-- Every request of a stream is clean, at its place behind the offset `s`. -/
def CleanFrom (cuts : Nat → Prop) : Nat → List Wire → Prop
  | _, [] => True
  | s, .request r :: ws => r.Clean (fun e => cuts (s + e)) ∧ CleanFrom cuts (s + r.bytes.length) ws
  | s, .frame c p h :: ws => CleanFrom cuts (s + (Wire.frame c p h).bytes.length) ws

/-! ### What is handled -/

/-- How a session ends: a read or a text fails, a message cannot be handled, or the read loop goes
round for ever. -/
inductive End (σ : Type) where
  | left (s : σ)
  | failed (s : σ)
  | spins (s : σ)

variable {σ : Type} (handler : σ → Message → Option σ)

/-- What follows a message. -/
def handle (s : σ) (m : Message) (next : σ → End σ) : End σ :=
  match handler s m with
  | none => .failed s
  | some s' => next s'

/-- The session that is given messages one after the other. -/
def feed : σ → List Message → End σ
  | s, [] => .left s
  | s, m :: ms => handle handler s m fun s' => feed s' ms

theorem serverTurn_idle_lt {c c' : Conn} (h : serverTurn c = .idle c') (hNe : c' ≠ c) :
    c'.pending + c'.incoming.length < c.pending + c.incoming.length := by
  have hShrinks := @serverTurn_shrinks c c' (by rw [h]; rfl)
  have hProgress : Progress c c' := by
    have hTurn := (serverTurn_progresses_iff c).mpr fun hStuck => by
      rw [serverTurn_stuck hStuck] at h
      cases h
      exact hNe rfl
    rwa [h] at hTurn
  simp only [Progress, Shrinks] at hProgress hShrinks
  omega

theorem serverTurn_message_lt {c c' : Conn} {m : Message} (h : serverTurn c = .message m c') :
    c'.pending + c'.incoming.length < c.pending + c.incoming.length := by
  have hShrinks := @serverTurn_shrinks c c' (by rw [h]; rfl)
  have hProgress : Progress c c' := by
    have hTurn := (serverTurn_progresses_iff c).mpr fun hStuck => by
      rw [serverTurn_stuck hStuck] at h
      cases h
    rwa [h] at hTurn
  simp only [Progress, Shrinks] at hProgress hShrinks
  omega

/-- `RtspServerSession::run`.  A turn that changes nothing is repeated for ever. -/
def serverLoop : Loop (σ × Conn) (End σ) where
  body := fun (s, c) =>
    match serverTurn c with
    | .left => .done (.left s)
    | .idle c' => if c' = c then .done (.spins s) else .again (s, c')
    | .message m c' =>
      match handler s m with
      | none => .done (.failed s)
      | some s' => .again (s', c')
  measure := fun (_, c) => c.pending + c.incoming.length
  decreases := fun (s, c) (s', c') h => by
    dsimp only at h ⊢
    split at h
    · cases h
    · rename_i c1 hTurn
      split at h
      · cases h
      · rename_i hNe
        cases h
        exact serverTurn_idle_lt hTurn hNe
    · rename_i m c1 hTurn
      split at h
      · cases h
      · cases h
        exact serverTurn_message_lt hTurn

def run (s : σ) (c : Conn) : End σ := (serverLoop handler).run (s, c)

variable {handler} {s : σ} {c c' : Conn} {m : Message}

theorem run_left (h : serverTurn c = .left) : run handler s c = .left s :=
  Loop.run_done _ (by simp only [serverLoop, h])

theorem run_spins (h : serverTurn c = .idle c) : run handler s c = .spins s :=
  Loop.run_done _ (by simp only [serverLoop, h, if_true])

theorem run_idle (h : serverTurn c = .idle c') (hNe : c' ≠ c) : run handler s c = run handler s c' :=
  Loop.run_again _ (by simp only [serverLoop, h, if_neg hNe])

theorem run_message (h : serverTurn c = .message m c') :
    run handler s c = handle handler s m fun s' => run handler s' c' := by
  simp only [handle]
  cases hHandled : handler s m with
  | none => exact Loop.run_done _ (by simp only [serverLoop, h, hHandled])
  | some s' => exact Loop.run_again _ (by simp only [serverLoop, h, hHandled])

/-! ### Waiting for a request -/

/-- What becomes of a buffer that does not begin with a frame. -/
inductive First where
  | left
  | spins
  | message (m : Message) (c : Conn)

/-- `on_rtsp_message` over and over, so that the number of its tries does not matter. -/
def await : List UInt8 → List (List UInt8) → First
  | buffer, incoming =>
    match decodeUtf8 buffer with
    | none => .left
    | some data =>
      match HttpRequest.unmarshal data with
      | none => .spins
      | some request =>
        if bodyMissing request then
          match incoming with
          | [] => .left
          | data :: rest => await (buffer ++ data) rest
        else
          .message (.request request) ⟨[], incoming⟩
  termination_by structural _ incoming => incoming

/-- The session after what has become of a buffer. -/
def First.conclude (handler : σ → Message → Option σ) (s : σ) : First → End σ
  | .left => .left s
  | .spins => .spins s
  | .message m c => handle handler s m fun s' => run handler s' c

theorem serverTurn_request (hFour : 4 ≤ c.buffer.length) (hHead : c.buffer.head? ≠ some 0x24) :
    serverTurn c = onRtspMessage 0 c.buffer c.incoming := by
  obtain ⟨b0, b1, b2, b3, rest, hBuffer⟩ := exists_four hFour
  have hOther : b0 ≠ 0x24 := by
    rintro rfl
    rw [hBuffer] at hHead
    exact hHead rfl
  simp only [serverTurn, fill_of_le hFour]
  rw [hBuffer, new_other hOther]

theorem head?_append_of_four {buffer : List UInt8} (hFour : 4 ≤ buffer.length) (more : List UInt8) :
    (buffer ++ more).head? = buffer.head? := by
  obtain ⟨b0, b1, b2, b3, rest, rfl⟩ := exists_four hFour
  rfl

/-- A buffer that begins neither with a frame nor with a request is never left. -/
theorem run_stuck {buffer : List UInt8} {incoming : List (List UInt8)} {retryCount : Nat}
    {data : List Char} (hFour : 4 ≤ buffer.length) (hHead : buffer.head? ≠ some 0x24)
    (hTurn : serverTurn c = onRtspMessage retryCount buffer incoming)
    (hData : decodeUtf8 buffer = some data) (hNone : HttpRequest.unmarshal data = none) :
    run handler s c = .spins s := by
  have hIdle := hTurn.trans (onRtspMessage_stuck incoming hData hNone)
  have hStuck : serverTurn ⟨buffer, incoming⟩ = .idle ⟨buffer, incoming⟩ :=
    (serverTurn_request hFour hHead).trans (onRtspMessage_stuck incoming hData hNone)
  by_cases hEq : (⟨buffer, incoming⟩ : Conn) = c
  · subst hEq
    exact run_spins hStuck
  · rw [run_idle hIdle hEq]
    exact run_spins hStuck

/-- Five tries at a request, and as many more as it takes, are tries without end. -/
theorem run_onRtspMessage {buffer : List UInt8} {incoming : List (List UInt8)} {retryCount : Nat}
    (hFour : 4 ≤ buffer.length) (hHead : buffer.head? ≠ some 0x24)
    (hTurn : serverTurn c = onRtspMessage retryCount buffer incoming)
    (hStart : (retryCount = 0 ∧ c = ⟨buffer, incoming⟩) ∨ incoming.length < c.incoming.length) :
    run handler s c = (await buffer incoming).conclude handler s := by
  have hNe : 5 ≤ retryCount → (⟨buffer, incoming⟩ : Conn) ≠ c := by
    rintro hRetry rfl
    rcases hStart with ⟨hZero, -⟩ | hLess
    · omega
    · exact Nat.lt_irrefl _ hLess
  induction incoming generalizing buffer retryCount c with
  | nil =>
    cases hText : decodeUtf8 buffer with
    | none =>
      simp only [onRtspMessage, hText] at hTurn
      simp only [await, hText]
      exact run_left hTurn
    | some data =>
      cases hRequest : HttpRequest.unmarshal data with
      | none =>
        simp only [await, hText, hRequest]
        exact run_stuck hFour hHead hTurn hText hRequest
      | some request =>
        simp only [onRtspMessage, hText, hRequest] at hTurn
        simp only [await, hText, hRequest]
        split at hTurn
        · rename_i hMissing
          simp only [hMissing, if_true]
          split at hTurn
          · rename_i hRetry
            rw [run_idle hTurn (hNe hRetry)]
            apply run_left
            rw [serverTurn_request hFour hHead]
            simp [onRtspMessage, hText, hRequest, hMissing]
          · exact run_left hTurn
        · rename_i hMissing
          simp only [hMissing]
          exact run_message hTurn
  | cons next rest ih =>
    have hFour' : 4 ≤ (buffer ++ next).length := by
      rw [List.length_append]
      omega
    have hHead' : (buffer ++ next).head? ≠ some 0x24 := by
      rwa [head?_append_of_four hFour]
    have hLess : ∀ c1 : Conn, rest.length < c1.incoming.length →
        ∀ k, 5 ≤ k → (⟨buffer ++ next, rest⟩ : Conn) ≠ c1 := by
      rintro c1 h k - rfl
      exact Nat.lt_irrefl _ h
    cases hText : decodeUtf8 buffer with
    | none =>
      simp only [onRtspMessage, hText] at hTurn
      simp only [await, hText]
      exact run_left hTurn
    | some data =>
      cases hRequest : HttpRequest.unmarshal data with
      | none =>
        simp only [await, hText, hRequest]
        exact run_stuck hFour hHead hTurn hText hRequest
      | some request =>
        simp only [onRtspMessage, hText, hRequest] at hTurn
        simp only [await, hText, hRequest]
        split at hTurn
        · rename_i hMissing
          simp only [hMissing, if_true]
          split at hTurn
          · rename_i hRetry
            rw [run_idle hTurn (hNe hRetry)]
            have hAgain : serverTurn ⟨buffer, next :: rest⟩ =
                onRtspMessage 1 (buffer ++ next) rest := by
              rw [serverTurn_request hFour hHead]
              simp [onRtspMessage, hText, hRequest, hMissing]
            exact ih hFour' hHead' hAgain (.inr (by simp)) (hLess _ (by simp) _)
          · have hFewer : rest.length < c.incoming.length := by
              rcases hStart with ⟨-, rfl⟩ | hLonger
              · simp
              · simp only [List.length_cons] at hLonger
                omega
            exact ih hFour' hHead' hTurn (.inr hFewer) (hLess _ hFewer _)
        · rename_i hMissing
          simp only [hMissing]
          exact run_message hTurn

/-! ### Where reads end -/

/-- How long the buffer is now, and after each of the reads if nothing is taken from it. -/
def ends : List UInt8 → List (List UInt8) → List Nat
  | buffer, [] => [buffer.length]
  | buffer, data :: rest => buffer.length :: ends (buffer ++ data) rest

theorem length_mem_ends (buffer : List UInt8) (incoming : List (List UInt8)) :
    buffer.length ∈ ends buffer incoming := by
  cases incoming <;> simp [ends]

theorem le_of_mem_ends {buffer : List UInt8} {incoming : List (List UInt8)} {e : Nat}
    (h : e ∈ ends buffer incoming) : buffer.length ≤ e := by
  induction incoming generalizing buffer with
  | nil => simp_all [ends]
  | cons data rest ih =>
    rcases List.mem_cons.mp h with rfl | hLater
    · exact Nat.le_refl _
    · have := ih hLater
      rw [List.length_append] at this
      omega

theorem ends_append (taken buffer : List UInt8) (incoming : List (List UInt8)) :
    ends (taken ++ buffer) incoming = (ends buffer incoming).map (taken.length + ·) := by
  induction incoming generalizing buffer with
  | nil => simp [ends]
  | cons data rest ih => simp [ends, ih]

/-! ### One request -/

namespace WireRequest

variable (r : WireRequest)

theorem four_le_headEnd : 4 ≤ r.headEnd := by
  have hLength := find_le r.blank
  have hFour : HttpRequest.blankLine.length = 4 := rfl
  have hText := length_le_length_encodeUtf8 r.head
  simp only [headEnd]
  omega

theorem length_bytes : r.bytes.length = r.headEnd + (encodeUtf8 r.body).length := by
  simp [bytes, headEnd]

/-- Whether the body that is there is taken to be too short. -/
theorem bodyMissing_setBody (text : List Char) :
    bodyMissing (r.parsed.setBody text) =
      (r.announces && (text.isEmpty || (encodeUtf8 text).length < (encodeUtf8 r.body).length)) := by
  have hNone := HttpRequest.unmarshal_body r.blank r.isRequest
  have hAnnounced := r.announced
  simp only [bodyMissing, announces, HttpRequest.setBody_getHeader]
  cases hHeader : r.parsed.getHeader "Content-Length" with
  | none => rfl
  | some length =>
    rw [hHeader] at hAnnounced
    simp only [Option.bind_some, hAnnounced, HttpRequest.setBody]
    cases text with
    | nil => simp [hNone]
    | cons c rest => simp [length_encodeUtf8]

/-- A buffer that holds the head, and what follows it so far. -/
theorem await_head {buffer follows : List UInt8} (incoming : List (List UInt8))
    (hBuffer : buffer = encodeUtf8 r.head ++ follows) :
    await buffer incoming =
      match decodeUtf8 follows with
      | none => .left
      | some text =>
        if bodyMissing (r.parsed.setBody text) then
          match incoming with
          | [] => .left
          | data :: rest => await (buffer ++ data) rest
        else
          .message (.request (r.parsed.setBody text)) ⟨[], incoming⟩ := by
  have hDecoded := decodeUtf8_append r.head follows
  rw [← hBuffer] at hDecoded
  cases hText : decodeUtf8 follows with
  | none =>
    rw [hText] at hDecoded
    cases incoming <;> simp only [await, hDecoded, Option.map_none]
  | some text =>
    rw [hText] at hDecoded
    have hRequest : HttpRequest.unmarshal (r.head ++ text) = some (r.parsed.setBody text) := by
      rw [HttpRequest.unmarshal_append r.blank, r.isRequest]
      rfl
    cases incoming <;> simp only [await, hDecoded, Option.map_some, hRequest]

/-- A buffer that ends inside the head is left or never is. -/
theorem await_short {buffer more : List UInt8} (incoming : List (List UInt8))
    (hStream : buffer ++ more = r.bytes) (hShort : buffer.length < r.headEnd) :
    await buffer incoming = .left ∨ await buffer incoming = .spins := by
  cases hText : decodeUtf8 buffer with
  | none => exact .inl (by cases incoming <;> simp only [await, hText])
  | some text =>
    refine .inr ?_
    have hHead : buffer ++ (encodeUtf8 r.head).drop buffer.length = encodeUtf8 r.head := by
      have hTake := congrArg (List.take r.headEnd) hStream
      rw [bytes, headEnd, List.take_left, List.take_append] at hTake
      have hAll : buffer.take (encodeUtf8 r.head).length = buffer :=
        List.take_of_length_le (Nat.le_of_lt hShort)
      rw [hAll] at hTake
      rw [← hTake, List.drop_left]
    have hPrefix := isPrefix_of_decodeUtf8 hText hHead
    have hLess : text.length < r.head.length := by
      refine Nat.lt_of_le_of_ne hPrefix.length_le fun hEq => ?_
      rw [hPrefix.eq_of_length hEq] at hText
      rw [decodeUtf8_eq_some.mp hText] at hShort
      exact Nat.lt_irrefl _ hShort
    have hNone := HttpRequest.unmarshal_short r.blank hPrefix hLess
    cases incoming <;> simp only [await, hText, hNone]

theorem body_of_not_announces (h : ¬r.announces = true) : r.body = [] := by
  have hAnnounced := r.announced
  simp only [announces, Bool.not_eq_true, Option.isSome_eq_false_iff, Option.isNone_iff_eq_none] at h
  rw [h] at hAnnounced
  exact hAnnounced

variable {r} {buffer more : List UInt8} {incoming : List (List UInt8)}

/-- A buffer that the stream begins with, and that the head is in. -/
theorem exists_follows (hStream : buffer ++ incoming.flatten = r.bytes ++ more)
    (hHead : r.headEnd ≤ buffer.length) :
    ∃ follows, buffer = encodeUtf8 r.head ++ follows ∧
      follows ++ incoming.flatten = encodeUtf8 r.body ++ more := by
  refine ⟨buffer.drop r.headEnd, ?_, ?_⟩
  · have hTake := congrArg (List.take r.headEnd) hStream
    rw [bytes, List.append_assoc, List.take_append_of_le_length hHead, headEnd, List.take_left] at hTake
    rw [← hTake, headEnd, List.take_append_drop]
  · have hDrop := congrArg (List.drop r.headEnd) hStream
    rw [bytes, List.append_assoc, List.drop_append_of_le_length hHead] at hDrop
    rw [hDrop, headEnd, List.drop_left]

/-- What there is of a body that is not yet all there. -/
theorem follows_eq_take {follows : List UInt8}
    (hFollows : follows ++ incoming.flatten = encodeUtf8 r.body ++ more)
    (hShort : follows.length ≤ (encodeUtf8 r.body).length) :
    follows = (encodeUtf8 r.body).take follows.length := by
  have hTake := congrArg (List.take follows.length) hFollows
  rwa [List.take_left, List.take_append_of_le_length hShort] at hTake

/-- The body is there, or the reads go on. -/
theorem await_step (hStream : buffer ++ incoming.flatten = r.bytes ++ more)
    (hFour : 4 ≤ buffer.length) (hClean : r.Clean (· ∈ ends buffer incoming)) :
    (buffer = r.bytes ∧ await buffer incoming = .message r.message ⟨[], incoming⟩) ∨
      buffer.length < r.bytes.length ∧ ∃ data rest, incoming = data :: rest ∧
        await buffer incoming = await (buffer ++ data) rest := by
  obtain ⟨hOutside, hEnds, hWithin, hBody⟩ := hClean
  have hHere := length_mem_ends buffer incoming
  have hHead : r.headEnd ≤ buffer.length := by
    have := hOutside _ hHere
    omega
  obtain ⟨follows, hBuffer, hFollows⟩ := exists_follows hStream hHead
  have hLength : buffer.length = r.headEnd + follows.length := by
    rw [hBuffer, List.length_append, headEnd]
  have hBytes := r.length_bytes
  have hLe := le_of_mem_ends hEnds
  have hTake := follows_eq_take hFollows (by omega)
  rw [r.await_head incoming hBuffer]
  by_cases hAll : buffer.length = r.bytes.length
  · refine .inl ?_
    rw [List.take_of_length_le (by omega)] at hTake
    have hEnough : bodyMissing (r.parsed.setBody r.body) = false := by
      rw [bodyMissing_setBody]
      by_cases hAnnounces : r.announces = true
      · simp [hBody hAnnounces]
      · simp [hAnnounces]
    subst hTake
    rw [decodeUtf8_encodeUtf8]
    simp only [hEnough, Bool.false_eq_true, if_false]
    exact ⟨hBuffer, rfl⟩
  · refine .inr ⟨by omega, ?_⟩
    have hDecoded := hWithin _ hHere hHead (by omega)
    have hFollowsLength : buffer.length - r.headEnd = follows.length := by omega
    rw [hFollowsLength, ← hTake] at hDecoded
    obtain ⟨text, hText⟩ := Option.isSome_iff_exists.mp hDecoded
    have hTextLength := congrArg List.length (decodeUtf8_eq_some.mp hText)
    have hMissing : bodyMissing (r.parsed.setBody text) = true := by
      have hAnnounces : r.announces = true := by
        by_contra hNot
        have hEmpty := r.body_of_not_announces hNot
        rw [hEmpty, encodeUtf8_nil, List.length_nil] at hBytes
        omega
      have hLess : (encodeUtf8 text).length < (encodeUtf8 r.body).length := by omega
      simp [bodyMissing_setBody, hAnnounces, hLess]
    simp only [hText, hMissing, if_true]
    cases incoming with
    | nil =>
      rw [List.flatten_nil, List.append_nil] at hStream
      have := congrArg List.length hStream
      simp only [ends, List.mem_singleton] at hEnds
      omega
    | cons data rest => exact ⟨data, rest, rfl, rfl⟩

/-- Reads that leave a request alone hand it over, and the reads behind it with nothing left. -/
theorem await_clean (hStream : buffer ++ incoming.flatten = r.bytes ++ more)
    (hFour : 4 ≤ buffer.length) (hClean : r.Clean (· ∈ ends buffer incoming)) :
    ∃ rest earlier, await buffer incoming = .message r.message ⟨[], rest⟩ ∧
      (∀ e ∈ earlier, e < r.bytes.length) ∧ ends buffer incoming = earlier ++ ends r.bytes rest ∧
        rest.flatten = more := by
  induction incoming generalizing buffer with
  | nil =>
    rcases await_step hStream hFour hClean with ⟨rfl, hMessage⟩ | ⟨-, data, rest, hCons, -⟩
    · exact ⟨[], [], hMessage, by simp, rfl, List.append_cancel_left hStream⟩
    · cases hCons
  | cons data rest ih =>
    rcases await_step hStream hFour hClean with ⟨rfl, hMessage⟩ | ⟨hShort, data', rest', hCons, hAgain⟩
    · exact ⟨data :: rest, [], hMessage, by simp, rfl, List.append_cancel_left hStream⟩
    · cases hCons
      obtain ⟨hOutside, hEnds, hWithin, hBody⟩ := hClean
      have hLater : ∀ e ∈ ends (buffer ++ data) rest, e ∈ ends buffer (data :: rest) :=
        fun e he => List.mem_cons_of_mem _ he
      have hEnds' : r.bytes.length ∈ ends (buffer ++ data) rest := by
        rcases List.mem_cons.mp hEnds with hEq | hMem
        · omega
        · exact hMem
      obtain ⟨rest1, earlier, hMessage, hEarlier, hAll, hMore⟩ := ih
        (by rw [List.append_assoc, ← List.flatten_cons, hStream])
        (by rw [List.length_append]; omega)
        ⟨fun e he => hOutside e (hLater e he), hEnds', fun e he => hWithin e (hLater e he), hBody⟩
      refine ⟨rest1, buffer.length :: earlier, hAgain.trans hMessage, ?_, ?_, hMore⟩
      · intro e he
        rcases List.mem_cons.mp he with rfl | hMem
        · exact hShort
        · exact hEarlier e hMem
      · rw [ends, hAll, List.cons_append]

/-- A buffer that the request is made from holds the head. -/
theorem headEnd_le_of_await {c : Conn} (hStream : buffer ++ incoming.flatten = r.bytes ++ more)
    (h : await buffer incoming = .message r.message c) : r.headEnd ≤ buffer.length := by
  have hBytes := r.length_bytes
  by_contra hNot
  have hShort : buffer ++ (r.bytes.drop buffer.length) = r.bytes := by
    have hTake := congrArg (List.take buffer.length) hStream
    rw [List.take_left, List.take_append_of_le_length (by omega)] at hTake
    conv_lhs => rw [hTake, List.length_take_of_le (by omega)]
    exact List.take_append_drop _ _
  rcases r.await_short incoming hShort (by omega) with hLeft | hSpins
  · rw [hLeft] at h
    cases h
  · rw [hSpins] at h
    cases h

/-- A request is handed over at its end, or after a read more that leaves a beginning of its body. -/
theorem await_message_step {c : Conn} (hStream : buffer ++ incoming.flatten = r.bytes ++ more)
    (h : await buffer incoming = .message r.message c) :
    (buffer = r.bytes ∧ (r.announces → r.body ≠ [])) ∨
      (decodeUtf8 (buffer.drop r.headEnd)).isSome ∧ ∃ data rest, incoming = data :: rest ∧
        await (buffer ++ data) rest = .message r.message c := by
  obtain ⟨follows, hBuffer, hFollows⟩ := exists_follows hStream (headEnd_le_of_await hStream h)
  have hDrop : buffer.drop r.headEnd = follows := by
    rw [hBuffer, headEnd, List.drop_left]
  rw [r.await_head incoming hBuffer] at h
  cases hText : decodeUtf8 follows with
  | none =>
    rw [hText] at h
    cases h
  | some text =>
    simp only [hText] at h
    split at h
    · refine .inr ⟨by rw [hDrop, hText]; rfl, ?_⟩
      cases incoming with
      | nil => cases h
      | cons data rest => exact ⟨data, rest, rfl, h⟩
    · rename_i hEnough
      have hSame : r.parsed.setBody text = r.parsed.setBody r.body :=
        Message.request.inj (First.message.inj h).1
      have hBody := HttpRequest.setBody_inj (HttpRequest.unmarshal_body r.blank r.isRequest) hSame
      subst hBody
      refine .inl ⟨?_, fun hAnnounces hEmpty => hEnough ?_⟩
      · rw [hBuffer, decodeUtf8_eq_some.mp hText]
        rfl
      · rw [bodyMissing_setBody, hAnnounces, hEmpty]
        rfl

/-- Reads that hand over the request as it was written leave it alone. -/
theorem clean_of_await {c : Conn} (hStream : buffer ++ incoming.flatten = r.bytes ++ more)
    (h : await buffer incoming = .message r.message c) : r.Clean (· ∈ ends buffer incoming) := by
  have hBytes := r.length_bytes
  induction incoming generalizing buffer with
  | nil =>
    rcases await_message_step hStream h with ⟨rfl, hBody⟩ | ⟨-, data, rest, hCons, -⟩
    · refine ⟨?_, by simp [ends], ?_, hBody⟩
      · intro e he
        rw [List.mem_singleton.mp he]
        omega
      · intro e he
        rw [List.mem_singleton.mp he]
        omega
    · cases hCons
  | cons data rest ih =>
    have hHead := headEnd_le_of_await hStream h
    rcases await_message_step hStream h with ⟨rfl, hBody⟩ | ⟨hDecoded, data', rest', hCons, hAgain⟩
    · refine ⟨?_, length_mem_ends _ _, ?_, hBody⟩
      · intro e he
        have := le_of_mem_ends he
        omega
      · intro e he
        have := le_of_mem_ends he
        omega
    · cases hCons
      have hStream' : (buffer ++ data) ++ rest.flatten = r.bytes ++ more := by
        rw [List.append_assoc, ← List.flatten_cons, hStream]
      obtain ⟨hOutside, hEnds, hWithin, hBody⟩ := ih hStream' hAgain
      refine ⟨?_, List.mem_cons_of_mem _ hEnds, ?_, hBody⟩
      · intro e he
        rcases List.mem_cons.mp he with rfl | hLater
        · omega
        · exact hOutside e hLater
      · intro e he hFrom hTo
        rcases List.mem_cons.mp he with rfl | hLater
        · obtain ⟨follows, hBuffer, hFollows⟩ := exists_follows hStream hHead
          have hLength : buffer.length = r.headEnd + follows.length := by
            rw [hBuffer, List.length_append, headEnd]
          have hTake := follows_eq_take hFollows (by omega)
          rw [hBuffer, headEnd, List.drop_left, hTake] at hDecoded
          rwa [hLength, Nat.add_sub_cancel_left]
        · exact hWithin e hLater hFrom hTo

end WireRequest

/-! ### One message after the other -/

/-- Reads until enough bytes are there, with the ends of the reads that were too short. -/
theorem fillFrom_enough {n : Nat} {buffer : List UInt8} {incoming : List (List UInt8)}
    (h : n ≤ (buffer ++ incoming.flatten).length) :
    ∃ c earlier, Conn.fillFrom n buffer incoming = some c ∧ (∀ e ∈ earlier, e < n) ∧
      ends buffer incoming = earlier ++ ends c.buffer c.incoming := by
  induction incoming generalizing buffer with
  | nil =>
    refine ⟨⟨buffer, []⟩, [], if_pos ?_, by simp, rfl⟩
    simpa using h
  | cons data rest ih =>
    by_cases hEnough : n ≤ buffer.length
    · exact ⟨⟨buffer, data :: rest⟩, [], if_pos hEnough, by simp, rfl⟩
    · obtain ⟨c, earlier, hFill, hEarlier, hEnds⟩ := @ih (buffer ++ data) (by
        rwa [List.append_assoc, ← List.flatten_cons])
      refine ⟨c, buffer.length :: earlier, (if_neg hEnough).trans hFill, ?_, ?_⟩
      · intro e he
        rcases List.mem_cons.mp he with rfl | hMem
        · omega
        · exact hEarlier e hMem
      · rw [ends, hEnds, List.cons_append]

/-- The bytes that are there and that are to come. -/
def Conn.stream (c : Conn) : List UInt8 := c.buffer ++ c.incoming.flatten

theorem Reads.stream {c c' : Conn} (h : Reads c c') : c'.stream = c.stream := by
  obtain ⟨reads, hIncoming, hBuffer⟩ := h
  rw [Conn.stream, Conn.stream, hIncoming, hBuffer, List.flatten_append, List.append_assoc]

theorem fill_enough {n : Nat} {c : Conn} (h : n ≤ c.stream.length) :
    ∃ c' earlier, c.fill n = some c' ∧ c'.stream = c.stream ∧ n ≤ c'.buffer.length ∧
      (∀ e ∈ earlier, e < n) ∧ ends c.buffer c.incoming = earlier ++ ends c'.buffer c'.incoming := by
  obtain ⟨c', earlier, hFill, hEarlier, hEnds⟩ := fillFrom_enough h
  have hSome := fill_some hFill
  exact ⟨c', earlier, hFill, hSome.1.stream, hSome.2.1, hEarlier, hEnds⟩

/-- The payload that there is enough of, and what is behind it. -/
theorem readFrame_enough {a : InterleavedBinaryData} {payload more : List UInt8}
    (hLength : a.length.toNat = payload.length) (hStream : c.stream = payload ++ more)
    (hEnough : payload.length ≤ c.buffer.length) :
    ∃ follows, c.buffer = payload ++ follows ∧
      readFrame c a = .message (.frame a.channelIdentifier payload) ⟨follows, c.incoming⟩ := by
  have hTake := congrArg (List.take payload.length) hStream
  rw [Conn.stream, List.take_append_of_le_length hEnough, List.take_left] at hTake
  have hBuffer : c.buffer = payload ++ c.buffer.drop payload.length := by
    conv_rhs => rw [← hTake, List.length_take_of_le hEnough]
    exact (List.take_append_drop _ _).symm
  refine ⟨_, hBuffer, ?_⟩
  have hRead := @BytesReader.readBytes_append payload (c.buffer.drop payload.length) _ rfl
  rw [← hBuffer, ← hLength] at hRead
  simp only [readFrame, hRead]
  rw [hLength]

/-- A frame is handed over wherever it is cut. -/
theorem serverTurn_frame {channelIdentifier : UInt8} {payload more : List UInt8}
    (hFits : payload.length < 2 ^ 16)
    (hStream : c.stream = (Wire.frame channelIdentifier payload hFits).bytes ++ more) :
    ∃ c' earlier, serverTurn c = .message (.frame channelIdentifier payload) c' ∧ c'.stream = more ∧
      (∀ e ∈ earlier, e < 4 + payload.length) ∧
        ends c.buffer c.incoming =
          earlier ++ (ends c'.buffer c'.incoming).map (4 + payload.length + ·) := by
  obtain ⟨b2, b3, hEncoded⟩ : ∃ b2 b3, ByteOrder.bigEndian.encode 2 payload.length = [b2, b3] :=
    List.length_eq_two.mp (ByteOrder.length_encode _ _ _)
  have hSize : (BytesReader.decodeU16 .bigEndian [b2, b3]).toNat = payload.length := by
    have hDecoded := BytesReader.decodeU16_encode .bigEndian (UInt16.ofNat payload.length)
    rw [UInt16.toNat_ofNat_of_lt' hFits, hEncoded] at hDecoded
    rw [hDecoded, UInt16.toNat_ofNat_of_lt' hFits]
  simp only [Wire.bytes, hEncoded, List.cons_append, List.nil_append] at hStream
  obtain ⟨c1, earlier, hFill, hStream1, hFour, hEarlier, hEnds⟩ := @fill_enough 4 c (by
    rw [hStream]
    simp)
  obtain ⟨x0, x1, x2, x3, rest, hBuffer⟩ := exists_four hFour
  rw [hStream, Conn.stream, hBuffer] at hStream1
  simp only [List.cons_append, List.cons.injEq] at hStream1
  obtain ⟨rfl, rfl, rfl, rfl, hRest⟩ := hStream1
  obtain ⟨c2, earlier2, hFill2, hStream2, hEnough, hEarlier2, hEnds2⟩ :=
    @fill_enough payload.length ⟨rest, c1.incoming⟩ (by
      rw [Conn.stream, hRest, List.length_append]
      omega)
  obtain ⟨follows, hBuffer2, hRead⟩ := @readFrame_enough c2
    ⟨x1, BytesReader.decodeU16 .bigEndian [x2, x3]⟩ payload more hSize (hStream2.trans hRest) hEnough
  refine ⟨⟨follows, c2.incoming⟩, earlier ++ earlier2.map (4 + ·), ?_, ?_, ?_, ?_⟩
  · simp only [serverTurn, hFill, hBuffer, new_dollar, hSize, hFill2, hRead]
  · rw [Conn.stream, hBuffer2] at hStream2
    exact List.append_cancel_left ((List.append_assoc _ _ _).symm.trans (hStream2.trans hRest))
  · intro e he
    rcases List.mem_append.mp he with hMem | hMem
    · have := hEarlier e hMem
      omega
    · obtain ⟨e', he', rfl⟩ := List.mem_map.mp hMem
      have := hEarlier2 e' he'
      omega
  · have hHead := ends_append [0x24, x1, x2, x3] rest c1.incoming
    simp only [List.cons_append, List.nil_append] at hHead
    rw [hEnds, hBuffer, hHead, hEnds2, hBuffer2, ends_append]
    simp [Nat.add_assoc, Function.comp_def]

/-- A request is handed over or waited for once its fourth byte is there. -/
theorem run_await (hFour : 4 ≤ c.stream.length) (hHead : c.stream.head? ≠ some 0x24) :
    ∃ (c1 : Conn) (earlier : List Nat), run handler s c = (await c1.buffer c1.incoming).conclude handler s ∧
      c1.stream = c.stream ∧ 4 ≤ c1.buffer.length ∧ (∀ e ∈ earlier, e < 4) ∧
        ends c.buffer c.incoming = earlier ++ ends c1.buffer c1.incoming := by
  obtain ⟨c1, earlier, hFill, hStream, hEnough, hEarlier, hEnds⟩ := fill_enough hFour
  have hHead1 : c1.buffer.head? ≠ some 0x24 := by
    rwa [← hStream, Conn.stream, head?_append_of_four hEnough] at hHead
  have hTurn : serverTurn c = onRtspMessage 0 c1.buffer c1.incoming := by
    rw [← serverTurn_request hEnough hHead1]
    simp only [serverTurn, hFill, fill_of_le hEnough]
  have hReads := (fill_some hFill).1
  refine ⟨c1, earlier, run_onRtspMessage hEnough hHead1 hTurn ?_, hStream, hEnough, hEarlier, hEnds⟩
  by_cases hLess : c1.incoming.length < c.incoming.length
  · exact .inr hLess
  · exact .inl ⟨rfl, (hReads.eq (by omega)).symm⟩

/-- What is still to be read is behind the offset `s`: of all ends of reads, those from there on are
its own. -/
def Follows (cuts : List Nat) (s : Nat) (c : Conn) : Prop :=
  ∃ earlier, (∀ e ∈ earlier, e < s) ∧ cuts = earlier ++ (ends c.buffer c.incoming).map (s + ·)

theorem Follows.mem_iff {cuts : List Nat} {n : Nat} (h : Follows cuts n c) (e : Nat) :
    n + e ∈ cuts ↔ e ∈ ends c.buffer c.incoming := by
  obtain ⟨earlier, hEarlier, rfl⟩ := h
  rw [List.mem_append]
  constructor
  · rintro (hMem | hMem)
    · have := hEarlier _ hMem
      omega
    · obtain ⟨e', he', hEq⟩ := List.mem_map.mp hMem
      rwa [← Nat.add_left_cancel hEq]
  · exact fun h => .inr (List.mem_map.mpr ⟨e, h, rfl⟩)

theorem Follows.next {cuts : List Nat} {n k : Nat} {earlier : List Nat} (h : Follows cuts n c)
    (hEarlier : ∀ e ∈ earlier, e < k)
    (hEnds : ends c.buffer c.incoming =
      earlier ++ (ends c'.buffer c'.incoming).map (k + ·)) : Follows cuts (n + k) c' := by
  obtain ⟨before, hBefore, rfl⟩ := h
  refine ⟨before ++ earlier.map (n + ·), ?_, ?_⟩
  · intro e he
    rcases List.mem_append.mp he with hMem | hMem
    · have := hBefore e hMem
      omega
    · obtain ⟨e', he', rfl⟩ := List.mem_map.mp hMem
      have := hEarlier e' he'
      omega
  · rw [hEnds]
    simp [Nat.add_assoc, Function.comp_def]

theorem WireRequest.clean_congr {r : WireRequest} {p q : Nat → Prop} (h : ∀ e, p e ↔ q e) :
    r.Clean p ↔ r.Clean q := by
  rw [funext fun e => propext (h e)]

theorem WireRequest.four_le_bytes (r : WireRequest) : 4 ≤ r.bytes.length := by
  have hFour := r.four_le_headEnd
  have hLength := r.length_bytes
  omega

/-- No request is taken for a frame. -/
theorem WireRequest.head?_bytes (r : WireRequest) (more : List UInt8) :
    (r.bytes ++ more).head? ≠ some 0x24 := by
  rw [WireRequest.bytes, List.append_assoc, head?_append_of_four r.four_le_headEnd]
  exact r.notFrame

theorem WireRequest.clean_from_four {r : WireRequest} {earlier : List Nat} {l : List Nat}
    (hEarlier : ∀ e ∈ earlier, e < 4) : r.Clean (· ∈ earlier ++ l) ↔ r.Clean (· ∈ l) := by
  have hHead := r.four_le_headEnd
  have hLength := r.length_bytes
  constructor
  · rintro ⟨hOutside, hEnds, hWithin, hBody⟩
    refine ⟨fun e he => hOutside e (List.mem_append_right _ he), ?_,
      fun e he => hWithin e (List.mem_append_right _ he), hBody⟩
    rcases List.mem_append.mp hEnds with hMem | hMem
    · have := hEarlier _ hMem
      omega
    · exact hMem
  · rintro ⟨hOutside, hEnds, hWithin, hBody⟩
    refine ⟨?_, List.mem_append_right _ hEnds, ?_, hBody⟩
    · intro e he
      rcases List.mem_append.mp he with hMem | hMem
      · have := hEarlier e hMem
        omega
      · exact hOutside e hMem
    · intro e he hFrom hTo
      rcases List.mem_append.mp he with hMem | hMem
      · have := hEarlier e hMem
        omega
      · exact hWithin e hMem hFrom hTo

/-- A clean request is handled, and the session goes on behind it. -/
theorem run_request {r : WireRequest} {more : List UInt8} (hStream : c.stream = r.bytes ++ more)
    (hClean : r.Clean (· ∈ ends c.buffer c.incoming)) :
    ∃ (c' : Conn) (earlier : List Nat),
      run handler s c = (handle handler s r.message fun s' => run handler s' c') ∧
      c'.stream = more ∧ (∀ e ∈ earlier, e < r.bytes.length) ∧
        ends c.buffer c.incoming =
          earlier ++ (ends c'.buffer c'.incoming).map (r.bytes.length + ·) := by
  obtain ⟨c1, earlier, hRun, hStream1, hFour, hEarlier, hEnds⟩ := @run_await _ handler s c
    (by have := r.four_le_bytes; rw [hStream, List.length_append]; omega)
    (by rw [hStream]; exact r.head?_bytes more)
  rw [hEnds, WireRequest.clean_from_four hEarlier] at hClean
  obtain ⟨rest, earlier2, hMessage, hEarlier2, hEnds2, hMore⟩ :=
    WireRequest.await_clean (hStream1.trans hStream) hFour hClean
  refine ⟨⟨[], rest⟩, earlier ++ earlier2, ?_, ?_, ?_, ?_⟩
  · rw [hRun, hMessage]
    rfl
  · simpa [Conn.stream] using hMore
  · intro e he
    rcases List.mem_append.mp he with hMem | hMem
    · have := hEarlier e hMem
      have := r.four_le_bytes
      omega
    · exact hEarlier2 e hMem
  · have hRest := ends_append r.bytes [] rest
    rw [List.append_nil] at hRest
    rw [hEnds, hEnds2, hRest, List.append_assoc]

/-- Reads that leave every request alone make the session handle what was written. -/
theorem run_eq_feed {cuts : List Nat} {n : Nat} {msgs : List Wire} (hFollows : Follows cuts n c)
    (hStream : c.stream = msgs.flatMap Wire.bytes) (hClean : CleanFrom (· ∈ cuts) n msgs) :
    run handler s c = feed handler s (msgs.map Wire.message) := by
  induction msgs generalizing n c s with
  | nil =>
    apply run_left
    have hNone : c.fill 4 = none := by
      cases hFill : c.fill 4 with
      | none => rfl
      | some c1 =>
        have hSome := fill_some hFill
        have hLength := congrArg List.length (hSome.1.stream.trans hStream)
        simp only [Conn.stream, List.flatMap_nil, List.length_append, List.length_nil] at hLength
        omega
    simp only [serverTurn, hNone]
  | cons w ws ih =>
    rw [List.flatMap_cons] at hStream
    cases w with
    | request r =>
      obtain ⟨hRequest, hTail⟩ := hClean
      rw [WireRequest.clean_congr hFollows.mem_iff] at hRequest
      obtain ⟨c', earlier, hRun, hStream', hEarlier, hEnds⟩ := run_request hStream hRequest
      rw [hRun]
      simp only [List.map_cons, feed, handle, Wire.message]
      cases handler s r.message with
      | none => rfl
      | some s' => exact ih (hFollows.next hEarlier hEnds) hStream' hTail
    | frame channelIdentifier payload fits =>
      obtain ⟨c', earlier, hTurn, hStream', hEarlier, hEnds⟩ := serverTurn_frame fits hStream
      have hLength : (Wire.frame channelIdentifier payload fits).bytes.length =
          4 + payload.length := by
        simp [Wire.bytes]
        omega
      rw [run_message hTurn]
      simp only [List.map_cons, feed, handle, Wire.message]
      cases handler s (.frame channelIdentifier payload) with
      | none => rfl
      | some s' =>
        refine ih (hFollows.next hEarlier hEnds) hStream' ?_
        rw [← hLength]
        exact hClean

/-- A handler that takes one message after the other and no other. -/
def expect : List Message → Message → Option (List Message)
  | [], _ => none
  | m :: ms, m' => if m = m' then some ms else none

theorem feed_expect (ms : List Message) : feed expect ms ms = .left [] := by
  induction ms with
  | nil => rfl
  | cons m ms ih => simpa [feed, handle, expect] using ih

/-- A session that takes what was written was given it by reads that leave every request alone. -/
theorem clean_of_run {cuts : List Nat} {n : Nat} {msgs : List Wire} (hFollows : Follows cuts n c)
    (hStream : c.stream = msgs.flatMap Wire.bytes)
    (hRun : run expect (msgs.map Wire.message) c = .left []) : CleanFrom (· ∈ cuts) n msgs := by
  induction msgs generalizing n c with
  | nil => exact trivial
  | cons w ws ih =>
    rw [List.flatMap_cons] at hStream
    cases w with
    | request r =>
      have hClean : r.Clean (· ∈ ends c.buffer c.incoming) := by
        obtain ⟨c1, earlier, hAwait, hStream1, hFour, hEarlier, hEnds⟩ :=
          @run_await _ expect (List.map Wire.message (.request r :: ws)) c
            (by have := r.four_le_bytes; rw [hStream]; simp [Wire.bytes]; omega)
            (by rw [hStream]; exact r.head?_bytes _)
        rw [hEnds, WireRequest.clean_from_four hEarlier]
        rw [hAwait] at hRun
        cases hFirst : await c1.buffer c1.incoming with
        | left =>
          rw [hFirst] at hRun
          cases hRun
        | spins =>
          rw [hFirst] at hRun
          cases hRun
        | message m c2 =>
          rw [hFirst] at hRun
          simp only [First.conclude, handle, List.map_cons, expect, Wire.message] at hRun
          by_cases hSame : r.message = m
          · rw [← hSame] at hFirst
            exact WireRequest.clean_of_await (hStream1.trans hStream) hFirst
          · simp only [if_neg hSame] at hRun
            cases hRun
      obtain ⟨c', earlier, hHandled, hStream', hEarlier, hEnds⟩ :=
        @run_request _ expect (List.map Wire.message (.request r :: ws)) c r _ hStream hClean
      rw [hHandled] at hRun
      simp only [handle, List.map_cons, expect, Wire.message, if_true] at hRun
      exact ⟨(WireRequest.clean_congr hFollows.mem_iff).mpr hClean,
        ih (hFollows.next hEarlier hEnds) hStream' hRun⟩
    | frame channelIdentifier payload fits =>
      obtain ⟨c', earlier, hTurn, hStream', hEarlier, hEnds⟩ := serverTurn_frame fits hStream
      have hLength : (Wire.frame channelIdentifier payload fits).bytes.length =
          4 + payload.length := by
        simp [Wire.bytes]
        omega
      rw [run_message hTurn] at hRun
      simp only [handle, List.map_cons, expect, Wire.message, if_true] at hRun
      simp only [CleanFrom, hLength]
      exact ih (hFollows.next hEarlier hEnds) hStream' hRun

/-- Requests and frames that come in whatever reads are handled as they were written, whatever their
handling is, if and only if the reads leave every request alone. -/
theorem run_eq_feed_iff {msgs : List Wire} {reads : List (List UInt8)}
    (hStream : reads.flatten = msgs.flatMap Wire.bytes) :
    (∀ (σ : Type) (handler : σ → Message → Option σ) (s : σ),
      run handler s ⟨[], reads⟩ = feed handler s (msgs.map Wire.message)) ↔
        CleanFrom (· ∈ ends [] reads) 0 msgs := by
  have hFollows : Follows (ends [] reads) 0 ⟨[], reads⟩ := ⟨[], by simp, by simp⟩
  have hAll : (⟨[], reads⟩ : Conn).stream = msgs.flatMap Wire.bytes := by
    rw [← hStream]
    rfl
  constructor
  · intro h
    apply clean_of_run hFollows hAll
    rw [h, feed_expect]
  · exact fun hClean σ handler s => run_eq_feed hFollows hAll hClean

theorem exists_options :
    ∃ r : WireRequest, r.head = "OPTIONS rtsp://host/live RTSP/1.0\r\n\r\n".toList ∧ r.body = [] ∧
      r.announces = false := by
  have hNone : ((HttpRequest.unmarshal "OPTIONS rtsp://host/live RTSP/1.0\r\n\r\n".toList).getD
      .default).getHeader "Content-Length" = none := by decide +kernel
  refine ⟨⟨"OPTIONS rtsp://host/live RTSP/1.0\r\n\r\n".toList, [],
    (HttpRequest.unmarshal "OPTIONS rtsp://host/live RTSP/1.0\r\n\r\n".toList).getD .default,
    ?_, ?_, ?_, ?_⟩, rfl, rfl, ?_⟩
  · decide +kernel
  · decide +kernel
  · decide +kernel
  · rw [hNone]
  · simp only [WireRequest.announces, hNone, Option.isSome_none]

/-- A request and a frame behind it, the frame cut in the middle of its head. -/
theorem request_and_frame_handled :
    ∃ (r : WireRequest) (w : Wire) (reads : List (List UInt8)),
      reads.flatten = [.request r, w].flatMap Wire.bytes ∧
        reads = [r.bytes, [0x24, 1], [0, 2, 7, 8]] ∧
        ∀ (σ : Type) (handler : σ → Message → Option σ) (s : σ),
          run handler s ⟨[], reads⟩ = feed handler s [r.message, .frame 1 [7, 8]] := by
  obtain ⟨r, -, hBody, hSilent⟩ := exists_options
  have hStream : [r.bytes, [0x24, 1], [0, 2, 7, 8]].flatten =
      [.request r, .frame 1 [7, 8] (by decide)].flatMap Wire.bytes := by
    simp only [List.flatten_cons, List.flatten_nil, List.flatMap_cons, List.flatMap_nil, Wire.bytes]
    congr 1
  refine ⟨r, .frame 1 [7, 8] (by decide), _, hStream, rfl, (run_eq_feed_iff hStream).mpr ⟨?_, trivial⟩⟩
  have hFour := r.four_le_headEnd
  have hLength : r.bytes.length = r.headEnd := by
    rw [r.length_bytes, hBody, encodeUtf8_nil, List.length_nil, Nat.add_zero]
  have hEnds : ∀ e, 0 + e ∈ ends [] [r.bytes, [0x24, 1], [0, 2, 7, 8]] →
      e = 0 ∨ r.headEnd ≤ e := by
    intro e he
    simp [ends, hLength] at he
    omega
  refine ⟨?_, ?_, ?_, ?_⟩
  · intro e he
    have := hEnds e he
    omega
  · simp [ends]
  · intro e he
    have := hEnds e he
    omega
  · exact fun hAnnounces => absurd (hSilent.symm.trans hAnnounces) Bool.false_ne_true

/-- Two requests in one read are not handled as two. -/
theorem pipelined_requests_merge :
    ∃ (r : WireRequest) (reads : List (List UInt8)),
      r.head = "OPTIONS rtsp://host/live RTSP/1.0\r\n\r\n".toList ∧ r.body = [] ∧
      reads = [r.bytes ++ r.bytes] ∧ reads.flatten = [.request r, .request r].flatMap Wire.bytes ∧
        ¬∀ (σ : Type) (handler : σ → Message → Option σ) (s : σ),
          run handler s ⟨[], reads⟩ = feed handler s [r.message, r.message] := by
  obtain ⟨r, hHead, hBody, -⟩ := exists_options
  have hStream : [r.bytes ++ r.bytes].flatten = [.request r, .request r].flatMap Wire.bytes := by
    simp [Wire.bytes]
  refine ⟨r, _, hHead, hBody, rfl, hStream, fun h => ?_⟩
  have hFollows : Follows (ends [] [r.bytes ++ r.bytes]) 0 ⟨[], [r.bytes ++ r.bytes]⟩ :=
    ⟨[], by simp, by simp⟩
  have hClean := clean_of_run hFollows hStream ((h _ _ _).trans (feed_expect _))
  have hEnd := hClean.1.2.1
  have hFour := r.four_le_bytes
  rcases List.mem_cons.mp hEnd with hZero | hMem
  · rw [List.length_nil] at hZero
    omega
  · have hTwice := List.mem_singleton.mp hMem
    rw [List.nil_append, List.length_append] at hTwice
    omega

end Xiu.Rtsp.Session
