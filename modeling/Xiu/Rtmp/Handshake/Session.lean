import Xiu.ProofKit.Collect
import Xiu.ProofKit.While
import Xiu.Rtmp.Chunk.Reads
import Xiu.Rtmp.Handshake.Handshaker
import Xiu.Rtmp.Session.ClientSession

/-! How the sessions of RTMP shake hands (`server_session.rs` and `client_session.rs` of
`protocol/rtmp/src/session`): what they read from the connection, and which bytes reach their chunk
readers, by how the bytes of the other side are cut into reads. -/

namespace Xiu.Rtmp.Handshake

open Bytesio ProofKit Chunk

/-- How a session leaves its handshake: it waits for more to read, it fails, or it goes on, with the reads
that are still to come. -/
inductive HandshakeEnding (σ : Type) where
  | waits
  | fails (e : HandshakeErrorValue)
  | completes (self : σ) (reads : List (List UInt8))

/-- Reads of at least a byte, of these bytes. -/
structure Cut (bytes : List UInt8) (reads : List (List UInt8)) : Prop where
  flatten : reads.flatten = bytes
  ne_nil : ∀ data ∈ reads, data ≠ []

/-! ### The server -/

/-- The fields of a `ServerSession` that its handshake uses. -/
structure ServerSession where
  handshaker : HandshakeServer
  unpacketizer : ChunkUnpacketizer
  state : Session.ServerSessionState
  bytesioData : List UInt8
  hasRemaingData : Bool

namespace ServerSession

def new : ServerSession := ⟨.new, .new, .handshake, [], false⟩

def takeData (self : ServerSession) (data : List UInt8) : ServerSession :=
  { self with bytesioData := data, handshaker := self.handshaker.extendData data }

/-- What follows a handshake that is finished.  The message with the chunk size, which is sent then, is
left out. -/
def finish (self : ServerSession) : ServerSession :=
  let leftBytes := self.handshaker.getRemainingBytes
  if leftBytes.isEmpty then { self with state := .readChunk }
  else
    { self with
      state := .readChunk
      unpacketizer := self.unpacketizer.extendData leftBytes
      hasRemaingData := true }

/-- A turn of `run` that calls `handshake`, which reads until it has `RTMP_HANDSHAKE_SIZE` bytes. -/
def turn (around : Surroundings) (s : ServerSession × List (List UInt8)) :
    Turn (ServerSession × List (List UInt8)) (HandshakeEnding ServerSession) :=
  if s.1.state ≠ .handshake then .done (.completes s.1 s.2)
  else
    match collect takeData RTMP_HANDSHAKE_SIZE 0 s.2 s.1 with
    | none => .done .waits
    | some (self, reads) =>
      match HandshakeServer.handshake around self.handshaker with
      | .error e _ => .done (.fails e)
      | .ok _ handshaker =>
        let self := { self with handshaker }
        if handshaker.state = .finish then .again (self.finish, reads) else .again (self, reads)

/-- The handshake completes, and the chunk reader gets the bytes that are read behind C2. -/
def HandsOver (around : Surroundings) (first second : List (List UInt8)) : Prop :=
  ∃ self taken rest, Ends (turn around) (new, first ++ second) (.completes self rest) ∧
    second = taken ++ rest ∧ self.state = .readChunk ∧
      self.unpacketizer = ChunkUnpacketizer.new.extendData (taken.flatten.drop RTMP_HANDSHAKE_SIZE)

section Turns

variable {around : Surroundings} {self : ServerSession} {taken rest : List (List UInt8)}
  {handshaker : HandshakeServer}

theorem foldl_takeData (pieces : List (List UInt8)) (self : ServerSession) :
    ∃ bytesioData, pieces.foldl takeData self =
      { self with bytesioData, handshaker := pieces.foldl HandshakeServer.extendData self.handshaker } := by
  induction pieces generalizing self with
  | nil => exact ⟨self.bytesioData, rfl⟩
  | cons piece pieces ih =>
    obtain ⟨bytesioData, hFold⟩ := ih (self.takeData piece)
    exact ⟨bytesioData, hFold⟩

theorem turn_fails {e : HandshakeErrorValue} (hState : self.state = .handshake)
    (hTaken : Suffices RTMP_HANDSHAKE_SIZE 0 taken)
    (hRun : HandshakeServer.handshake around (taken.foldl HandshakeServer.extendData self.handshaker) =
      .error e handshaker) : turn around (self, taken ++ rest) = .done (.fails e) := by
  obtain ⟨bytesioData, hFold⟩ := foldl_takeData taken self
  simp only [turn, hState, collect_of_suffices hTaken, hFold, hRun, ne_eq, not_true_eq_false, if_false]

/-- A call of `handshake` that does not fail, on the reads that suffice. -/
theorem turn_ok (hState : self.state = .handshake) (hTaken : Suffices RTMP_HANDSHAKE_SIZE 0 taken)
    (hRun : HandshakeServer.handshake around (taken.foldl HandshakeServer.extendData self.handshaker) =
      .ok () handshaker) :
    ∃ bytesioData, turn around (self, taken ++ rest) =
      if handshaker.state = .finish then .again (finish { self with bytesioData, handshaker }, rest)
      else .again ({ self with bytesioData, handshaker }, rest) := by
  obtain ⟨bytesioData, hFold⟩ := foldl_takeData taken self
  refine ⟨bytesioData, ?_⟩
  simp only [turn, hState, collect_of_suffices hTaken, hFold, hRun, ne_eq, not_true_eq_false, if_false]

end Turns

variable {around : Surroundings} {first second : List (List UInt8)} {c0c1 c2 more : List UInt8}

/-- Bytes that are long enough for C0 and C1, in parts. -/
theorem split_first {bytes : List UInt8} (h : RTMP_HANDSHAKE_SIZE + 1 ≤ bytes.length) :
    ∃ c0 c1 rest, bytes = c0 :: (c1 ++ rest) ∧ c1.length = RTMP_HANDSHAKE_SIZE := by
  cases bytes with
  | nil => exact absurd h (Nat.not_succ_le_zero _)
  | cons c0 bytes =>
    refine ⟨c0, bytes.take RTMP_HANDSHAKE_SIZE, bytes.drop RTMP_HANDSHAKE_SIZE, ?_, ?_⟩
    · rw [List.take_append_drop]
    · exact List.length_take_of_le (Nat.le_of_succ_le_succ h)

/-- The first call answers, when the reads of C0 and C1 do not stop a byte before their end. -/
theorem turn_first (hFirst : Cut c0c1 first) (hLength : c0c1.length = RTMP_HANDSHAKE_SIZE + 1)
    (hCut : ¬StopsAt first RTMP_HANDSHAKE_SIZE) :
    ∃ self, turn around (new, first ++ second) = .again (self, second) ∧ self.state = .handshake ∧
      HandshakeServer.AnsweredFirst [] self.handshaker ∧ self.unpacketizer = .new := by
  have hEnough : RTMP_HANDSHAKE_SIZE ≤ 0 + first.flatten.length := by
    rw [hFirst.flatten, hLength]
    omega
  obtain ⟨taken, rest, hTakenRest, hTaken⟩ := exists_suffices hEnough
  have hPrefix : taken <+: first := ⟨rest, hTakenRest.symm⟩
  have hReaches := hTaken.reaches
  have hNot : taken.flatten.length ≠ RTMP_HANDSHAKE_SIZE := fun hEqual => hCut ⟨taken, hPrefix, hEqual⟩
  obtain rfl : taken = first := by
    apply eq_of_prefix hPrefix hFirst.ne_nil
    rw [hFirst.flatten, hLength]
    omega
  obtain ⟨c0, c1, rest1, hBytes, hC1⟩ := split_first (Nat.le_of_eq hLength.symm)
  obtain rfl : rest1 = [] := by
    rw [hBytes, List.length_cons, List.length_append, hC1] at hLength
    exact List.eq_nil_of_length_eq_zero (by omega)
  obtain ⟨handshaker, hRun, hAnswered⟩ := @HandshakeServer.handshake_answers around c0 c1 [] hC1
  have hCollected := HandshakeServer.foldl_collected taken []
  rw [List.nil_append, hFirst.flatten, hBytes] at hCollected
  obtain ⟨bytesioData, hTurn⟩ :=
    @turn_ok around new taken second handshaker rfl hTaken ((congrArg _ hCollected).trans hRun)
  have hState : handshaker.state ≠ .finish := by
    rw [show handshaker.state = .readC2 from hAnswered.1]
    decide
  rw [if_neg hState] at hTurn
  exact ⟨_, hTurn, rfl, hAnswered, rfl⟩

theorem finish_spec (self : ServerSession) : self.finish.state = .readChunk ∧
    self.finish.unpacketizer = self.unpacketizer.extendData self.handshaker.getRemainingBytes := by
  rw [finish]
  cases hLeft : self.handshaker.getRemainingBytes with
  | nil =>
    refine ⟨rfl, ?_⟩
    change self.unpacketizer = { self.unpacketizer with reader := ⟨self.unpacketizer.reader.buffer ++ []⟩ }
    rw [List.append_nil]
  | cons byte bytes => exact ⟨rfl, rfl⟩

/-- The second call takes C2, however it is cut, and hands over what is read behind it. -/
theorem ends_second {self : ServerSession} (hState : self.state = .handshake)
    (hAnswered : HandshakeServer.AnsweredFirst [] self.handshaker)
    (hSecond : RTMP_HANDSHAKE_SIZE ≤ second.flatten.length) :
    ∃ self' taken rest, Ends (turn around) (self, second) (.completes self' rest) ∧
      second = taken ++ rest ∧ self'.state = .readChunk ∧
        self'.unpacketizer = self.unpacketizer.extendData (taken.flatten.drop RTMP_HANDSHAKE_SIZE) := by
  have hEnough : RTMP_HANDSHAKE_SIZE ≤ 0 + second.flatten.length := by omega
  obtain ⟨taken, rest, rfl, hTaken⟩ := exists_suffices hEnough
  have hReaches := hTaken.reaches
  rw [Nat.zero_add] at hReaches
  have hTakenAnswered := hAnswered.foldl taken
  rw [List.nil_append, ← List.take_append_drop RTMP_HANDSHAKE_SIZE taken.flatten] at hTakenAnswered
  obtain ⟨handshaker, hRun, hFinish, hLeft⟩ := @HandshakeServer.handshake_finishes around _ _ _
    hTakenAnswered (List.length_take_of_le hReaches)
  obtain ⟨bytesioData, hTurn⟩ := @turn_ok around self taken rest handshaker hState hTaken hRun
  rw [if_pos hFinish] at hTurn
  obtain ⟨hDone, hUnpacketizer⟩ := finish_spec { self with bytesioData, handshaker }
  refine ⟨_, taken, rest, .again hTurn (.done ?_), rfl, hDone, ?_⟩
  · rw [turn, if_pos]
    rw [hDone]
    decide
  · rw [hUnpacketizer]
    exact congrArg _ hLeft

/-- A read that stops a byte before the end of C1 makes the handshake fail. -/
theorem turn_short {before : List (List UInt8)} (hPrefix : before <+: first)
    (hLength : before.flatten.length = RTMP_HANDSHAKE_SIZE) :
    ∃ e, turn around (new, first ++ second) = .done (.fails e) := by
  have hEnough : RTMP_HANDSHAKE_SIZE ≤ 0 + before.flatten.length := by omega
  obtain ⟨taken, rest, hTakenRest, hTaken⟩ := exists_suffices hEnough
  have hTakenPrefix : taken <+: before := ⟨rest, hTakenRest.symm⟩
  have hAtMost := flatten_length_le hTakenPrefix
  obtain ⟨rest', rfl⟩ := hTakenPrefix.trans hPrefix
  obtain ⟨e, handshaker, hRun⟩ := @HandshakeServer.handshake_short around taken.flatten (by omega)
  have hCollected := HandshakeServer.foldl_collected taken []
  rw [List.nil_append] at hCollected
  refine ⟨e, ?_⟩
  rw [List.append_assoc]
  exact turn_fails rfl hTaken ((congrArg _ hCollected).trans hRun)

/-- The server's handshake is done as it should be if and only if no read stops a byte before the end of
C1. -/
theorem handsOver_iff (hFirst : Cut c0c1 first) (hLength : c0c1.length = RTMP_HANDSHAKE_SIZE + 1)
    (hSecond : RTMP_HANDSHAKE_SIZE ≤ second.flatten.length) :
    HandsOver around first second ↔ ¬StopsAt first RTMP_HANDSHAKE_SIZE := by
  constructor
  · rintro ⟨self, taken, rest, hEnds, -⟩ ⟨before, hPrefix, hBefore⟩
    obtain ⟨e, hTurn⟩ := @turn_short around first second before hPrefix hBefore
    cases hEnds.unique (.done hTurn)
  · intro hCut
    obtain ⟨self, hTurn, hState, hAnswered, hNew⟩ := @turn_first around first second c0c1 hFirst hLength hCut
    obtain ⟨self', taken, rest, hEnds, hSplit, hDone, hUnpacketizer⟩ :=
      @ends_second around second self hState hAnswered hSecond
    exact ⟨self', taken, rest, .again hTurn hEnds, hSplit, hDone, hNew ▸ hUnpacketizer⟩

end ServerSession

/-! ### The client -/

/-- The fields of a `ClientSession` that its handshake uses. -/
structure ClientSession where
  handshaker : SimpleHandshakeClient
  unpacketizer : ChunkUnpacketizer
  state : Session.ClientSessionState

namespace ClientSession

def new : ClientSession := ⟨.new, .new, .handshake⟩

def takeData (self : ClientSession) (data : List UInt8) : ClientSession :=
  { self with handshaker := self.handshaker.extendData data }

/-- A turn of the loop of `handshake`, which reads until it has twice `RTMP_HANDSHAKE_SIZE` bytes. -/
def turn (around : Surroundings) (s : ClientSession × List (List UInt8)) :
    Turn (ClientSession × List (List UInt8)) (HandshakeEnding ClientSession) :=
  match SimpleHandshakeClient.handshake around s.1.handshaker with
  | .error e _ => .done (.fails e)
  | .ok _ handshaker =>
    let self := { s.1 with handshaker }
    if handshaker.state = .finish then .done (.completes { self with state := .connect } s.2)
    else
      match collect takeData (RTMP_HANDSHAKE_SIZE * 2) 0 s.2 self with
      | none => .done .waits
      | some s => .again s

/-- The handshake completes, and the bytes behind S2 are in the chunk reader or still to be read. -/
def LosesNothing (around : Surroundings) (reads : List (List UInt8)) : Prop :=
  ∃ self rest, Ends (turn around) (new, reads) (.completes self rest) ∧ self.state = .connect ∧
    self.unpacketizer.buffer ++ rest.flatten = reads.flatten.drop (2 * RTMP_HANDSHAKE_SIZE + 1)

variable {around : Surroundings} {reads taken rest : List (List UInt8)}

theorem foldl_takeData (pieces : List (List UInt8)) (self : ClientSession) :
    pieces.foldl takeData self =
      { self with handshaker := pieces.foldl SimpleHandshakeClient.extendData self.handshaker } := by
  induction pieces generalizing self with
  | nil => rfl
  | cons piece pieces ih =>
    rw [List.foldl_cons, ih]
    rfl

/-- The first turn sends C0 and C1, and takes the reads that suffice. -/
theorem turn_first (hTaken : Suffices (RTMP_HANDSHAKE_SIZE * 2) 0 taken) :
    ∃ self, turn around (new, taken ++ rest) = .again (self, rest) ∧
      self.handshaker.Awaits taken.flatten ∧ self.unpacketizer = .new := by
  obtain ⟨handshaker, hRun, hAwaits⟩ := SimpleHandshakeClient.awaits_begun around
  have hState : handshaker.state ≠ .finish := by
    rw [hAwaits.1]
    decide
  have hRunNew : SimpleHandshakeClient.handshake around new.handshaker = .ok () handshaker := hRun
  have hFold := hAwaits.foldl taken
  rw [List.nil_append] at hFold
  refine ⟨{ new with handshaker := taken.foldl SimpleHandshakeClient.extendData handshaker }, ?_, hFold, rfl⟩
  simp only [turn, hRunNew, hState, if_false, collect_of_suffices hTaken, foldl_takeData]

/-- The second turn ends the handshake, with nothing in the chunk reader, or fails. -/
theorem turn_second {self : ClientSession} (hAwaits : self.handshaker.Awaits taken.flatten)
    (hTaken : Suffices (RTMP_HANDSHAKE_SIZE * 2) 0 taken) :
    (taken.flatten.length = RTMP_HANDSHAKE_SIZE * 2 ∧ ∃ e, turn around (self, rest) = .done (.fails e)) ∨
      (RTMP_HANDSHAKE_SIZE * 2 < taken.flatten.length ∧ ∃ handshaker, turn around (self, rest) =
        .done (.completes { self with handshaker, state := .connect } rest)) := by
  have hReaches := hTaken.reaches
  obtain ⟨s0, s1, bytes, hBytes, hS1⟩ := @ServerSession.split_first taken.flatten (by
    rw [RTMP_HANDSHAKE_SIZE] at hReaches ⊢
    omega)
  have hLength : taken.flatten.length = RTMP_HANDSHAKE_SIZE + bytes.length + 1 := by
    rw [hBytes, List.length_cons, List.length_append, hS1]
  rw [hBytes] at hAwaits
  by_cases hShort : bytes.length < RTMP_HANDSHAKE_SIZE
  · obtain ⟨e, handshaker, hRun⟩ := @SimpleHandshakeClient.handshake_short around _ _ _ _ hAwaits hS1 hShort
    refine .inl ⟨by omega, e, ?_⟩
    simp only [turn, hRun]
  · rw [← List.take_append_drop RTMP_HANDSHAKE_SIZE bytes] at hAwaits
    obtain ⟨handshaker, hRun, hFinish⟩ := @SimpleHandshakeClient.handshake_finishes around _ _ _ _ _ hAwaits
      hS1 (List.length_take_of_le (Nat.not_lt.mp hShort))
    refine .inr ⟨by omega, handshaker, ?_⟩
    simp only [turn, hRun, hFinish, if_true]

/-- The client's handshake loses nothing if and only if some reads end with S2, and none a byte before it. -/
theorem losesNothing_iff (hReads : 2 * RTMP_HANDSHAKE_SIZE + 1 ≤ reads.flatten.length) :
    LosesNothing around reads ↔
      StopsAt reads (2 * RTMP_HANDSHAKE_SIZE + 1) ∧ ¬StopsAt reads (2 * RTMP_HANDSHAKE_SIZE) := by
  have hEnough : RTMP_HANDSHAKE_SIZE * 2 ≤ 0 + reads.flatten.length := by omega
  obtain ⟨taken, rest, hSplit, hTaken⟩ := exists_suffices hEnough
  have hPrefix : taken <+: reads := ⟨rest, hSplit.symm⟩
  have hReaches := hTaken.reaches
  obtain ⟨self, hTurn1, hAwaits, hNew⟩ := @turn_first around taken rest hTaken
  have hFirst {before : List (List UInt8)} (h : before <+: reads)
      (hBefore : 2 * RTMP_HANDSHAKE_SIZE ≤ before.flatten.length) :
      taken.flatten.length ≤ before.flatten.length :=
    flatten_length_le (hTaken.prefix_of hPrefix h (by omega))
  subst hSplit
  rcases @turn_second around taken rest self hAwaits hTaken with
    ⟨hLength, e, hTurn2⟩ | ⟨hLength, handshaker, hTurn2⟩
  · refine iff_of_false ?_ ?_
    · rintro ⟨self', rest', hEnds, -⟩
      cases hEnds.unique (.again hTurn1 (.done hTurn2))
    · rintro ⟨-, hNone⟩
      exact hNone ⟨taken, hPrefix, by omega⟩
  · have hBuffer : self.unpacketizer.buffer = [] := by
      rw [hNew]
      rfl
    constructor
    · rintro ⟨self', rest', hEnds, -, hBytes⟩
      cases hEnds.unique (.again hTurn1 (.done hTurn2))
      have hLengths := congrArg List.length hBytes
      rw [List.length_append, hBuffer, List.length_nil, List.length_drop, List.flatten_append,
        List.length_append] at hLengths
      refine ⟨⟨taken, hPrefix, by omega⟩, ?_⟩
      rintro ⟨before, hBefore, hAll⟩
      have hAtMost := hFirst hBefore (Nat.le_of_eq hAll.symm)
      omega
    · rintro ⟨⟨before, hBefore, hAll⟩, -⟩
      have hAtMost := hFirst hBefore (by omega)
      refine ⟨_, rest, .again hTurn1 (.done hTurn2), rfl, ?_⟩
      rw [hBuffer, List.nil_append, List.flatten_append]
      exact (List.drop_left' (by omega)).symm

end ClientSession

/-! ### Both -/

section Segmentation

variable {around : Surroundings} {c0c1 behindC1 answer : List UInt8}
  {first second reads : List (List UInt8)}

/-- Which cuts the handshakes stand: the server's those without a read that stops a byte before the end of
C1, and the client's those with a read that ends with S2 and none that stops a byte before. -/
theorem handshake_segmentation_iff (hFirst : Cut c0c1 first) (hC0C1 : c0c1.length = RTMP_HANDSHAKE_SIZE + 1)
    (hSecond : Cut behindC1 second) (hC2 : RTMP_HANDSHAKE_SIZE ≤ behindC1.length)
    (hReads : Cut answer reads) (hAnswer : 2 * RTMP_HANDSHAKE_SIZE + 1 ≤ answer.length) :
    (ServerSession.HandsOver around first second ↔ ¬StopsAt first RTMP_HANDSHAKE_SIZE) ∧
      (ClientSession.LosesNothing around reads ↔
        StopsAt reads (2 * RTMP_HANDSHAKE_SIZE + 1) ∧ ¬StopsAt reads (2 * RTMP_HANDSHAKE_SIZE)) := by
  rw [← hSecond.flatten] at hC2
  rw [← hReads.flatten] at hAnswer
  exact ⟨ServerSession.handsOver_iff hFirst hC0C1 hC2, ClientSession.losesNothing_iff hAnswer⟩

end Segmentation

def zeros (length : Nat) : List UInt8 := List.replicate length 0

theorem length_zeros (length : Nat) : (zeros length).length = length := List.length_replicate

theorem cut_zeros {lengths : List Nat} (h : ∀ length ∈ lengths, 0 < length) :
    Cut (zeros lengths.sum) (lengths.map zeros) := by
  constructor
  · induction lengths with
    | nil => rfl
    | cons length lengths ih =>
      rw [List.map_cons, List.flatten_cons, ih fun length hLength => h length (List.mem_cons_of_mem _ hLength),
        zeros, zeros, zeros, List.sum_cons, List.replicate_append_replicate]
  · intro data hData hNil
    obtain ⟨length, hLength, rfl⟩ := List.mem_map.mp hData
    have hPos := h length hLength
    rw [← length_zeros length, hNil] at hPos
    exact Nat.lt_irrefl 0 hPos

def zeroRandoms : Surroundings :=
  ⟨fun _ _ => zeros 32, 0, 0, zeros (RTMP_HANDSHAKE_SIZE - 8), zeros (RTMP_HANDSHAKE_SIZE - 8),
    length_zeros _, length_zeros _⟩

/-- Messages that come in one read each. -/
theorem whole_messages : ServerSession.HandsOver zeroRandoms [zeros 1537] [zeros 1536] ∧
    ClientSession.LosesNothing zeroRandoms [zeros 3073] := by
  obtain ⟨hServer, hClient⟩ := @handshake_segmentation_iff zeroRandoms _ _ _ _ _ _
    (@cut_zeros [1537] (by decide)) (length_zeros 1537)
    (@cut_zeros [1536] (by decide)) (Nat.le_of_eq (length_zeros 1536).symm)
    (@cut_zeros [3073] (by decide)) (Nat.le_of_eq (length_zeros 3073).symm)
  simp only [List.map_cons, List.map_nil, stopsAt_cons, stopsAt_nil, length_zeros,
    RTMP_HANDSHAKE_SIZE] at hServer hClient
  exact ⟨hServer.mpr (by simp), hClient.mpr (by simp)⟩

/-- The server fails when a byte of C1 is late, and the client loses a byte that comes with S2. -/
theorem late_byte_and_lost_byte :
    Cut (zeros 1537) [zeros 1536, zeros 1] ∧ Cut (zeros 1536) [zeros 1536] ∧ Cut (zeros 3074) [zeros 3074] ∧
      ¬ServerSession.HandsOver zeroRandoms [zeros 1536, zeros 1] [zeros 1536] ∧
        ¬ClientSession.LosesNothing zeroRandoms [zeros 3074] := by
  have hFirst : Cut (zeros 1537) [zeros 1536, zeros 1] := @cut_zeros [1536, 1] (by decide)
  have hSecond : Cut (zeros 1536) [zeros 1536] := @cut_zeros [1536] (by decide)
  have hReads : Cut (zeros 3074) [zeros 3074] := @cut_zeros [3074] (by decide)
  refine ⟨hFirst, hSecond, hReads, ?_, ?_⟩
  · rw [ServerSession.handsOver_iff hFirst (length_zeros 1537)
      (Nat.le_of_eq (by rw [hSecond.flatten, length_zeros]; rfl)), Classical.not_not, stopsAt_cons]
    refine .inr ⟨0, ?_, by rw [length_zeros, RTMP_HANDSHAKE_SIZE]⟩
    exact stopsAt_cons.mpr (.inl rfl)
  · rw [ClientSession.losesNothing_iff (by rw [hReads.flatten, length_zeros]; decide)]
    rintro ⟨hStops, -⟩
    simp only [stopsAt_cons, stopsAt_nil, length_zeros, RTMP_HANDSHAKE_SIZE] at hStops
    omega

end Xiu.Rtmp.Handshake
