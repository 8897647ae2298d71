import Xiu.ProofKit.System
import Xiu.Rtsp.Rtcp.Packets
import Xiu.Rtsp.Rtp.Leftovers

/-! The loops of `rtsp_track.rs` that receive datagrams, with the channels of `rtsp_channel.rs` that
handle them: all datagrams of a loop go through one reader, and what one leaves in it comes before the
next. -/

namespace Xiu.Rtsp

open Bytesio ProofKit Bytesio.Read StreamHub

/-! ### The channels -/

/-- An action of a part of the party, with the party that the part makes. -/
def ofPart {σ τ α : Type} (wrap : σ → τ) (r : EStateM.Result Fault (Reading σ) α) :
    EStateM.Result Fault (Reading τ) α :=
  match r with
  | .ok a s => .ok a ⟨wrap s.owner, s.reader⟩
  | .error e s => .error e ⟨wrap s.owner, s.reader⟩

/-- The unpacker of a codec that has one. -/
inductive RtpUnPacker where
  | video (codec : VideoCodecType) (unpacker : Rtp.VideoUnPacker)
  | aac (unpacker : Rtp.RtpAacUnPacker)

def RtpUnPacker.unpack : Read RtpUnPacker Unit := fun s =>
  match s.owner with
  | .video codec unpacker => ofPart (.video codec) (Rtp.unpack codec ⟨unpacker, s.reader⟩)
  | .aac unpacker => ofPart .aac (Rtp.RtpAacUnPacker.unpack ⟨unpacker, s.reader⟩)

/-- The field of an `RtpChannel` that is used when packets are received: there is no unpacker for G711A. -/
structure RtpChannel where
  rtpUnpacker : Option RtpUnPacker

def RtpChannel.onPacket : Read RtpChannel Unit := fun s =>
  match s.owner.rtpUnpacker with
  | some unpacker => ofPart (fun unpacker => ⟨some unpacker⟩) (RtpUnPacker.unpack ⟨unpacker, s.reader⟩)
  | none => .ok () s

/-- The context in which an `RtcpChannel` receives, and what it has sent to its UDP connection. -/
structure RtcpChannel where
  recvCtx : Rtcp.ReceiverContext
  sent : List (List UInt8)

namespace RtcpChannel

/-- A report, at a time.  Over UDP nothing is put before it. -/
def sendRr (clock : UInt64) : Read RtcpChannel Unit := do
  match (← owner).recvCtx.generateRr clock with
  | none => throw .panic
  | some (recvCtx, rr) =>
    act fun self => { self with recvCtx }
    match rr.marshal with
    | .ok msg => act fun self => { self with sent := self.sent ++ [msg] }
    | .error .panic => throw .panic

/-- A sender report is read and answered, with the times of both.  The header is read from a copy, and no
other packet is read. -/
def onRtcp (srClock rrClock : UInt64) : Read RtcpChannel Unit := fun s =>
  match Rtcp.RtcpHeader.unmarshal (⟨(), s.reader⟩ : Reading Unit) with
  | .ok rtcpHeader _ =>
    if rtcpHeader.payloadType = Rtcp.RTCP_SR then
      match Rtcp.RtcpSenderReport.unmarshal s with
      | .ok sr s =>
        (do
          act fun self => { self with recvCtx := self.recvCtx.receivedSr sr.ssrc sr.ntp srClock }
          sendRr rrClock : Read RtcpChannel Unit) s
      | .error _ s => .ok () s
    else .ok () s
  | .error _ _ => .ok () s

end RtcpChannel

/-! ### The loops -/

/-- A datagram, and the times at which a sender report in it is recorded and answered. -/
structure Datagram where
  data : List UInt8
  srClock : UInt64
  rrClock : UInt64

/-- What is done with a datagram, behind what the reader still has.  An error is logged. -/
def received {τ : Type} (handle : Datagram → Read τ Unit) (s : Reading τ) (datagram : Datagram) :
    EStateM.Result Fault (Reading τ) Unit :=
  handle datagram ⟨s.owner, s.reader.extendFromSlice datagram.data⟩

/-- A loop over datagrams, which begins with an empty reader.  A panic ends it. -/
def receiveLoop {τ : Type} (handle : Datagram → Read τ Unit) : System (Reading τ) Datagram where
  init s := s.reader = ⟨[]⟩
  step s datagram s' :=
    ¬Panics (received handle s datagram) ∧ s' = stateOf (received handle s datagram)

def rtpReceiveLoop : System (Reading RtpChannel) Datagram := receiveLoop fun _ => RtpChannel.onPacket

def rtcpReceiveLoop : System (Reading RtcpChannel) Datagram :=
  receiveLoop fun datagram => RtcpChannel.onRtcp datagram.srClock datagram.rrClock

/-! ### Datagrams apart -/

/-- What a call returns and makes of the party, apart from the reader. -/
def effect {τ α : Type} : EStateM.Result Fault (Reading τ) α → Except Fault α × τ
  | .ok a s => (.ok a, s.owner)
  | .error e s => (.error e, s.owner)

/-- The next datagram, whatever it is, has the effect that it has with a new reader. -/
def Independent {τ : Type} (handle : Datagram → Read τ Unit) (s : Reading τ) : Prop :=
  ∀ datagram, effect (received handle s datagram) = effect (received handle ⟨s.owner, ⟨[]⟩⟩ datagram)

/-- No byte is left that the unpacker would take for the beginning of the next datagram. -/
def RtpChannel.Clear (s : Reading RtpChannel) : Prop := s.owner.rtpUnpacker.isSome → s.reader = ⟨[]⟩

/-- A datagram for an unpacker is a packet with all of its header, or it ends with one of the fields of the
header. -/
def RtpChannel.Whole (s : Reading RtpChannel) (datagram : Datagram) : Prop :=
  s.owner.rtpUnpacker.isSome → Rtp.LeavesNothing datagram.data

/-- A datagram is a sender report and nothing else, and all there or cut off behind one of its fields; or it
is empty. -/
def RtcpChannel.Whole (_ : Reading RtcpChannel) (datagram : Datagram) : Prop :=
  datagram.data = [] ∨ 4 ≤ datagram.data.length ∧ datagram.data[1]? = some Rtcp.RTCP_SR ∧
    EndsPart (Rtcp.srWidths datagram.data) datagram.data.length

section Parts

variable {σ τ α : Type} {wrap : σ → τ} {r : EStateM.Result Fault (Reading σ) α}

theorem stateOf_ofPart : stateOf (ofPart wrap r) = ⟨wrap (stateOf r).owner, (stateOf r).reader⟩ := by
  cases r with
  | ok a s => rfl
  | error e s => rfl

theorem panics_ofPart : Panics (ofPart wrap r) ↔ Panics r := by
  cases r with
  | ok a s => exact iff_of_false not_panics_ok not_panics_ok
  | error e s =>
    constructor
    · rintro ⟨s', hPanics⟩
      cases hPanics
      exact ⟨s, rfl⟩
    · rintro ⟨s', hPanics⟩
      cases hPanics
      exact ⟨⟨wrap s.owner, s.reader⟩, rfl⟩

end Parts

/-! ### RTP -/

theorem unPacker_leaves_iff {s : Reading RtpUnPacker} (h : ¬Panics (RtpUnPacker.unpack s)) :
    (stateOf (RtpUnPacker.unpack s)).reader = ⟨[]⟩ ↔ Rtp.LeavesNothing s.reader.buffer := by
  obtain ⟨unpacker, reader⟩ := s
  cases unpacker with
  | video codec unpacker =>
    have hRun : RtpUnPacker.unpack ⟨.video codec unpacker, reader⟩ =
        ofPart (.video codec) (Rtp.unpack codec ⟨unpacker, reader⟩) := rfl
    rw [hRun, panics_ofPart] at h
    rw [hRun, stateOf_ofPart]
    exact Rtp.video_leaves_iff codec h
  | aac unpacker =>
    have hRun : RtpUnPacker.unpack ⟨.aac unpacker, reader⟩ =
        ofPart .aac (Rtp.RtpAacUnPacker.unpack ⟨unpacker, reader⟩) := rfl
    rw [hRun, panics_ofPart] at h
    rw [hRun, stateOf_ofPart]
    exact Rtp.aac_leaves_iff h

namespace RtpChannel

theorem independent_of_clear {s : Reading RtpChannel} (h : Clear s) :
    Independent (fun _ => onPacket) s := by
  intro datagram
  obtain ⟨⟨unpacker⟩, reader⟩ := s
  cases unpacker with
  | none => rfl
  | some unpacker => rw [show reader = ⟨[]⟩ from h rfl]

/-- From a clear state, exactly the datagrams that are whole leave a clear one. -/
theorem clear_step_iff {s s' : Reading RtpChannel} (h : Clear s) {datagram : Datagram}
    (hStep : rtpReceiveLoop.step s datagram s') : Clear s' ↔ Whole s datagram := by
  obtain ⟨hCalm, rfl⟩ := hStep
  obtain ⟨⟨unpacker⟩, reader⟩ := s
  cases unpacker with
  | none =>
    refine iff_of_true ?_ ?_
    · intro hSome
      cases hSome
    · intro hSome
      cases hSome
  | some unpacker =>
    obtain rfl : reader = ⟨[]⟩ := h rfl
    have hRun : received (fun _ => onPacket) ⟨⟨some unpacker⟩, ⟨[]⟩⟩ datagram =
        ofPart (fun unpacker => ⟨some unpacker⟩) (RtpUnPacker.unpack ⟨unpacker, ⟨datagram.data⟩⟩) := rfl
    rw [hRun, panics_ofPart] at hCalm
    rw [hRun, stateOf_ofPart, Clear, Whole]
    have hLeaves := unPacker_leaves_iff hCalm
    constructor
    · intro hClear _
      exact hLeaves.mp (hClear rfl)
    · intro hWhole _
      exact hLeaves.mpr (hWhole rfl)

end RtpChannel

/-! ### RTCP -/

namespace RtcpChannel

theorem sendRr_reader (clock : UInt64) (s : Reading RtcpChannel) :
    (stateOf (sendRr clock s)).reader = s.reader := by
  rw [sendRr, bind_owner]
  cases s.owner.recvCtx.generateRr clock with
  | none => rfl
  | some generated =>
    obtain ⟨recvCtx, rr⟩ := generated
    dsimp only
    rw [bind_act]
    cases rr.marshal with
    | ok msg => rfl
    | error fault =>
      cases fault
      rfl

theorem exists_four {data : List UInt8} (h : 4 ≤ data.length) :
    ∃ byte1st payloadType hi lo rest, data = byte1st :: payloadType :: hi :: lo :: rest := by
  match data with
  | a :: b :: c :: d :: rest => exact ⟨a, b, c, d, rest, rfl⟩
  | [] | [_] | [_, _] | [_, _, _] => exact absurd h (by simp)

/-- The reader behind a datagram that is a sender report has what this leaves. -/
theorem onRtcp_senderReport {srClock rrClock : UInt64} {s : Reading RtcpChannel}
    {rtcpHeader : Rtcp.RtcpHeader} {s1 : Reading Unit}
    (hHeader : Rtcp.RtcpHeader.unmarshal (⟨(), s.reader⟩ : Reading Unit) = .ok rtcpHeader s1)
    (hType : rtcpHeader.payloadType = Rtcp.RTCP_SR) :
    (stateOf (onRtcp srClock rrClock s)).reader =
      ⟨leftOf (Rtcp.srWidths s.reader.buffer) s.reader.buffer⟩ := by
  rw [← Rtcp.takesFields_senderReport.left]
  simp only [onRtcp, hHeader, hType, if_true]
  cases Rtcp.RtcpSenderReport.unmarshal s with
  | ok sr s2 => exact sendRr_reader rrClock _
  | error e s2 => rfl

theorem onRtcp_leaves_iff {srClock rrClock : UInt64} {self : RtcpChannel} {data : List UInt8} :
    (stateOf (onRtcp srClock rrClock ⟨self, ⟨data⟩⟩)).reader = ⟨[]⟩ ↔
      data = [] ∨ 4 ≤ data.length ∧ data[1]? = some Rtcp.RTCP_SR ∧
        EndsPart (Rtcp.srWidths data) data.length := by
  by_cases hShort : data.length < 4
  · have hHeader := (Rtcp.takesFields_header (s := (⟨(), ⟨data⟩⟩ : Reading Unit))).short hShort
    have hRun : onRtcp srClock rrClock ⟨self, ⟨data⟩⟩ = .ok () ⟨self, ⟨data⟩⟩ := by
      simp only [onRtcp, hHeader]
    rw [hRun, or_iff_left fun h => absurd h.1 (Nat.not_le.mpr hShort), stateOf, BytesReader.mk.injEq]
  · obtain ⟨byte1st, payloadType, hi, lo, rest, rfl⟩ := exists_four (Nat.not_lt.mp hShort)
    obtain ⟨rtcpHeader, s1, hHeader, hType⟩ : ∃ rtcpHeader s1, Rtcp.RtcpHeader.unmarshal
        (⟨(), ⟨byte1st :: payloadType :: hi :: lo :: rest⟩⟩ : Reading Unit) = .ok rtcpHeader s1 ∧
          rtcpHeader.payloadType = payloadType := ⟨_, _, rfl, rfl⟩
    rw [or_iff_right (List.cons_ne_nil _ _), and_iff_right (Nat.not_lt.mp hShort)]
    by_cases hSr : payloadType = Rtcp.RTCP_SR
    · rw [onRtcp_senderReport hHeader (hType.trans hSr), BytesReader.mk.injEq, leftOf_eq_nil_iff]
      exact (and_iff_right (congrArg some hSr)).symm
    · have hRun : onRtcp srClock rrClock ⟨self, ⟨byte1st :: payloadType :: hi :: lo :: rest⟩⟩ =
          .ok () ⟨self, ⟨byte1st :: payloadType :: hi :: lo :: rest⟩⟩ := by
        simp only [onRtcp, hHeader, hType, hSr, if_false]
      rw [hRun, stateOf, BytesReader.mk.injEq]
      exact iff_of_false (List.cons_ne_nil _ _) fun h => hSr (Option.some.inj h.1)

theorem independent_of_empty {s : Reading RtcpChannel} (h : s.reader = ⟨[]⟩) :
    Independent (fun datagram => onRtcp datagram.srClock datagram.rrClock) s := by
  intro datagram
  obtain ⟨self, reader⟩ := s
  rw [show reader = ⟨[]⟩ from h]

/-- From an empty reader, exactly the datagrams that are whole leave an empty one. -/
theorem empty_step_iff {s s' : Reading RtcpChannel} (h : s.reader = ⟨[]⟩) {datagram : Datagram}
    (hStep : rtcpReceiveLoop.step s datagram s') : s'.reader = ⟨[]⟩ ↔ Whole s datagram := by
  obtain ⟨-, rfl⟩ := hStep
  obtain ⟨self, reader⟩ := s
  obtain rfl : reader = ⟨[]⟩ := h
  exact onRtcp_leaves_iff

end RtcpChannel

/-! ### Both loops -/

/-- As long as every datagram is whole, each of them is handled as with a new reader, and no byte is left
for the next one; a datagram that is not whole leaves such bytes. -/
theorem datagrams_independent {s : Reading RtpChannel} {t : Reading RtcpChannel}
    (hs : (rtpReceiveLoop.guard RtpChannel.Whole).Reached s)
    (ht : (rtcpReceiveLoop.guard RtcpChannel.Whole).Reached t) :
    (Independent (fun _ => RtpChannel.onPacket) s ∧ RtpChannel.Clear s ∧
      ∀ datagram s', rtpReceiveLoop.step s datagram s' →
        (RtpChannel.Clear s' ↔ RtpChannel.Whole s datagram)) ∧
    (Independent (fun datagram => RtcpChannel.onRtcp datagram.srClock datagram.rrClock) t ∧
      t.reader = ⟨[]⟩ ∧ ∀ datagram t', rtcpReceiveLoop.step t datagram t' →
        (t'.reader = ⟨[]⟩ ↔ RtcpChannel.Whole t datagram)) := by
  have hClear : RtpChannel.Clear s := by
    apply hs.invariant
    · intro s hInit _
      exact hInit
    · rintro s datagram s' hClear ⟨hWhole, hStep⟩
      exact (RtpChannel.clear_step_iff hClear hStep).mpr hWhole
  have hEmpty : t.reader = ⟨[]⟩ := by
    apply ht.invariant
    · intro t hInit
      exact hInit
    · rintro t datagram t' hEmpty ⟨hWhole, hStep⟩
      exact (RtcpChannel.empty_step_iff hEmpty hStep).mpr hWhole
  refine ⟨⟨RtpChannel.independent_of_clear hClear, hClear, ?_⟩,
    RtcpChannel.independent_of_empty hEmpty, hEmpty, ?_⟩
  · intro datagram s' hStep
    exact RtpChannel.clear_step_iff hClear hStep
  · intro datagram t' hStep
    exact RtcpChannel.empty_step_iff hEmpty hStep

/-- A loop that has received a datagram, when it does not panic. -/
theorem reached_received {τ : Type} {handle : Datagram → Read τ Unit}
    {allowed : Reading τ → Datagram → Prop} {s : Reading τ} (hInit : s.reader = ⟨[]⟩) {datagram : Datagram}
    (hAllowed : allowed s datagram) {s' : Reading τ} (hRun : received handle s datagram = .ok () s') :
    ((receiveLoop handle).guard allowed).Reached s' := by
  refine ⟨s, [datagram], hInit, .cons ⟨hAllowed, ?_, ?_⟩ (.nil s')⟩
  · rw [hRun]
    exact not_panics_ok
  · rw [hRun]
    rfl

/-- A new channel for H264, and one whose context has received nothing. -/
def newRtp : RtpChannel := ⟨some (.video .h264 .new)⟩

def newRtcp : RtcpChannel where
  recvCtx :=
    { ssrc := 0, source := ⟨0, 0, 0, 0, 0, 0, 0, 0⟩, sampleRate := 0, senderSsrc := 0, srNtpLsr := 0
      srClockTime := 0, lastRtpClock := 0, lastRtpTimestamp := 0, jitter := 0 }
  sent := []

/-- A packet with one NAL unit. -/
def nalPacket : Datagram := ⟨[0x80, 96, 0, 1, 0, 0, 0, 0, 0, 0, 0, 1, 0x65, 0x88], 0, 0⟩

/-- A sender report without report blocks, of the source 1. -/
def senderReport : Datagram where
  data := [0x80, 200, 0, 6, 0, 0, 0, 1, 0, 0, 0, 0, 0, 0, 0, 0, 0, 0, 0, 0, 0, 0, 0, 0, 0, 0, 0, 0]
  srClock := 1000
  rrClock := 2000

/-- A receiver report without report blocks. -/
def receiverReport : Datagram := ⟨[0x80, 201, 0, 1, 0, 0, 0, 1], 0, 0⟩

theorem senderReport_whole (t : Reading RtcpChannel) : RtcpChannel.Whole t senderReport :=
  .inr ⟨by decide, rfl, Rtcp.srWidths senderReport.data, List.prefix_rfl, by decide⟩

/-- After a packet and a sender report, the next datagrams are handled as with new readers. -/
theorem packet_independent : ∃ s t, Independent (fun _ => RtpChannel.onPacket) s ∧
    Independent (fun datagram => RtcpChannel.onRtcp datagram.srClock datagram.rrClock) t := by
  obtain ⟨s, hs⟩ : ∃ s, received (fun _ => RtpChannel.onPacket) ⟨newRtp, ⟨[]⟩⟩ nalPacket = .ok () s := ⟨_, rfl⟩
  obtain ⟨t, ht⟩ : ∃ t, received (fun datagram => RtcpChannel.onRtcp datagram.srClock datagram.rrClock)
    ⟨newRtcp, ⟨[]⟩⟩ senderReport = .ok () t := ⟨_, rfl⟩
  have hPacket : RtpChannel.Whole ⟨newRtp, ⟨[]⟩⟩ nalPacket := fun _ => .inl (by decide)
  obtain ⟨⟨hRtp, -⟩, hRtcp, -⟩ := datagrams_independent (reached_received rfl hPacket hs)
    (reached_received rfl (senderReport_whole _) ht)
  exact ⟨s, t, hRtp, hRtcp⟩

/-- Three bytes leave one for the next packet, and a receiver report hides the sender report behind it. -/
theorem receiverReport_swallows :
    (∃ s, rtpReceiveLoop.Reached s ∧ ¬RtpChannel.Clear s) ∧
    ¬∀ t, rtcpReceiveLoop.Reached t →
      Independent (fun datagram => RtcpChannel.onRtcp datagram.srClock datagram.rrClock) t := by
  constructor
  · have hStep : rtpReceiveLoop.step ⟨newRtp, ⟨[]⟩⟩ ⟨[0x80, 96, 0], 0, 0⟩ ⟨newRtp, ⟨[0]⟩⟩ := by
      refine ⟨?_, rfl⟩
      have hRun : received (fun _ => RtpChannel.onPacket) ⟨newRtp, ⟨[]⟩⟩ ⟨[0x80, 96, 0], 0, 0⟩ =
          .error (.bytesReadError .notEnoughBytes) ⟨newRtp, ⟨[0]⟩⟩ := rfl
      rw [hRun]
      exact not_panics_error
    refine ⟨⟨newRtp, ⟨[0]⟩⟩, ⟨⟨newRtp, ⟨[]⟩⟩, [_], rfl, .cons hStep (.nil _)⟩, ?_⟩
    intro hClear
    cases hClear rfl
  · intro hAll
    have hStep : rtcpReceiveLoop.step ⟨newRtcp, ⟨[]⟩⟩ receiverReport
        ⟨newRtcp, ⟨receiverReport.data⟩⟩ := by
      refine ⟨?_, rfl⟩
      have hRun : received (fun datagram => RtcpChannel.onRtcp datagram.srClock datagram.rrClock)
          ⟨newRtcp, ⟨[]⟩⟩ receiverReport = .ok () ⟨newRtcp, ⟨receiverReport.data⟩⟩ := rfl
      rw [hRun]
      exact not_panics_ok
    have hSame := hAll _ ⟨⟨newRtcp, ⟨[]⟩⟩, [_], rfl, .cons hStep (.nil _)⟩ senderReport
    have hSender : (0 : UInt32) = 1 := congrArg (fun e => e.2.recvCtx.senderSsrc) hSame
    exact absurd hSender (by decide)

end Xiu.Rtsp
