import Xiu.Bytesio.Fields
import Xiu.Rtsp.Rtcp.Report

/-! The packets of RTCP, of `rtcp_header.rs`, `rtcp_sr.rs` and `rtcp_rr.rs`: how a sender report is read
and a receiver report is written, and what the reader leaves of a sender report that ends early. -/

namespace Xiu.Rtsp.Rtcp

open Bytesio ProofKit Bytesio.Read

variable {τ : Type}

def RTCP_SR : UInt8 := 200

namespace RtcpHeader

def unmarshal : Read τ RtcpHeader := do
  let byte1st ← readU8
  let payloadType ← readU8
  let length ← readU16 .bigEndian
  pure
    { version := byte1st >>> 6
      paddingFlag := byte1st >>> 5 &&& 0x01
      reportCount := byte1st &&& 0x1F
      payloadType, length }

def marshal (header : RtcpHeader) : List UInt8 :=
  let byte1st := header.version <<< 6 ||| header.paddingFlag <<< 5 ||| header.reportCount
  let writer := (⟨[]⟩ : BytesWriter).writeU8 byte1st
  let writer := writer.writeU8 header.payloadType
  let writer := writer.writeU16 .bigEndian header.length
  writer.bytes

end RtcpHeader

structure RtcpSenderReport where
  header : RtcpHeader
  ssrc : UInt32
  ntp : UInt64
  rtpTimestamp : UInt32
  senderPacketCount : UInt32
  senderOctetCount : UInt32
  reportBlocks : List ReportBlock

namespace RtcpSenderReport

/-- The loop that reads the report blocks. -/
def readBlocks : Nat → Read τ (List ReportBlock)
  | 0 => pure []
  | n + 1 => do
    let reportBlock ← ReportBlock.unmarshal
    let reportBlocks ← readBlocks n
    pure (reportBlock :: reportBlocks)

def unmarshal : Read τ RtcpSenderReport := do
  let header ← RtcpHeader.unmarshal
  let ssrc ← readU32 .bigEndian
  let ntp ← readU64 .bigEndian
  let rtpTimestamp ← readU32 .bigEndian
  let senderPacketCount ← readU32 .bigEndian
  let senderOctetCount ← readU32 .bigEndian
  let reportBlocks ← readBlocks header.reportCount.toNat
  pure { header, ssrc, ntp, rtpTimestamp, senderPacketCount, senderOctetCount, reportBlocks }

end RtcpSenderReport

namespace RtcpReceiverReport

/-- The loop that writes the report blocks. -/
def writeBlocks : List ReportBlock → BytesWriter → Except WriteFault BytesWriter
  | [], writer => .ok writer
  | reportBlock :: reportBlocks, writer => do
    let data ← reportBlock.marshal
    writeBlocks reportBlocks (writer.write data)

def marshal (report : RtcpReceiverReport) : Except WriteFault (List UInt8) := do
  let writer := (⟨[]⟩ : BytesWriter).write report.header.marshal
  let writer := writer.writeU32 .bigEndian report.ssrc
  let writer ← writeBlocks report.reportBlocks writer
  return writer.bytes

end RtcpReceiverReport

/-! ### What a sender report takes of its bytes -/

variable {s : Reading τ}

theorem takesFields_header : TakesFields (RtcpHeader.unmarshal : Read τ RtcpHeader) [1, 1, 2] s := by
  refine (takesFields_cursor 1 _ s).bind fun byte1st s1 _ => ?_
  refine (takesFields_cursor 1 _ s1).bind fun payloadType s2 _ => ?_
  exact (takesFields_cursor 2 _ s2).bind_pure

/-- The widths of a report block. -/
def blockWidths : List Nat := [4, 1, 3, 4, 4, 4, 4]

theorem takesFields_block : TakesFields (ReportBlock.unmarshal : Read τ ReportBlock) blockWidths s := by
  refine (takesFields_cursor 4 _ s).bind fun _ s1 _ => ?_
  refine (takesFields_cursor 1 _ s1).bind fun _ s2 _ => ?_
  refine (takesFields_cursor 3 _ s2).bind fun _ s3 _ => ?_
  refine (takesFields_cursor 4 _ s3).bind fun _ s4 _ => ?_
  refine (takesFields_cursor 4 _ s4).bind fun _ s5 _ => ?_
  refine (takesFields_cursor 4 _ s5).bind fun _ s6 _ => ?_
  exact (takesFields_cursor 4 _ s6).bind_pure

theorem takesFields_readBlocks (n : Nat) :
    TakesFields (RtcpSenderReport.readBlocks n : Read τ (List ReportBlock))
      (List.replicate n blockWidths).flatten s := by
  induction n generalizing s with
  | zero => exact takesFields_pure [] s
  | succ n ih =>
    rw [List.replicate_succ, List.flatten_cons]
    exact takesFields_block.bind fun block s1 _ => ih.bind_pure

/-- The widths of a sender report, by its first byte. -/
def srWidths (packet : List UInt8) : List Nat :=
  [1, 1, 2, 4, 8, 4, 4, 4] ++
    (List.replicate (packet.headD 0 &&& 0x1F).toNat blockWidths).flatten

theorem header_reportCount {header : RtcpHeader} {s' : Reading τ}
    (h : RtcpHeader.unmarshal s = .ok header s') :
    header.reportCount = s.reader.buffer.headD 0 &&& 0x1F := by
  obtain ⟨byte1st, s1, hByte, h⟩ := bind_eq_ok h
  obtain ⟨payloadType, s2, -, h⟩ := bind_eq_ok h
  obtain ⟨length, s3, -, h⟩ := bind_eq_ok h
  cases h
  rw [readU8_eq_ok hByte]

theorem takesFields_senderReport :
    TakesFields (RtcpSenderReport.unmarshal : Read τ RtcpSenderReport) (srWidths s.reader.buffer) s := by
  refine takesFields_header.bind fun header s1 hHeader => ?_
  rw [← header_reportCount hHeader]
  refine (takesFields_cursor 4 _ s1).bind fun ssrc s2 _ => ?_
  refine (takesFields_cursor 8 _ s2).bind fun ntp s3 _ => ?_
  refine (takesFields_cursor 4 _ s3).bind fun rtpTimestamp s4 _ => ?_
  refine (takesFields_cursor 4 _ s4).bind fun senderPacketCount s5 _ => ?_
  refine (takesFields_cursor 4 _ s5).bind fun senderOctetCount s6 _ => ?_
  exact (takesFields_readBlocks _).bind_pure

end Xiu.Rtsp.Rtcp
