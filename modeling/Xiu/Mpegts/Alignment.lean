import Xiu.Mpegts.Calls

/-! That the muxer writes whole packets.  Where a section of a program is too long for a packet, or a sum
overflows, `write` panics, or writes packets of another length. -/

namespace Xiu.Mpegts

open Bytesio ProofKit TsMuxer

/-- Whole packets, each with the sync byte in front. -/
def WholePackets (bytes : List UInt8) : Prop :=
  bytes.length % TS_PACKET_SIZE = 0 ∧
    ∀ k, k * TS_PACKET_SIZE < bytes.length → bytes[k * TS_PACKET_SIZE]? = some 0x47

theorem wholePackets_flatMap (packets : List TsPacket) :
    WholePackets (packets.flatMap (·.bytes)) := by
  have hSize : TS_PACKET_SIZE = 188 := rfl
  induction packets with
  | nil => exact ⟨rfl, fun k hk => absurd hk (Nat.not_lt_zero _)⟩
  | cons packet rest ih =>
    have hLength := packet.length_bytes
    simp only [WholePackets, hSize, List.flatMap_cons, List.length_append] at ih ⊢
    refine ⟨by omega, fun k hk => ?_⟩
    cases k with
    | zero =>
      rw [Nat.zero_mul, List.getElem?_append_left (by omega), ← List.head?_eq_getElem?]
      exact packet.head_bytes
    | succ k =>
      have hIndex : (k + 1) * 188 - packet.bytes.length = k * 188 := by omega
      rw [List.getElem?_append_right (by omega), hIndex]
      exact ih.2 k (by omega)

/-- What a call of `write` has to do: return an error, or append whole packets. -/
def WritesWhole (m : TsMuxer) : EStateM.Result MuxFault TsMuxer Unit → Prop
  | .ok _ m' => ∃ bytes, m'.bytesWriter.bytes = m.bytesWriter.bytes ++ bytes ∧ WholePackets bytes
  | .error (.error _) _ => True
  | .error .panic _ => False

/-- The casts of a call lose nothing: that of the length of a section to `u8`, where the tables are due,
and that of the length of a packet's headers and payload to `i32`. -/
def CastsExact (m : TsMuxer) (c : WriteCall) : Prop :=
  ∀ i j pmt stream, findIn c.pid m.pat.pmt 0 0 = some (i, j) → m.pat.pmt[i]? = some pmt →
    pmt.streams[j]? = some stream →
      (Due (period pmt stream m.patPeriod) c.dts →
        ∀ pmt' ∈ (c.selected m i j pmt stream).pat.pmt, ∀ table, pmt'.write = .ok table →
          (UInt8.ofNat table.length).toNat = table.length) ∧
      (c.payload ≠ [] → ∀ n ≤ 4 +
          (fieldBytes (startField (c.stamped stream) (clockPid pmt stream))).length +
          (pesHeader c.payload.length (c.stamped stream) c.withAud).length + c.payload.length,
        asI32 n = n)

theorem castsExact {m : TsMuxer} {c : WriteCall} (h : WriteFits m c) : CastsExact m c := by
  intro i j pmt stream hFind hPmt hStream
  obtain ⟨pmt', stream', hPmt', hStream', -, hTables, hUnit⟩ := h i j hFind
  obtain rfl := Option.some.inj (hPmt.symm.trans hPmt')
  obtain rfl := Option.some.inj (hStream.symm.trans hStream')
  refine ⟨fun hDue pmt' hMem table hWrite => ?_, fun hPayload n hn => ?_⟩
  · obtain ⟨hTable, hLength⟩ := write_table ((kept_sectionLen 183).selected c (hTables hDue) pmt' hMem)
    obtain rfl := Except.ok.inj (hTable.symm.trans hWrite)
    rw [UInt8.toNat_ofNat']
    omega
  · exact asI32_eq (Nat.lt_of_le_of_lt hn (hUnit hPayload).2)

/-- In every run of calls in which nothing overflows, each call of `write` returns an error or appends
whole packets, and its casts lose nothing. -/
theorem write_whole {s : Session} (h : (muxer.guard Fits).Reached s) {c : WriteCall}
    (hFits : WriteFits s.muxer c) :
    WritesWhole s.muxer (c.run s.muxer) ∧ CastsExact s.muxer c := by
  have hSmall := (reached_invariant (I := fun _ => True) (fun _ _ _ _ h => h) trivial
    (fun _ _ _ _ _ _ _ => trivial) (fun _ _ _ _ _ _ _ _ => trivial) (fun _ _ => trivial)
    (fun _ _ => trivial) (fun _ _ _ => trivial) (fun _ _ _ _ _ _ _ _ _ _ => trivial) h).1
  refine ⟨?_, castsExact hFits⟩
  rcases write_returns hSmall hFits with hRun | ⟨i, j, pmt, stream, hWrote⟩
  · rw [hRun]
    trivial
  · rw [hWrote.run]
    exact ⟨_, bytes_written c s.muxer i j, wholePackets_flatMap _⟩

theorem write_whole_oneStream :
    WritesWhole oneStream (WriteCall.run ⟨0x101, 9000, 9000, 1, [1, 2, 3]⟩ oneStream) ∧
      CastsExact oneStream ⟨0x101, 9000, 9000, 1, [1, 2, 3]⟩ :=
  write_whole (s := ⟨oneStream, [], 0, []⟩) ⟨.new, [.addStream PSI_STREAM_H264], rfl,
    .cons ⟨trivial, _, rfl, rfl⟩ (.nil _)⟩ fits_oneStream

/-- A muxer with one stream in one program, whose program info is long. -/
def longInfo : TsMuxer :=
  (TsMuxer.new.withProgram 1 (List.replicate 168 0)).withStream 0
    ⟨0x100, 1, 0, 0x1FFF, List.replicate 168 0, []⟩ PSI_STREAM_H264

theorem not_writesWhole {m : TsMuxer} {r : EStateM.Result MuxFault TsMuxer Unit}
    (h : (returned r).isNone) : ¬WritesWhole m r := by
  cases r with
  | ok _ m' => cases h
  | error e m' =>
    cases e with
    | error value => cases h
    | panic => exact id

/-- A program info of 168 bytes makes the section too long for a packet, and `write` panics. -/
theorem longInfo_panics :
    ∃ s, ∃ c : WriteCall, muxer.Reached s ∧ ¬WritesWhole s.muxer (c.run s.muxer) :=
  ⟨⟨longInfo, [], 0, []⟩, ⟨0x101, 0, 0, 0, [0]⟩,
    ⟨.new, [.addProgram 1 (List.replicate 168 0), .pmtAddStream 0 PSI_STREAM_H264], rfl,
      .cons ⟨_, rfl, rfl⟩ (.cons ⟨_, rfl, rfl⟩ (.nil _))⟩,
    not_writesWhole (by decide +kernel)⟩

end Xiu.Mpegts
