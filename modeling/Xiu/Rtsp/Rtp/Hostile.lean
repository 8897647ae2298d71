import Xiu.Bytesio.Panics
import Xiu.Rtsp.Rtp.UnPacker

/-! Packets of any bytes at all: exactly which of them make an unpacker panic.  The unpackers of H265
panic only over a padding that does not fit; that of H264 also over the units of a multi-time
aggregation packet, and that of AAC over the length of the AU headers and over the timestamps. -/

namespace Xiu.Rtsp.Rtp

open Bytesio ProofKit Bytesio.Read StreamHub

/-! ### What never panics -/

theorem calm_unpackSingle (payload : List UInt8) : Calm (unpackSingle payload) := .modify _

theorem calm_aggregateTurn (skip : Nat) (a : Unit) : Calm (aggregateTurn skip a) := by
  refine .bind calm_len fun n => .ite (.pure _) ?_
  refine .bind (calm_readBytes _) fun _ => .bind (calm_readU16 _) fun _ => ?_
  exact .bind (calm_readBytes _) fun _ => .bind (calm_act _) fun _ => .pure _

theorem calm_aggregateLoop (skip : Nat) : Calm (aggregateLoop skip) :=
  .loopM (calm_aggregateTurn skip) ()

theorem calm_appendFragment (nalHeader : List UInt8) (fuHeader : UInt8) :
    Calm (appendFragment nalHeader fuHeader) := by
  refine .bind (calm_act _) fun _ => .bind calm_extractRemainingBytes fun _ => ?_
  exact .bind (calm_act _) fun _ => calm_act _

theorem calm_h264_unpackFu (payload : List UInt8) (t : UInt8) :
    Calm (RtpH264UnPacker.unpackFu payload t) := by
  refine calm_readOver (.bind calm_readU8 fun _ => .bind calm_readU8 fun _ => ?_) _
  exact .bind (calm_readBytes _) fun _ => calm_appendFragment _ _

theorem calm_unpackStap (payload : List UInt8) (t : UInt8) :
    Calm (RtpH264UnPacker.unpackStap payload t) :=
  calm_readOver (.bind calm_readU8 fun _ => .bind (calm_readBytes _) fun _ => calm_aggregateLoop 0) _

theorem calm_h265_unpackPayload (payload : List UInt8) :
    Calm (RtpH265UnPacker.unpackPayload payload) := by
  unfold RtpH265UnPacker.unpackPayload
  split
  · exact .pure _
  · refine .ite (calm_readOver ?_ _) (.ite (calm_readOver ?_ _) (.ite (.pure _) (calm_unpackSingle _)))
    · refine .bind calm_readU8 fun _ => .bind calm_readU8 fun _ => .bind calm_readU8 fun _ => ?_
      exact .bind calm_owner fun _ => .bind (calm_readBytes _) fun _ => calm_appendFragment _ _
    · exact .bind (calm_readBytes _) fun _ => .bind calm_owner fun _ => calm_aggregateLoop _

/-! ### Multi-time aggregation packets -/

/-- The units of a multi-time aggregation packet whose timestamp offsets have `n` bytes: each has an
offset that is not zero, and a size that counts the offset and the byte before it.  The bytes may end
anywhere. -/
inductive MtapUnits (n : Nat) : List UInt8 → Prop
  | short {bytes : List UInt8} (h : bytes.length < 3 + n) : MtapUnits n bytes
  | unit {hi lo dond : UInt8} {ts rest : List UInt8} (hTs : ts.length = n)
      (hNe : ByteOrder.bigEndian.decode ts ≠ 0) (hSize : n + 1 ≤ (ofU16 hi lo).toNat)
      (hRest : MtapUnits n (rest.drop ((ofU16 hi lo).toNat - n - 1))) :
      MtapUnits n (hi :: lo :: dond :: (ts ++ rest))

/-- The payload of a multi-time aggregation packet, by its first byte: a type of 26 or 27 with other
bits set in that byte has no units that could be read. -/
def MtapFits (payload : List UInt8) : Prop :=
  if payload.headD 0 = MTAP_16 then MtapUnits 2 (payload.drop 3)
  else if payload.headD 0 = MTAP_24 then MtapUnits 3 (payload.drop 3)
  else (payload.drop 3).length < 3

section Mtap

variable {t : UInt8} {it : VideoUnPacker} {bytes : List UInt8}

/-- How many bytes a timestamp offset has. -/
def TsBytes (t : UInt8) (n : Nat) : Prop := t = MTAP_16 ∧ n = 2 ∨ t = MTAP_24 ∧ n = 3

theorem readTs_ok {n : Nat} (h : TsBytes t n) {ts rest : List UInt8} (hTs : ts.length = n) :
    ∃ r : UInt32, RtpH264UnPacker.readTs t ⟨it, ⟨ts ++ rest⟩⟩ = .ok (r, n) ⟨it, ⟨rest⟩⟩ ∧
      (r = 0 ↔ ByteOrder.bigEndian.decode ts = 0) := by
  unfold RtpH264UnPacker.readTs
  have hLt := ofBE_lt ts
  rcases h with ⟨rfl, rfl⟩ | ⟨rfl, rfl⟩
  · refine ⟨(BytesReader.decodeU16 .bigEndian ts).toUInt32, ?_, ?_⟩
    · rw [if_pos rfl, bind_of_ok (readU16_ok (by simp; omega)), List.take_left' hTs,
        List.drop_left' hTs]
      rfl
    · rw [hTs] at hLt
      rw [← UInt32.toNat_inj, UInt16.toNat_toUInt32, BytesReader.decodeU16, UInt16.toNat_ofNat',
        ByteOrder.decode, Nat.mod_eq_of_lt (by omega)]
      rfl
  · refine ⟨BytesReader.decodeU32 .bigEndian ts, ?_, ?_⟩
    · rw [if_neg (by decide), if_pos rfl, bind_of_ok (readU24_ok (by simp; omega)),
        List.take_left' hTs, List.drop_left' hTs]
      rfl
    · rw [← UInt32.toNat_inj, BytesReader.decodeU32_toNat (by omega)]
      rfl

theorem readTs_short {n : Nat} (h : TsBytes t n) (hShort : bytes.length < n) :
    ∃ s, RtpH264UnPacker.readTs t ⟨it, ⟨bytes⟩⟩ = .error (.bytesReadError .notEnoughBytes) s := by
  unfold RtpH264UnPacker.readTs
  rcases h with ⟨rfl, rfl⟩ | ⟨rfl, rfl⟩
  · rw [if_pos rfl]
    exact ⟨_, bind_of_error (readU16_short hShort)⟩
  · rw [if_neg (by decide), if_pos rfl]
    exact ⟨_, bind_of_error (readU24_short hShort)⟩

/-- The loop over the units. -/
abbrev mtapLoop (t : UInt8) : Read VideoUnPacker Unit :=
  loopM (RtpH264UnPacker.mtapTurn t) (·.reader.len) (RtpH264UnPacker.mtapTurn_decreases t) ()

theorem mtapTurn_nil : RtpH264UnPacker.mtapTurn t () ⟨it, ⟨[]⟩⟩ = .ok (.done ()) ⟨it, ⟨[]⟩⟩ := rfl

theorem mtapTurn_cons (b : UInt8) : RtpH264UnPacker.mtapTurn t () ⟨it, ⟨b :: bytes⟩⟩ =
    RtpH264UnPacker.mtapUnit t ⟨it, ⟨b :: bytes⟩⟩ := rfl

/-- Bytes that end within the head of a unit end the loop. -/
theorem mtapTurn_short {n : Nat} (h : TsBytes t n) (hShort : bytes.length < 3 + n) :
    ¬Panics (mtapLoop t ⟨it, ⟨bytes⟩⟩) := by
  obtain _ | ⟨hi, bytes⟩ := bytes
  · rw [mtapLoop, loopM_done mtapTurn_nil]
    exact not_panics_ok
  suffices hTurn : ∃ s, RtpH264UnPacker.mtapTurn t () ⟨it, ⟨hi :: bytes⟩⟩ =
      .error (.bytesReadError .notEnoughBytes) s by
    obtain ⟨s, hTurn⟩ := hTurn
    rw [mtapLoop, loopM_error hTurn]
    exact not_panics_error
  rw [mtapTurn_cons]
  unfold RtpH264UnPacker.mtapUnit
  obtain _ | ⟨lo, bytes⟩ := bytes
  · exact ⟨_, bind_of_error (readU16_short (by simp))⟩
  rw [bind_of_ok (readU16_cons hi lo)]
  obtain _ | ⟨dond, bytes⟩ := bytes
  · exact ⟨_, bind_of_error readU8_nil⟩
  rw [bind_of_ok (readU8_cons dond)]
  obtain ⟨s, hTs⟩ := @readTs_short _ it bytes _ h (by
    simp only [List.length_cons] at hShort
    omega)
  exact ⟨s, bind_of_error hTs⟩

/-- What a turn does with a unit whose head is complete. -/
theorem mtapTurn_unit {n : Nat} (h : TsBytes t n) {hi lo dond : UInt8} {ts rest : List UInt8}
    (hTs : ts.length = n) :
    let size := (ofU16 hi lo).toNat
    let s : Reading VideoUnPacker := ⟨it, ⟨hi :: lo :: dond :: (ts ++ rest)⟩⟩
    if ByteOrder.bigEndian.decode ts ≠ 0 ∧ n + 1 ≤ size then
      if rest.length < size - n - 1 then
        ∃ s', RtpH264UnPacker.mtapTurn t () s = .error (.bytesReadError .notEnoughBytes) s'
      else
        RtpH264UnPacker.mtapTurn t () s =
          .ok (.again ()) ⟨it.onFrame (rest.take (size - n - 1)), ⟨rest.drop (size - n - 1)⟩⟩
    else ∃ s', RtpH264UnPacker.mtapTurn t () s = .error .panic s' := by
  intro size s
  obtain ⟨r, hRead, hZero⟩ := @readTs_ok _ it _ h _ rest hTs
  have hHead : RtpH264UnPacker.mtapTurn t () s =
      (if r = 0 then throw .panic else do
        let left ← sub size n
        let left ← sub left 1
        let nalu ← readBytes left
        act (·.onFrame nalu)
        pure (.again ()) : Read VideoUnPacker (Turn Unit Unit)) ⟨it, ⟨rest⟩⟩ := by
    rw [mtapTurn_cons]
    unfold RtpH264UnPacker.mtapUnit
    rw [bind_of_ok (readU16_cons hi lo), bind_of_ok (readU8_cons dond), bind_of_ok hRead]
  rw [hHead]
  by_cases hNe : ByteOrder.bigEndian.decode ts = 0
  · rw [if_neg (fun hAnd => hAnd.1 hNe), if_pos (hZero.mpr hNe)]
    exact ⟨_, throw_apply⟩
  rw [if_neg (fun hr => hNe (hZero.mp hr))]
  by_cases hSize : n + 1 ≤ size
  · rw [if_pos ⟨hNe, hSize⟩, sub_ok (by omega), bind_of_ok pure_apply, sub_ok (by omega),
      bind_of_ok pure_apply]
    split
    · rename_i hRest
      exact ⟨_, bind_of_error (readBytes_short hRest)⟩
    · rename_i hRest
      exact bind_of_ok (readBytes_ok (Nat.not_lt.mp hRest))
  · rw [if_neg (fun hAnd => hSize hAnd.2)]
    by_cases hTsBytes : size < n
    · rw [sub_panic hTsBytes]
      exact ⟨_, bind_of_error throw_apply⟩
    · rw [sub_ok (Nat.not_lt.mp hTsBytes), bind_of_ok pure_apply, sub_panic (by omega)]
      exact ⟨_, bind_of_error throw_apply⟩

/-- The loop over the units panics exactly on bytes that are not such units. -/
theorem mtapLoop_panics_iff {n : Nat} (h : TsBytes t n) :
    Panics (mtapLoop t ⟨it, ⟨bytes⟩⟩) ↔ ¬MtapUnits n bytes := by
  induction hn : bytes.length using Nat.strongRecOn generalizing bytes it with
  | ind m ih =>
    subst hn
    by_cases hShort : bytes.length < 3 + n
    · exact iff_of_false (mtapTurn_short h hShort) (not_not_intro (.short hShort))
    obtain _ | ⟨hi, _ | ⟨lo, _ | ⟨dond, body⟩⟩⟩ := bytes
    · exact absurd (by simp) hShort
    · exact absurd (by simp; omega) hShort
    · exact absurd (by simp; omega) hShort
    simp only [List.length_cons] at hShort
    have hTs : (body.take n).length = n := by rw [List.length_take]; omega
    have hTurn := @mtapTurn_unit _ it _ h hi lo dond _ (body.drop n) hTs
    have hUnits : MtapUnits n (hi :: lo :: dond :: body) ↔
        (ByteOrder.bigEndian.decode (body.take n) ≠ 0 ∧ n + 1 ≤ (ofU16 hi lo).toNat) ∧
          MtapUnits n ((body.drop n).drop ((ofU16 hi lo).toNat - n - 1)) := by
      constructor
      · generalize hBytes : hi :: lo :: dond :: body = bytes
        intro hUnits
        cases hUnits with
        | short hLt =>
          subst hBytes
          simp only [List.length_cons] at hLt
          omega
        | unit hTs' hNe hSize hRest =>
          obtain ⟨rfl, rfl, rfl, rfl⟩ := by simpa using hBytes
          rw [List.take_left' hTs', List.drop_left' hTs']
          exact ⟨⟨hNe, hSize⟩, hRest⟩
      · rintro ⟨⟨hNe, hSize⟩, hRest⟩
        have hUnit := @MtapUnits.unit _ hi lo dond _ _ hTs hNe hSize hRest
        rwa [List.take_append_drop] at hUnit
    rw [hUnits]
    rw [List.take_append_drop] at hTurn
    dsimp only at hTurn
    split at hTurn
    · rename_i hHead
      rw [and_iff_right hHead]
      split at hTurn
      · rename_i hRest
        obtain ⟨s', hError⟩ := hTurn
        rw [mtapLoop, loopM_error hError, List.drop_of_length_le (Nat.le_of_lt hRest)]
        exact iff_of_false not_panics_error (not_not_intro (.short (by simp)))
      · rw [mtapLoop, loopM_again hTurn]
        exact ih _ (by simp; omega) rfl
    · rename_i hHead
      obtain ⟨s', hPanic⟩ := hTurn
      rw [mtapLoop, loopM_error hPanic]
      exact iff_of_true ⟨s', rfl⟩ fun hUnits => hHead hUnits.1

/-- With other bits in the type, the loop panics at the first unit. -/
theorem mtapLoop_panics_other (h16 : t ≠ MTAP_16) (h24 : t ≠ MTAP_24) :
    Panics (mtapLoop t ⟨it, ⟨bytes⟩⟩) ↔ ¬bytes.length < 3 := by
  have hTs : ∀ s, RtpH264UnPacker.readTs t s = .ok (0, 0) s := by
    intro s
    unfold RtpH264UnPacker.readTs
    rw [if_neg h16, if_neg h24]
    rfl
  obtain _ | ⟨hi, bytes⟩ := bytes
  · rw [mtapLoop, loopM_done mtapTurn_nil]
    exact iff_of_false not_panics_ok (by simp)
  have hTurn := @mtapTurn_cons t it bytes hi
  unfold RtpH264UnPacker.mtapUnit at hTurn
  obtain _ | ⟨lo, bytes⟩ := bytes
  · rw [mtapLoop, loopM_error (hTurn.trans (bind_of_error (readU16_short (by simp))))]
    exact iff_of_false not_panics_error (by simp)
  obtain _ | ⟨dond, bytes⟩ := bytes
  · rw [mtapLoop, loopM_error (hTurn.trans ((bind_of_ok (readU16_cons hi lo)).trans
      (bind_of_error readU8_nil)))]
    exact iff_of_false not_panics_error (by simp)
  · rw [mtapLoop, loopM_error (hTurn.trans ((bind_of_ok (readU16_cons hi lo)).trans
      ((bind_of_ok (readU8_cons dond)).trans ((bind_of_ok (hTs _)).trans
        (congrFun (if_pos rfl) _)))))]
    exact iff_of_true ⟨_, rfl⟩ (by simp)

/-- A multi-time aggregation packet panics exactly when its units do not fit. -/
theorem unpackMtap_panics_iff {payload : List UInt8} (hNe : payload ≠ []) :
    Panics (RtpH264UnPacker.unpackMtap payload (payload.headD 0) it) ↔ ¬MtapFits payload := by
  obtain _ | ⟨t, body⟩ := payload
  · exact absurd rfl hNe
  unfold RtpH264UnPacker.unpackMtap MtapFits
  rw [panics_readOver, List.headD_cons, List.drop_succ_cons, bind_of_ok (readU8_cons t)]
  by_cases hDon : body.length < 2
  · rw [bind_of_error (readU16_short hDon), List.drop_of_length_le (by omega)]
    refine iff_of_false not_panics_error (not_not_intro ?_)
    split
    · exact .short (by simp)
    · split
      · exact .short (by simp)
      · simp
  · rw [bind_of_ok (readU16_ok (Nat.not_lt.mp hDon))]
    split
    · rename_i h16
      exact mtapLoop_panics_iff (.inl ⟨h16, rfl⟩)
    · rename_i h16
      split
      · rename_i h24
        exact mtapLoop_panics_iff (.inr ⟨h24, rfl⟩)
      · rename_i h24
        exact mtapLoop_panics_other h16 h24

end Mtap

theorem h264_unpackPayload_panics_iff {payload : List UInt8} {it : VideoUnPacker} :
    Panics (RtpH264UnPacker.unpackPayload payload it) ↔
      ¬(payload.headD 0 &&& 0x1F = MTAP_16 ∨ payload.headD 0 &&& 0x1F = MTAP_24 →
        MtapFits payload) := by
  unfold RtpH264UnPacker.unpackPayload
  obtain _ | ⟨t, body⟩ := payload
  · exact iff_of_false not_panics_ok (not_not_intro fun h => absurd h (by decide))
  simp only [List.headD_cons]
  by_cases hMtap : t &&& 0x1F = MTAP_16 ∨ t &&& 0x1F = MTAP_24
  · have hSingle : ¬(1 ≤ t &&& 0x1F ∧ t &&& 0x1F ≤ 23) := by
      rcases hMtap with h | h <;> rw [h] <;> decide
    have hStap : ¬(t &&& 0x1F = STAP_A ∨ t &&& 0x1F = STAP_B) := by
      rcases hMtap with h | h <;> rw [h] <;> decide
    rw [if_neg hSingle, if_neg hStap, if_pos hMtap]
    simp only [hMtap, forall_const]
    exact @unpackMtap_panics_iff _ (t :: body) (List.cons_ne_nil t body)
  · rw [if_neg hMtap]
    refine iff_of_false ?_ (not_not_intro fun h => absurd h hMtap)
    exact Calm.ite (calm_unpackSingle _) (.ite (calm_unpackStap _ _)
      (.ite (calm_h264_unpackFu _ _) (.pure _))) it

/-! ### Access units -/

/-- The length of an access unit, from the bytes of its header. -/
def auLength (hi lo : UInt8) : Nat :=
  (hi.toUInt16 <<< (8 : UInt16) ||| lo.toUInt16 &&& (0xF8 : UInt16)).toNat / 8

/-- The lengths of the first `n` access units. -/
def auLengths : Nat → List UInt8 → List Nat
  | n + 1, hi :: lo :: rest => auLength hi lo :: auLengths n rest
  | _, _ => []

theorem length_auLengths {n : Nat} {bytes : List UInt8} (h : 2 * n ≤ bytes.length) :
    (auLengths n bytes).length = n := by
  induction n generalizing bytes with
  | zero => rfl
  | succ n ih =>
    obtain _ | ⟨hi, _ | ⟨lo, rest⟩⟩ := bytes
    · simp at h
    · simp at h; omega
    · simp only [List.length_cons] at h
      rw [auLengths, List.length_cons, ih (by omega)]

section Aac

variable {it : RtpAacUnPacker} {bytes : List UInt8}

theorem readAuLengths_ok {n : Nat} (h : 2 * n ≤ bytes.length) :
    RtpAacUnPacker.readAuLengths n ⟨it, ⟨bytes⟩⟩ =
      .ok (auLengths n bytes) ⟨it, ⟨bytes.drop (2 * n)⟩⟩ := by
  induction n generalizing bytes with
  | zero => rfl
  | succ n ih =>
    obtain _ | ⟨hi, _ | ⟨lo, rest⟩⟩ := bytes
    · simp at h
    · simp at h; omega
    · simp only [List.length_cons] at h
      rw [RtpAacUnPacker.readAuLengths, bind_of_ok (readU8_cons hi), bind_of_ok (readU8_cons lo),
        bind_of_ok (ih (by omega))]
      rfl

theorem readAuLengths_short {n : Nat} (h : bytes.length < 2 * n) :
    ∃ s, RtpAacUnPacker.readAuLengths n ⟨it, ⟨bytes⟩⟩ =
      .error (.bytesReadError .notEnoughBytes) s := by
  induction n generalizing bytes with
  | zero => omega
  | succ n ih =>
    unfold RtpAacUnPacker.readAuLengths
    obtain _ | ⟨hi, _ | ⟨lo, rest⟩⟩ := bytes
    · exact ⟨_, bind_of_error readU8_nil⟩
    · exact ⟨_, (bind_of_ok (readU8_cons hi)).trans (bind_of_error readU8_nil)⟩
    · obtain ⟨s, hRest⟩ := @ih rest (by simp only [List.length_cons] at h; omega)
      exact ⟨s, (bind_of_ok (readU8_cons hi)).trans ((bind_of_ok (readU8_cons lo)).trans
        (bind_of_error hRest))⟩

/-- The access units from number `i` on panic exactly when one that is complete has a timestamp that
does not fit. -/
theorem onAus_panics_iff (timestamp : UInt32) {i : Nat} {lengths : List Nat}
    (hi : i + lengths.length < 2 ^ 22) (hHandler : it.onFrameHandler ≠ none) :
    Panics (RtpAacUnPacker.onAus timestamp i lengths ⟨it, ⟨bytes⟩⟩) ↔
      ¬∀ k < lengths.length, (lengths.take (k + 1)).sum ≤ bytes.length →
        timestamp.toNat + (i + k) * 1024 < 2 ^ 32 := by
  induction lengths generalizing i it bytes with
  | nil => exact iff_of_false not_panics_ok (not_not_intro fun k hk => absurd hk (Nat.not_lt_zero k))
  | cons item rest ih =>
    unfold RtpAacUnPacker.onAus
    by_cases hItem : bytes.length < item
    · rw [bind_of_error (readBytes_short hItem)]
      refine iff_of_false not_panics_error (not_not_intro fun k _ hSum => ?_)
      rw [List.take_succ_cons, List.sum_cons] at hSum
      omega
    rw [bind_of_ok (readBytes_ok (Nat.not_lt.mp hItem))]
    obtain ⟨_ | frames⟩ := it
    · exact absurd rfl hHandler
    rw [List.length_cons] at hi
    have hOffset : (UInt32.ofNat i).toNat = i := UInt32.toNat_ofNat_of_lt' (by
      rw [UInt32.size]
      omega)
    have hOffset' : (UInt32.ofNat (i * 1024)).toNat = i * 1024 := UInt32.toNat_ofNat_of_lt' (by
      rw [UInt32.size]
      omega)
    rw [bind_owner]
    dsimp only
    rw [hOffset, checkedU32_ok (by omega), bind_of_ok pure_apply, hOffset']
    by_cases hTime : timestamp.toNat + i * 1024 < 2 ^ 32
    · rw [checkedU32_ok hTime, bind_of_ok pure_apply, bind_act]
      rw [ih (by omega) (by simp), not_iff_not]
      have hDrop : (bytes.drop item).length = bytes.length - item := List.length_drop
      constructor
      · intro hRest k hk hSum
        cases k with
        | zero => simpa using hTime
        | succ k =>
          rw [List.length_cons] at hk
          rw [List.take_succ_cons, List.sum_cons] at hSum
          have := hRest k (by omega) (by omega)
          rwa [show i + (k + 1) = i + 1 + k by omega]
      · intro hAll k hk hSum
        have := hAll (k + 1) (by rw [List.length_cons]; omega) (by
          rw [List.take_succ_cons, List.sum_cons]
          omega)
        rwa [show i + 1 + k = i + (k + 1) by omega]
    · rw [checkedU32_panic hTime]
      refine iff_of_true ⟨_, bind_of_error throw_apply⟩ fun hAll => hTime ?_
      have := hAll 0 (by simp) (by simpa using hItem)
      simpa using this

end Aac

/-- The AU headers of a payload are not so long that their length overflows, and the timestamps of
the access units that the payload holds fit. -/
def AusFit (timestamp : UInt32) (payload : List UInt8) : Prop :=
  2 ≤ payload.length →
    let bits := (BytesReader.decodeU16 .bigEndian (payload.take 2)).toNat
    let number := (bits + 7) / 8 / 2
    let rest := payload.drop 2
    bits + 7 < 2 ^ 16 ∧ (2 * number ≤ rest.length →
      ∀ k < number, ((auLengths number rest).take (k + 1)).sum ≤ rest.length - 2 * number →
        timestamp.toNat + k * 1024 < 2 ^ 32)

theorem aac_unpackPayload_panics_iff {timestamp : UInt32} {payload : List UInt8}
    {it : RtpAacUnPacker} (hHandler : it.onFrameHandler ≠ none) :
    Panics (RtpAacUnPacker.unpackPayload timestamp payload it) ↔ ¬AusFit timestamp payload := by
  unfold RtpAacUnPacker.unpackPayload AusFit
  rw [panics_readOver]
  by_cases hTwo : payload.length < 2
  · rw [bind_of_error (readU16_short hTwo)]
    exact iff_of_false not_panics_error (not_not_intro fun h => absurd hTwo (Nat.not_lt.mpr h))
  rw [bind_of_ok (readU16_ok (Nat.not_lt.mp hTwo))]
  simp only [Nat.not_lt.mp hTwo, forall_const]
  generalize (BytesReader.decodeU16 .bigEndian (payload.take 2)) = bits
  by_cases hBits : bits.toNat + 7 < 2 ^ 16
  · rw [checkedU16_ok hBits, bind_of_ok pure_apply]
    have hNumber : (UInt16.ofNat (bits.toNat + 7) / 8 / 2).toNat = (bits.toNat + 7) / 8 / 2 := by
      rw [UInt16.toNat_div, UInt16.toNat_div, UInt16.toNat_ofNat_of_lt' hBits]
      rfl
    rw [hNumber]
    simp only [hBits, true_and]
    by_cases hRest : 2 * ((bits.toNat + 7) / 8 / 2) ≤ (payload.drop 2).length
    · rw [bind_of_ok (readAuLengths_ok hRest), onAus_panics_iff timestamp (by
        rw [length_auLengths hRest]
        omega) hHandler, not_iff_not, length_auLengths hRest, List.length_drop (l := payload.drop 2)]
      simp only [hRest, forall_const, Nat.zero_add]
    · obtain ⟨s, hShort⟩ := @readAuLengths_short it _ _ (Nat.not_le.mp hRest)
      rw [bind_of_error hShort]
      exact iff_of_false not_panics_error (not_not_intro fun h => absurd h hRest)
  · rw [checkedU16_panic hBits]
    exact iff_of_true ⟨_, bind_of_error throw_apply⟩ fun h => hBits h.1

/-! ### Whole packets -/

/-- What an H264 packet must look like not to panic. -/
def H264Fits (packet : List UInt8) : Prop :=
  PaddingFits packet ∧ ∀ payload, rtpPayload packet = some payload →
    payload.headD 0 &&& 0x1F = MTAP_16 ∨ payload.headD 0 &&& 0x1F = MTAP_24 → MtapFits payload

/-- What an AAC packet must look like not to panic. -/
def AacFits (packet : List UInt8) : Prop :=
  PaddingFits packet ∧ ∀ payload, rtpPayload packet = some payload →
    AusFit (BytesReader.decodeU32 .bigEndian ((packet.drop 4).take 4)) payload

theorem h264_unpack_panics_iff {packet : List UInt8} {it : VideoUnPacker} :
    Panics (RtpH264UnPacker.unpack ⟨it, ⟨packet⟩⟩) ↔ ¬H264Fits packet := by
  unfold RtpH264UnPacker.unpack H264Fits
  rcases unmarshal_cases it packet with ⟨hBody, s, h⟩ | ⟨hFits, s, h⟩ | ⟨hFits, r, s, h, _, hPayload, _⟩
  · rw [bind_of_error h]
    refine iff_of_false not_panics_error (not_not_intro ⟨fun body hBody' => ?_, fun payload h => ?_⟩)
    · rw [hBody] at hBody'
      cases hBody'
    · rw [rtpPayload, hBody] at h
      cases h
  · rw [bind_of_error h]
    exact iff_of_true ⟨s, rfl⟩ fun h => hFits h.1
  · rw [bind_of_ok h, bind_act, panics_onOwner, h264_unpackPayload_panics_iff, hPayload]
    simp [hFits]

theorem h265_unpack_panics_iff {packet : List UInt8} {it : VideoUnPacker} :
    Panics (RtpH265UnPacker.unpack ⟨it, ⟨packet⟩⟩) ↔ ¬PaddingFits packet := by
  unfold RtpH265UnPacker.unpack
  rw [← @unmarshal_panics_iff _ it]
  constructor
  · rintro ⟨s, h⟩
    rcases bind_eq_error h with h | ⟨r, s1, _, h⟩
    · exact ⟨s, h⟩
    · rw [bind_act] at h
      exact absurd ⟨s, h⟩ (calm_onOwner (calm_h265_unpackPayload r.payload) _)
  · rintro ⟨s, h⟩
    exact ⟨s, bind_of_error h⟩

theorem aac_unpack_panics_iff {packet : List UInt8} {it : RtpAacUnPacker}
    (hHandler : it.onFrameHandler ≠ none) :
    Panics (RtpAacUnPacker.unpack ⟨it, ⟨packet⟩⟩) ↔ ¬AacFits packet := by
  unfold RtpAacUnPacker.unpack AacFits
  rcases unmarshal_cases it packet with
    ⟨hBody, s, h⟩ | ⟨hFits, s, h⟩ | ⟨hFits, r, s, h, hOwner, hPayload, _, hTime⟩
  · rw [bind_of_error h]
    refine iff_of_false not_panics_error (not_not_intro ⟨fun body hBody' => ?_, fun payload h => ?_⟩)
    · rw [hBody] at hBody'
      cases hBody'
    · rw [rtpPayload, hBody] at h
      cases h
  · rw [bind_of_error h]
    exact iff_of_true ⟨s, rfl⟩ fun h => hFits h.1
  · rw [bind_of_ok h, panics_onOwner, aac_unpackPayload_panics_iff (hOwner ▸ hHandler), hPayload,
      hTime]
    simp [hFits]

/-! ### Sequences of packets -/

theorem receive_eq_none {τ : Type} {unpack : Read τ Unit} {it : τ} {packet : List UInt8} :
    receive unpack it packet = none ↔ Panics (unpack ⟨it, ⟨packet⟩⟩) := by
  unfold receive
  split
  · rename_i h
    rw [h]
    exact iff_of_false nofun not_panics_ok
  · rename_i h
    rw [h]
    exact iff_of_false nofun not_panics_error
  · rename_i h
    rw [h]
    exact iff_of_true rfl ⟨_, rfl⟩

/-- If the panics of an unpacker depend on the packet only, so do those of a run of packets.  `I` is
what the unpacker keeps. -/
theorem receiveAll_isSome_iff {τ : Type} {unpack : Read τ Unit} {Fits : List UInt8 → Prop}
    (I : τ → Prop) (hKeep : ∀ it packet it', I it → receive unpack it packet = some it' → I it')
    (hPanics : ∀ it packet, I it → (Panics (unpack ⟨it, ⟨packet⟩⟩) ↔ ¬Fits packet)) {it : τ}
    (hI : I it) (packets : List (List UInt8)) :
    (receiveAll unpack it packets).isSome ↔ ∀ packet ∈ packets, Fits packet := by
  induction packets generalizing it with
  | nil => exact iff_of_true rfl nofun
  | cons packet rest ih =>
    rw [List.forall_mem_cons]
    unfold receiveAll
    rw [List.foldlM_cons]
    cases hReceive : receive unpack it packet with
    | none =>
      have hNot := (hPanics it packet hI).mp (receive_eq_none.mp hReceive)
      exact iff_of_false (by simp) fun h => hNot h.1
    | some it' =>
      have hFits : Fits packet := by
        by_contra hNot
        have hNone := receive_eq_none.mpr ((hPanics it packet hI).mpr hNot)
        exact nomatch hReceive.symm.trans hNone
      rw [and_iff_right hFits]
      exact ih (hKeep it packet it' hI hReceive)

section Keeps

variable {τ : Type} {I : τ → Prop}

theorem keeps_readCsrcs (n : Nat) : Keeps I (RtpHeader.readCsrcs n) := by
  induction n with
  | zero => exact .pure _
  | succ n ih => exact .bind (keeps_read _) fun _ => .bind ih fun _ => .pure _

/-- Reading a packet changes nothing but the reader. -/
theorem keeps_unmarshal : Keeps I (RtpPacket.unmarshal : Read τ RtpPacket) := by
  refine .bind ?_ fun header => .bind ?_ fun packet => ?_
  · refine .bind (keeps_read _) fun _ => .bind (keeps_read _) fun _ => .bind (keeps_read _) fun _ => ?_
    refine .bind (keeps_read _) fun _ => .bind (keeps_read _) fun _ => ?_
    exact .bind (keeps_readCsrcs _) fun _ => .pure _
  · refine .ite ?_ (.pure _)
    exact .bind (keeps_read _) fun _ => .bind (keeps_read _) fun _ => .bind (keeps_read _) fun _ =>
      .pure _
  · refine .ite ?_ (.bind (keeps_read _) fun _ => .pure _)
    refine .bind keeps_len fun _ => .bind (keeps_sub _ _) fun _ => .bind (keeps_getAt _) fun _ => ?_
    refine .bind keeps_len fun _ => .bind (keeps_sub _ _) fun _ => ?_
    exact .bind (keeps_read _) fun _ => .bind (keeps_read _) fun _ => .pure _

end Keeps

/-- The frame handler stays set. -/
def HandlerSet (it : RtpAacUnPacker) : Prop := it.onFrameHandler ≠ none

theorem keeps_aac_unpack : Keeps HandlerSet RtpAacUnPacker.unpack := by
  have hLengths : ∀ n, Keeps HandlerSet (RtpAacUnPacker.readAuLengths n) := by
    intro n
    induction n with
    | zero => exact .pure _
    | succ n ih =>
      exact .bind (keeps_read _) fun _ => .bind (keeps_read _) fun _ => .bind ih fun _ => .pure _
  have hAus : ∀ timestamp i lengths, Keeps HandlerSet (RtpAacUnPacker.onAus timestamp i lengths) := by
    intro timestamp i lengths
    induction lengths generalizing i with
    | nil => exact .pure _
    | cons item rest ih =>
      refine .bind (keeps_read _) fun _ => .bind keeps_owner fun it => ?_
      split
      · refine .bind (keeps_checkedU32 _) fun _ => .bind (keeps_checkedU32 _) fun _ => ?_
        exact .bind (keeps_act fun _ _ => nofun) fun _ => ih _
      · exact ih _
  refine .bind keeps_unmarshal fun packet => keeps_onOwner_readOver ?_ _
  refine .bind (keeps_read _) fun _ => .bind (keeps_checkedU16 _) fun _ => ?_
  exact .bind (hLengths _) fun _ => hAus _ _ _

theorem receive_keeps {τ : Type} {I : τ → Prop} {unpack : Read τ Unit} (h : Keeps I unpack)
    {it it' : τ} {packet : List UInt8} (hIt : I it) (hReceive : receive unpack it packet = some it') :
    I it' := by
  have hRun := h ⟨it, ⟨packet⟩⟩ hIt
  unfold receive at hReceive
  split at hReceive
  · rename_i hx
    rw [hx] at hRun
    exact Option.some.inj hReceive ▸ hRun
  · rename_i hx
    rw [hx] at hRun
    exact Option.some.inj hReceive ▸ hRun
  · cases hReceive

/-- Exactly which packets are taken without a panic, in any sequence: by the reader of packets, and by
the unpackers of H264, H265 and AAC. -/
theorem receiveAll_calm_iff (packets : List (List UInt8)) :
    ((receiveAll (do let _ ← RtpPacket.unmarshal; pure ()) () packets).isSome ↔
      ∀ packet ∈ packets, PaddingFits packet) ∧
    ((receiveAll RtpH264UnPacker.unpack .new packets).isSome ↔
      ∀ packet ∈ packets, H264Fits packet) ∧
    ((receiveAll RtpH265UnPacker.unpack .new packets).isSome ↔
      ∀ packet ∈ packets, PaddingFits packet) ∧
    ((receiveAll RtpAacUnPacker.unpack .new packets).isSome ↔
      ∀ packet ∈ packets, AacFits packet) := by
  refine ⟨?_, ?_, ?_, ?_⟩
  · refine receiveAll_isSome_iff (fun _ => True) (fun _ _ _ _ _ => trivial)
      (fun it packet _ => ?_) trivial packets
    rw [← @unmarshal_panics_iff _ it]
    constructor
    · rintro ⟨s, h⟩
      rcases bind_eq_error h with h | ⟨_, _, _, h⟩
      · exact ⟨s, h⟩
      · cases h
    · rintro ⟨s, h⟩
      exact ⟨s, bind_of_error h⟩
  · exact receiveAll_isSome_iff (fun _ => True) (fun _ _ _ _ _ => trivial)
      (fun _ _ _ => h264_unpack_panics_iff) trivial packets
  · exact receiveAll_isSome_iff (fun _ => True) (fun _ _ _ _ _ => trivial)
      (fun _ _ _ => h265_unpack_panics_iff) trivial packets
  · exact receiveAll_isSome_iff HandlerSet (fun _ _ _ hIt => receive_keeps keeps_aac_unpack hIt)
      (fun _ _ hIt => aac_unpack_panics_iff hIt) (Option.some_ne_none []) packets

/-- Packets that make the server panic: a padding flag with nothing after the header, a padding
longer than the packet, a unit of a multi-time aggregation packet without an offset, one whose size is
too small, and AU headers of 65535 bits. -/
theorem hostilePackets_panic :
    receiveAll RtpH265UnPacker.unpack .new [[0xA0, 96, 0, 1, 0, 0, 0, 0, 0, 0, 0, 0]] = none ∧
    receiveAll RtpH265UnPacker.unpack .new [[0xA0, 96, 0, 1, 0, 0, 0, 0, 0, 0, 0, 0, 9]] = none ∧
    receiveAll RtpH264UnPacker.unpack .new
      [[0x80, 96, 0, 1, 0, 0, 0, 0, 0, 0, 0, 0, 26, 0, 0, 0, 5, 0, 0, 0, 0x65, 1]] = none ∧
    receiveAll RtpH264UnPacker.unpack .new
      [[0x80, 96, 0, 1, 0, 0, 0, 0, 0, 0, 0, 0, 26, 0, 0, 0, 1, 0, 0, 9, 0x65, 1]] = none ∧
    receiveAll RtpAacUnPacker.unpack .new
      [[0x80, 97, 0, 1, 0, 0, 0, 0, 0, 0, 0, 0, 0xFF, 0xFF]] = none := by
  refine ⟨?_, ?_, ?_, ?_, ?_⟩ <;> decide +kernel

end Xiu.Rtsp.Rtp
