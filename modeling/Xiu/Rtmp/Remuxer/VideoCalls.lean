import Xiu.Flv.TagRoundTrip
import Xiu.Rtmp.Remuxer.Calls
import Xiu.Rtsp.Rtp.Annexb

/-! The video that is remuxed, buffer by buffer: the units of a buffer, what the loop over them finds, and
the messages that are made of it. -/

namespace Xiu.Rtmp.Remuxer

open Bytesio ProofKit StreamHub
open Flv (Mpeg4Avc VideoTagHeader Mpeg4Avc.AcceptsSps Mpeg4Avc.naluType Mpeg4Avc.parse
  Mpeg4Avc.framed16 H264_NAL_IDR H264_NAL_SPS H264_NAL_PPS)
open Rtsp.Rtp (Coded Delimited annexb)

/-! ### The units of a buffer -/

theorem findStartCode_eq (nalus : List UInt8) :
    Workers.findStartCode nalus = Rtsp.Rtp.findStartCode nalus := by
  induction nalus with
  | nil => rfl
  | cons b rest ih =>
    have hCode : [0, 0, 1].isPrefixOf (b :: rest) = true ↔
        (b :: rest).take 3 = [0x00, 0x00, 0x01] := by
      rw [List.isPrefixOf_iff_prefix, List.prefix_iff_eq_take]
      exact eq_comm
    rw [Workers.findStartCode, Rtsp.Rtp.findStartCode, ih]
    by_cases h : (b :: rest).take 3 = [0x00, 0x00, 0x01]
    · rw [if_pos h, if_pos (hCode.mpr h)]
    · rw [if_neg h, if_neg (mt hCode.mp h)]

theorem trimZeros_eq (nalus : List UInt8) (n : Nat) :
    Workers.trimZeros nalus n = Rtsp.Rtp.backOverZeros nalus n := by
  induction n with
  | zero => rfl
  | succ n ih => rw [Workers.trimZeros, Rtsp.Rtp.backOverZeros, ih]

theorem unitEnd_eq (nalus : List UInt8) (firstPos : Nat) :
    Workers.unitEnd nalus firstPos = Rtsp.Rtp.secondPos nalus firstPos := by
  unfold Workers.unitEnd Rtsp.Rtp.secondPos
  rw [findStartCode_eq]
  cases Rtsp.Rtp.findStartCode (nalus.drop (firstPos + 3)) with
  | none => rfl
  | some distance => exact trimZeros_eq nalus _

/-- A buffer put together from units is split into these. -/
theorem naluLoop_annexb {coded : List Coded} (h : ∀ c ∈ coded, Delimited c.nalu)
    (naluVec : List (List UInt8)) :
    Workers.naluLoop.run (naluVec, annexb coded) = naluVec ++ coded.map (·.nalu) := by
  induction coded generalizing naluVec with
  | nil =>
    rw [List.map_nil, List.append_nil]
    exact Workers.naluLoop.run_done rfl
  | cons first rest ih =>
    obtain ⟨hFirst, hRest⟩ := List.forall_mem_cons.mp h
    have hPos : Workers.findStartCode (annexb (first :: rest)) = some first.firstPos := by
      rw [findStartCode_eq]
      exact Rtsp.Rtp.findStartCode_bytes first (annexb rest)
    have hEnd : Workers.unitEnd (annexb (first :: rest)) first.firstPos = first.bytes.length := by
      rw [unitEnd_eq]
      exact Rtsp.Rtp.secondPos_annexb hFirst rest
    have hNalu : first.bytes.drop (first.firstPos + 3) = first.nalu := by
      have hDrop := Rtsp.Rtp.drop_bytes first []
      rwa [List.append_nil, List.append_nil] at hDrop
    have hTake : (annexb (first :: rest)).take first.bytes.length = first.bytes :=
      List.take_left
    have hDrop : (annexb (first :: rest)).drop first.bytes.length = annexb rest :=
      List.drop_left
    have hTurn : Workers.naluLoop.body (naluVec, annexb (first :: rest)) =
        .again (naluVec ++ [first.nalu], annexb rest) := by
      simp only [Workers.naluLoop, hPos, hEnd, hTake, hDrop, hNalu]
    rw [Workers.naluLoop.run_again hTurn, ih hRest, List.map_cons, List.append_assoc]
    rfl

theorem splitNalus_annexb {coded : List Coded} (h : ∀ c ∈ coded, Delimited c.nalu) :
    Workers.splitNalus (annexb coded) = coded.map (·.nalu) :=
  naluLoop_annexb h []

/-! ### What the loop finds -/

def isSps (nalu : List UInt8) : Bool := Mpeg4Avc.naluType nalu = H264_NAL_SPS

def isPps (nalu : List UInt8) : Bool := Mpeg4Avc.naluType nalu = H264_NAL_PPS

def isIdr (nalu : List UInt8) : Bool := Mpeg4Avc.naluType nalu = H264_NAL_IDR

def lastSps (nalus : List (List UInt8)) : Option (List UInt8) := (nalus.filter isSps).getLast?

def lastPps (nalus : List (List UInt8)) : Option (List UInt8) := (nalus.filter isPps).getLast?

theorem lastSps_append (first second : List (List UInt8)) :
    lastSps (first ++ second) = (lastSps second).or (lastSps first) := by
  rw [lastSps, List.filter_append, List.getLast?_append]
  rfl

theorem lastPps_append (first second : List (List UInt8)) :
    lastPps (first ++ second) = (lastPps second).or (lastPps first) := by
  rw [lastPps, List.filter_append, List.getLast?_append]
  rfl

theorem lastSps_concat (nalus : List (List UInt8)) (nalu : List UInt8) :
    lastSps (nalus ++ [nalu]) = if isSps nalu then some nalu else lastSps nalus := by
  rw [lastSps_append, lastSps]
  by_cases h : isSps nalu = true
  · rw [List.filter_cons_of_pos h, if_pos h]
    rfl
  · rw [List.filter_cons_of_neg h, if_neg h]
    rfl

theorem lastPps_concat (nalus : List (List UInt8)) (nalu : List UInt8) :
    lastPps (nalus ++ [nalu]) = if isPps nalu then some nalu else lastPps nalus := by
  rw [lastPps_append, lastPps]
  by_cases h : isPps nalu = true
  · rw [List.filter_cons_of_pos h, if_pos h]
    rfl
  · rw [List.filter_cons_of_neg h, if_neg h]
    rfl

theorem of_lastSps {nalus : List (List UInt8)} {nalu : List UInt8} (h : lastSps nalus = some nalu) :
    nalu ∈ nalus ∧ isSps nalu = true :=
  List.mem_filter.mp (List.mem_of_getLast? h)

theorem of_lastPps {nalus : List (List UInt8)} {nalu : List UInt8} (h : lastPps nalus = some nalu) :
    nalu ∈ nalus ∧ isPps nalu = true :=
  List.mem_filter.mp (List.mem_of_getLast? h)

/-- A unit is of one type. -/
theorem not_isPps {nalu : List UInt8} (h : isSps nalu = true) : ¬isPps nalu = true := by
  intro h'
  have hSps : Mpeg4Avc.naluType nalu = H264_NAL_SPS := of_decide_eq_true h
  have hPps : Mpeg4Avc.naluType nalu = H264_NAL_PPS := of_decide_eq_true h'
  rw [hSps] at hPps
  exact absurd hPps (by decide)

theorem not_isIdr {nalu : List UInt8} (h : isSps nalu = true ∨ isPps nalu = true) :
    ¬isIdr nalu = true := by
  intro h'
  have hIdr : Mpeg4Avc.naluType nalu = H264_NAL_IDR := of_decide_eq_true h'
  rcases h with h | h
  · have hSps : Mpeg4Avc.naluType nalu = H264_NAL_SPS := of_decide_eq_true h
    rw [hSps] at hIdr
    exact absurd hIdr (by decide)
  · have hPps : Mpeg4Avc.naluType nalu = H264_NAL_PPS := of_decide_eq_true h
    rw [hPps] at hIdr
    exact absurd hIdr (by decide)

/-- The profile, the level and the size of an SPS. -/
def profileOf (sps : List UInt8) : UInt8 := sps[1]?.getD 0

def levelOf (sps : List UInt8) : UInt8 := sps[3]?.getD 0

def sizeOf (sps : List UInt8) : UInt32 × UInt32 :=
  match Mpeg4Avc.parse sps.tail with
  | .ok size => size
  | .error _ => (0, 0)

/-- A parameter set that a record can hold, and that can be parsed if it is an SPS. -/
structure Sound (nalu : List UInt8) : Prop where
  ne_nil : nalu ≠ []
  sps : isSps nalu = true → Mpeg4Avc.AcceptsSps Mpeg4Avc.parse nalu ∧ nalu.length < 2 ^ 16
  pps : isPps nalu = true → nalu.length < 2 ^ 16

namespace RemuxerSession

variable {s s' : RemuxerSession} {nalu : List UInt8} {nalus : List (List UInt8)} {found : Found}

/-- What a unit adds to what has been found. -/
def Found.add (found : Found) (nalu : List UInt8) : Found :=
  if isSps nalu then
    { found with
      width := (sizeOf nalu).1, height := (sizeOf nalu).2, level := levelOf nalu
      profile := profileOf nalu, sps := some nalu }
  else if isPps nalu then { found with pps := some nalu }
  else if isIdr nalu then { found with containsIdr := true }
  else found

theorem readNalu_sound (h : Sound nalu) (found : Found) :
    readNalu found nalu s = .ok (found.add nalu) s := by
  cases nalu with
  | nil => exact absurd rfl h.ne_nil
  | cons naluType rest =>
    have hSps : isSps (naluType :: rest) = true ↔ naluType &&& 0x1F = H264_NAL_SPS := decide_eq_true_iff
    have hPps : isPps (naluType :: rest) = true ↔ naluType &&& 0x1F = H264_NAL_PPS := decide_eq_true_iff
    have hIdr : isIdr (naluType :: rest) = true ↔ naluType &&& 0x1F = H264_NAL_IDR := decide_eq_true_iff
    unfold readNalu Found.add
    by_cases h7 : naluType &&& 0x1F = H264_NAL_SPS
    · obtain ⟨nalType, payload, size, hUnit, -, hParse⟩ := (h.sps (hSps.mpr h7)).1
      cases hUnit
      have hSize : sizeOf (naluType :: rest) = size := by
        rw [sizeOf, List.tail_cons, hParse]
      have hRead : parseSize rest s = .ok size s := by
        rw [parseSize, hParse]
        rfl
      rw [if_pos (hSps.mpr h7), hSize]
      refine (congrFun (if_pos h7) s).trans ?_
      exact bind_of_ok hRead
    · rw [if_neg (mt hSps.mp h7)]
      refine (congrFun (if_neg h7) s).trans ?_
      by_cases h8 : naluType &&& 0x1F = H264_NAL_PPS
      · rw [if_pos (hPps.mpr h8)]
        exact congrFun (if_pos h8) s
      · rw [if_neg (mt hPps.mp h8)]
        refine (congrFun (if_neg h8) s).trans ?_
        by_cases h5 : naluType &&& 0x1F = H264_NAL_IDR
        · rw [if_pos (hIdr.mpr h5)]
          exact congrFun (if_pos h5) s
        · rw [if_neg (mt hIdr.mp h5)]
          exact congrFun (if_neg h5) s

theorem readNalus_sound (h : ∀ nalu ∈ nalus, Sound nalu) (found : Found) :
    nalus.foldlM readNalu found s = .ok (nalus.foldl Found.add found) s := by
  induction nalus generalizing found with
  | nil => rfl
  | cons nalu rest ih =>
    obtain ⟨hFirst, hRest⟩ := List.forall_mem_cons.mp h
    rw [List.foldlM_cons, bind_of_ok (readNalu_sound hFirst found)]
    exact ih hRest (found.add nalu)

/-- What has been found in units, with the parameter sets that were there before. -/
structure Finds (sps pps : Option (List UInt8)) (nalus : List (List UInt8)) (found : Found) : Prop where
  sps : found.sps = (lastSps nalus).or sps
  pps : found.pps = (lastPps nalus).or pps
  idr : found.containsIdr = nalus.any isIdr
  size : ∀ unit, lastSps nalus = some unit → (found.width, found.height) = sizeOf unit ∧
    found.profile = profileOf unit ∧ found.level = levelOf unit

theorem Found.add_sps (found : Found) (nalu : List UInt8) :
    (found.add nalu).sps = if isSps nalu then some nalu else found.sps := by
  unfold Found.add
  split
  · rfl
  · split
    · rfl
    · split
      · rfl
      · rfl

theorem Found.add_pps (found : Found) (nalu : List UInt8) :
    (found.add nalu).pps = if isPps nalu then some nalu else found.pps := by
  unfold Found.add
  split
  · rename_i hSps
    exact (if_neg (not_isPps hSps)).symm
  · split
    · rfl
    · split
      · rfl
      · rfl

theorem Found.add_containsIdr (found : Found) (nalu : List UInt8) :
    (found.add nalu).containsIdr = (found.containsIdr || isIdr nalu) := by
  unfold Found.add
  split
  · rename_i hSps
    rw [Bool.eq_false_iff.mpr (not_isIdr (.inl hSps)), Bool.or_false]
  · split
    · rename_i hPps
      rw [Bool.eq_false_iff.mpr (not_isIdr (.inr hPps)), Bool.or_false]
    · split
      · rename_i hIdr
        rw [hIdr, Bool.or_true]
      · rename_i hIdr
        rw [Bool.eq_false_iff.mpr hIdr, Bool.or_false]

/-- The size, the profile and the level are those of the SPS that was added last. -/
theorem Found.add_size {found : Found} {nalu : List UInt8} (h : ¬isSps nalu = true) :
    ((found.add nalu).width, (found.add nalu).height) = (found.width, found.height) ∧
      (found.add nalu).profile = found.profile ∧ (found.add nalu).level = found.level := by
  unfold Found.add
  rw [if_neg h]
  split
  · exact ⟨rfl, rfl, rfl⟩
  · split
    · exact ⟨rfl, rfl, rfl⟩
    · exact ⟨rfl, rfl, rfl⟩

theorem finds_foldl (sps pps : Option (List UInt8)) (nalus : List (List UInt8)) :
    Finds sps pps nalus (nalus.foldl Found.add (.start sps pps)) := by
  induction nalus using List.reverseRecOn with
  | nil =>
    refine ⟨rfl, rfl, rfl, ?_⟩
    intro unit h
    cases h
  | append_singleton nalus nalu ih =>
    rw [List.foldl_append, List.foldl_cons, List.foldl_nil]
    generalize nalus.foldl Found.add (.start sps pps) = found at ih
    obtain ⟨hSps, hPps, hIdr, hSize⟩ := ih
    refine ⟨?_, ?_, ?_, ?_⟩
    · rw [Found.add_sps, lastSps_concat, hSps]
      split
      · rfl
      · rfl
    · rw [Found.add_pps, lastPps_concat, hPps]
      split
      · rfl
      · rfl
    · rw [Found.add_containsIdr, hIdr, List.any_append, List.any_cons, List.any_nil, Bool.or_false]
    · intro unit hUnit
      by_cases h : isSps nalu = true
      · rw [lastSps_concat, if_pos h] at hUnit
        cases hUnit
        rw [Found.add, if_pos h]
        exact ⟨rfl, rfl, rfl⟩
      · rw [lastSps_concat, if_neg h] at hUnit
        obtain ⟨hWidth, hProfile, hLevel⟩ := @Found.add_size found nalu h
        rw [hWidth, hProfile, hLevel]
        exact hSize unit hUnit

end RemuxerSession

/-! ### The messages -/

/-- A frame: its tag header, and its units behind their lengths. -/
def frameBody (key : Bool) (nalus : List (List UInt8)) : List UInt8 :=
  (if key then 0x17 else 0x27) :: 0x01 :: 0x00 :: 0x00 :: 0x00 ::
    nalus.flatMap fun nalu => toBE 4 nalu.length ++ nalu

/-- The record of a sequence header, with the SPS's own profile and level. -/
def recordBytes (sps pps : List UInt8) : List UInt8 :=
  0x01 :: profileOf sps :: 0x00 :: levelOf sps :: 0xFF :: 0xE1 ::
    (Mpeg4Avc.framed16 sps ++ 0x01 :: (Mpeg4Avc.framed16 pps ++
      if profileOf sps ∈ Mpeg4Avc.extended then [0xFC, 0xF8, 0xF8, 0x00] else []))

def headerBody (sps pps : List UInt8) : List UInt8 :=
  0x17 :: 0x00 :: 0x00 :: 0x00 :: 0x00 :: recordBytes sps pps

theorem genVideoFrameData_eq (nalus : List (List UInt8)) (key : Bool) :
    RtmpCooker.genVideoFrameData nalus key = frameBody key nalus := by
  rw [RtmpCooker.genVideoFrameData, Mpeg4Avc.nalusToMpeg4avc_eq]
  cases key with
  | false => rfl
  | true => rfl

variable {sps pps : List UInt8}

theorem lengths_singleton {unit : List UInt8} (h : unit.length < 2 ^ 16) :
    ∀ other ∈ [unit], other.length < 2 ^ 16 := List.forall_mem_singleton.mpr h

theorem one_lt_32 (unit : List UInt8) : [unit].length < 32 := by
  rw [List.length_singleton]
  decide

theorem one_lt_256 (unit : List UInt8) : [unit].length < 256 := by
  rw [List.length_singleton]
  decide

/-- The record that is saved. -/
def recordFor (sps pps : List UInt8) (hSps : sps.length < 2 ^ 16) (hPps : pps.length < 2 ^ 16) :
    Mpeg4Avc.AvcRecord where
  profile := profileOf sps
  compatibility := 0
  level := levelOf sps
  lengthSizeMinusOne := ⟨3, Mpeg4Avc.three_lt_four⟩
  sps := [sps]
  pps := [pps]
  extension :=
    if profileOf sps ∈ Mpeg4Avc.extended then some Mpeg4Avc.Extension.zeros else none
  sps_length := one_lt_32 sps
  pps_length := one_lt_256 pps
  sps_lengths := lengths_singleton hSps
  pps_lengths := lengths_singleton hPps

theorem recordFor_bytes (hSps : sps.length < 2 ^ 16) (hPps : pps.length < 2 ^ 16) :
    (recordFor sps pps hSps hPps).bytes = recordBytes sps pps := by
  have hTail : (recordFor sps pps hSps hPps).tail =
      if profileOf sps ∈ Mpeg4Avc.extended then [0xFC, 0xF8, 0xF8, 0x00] else [] := by
    by_cases h : profileOf sps ∈ Mpeg4Avc.extended
    · simp only [Mpeg4Avc.AvcRecord.tail, recordFor, if_pos h]
      rfl
    · simp only [Mpeg4Avc.AvcRecord.tail, recordFor, if_neg h]
  rw [Mpeg4Avc.AvcRecord.bytes, hTail, recordBytes]
  simp only [recordFor, List.flatMap_singleton, List.length_singleton]
  rfl

theorem genVideoSeqHeader_eq (hSps : sps.length < 2 ^ 16) (hPps : pps.length < 2 ^ 16) :
    RtmpCooker.genVideoSeqHeader sps pps (profileOf sps) (levelOf sps) =
      .ok (headerBody sps pps) := by
  have hLoaded : Mpeg4Avc.LoadedFrom Mpeg4Avc.new (recordFor sps pps hSps hPps)
      (RtmpCooker.recordOf sps pps (profileOf sps) (levelOf sps)) :=
    ⟨rfl, rfl, rfl, rfl, rfl, .inr rfl, rfl, .inr rfl, rfl, rfl, rfl⟩
  have hTail : Mpeg4Avc.savedTail (RtmpCooker.recordOf sps pps (profileOf sps) (levelOf sps)) =
      (recordFor sps pps hSps hPps).tail := by
    unfold Mpeg4Avc.savedTail
    by_cases h : profileOf sps ∈ Mpeg4Avc.extended
    · refine (if_pos h).trans ?_
      simp only [Mpeg4Avc.AvcRecord.tail, recordFor, if_pos h]
      rfl
    · refine (if_neg h).trans ?_
      simp only [Mpeg4Avc.AvcRecord.tail, recordFor, if_neg h]
  have hSave := Mpeg4Avc.save_loadedFrom _ hLoaded
  rw [hTail] at hSave
  have hBytes := recordFor_bytes hSps hPps
  rw [Mpeg4Avc.AvcRecord.bytes] at hBytes
  rw [RtmpCooker.genVideoSeqHeader, hSave, hBytes]
  rfl

/-- Both kinds of message have a tag header that is read back, but for the composition time. -/
theorem unmarshal_tagHeader {frameType avcPacketType : UInt8} (hType : frameType < 16)
    (tail : List UInt8) : ∃ cts, VideoTagHeader.unmarshal
      ⟨VideoTagHeader.marshal ⟨frameType, 7, avcPacketType, 0⟩ ++ tail⟩ =
        .ok (⟨frameType, 7, avcPacketType, cts⟩, ⟨tail⟩) := by
  have hCodec : (7 : UInt8) < 16 := by decide
  have hTime : -8388608 ≤ (0 : Int32).toInt ∧ (0 : Int32).toInt < 8388608 := by decide
  have hFits : VideoTagHeader.Fits ⟨frameType, 7, avcPacketType, 0⟩ :=
    ⟨hType, hCodec, fun _ => hTime, fun h => absurd (.inl rfl) h⟩
  obtain ⟨cts, hUnmarshal, -⟩ := Flv.unmarshal_video hFits tail
  exact ⟨cts, hUnmarshal⟩

theorem frameType_lt (key : Bool) : (if key then 1 else 2 : UInt8) < 16 := by
  cases key with
  | false => decide
  | true => decide

/-- A frame can be saved. -/
theorem saveVideoData_frame (key : Bool) (nalus : List (List UInt8)) (timestamp : UInt32)
    (cache : Cache) :
    ∃ after, Cache.saveVideoData Mpeg4Avc.parse (frameBody key nalus) timestamp cache =
      .ok () after := by
  obtain ⟨cts, hUnmarshal⟩ := @unmarshal_tagHeader (if key then 1 else 2) 1 (frameType_lt key)
    (nalus.flatMap fun nalu => toBE 4 nalu.length ++ nalu)
  have hBody : VideoTagHeader.marshal ⟨if key then 1 else 2, 7, 1, 0⟩ ++
      (nalus.flatMap fun nalu => toBE 4 nalu.length ++ nalu) = frameBody key nalus := by
    cases key with
    | false => rfl
    | true => rfl
  have hNotHeader : (1 : UInt8) ≠ Flv.AVC_SEQHDR := by decide
  rw [hBody] at hUnmarshal
  unfold Cache.saveVideoData
  rw [hUnmarshal]
  simp only
  rw [Cache.saveFrameData, bind_modify, if_neg fun h => hNotHeader h.2]
  exact ⟨_, rfl⟩

/-- A sequence header with sound parameter sets can be saved. -/
theorem saveVideoData_header (hSps : Sound sps) (hPps : pps.length < 2 ^ 16)
    (hType : isSps sps = true) (timestamp : UInt32) (cache : Cache) :
    ∃ after, Cache.saveVideoData Mpeg4Avc.parse (headerBody sps pps) timestamp cache =
      .ok () after := by
  obtain ⟨hAccepts, hLength⟩ := hSps.sps hType
  have hOne : (1 : UInt8) < 16 := by decide
  obtain ⟨cts, hUnmarshal⟩ := @unmarshal_tagHeader 1 0 hOne (recordBytes sps pps)
  have hBody : VideoTagHeader.marshal ⟨1, 7, 0, 0⟩ ++ recordBytes sps pps = headerBody sps pps := rfl
  obtain ⟨avc, hLoad, -⟩ := @Mpeg4Avc.load_record Mpeg4Avc.parse Mpeg4Avc.new
    (recordFor sps pps hLength hPps) (List.forall_mem_singleton.mpr hAccepts)
  have hKey : decide ((1 : UInt8) = Flv.KEY_FRAME) = true ∧ (0 : UInt8) = Flv.AVC_SEQHDR := by decide
  rw [hBody] at hUnmarshal
  rw [recordFor_bytes] at hLoad
  unfold Cache.saveVideoData
  rw [hUnmarshal]
  simp only
  rw [Cache.saveFrameData, bind_modify, if_pos hKey, bind_modify]
  generalize ({ cache with gops := _, videoSeq := _, videoTimestamp := _ } : Cache) = held
  have hReport : ∃ reported, Cache.reportVideoCodec Mpeg4Avc.parse ⟨recordBytes sps pps⟩ held =
      .ok () reported := by
    rw [Cache.reportVideoCodec, bind_get]
    by_cases hSender : held.statisticDataSender.isSome
    · rw [if_pos hSender, bind_of_ok (Cache.aside_ok hLoad)]
      exact ⟨_, rfl⟩
    · rw [if_neg hSender]
      exact ⟨_, rfl⟩
  obtain ⟨reported, hReported⟩ := hReport
  rw [bind_of_ok hReported]
  exact ⟨_, rfl⟩

namespace RemuxerSession

variable {s : RemuxerSession} {timestamp : UInt32} {nalus : List (List UInt8)} {key : Bool}
  {found : Found}

/-! ### What is sent -/

/-- From `s`, these messages have been sent, and all but the cache and the metadata is as it was. -/
structure Sent (s : RemuxerSession) (messages : List FrameData) (s' : RemuxerSession) : Prop where
  sent : s'.rtmpHandler.sent = s.rtmpHandler.sent ++ messages
  connected : s'.rtmpHandler.connected = s.rtmpHandler.connected
  clocks : s'.clocks = s.clocks
  sps : s'.sps = s.sps
  pps : s'.pps = s.pps
  generated : s'.videoSeqHeaderGenerated = s.videoSeqHeaderGenerated

theorem Sent.trans {s1 s2 : RemuxerSession} {first second : List FrameData} (h1 : Sent s first s1)
    (h2 : Sent s1 second s2) : Sent s (first ++ second) s2 where
  sent := by rw [h2.sent, h1.sent, List.append_assoc]
  connected := h2.connected.trans h1.connected
  clocks := h2.clocks.trans h1.clocks
  sps := h2.sps.trans h1.sps
  pps := h2.pps.trans h1.pps
  generated := h2.generated.trans h1.generated

theorem onVideoData_sent {body : List UInt8} {adjusted : UInt32}
    (hConnected : s.rtmpHandler.connected = true)
    (hSave : ∃ after, Cache.saveVideoData Mpeg4Avc.parse body adjusted s.rtmpHandler.cache =
      .ok () after) :
    ∃ s', handler (Common.onVideoData body adjusted) s = .ok () s' ∧
      Sent s [.video adjusted body] s' := by
  obtain ⟨cache, hCache⟩ := hSave
  exact ⟨_, handler_ok_iff.mpr ⟨_, saved_ok_iff.mpr ⟨hConnected, cache, hCache, rfl⟩, rfl⟩,
    rfl, rfl, rfl, rfl, rfl, rfl⟩

theorem onMetaData_sent {body : List UInt8} {adjusted : UInt32}
    (hConnected : s.rtmpHandler.connected = true) :
    ∃ s', handler (Common.onMetaData body adjusted) s = .ok () s' ∧
      Sent s [.metaData adjusted body] s' := by
  exact ⟨_, handler_ok_iff.mpr ⟨_, bind_of_ok (send_ok hConnected), rfl⟩, rfl, rfl, rfl, rfl, rfl,
    rfl⟩

/-- A frame goes out as one message. -/
theorem sendFrame_sent (hConnected : s.rtmpHandler.connected = true)
    (hLe : s.baseVideoTimestamp ≤ timestamp) (hRate : s.videoClockRate / 1000 ≠ 0) :
    ∃ s' adjusted, sendFrame nalus key timestamp s = .ok () s' ∧
      Sent s [.video adjusted (frameBody key nalus)] s' := by
  rw [sendFrame, genVideoFrameData_eq, bind_get, bind_of_ok (adjust_ok hLe hRate)]
  obtain ⟨s', hOk, hSent⟩ := onVideoData_sent hConnected (saveVideoData_frame key nalus _ _)
  exact ⟨s', _, hOk, hSent⟩

/-- The metadata and the sequence header go out with what was found of the SPS. -/
theorem sendHeader_sent {sps pps : List UInt8} (hConnected : s.rtmpHandler.connected = true)
    (hSps : Sound sps) (hType : isSps sps = true) (hPps : pps.length < 2 ^ 16)
    (hFound : (found.width, found.height) = sizeOf sps ∧ found.profile = profileOf sps ∧
      found.level = levelOf sps) :
    ∃ s' metaData, sendHeader found sps pps s = .ok () s' ∧
      RtmpCooker.genMetaData (sizeOf sps).1 (sizeOf sps).2 = .ok metaData ∧
      Sent s [.metaData 0 metaData, .video 0 (headerBody sps pps)] s' := by
  obtain ⟨hSize, hProfile, hLevel⟩ := hFound
  obtain ⟨metaData, hGen⟩ := RtmpCooker.exists_genMetaData found.width found.height
  obtain ⟨s1, hMeta, hSent1⟩ := @onMetaData_sent s metaData 0 hConnected
  obtain ⟨s', hHeader, hSent⟩ := onVideoData_sent (hSent1.connected.trans hConnected)
    (saveVideoData_header hSps hPps hType 0 s1.rtmpHandler.cache)
  refine ⟨s', metaData, ?_, ?_, hSent1.trans hSent⟩
  · rw [sendHeader, hGen, hProfile, hLevel, genVideoSeqHeader_eq (hSps.sps hType).2 hPps]
    exact (bind_of_ok hMeta).trans hHeader
  · rw [← hSize]
    exact hGen

end RemuxerSession

end Xiu.Rtmp.Remuxer
