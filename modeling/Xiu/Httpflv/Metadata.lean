import Xiu.Httpflv.Calls
import Xiu.Rtmp.Cache.Metadata

/-! Metadata that is replayed to an HTTP-FLV subscriber.  The cache keeps what starts with either of
two names; the handler cuts off the bytes of the longer one. -/

namespace Xiu.Httpflv

open Bytesio ProofKit StreamHub
open Flv (FlvTag)
open Flv.Amf0 (Amf0Reader.readAny Amf0Reader.readAll Amf0ValueType)
open Rtmp (MetaData MetadataCache)

/-- The value is the name that RTMP puts before metadata. -/
def isSetDataFrame : Amf0ValueType → Bool
  | .utf8String str => str == "@setDataFrame"
  | _ => false

/-- The values without a leading `@setDataFrame`. -/
def valuesToSend : List Amf0ValueType → List Amf0ValueType
  | [] => []
  | value :: rest => if isSetDataFrame value then rest else value :: rest

/-- The sequence without a leading `@setDataFrame`. -/
def bodyToSend (body : List UInt8) : List UInt8 :=
  match Amf0Reader.readAny ⟨body⟩ with
  | .ok value reader => if isSetDataFrame value then reader.buffer else body
  | .error _ _ => body

/-- The sequence starts with `@setDataFrame`. -/
def Leads (body : List UInt8) : Prop :=
  ∃ reader, Amf0Reader.readAny ⟨body⟩ = .ok (.utf8String "@setDataFrame") reader

variable {body rest : List UInt8} {timestamp : UInt32} {self : HttpFlv}

theorem eq_of_isSetDataFrame {value : Amf0ValueType} (h : isSetDataFrame value = true) :
    value = .utf8String "@setDataFrame" := by
  cases value with
  | utf8String str => exact congrArg _ (beq_iff_eq.mp h)
  | _ => cases h

theorem setDataFrame_append (rest : List UInt8) :
    HttpFlv.setDataFrame ++ rest = Flv.Amf0.STRING ::
      (ByteOrder.bigEndian.encode 2 (Flv.Amf0.len "@setDataFrame") ++
        (Flv.Amf0.asBytes "@setDataFrame" ++ rest)) := by
  rfl

theorem readAny_setDataFrame (rest : List UInt8) :
    Amf0Reader.readAny ⟨HttpFlv.setDataFrame ++ rest⟩ =
      .ok (.utf8String "@setDataFrame") ⟨rest⟩ := by
  rw [setDataFrame_append]
  exact Flv.Amf0.Amf0Reader.readAny_string (by decide) rest

theorem leads_iff : Leads body ↔ ∃ rest, body = HttpFlv.setDataFrame ++ rest := by
  constructor
  · rintro ⟨reader, h⟩
    exact ⟨reader.buffer, (Flv.Amf0.Amf0Reader.readAny_utf8String h).trans
      (setDataFrame_append reader.buffer).symm⟩
  · rintro ⟨rest, rfl⟩
    exact ⟨_, readAny_setDataFrame rest⟩

theorem bodyToSend_append (rest : List UInt8) : bodyToSend (HttpFlv.setDataFrame ++ rest) = rest := by
  unfold bodyToSend
  rw [readAny_setDataFrame]
  rfl

theorem bodyToSend_of_not_leads (h : ¬Leads body) : bodyToSend body = body := by
  unfold bodyToSend
  split
  · rename_i value reader hAny
    split
    · rename_i hName
      rw [eq_of_isSetDataFrame hName] at hAny
      exact absurd ⟨reader, hAny⟩ h
    · rfl
  · rfl

/-- What is to be sent reads as the values without the name. -/
theorem readAll_bodyToSend {values : List Amf0ValueType} {s : BytesReader}
    (h : Amf0Reader.readAll ⟨body⟩ = .ok values s) :
    Amf0Reader.readAll ⟨bodyToSend body⟩ = .ok (valuesToSend values) s := by
  by_cases hLeads : Leads body
  · obtain ⟨rest, rfl⟩ := leads_iff.mp hLeads
    have hCons := Flv.Amf0.Amf0Reader.readAll_cons (readAny_setDataFrame rest) (by simp)
    rw [h] at hCons
    obtain ⟨results, s1, hResults, hPure⟩ := bind_eq_ok hCons.symm
    cases hPure
    rw [bodyToSend_append]
    exact hResults
  · rw [bodyToSend_of_not_leads hLeads, h]
    cases values with
    | nil => rfl
    | cons value rest =>
      obtain ⟨s', hAny, -, -⟩ := Flv.Amf0.Amf0Reader.readAny_of_readAll h
      have hName : ¬isSetDataFrame value = true := by
        intro hName
        rw [eq_of_isSetDataFrame hName] at hAny
        exact hLeads ⟨s', hAny⟩
      rw [valuesToSend, if_neg hName]

/-- Sixteen bytes are cut off whatever they are. -/
theorem tagOf_metaData :
    HttpFlv.tagOf (.metaData timestamp body) self =
      if 16 ≤ body.length then .ok ⟨Flv.SCRIPT_DATA_AMF, timestamp, body.drop 16⟩ self
      else .error .panic self := by
  have hCut := congrFun (HttpFlv.cutMetadata_eq body) self
  by_cases h : 16 ≤ body.length
  · rw [if_pos h] at hCut
    rw [if_pos h]
    exact bind_of_ok hCut
  · rw [if_neg h] at hCut
    rw [if_neg h]
    exact bind_of_error hCut

theorem short_metadata_panics (h : body.length < 16) :
    HttpFlv.writeFlvTag (.metaData timestamp body) self = .error .panic self := by
  have hTag := @tagOf_metaData body timestamp self
  rw [if_neg (Nat.not_le.mpr h)] at hTag
  exact bind_of_error hTag

theorem sentAs_of_leads (hLeads : Leads body) (hLength : body.length < 2 ^ 24 + 16)
    (hConnected : self.connected = true) :
    self.SentAs (.metaData timestamp body) ⟨Flv.SCRIPT_DATA_AMF, timestamp, bodyToSend body⟩ := by
  obtain ⟨rest, rfl⟩ := leads_iff.mp hLeads
  rw [List.length_append, show HttpFlv.setDataFrame.length = 16 from rfl] at hLength
  have hRest : rest.length < 2 ^ 24 := by omega
  have hTag := @tagOf_metaData (HttpFlv.setDataFrame ++ rest) timestamp self
  rw [if_pos (by rw [List.length_append]; exact Nat.le_add_right _ _),
    List.drop_left' (by rfl)] at hTag
  rw [bodyToSend_append]
  exact ⟨hRest, _, HttpFlv.writeFlvTag_ok hTag hRest hConnected, rfl⟩

/-- What is cut off a sequence that does not lead with the name is missing. -/
theorem leads_of_sentAs (hConnected : self.connected = true)
    (h : self.SentAs (.metaData timestamp body)
      ⟨Flv.SCRIPT_DATA_AMF, timestamp, bodyToSend body⟩) :
    Leads body := by
  by_contra hLeads
  obtain ⟨hLength, self', hWrite, hSent⟩ := h
  rw [bodyToSend_of_not_leads hLeads] at hLength hSent
  have hTag := @tagOf_metaData body timestamp self
  by_cases hSixteen : 16 ≤ body.length
  · rw [if_pos hSixteen] at hTag
    have hDrop : (body.drop 16).length < 2 ^ 24 := by
      rw [List.length_drop]
      exact Nat.lt_of_le_of_lt (Nat.sub_le _ _) hLength
    rw [HttpFlv.writeFlvTag_ok hTag hDrop hConnected] at hWrite
    injection hWrite with _ hState
    rw [← hState] at hSent
    injection List.append_cancel_left hSent with hChunk
    have hLengths := congrArg List.length (List.append_cancel_left hChunk)
    simp only [HttpFlv.length_tag, List.length_drop] at hLengths
    omega
  · rw [short_metadata_panics (Nat.not_le.mp hSixteen)] at hWrite
    cases hWrite

/-- Metadata that is saved and replayed is sent without its leading name, and whole when there is none,
where it leads with the name. -/
theorem replayed_metadata_iff (cache : MetadataCache) (timestamp : UInt32) (self : HttpFlv)
    (h : MetaData.isMetadata body = true) (hConnected : self.connected = true) :
    (∃ frame, (cache.saveMetadata body timestamp).getMetadata = some frame ∧
      self.SentAs frame ⟨Flv.SCRIPT_DATA_AMF, timestamp, bodyToSend body⟩) ↔
    Leads body ∧ body.length < 2 ^ 24 + 16 := by
  have hReplay := cache.getMetadata_save timestamp h
  constructor
  · rintro ⟨frame, hFrame, hSent⟩
    obtain rfl := Option.some.inj (hReplay.symm.trans hFrame)
    have hLeads := leads_of_sentAs hConnected hSent
    refine ⟨hLeads, ?_⟩
    obtain ⟨rest, rfl⟩ := leads_iff.mp hLeads
    have hRest := hSent.1
    rw [bodyToSend_append] at hRest
    rw [List.length_append, show HttpFlv.setDataFrame.length = 16 from rfl]
    simp only at hRest
    omega
  · rintro ⟨hLeads, hLength⟩
    exact ⟨_, hReplay, sentAs_of_leads hLeads hLength hConnected⟩

/-- `@setDataFrame` and `null`. -/
def nullBody : List UInt8 := HttpFlv.setDataFrame ++ [0x05]

theorem null_metadata_sent :
    ∃ frame, (MetadataCache.new.saveMetadata nullBody 0).getMetadata = some frame ∧
      HttpFlv.first.SentAs frame ⟨Flv.SCRIPT_DATA_AMF, 0, bodyToSend nullBody⟩ :=
  (replayed_metadata_iff MetadataCache.new 0 HttpFlv.first (by decide +kernel) rfl).mpr
    ⟨leads_iff.mpr ⟨[0x05], rfl⟩, by decide⟩

/-- `onMetaData` and `null`. -/
def onMetaDataBody : List UInt8 :=
  [0x02, 0x00, 0x0a, 0x6f, 0x6e, 0x4d, 0x65, 0x74, 0x61, 0x44, 0x61, 0x74, 0x61, 0x05]

/-- It is kept and replayed, and the handler panics. -/
theorem onMetaData_panics :
    MetaData.isMetadata onMetaDataBody = true ∧
      (MetadataCache.new.saveMetadata onMetaDataBody 0).getMetadata =
        some (.metaData 0 onMetaDataBody) ∧
      HttpFlv.writeFlvTag (.metaData 0 onMetaDataBody) HttpFlv.first =
        .error .panic HttpFlv.first :=
  have hMetadata : MetaData.isMetadata onMetaDataBody = true := by decide +kernel
  ⟨hMetadata, MetadataCache.new.getMetadata_save 0 hMetadata, short_metadata_panics (by decide)⟩

end Xiu.Httpflv
