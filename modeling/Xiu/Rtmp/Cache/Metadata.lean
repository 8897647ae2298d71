import Xiu.Flv.Amf0.Reader
import Xiu.StreamHub.Define

/-! The metadata that a cache keeps, of `protocol/rtmp/src/cache/metadata.rs`, and how it is replayed to
a new subscriber. -/

namespace Xiu.Rtmp

open StreamHub Flv.Amf0

structure MetaData where
  chunkBody : List UInt8

namespace MetaData

def new : MetaData := ⟨[]⟩

/-- The names that metadata may start with. -/
def isMetadataName : Amf0ValueType → Bool
  | .utf8String str => str == "@setDataFrame" || str == "onMetaData"
  | _ => false

def isMetadata (body : List UInt8) : Bool :=
  match Amf0Reader.readAll ⟨body⟩ with
  | .error _ _ => false
  | .ok values _ => if values.length < 2 then false else (values.head?.map isMetadataName).getD false

def save (self : MetaData) (body : List UInt8) : MetaData :=
  if isMetadata body then ⟨body⟩ else self

def getChunkBody (self : MetaData) : List UInt8 := self.chunkBody

end MetaData

/-- The part of a cache that keeps the metadata. -/
structure MetadataCache where
  metadata : MetaData
  metadataTimestamp : UInt32

namespace MetadataCache

def new : MetadataCache := ⟨MetaData.new, 0⟩

def saveMetadata (self : MetadataCache) (chunkBody : List UInt8) (timestamp : UInt32) :
    MetadataCache :=
  ⟨self.metadata.save chunkBody, timestamp⟩

def getMetadata (self : MetadataCache) : Option FrameData :=
  let data := self.metadata.getChunkBody
  if ¬data.isEmpty then some (.metaData self.metadataTimestamp data) else none

end MetadataCache

variable {body : List UInt8}

/-- Metadata has a first value, which is one of the names, and another one. -/
theorem MetaData.values_of_isMetadata (h : isMetadata body = true) :
    ∃ str v vs s, Amf0Reader.readAll ⟨body⟩ = .ok (.utf8String str :: v :: vs) s ∧
      (str = "@setDataFrame" ∨ str = "onMetaData") := by
  unfold isMetadata at h
  split at h
  · cases h
  · rename_i values s hAll
    split at h
    · cases h
    · rename_i hTwo
      obtain _ | ⟨name, _ | ⟨v, vs⟩⟩ := values
      · exact absurd Nat.zero_lt_two hTwo
      · exact absurd Nat.one_lt_two hTwo
      · cases name with
        | utf8String str =>
          refine ⟨str, v, vs, s, hAll, ?_⟩
          simpa [isMetadataName] using h
        | _ => cases h

theorem MetaData.ne_nil_of_isMetadata (h : isMetadata body = true) : body ≠ [] := by
  rintro rfl
  exact absurd h (by decide)

/-- Metadata that is saved is what is replayed. -/
theorem MetadataCache.getMetadata_save (self : MetadataCache) (timestamp : UInt32)
    (h : MetaData.isMetadata body = true) :
    (self.saveMetadata body timestamp).getMetadata = some (.metaData timestamp body) := by
  have hBody : (self.saveMetadata body timestamp).metadata.getChunkBody = body :=
    congrArg MetaData.chunkBody (if_pos h)
  have hNe : ¬body.isEmpty := mt List.isEmpty_iff.mp (MetaData.ne_nil_of_isMetadata h)
  rw [getMetadata, hBody]
  exact if_pos hNe

end Xiu.Rtmp
