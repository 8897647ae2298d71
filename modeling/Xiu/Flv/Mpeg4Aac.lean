import Xiu.Bytesio.Panics
import Xiu.Bytesio.Reading
import Xiu.Bytesio.Writer
import Xiu.Flv.TagHeader

/-! The AAC frames of FLV, of `library/container/flv/src/mpeg4_aac.rs`: how a configuration is loaded,
and how a frame gets its ADTS header. -/

namespace Xiu.Flv

open Bytesio ProofKit Bytesio.Read

def AAC_FREQUENCE : List UInt32 :=
  [96000, 88200, 64000, 48000, 44100, 32000, 24000, 22050, 16000, 12000, 11025, 8000, 7350]

/-- The fields of `Mpeg4Aac` but those that only `audio_specific_config_load2` uses, which nothing
calls. -/
structure Mpeg4Aac where
  objectType : UInt8
  samplingFrequencyIndex : UInt8
  channelConfiguration : UInt8
  samplingFrequency : UInt32
  channels : UInt8
  deriving DecidableEq

/-- The processor but for its reader, which is the reader of its actions. -/
structure Mpeg4AacProcessor where
  bytesWriter : BytesWriter
  mpeg4Aac : Mpeg4Aac
  deriving DecidableEq

namespace Mpeg4AacProcessor

def new : Reading Mpeg4AacProcessor := ⟨⟨⟨[]⟩, ⟨0, 0, 0, 0, 0⟩⟩, ⟨[]⟩⟩

def extendData (data : List UInt8) : Read Mpeg4AacProcessor Unit :=
  modify fun s => ⟨s.owner, s.reader.extendFromSlice data⟩

def updateAac (f : Mpeg4Aac → Mpeg4Aac) : Read Mpeg4AacProcessor Unit :=
  act fun self => { self with mpeg4Aac := f self.mpeg4Aac }

/-- The index of the sampling frequency, in the low bits of a byte and the high bit of the next. -/
def frequencyIndex (byte0 byte1 : UInt8) : UInt8 :=
  ((byte0 &&& 0x07) <<< 1) ||| ((byte1 >>> 7) &&& 0x01)

/-- A look into the table, which panics beyond its end. -/
def frequency (index : UInt8) : Read Mpeg4AacProcessor UInt32 :=
  match AAC_FREQUENCE[index.toNat]? with
  | some samplingFrequency => pure samplingFrequency
  | none => throw .panic

def audioSpecificConfigLoad : Read Mpeg4AacProcessor Unit := do
  let byte0 ← readU8
  updateAac fun aac => { aac with objectType := (byte0 >>> 3) &&& 0x1F }
  let byte1 ← readU8
  updateAac fun aac => { aac with
    samplingFrequencyIndex := frequencyIndex byte0 byte1
    channelConfiguration := (byte1 >>> 3) &&& 0x0F
    channels := (byte1 >>> 3) &&& 0x0F }
  let samplingFrequency ← frequency (frequencyIndex byte0 byte1)
  updateAac fun aac => { aac with samplingFrequency }
  let _ ← extractRemainingBytes

def writeU8 (byte : UInt8) : Read Mpeg4AacProcessor Unit :=
  act fun self => { self with bytesWriter := self.bytesWriter.writeU8 byte }

def adtsSave : Read Mpeg4AacProcessor Unit := do
  let length ← len
  let length := UInt32.ofNat (length + 7)
  let id : UInt8 := 0
  writeU8 0xFF
  writeU8 ((0xF0 : UInt8) ||| (id <<< 3) ||| 0x01)
  let self ← owner
  let profile := self.mpeg4Aac.objectType
  let samplingFrequencyIndex := self.mpeg4Aac.samplingFrequencyIndex
  let channelConfiguration := self.mpeg4Aac.channelConfiguration
  let object ← sub profile.toNat 1
  writeU8 ((UInt8.ofNat object <<< 6) ||| ((samplingFrequencyIndex &&& 0x0F) <<< 2) |||
    ((channelConfiguration >>> 2) &&& 0x01))
  writeU8 (((channelConfiguration &&& 0x03) <<< 6) ||| ((length >>> 11).toUInt8 &&& 0x03))
  writeU8 (length >>> 3).toUInt8
  writeU8 (((length &&& 0x07).toUInt8 <<< 5) ||| 0x1F)
  writeU8 0xFC
  let data ← extractRemainingBytes
  act fun self => { self with bytesWriter := self.bytesWriter.write data }

/-! ### What they do -/

/-- The configuration that two bytes say, but for the frequency. -/
def configure (aac : Mpeg4Aac) (byte0 byte1 : UInt8) : Mpeg4Aac := { aac with
  objectType := (byte0 >>> 3) &&& 0x1F
  samplingFrequencyIndex := frequencyIndex byte0 byte1
  channelConfiguration := (byte1 >>> 3) &&& 0x0F
  channels := (byte1 >>> 3) &&& 0x0F }

/-- The table has an entry for the index that two bytes say. -/
def Indexed (byte0 byte1 : UInt8) : Prop := (frequencyIndex byte0 byte1).toNat < 13

instance (byte0 byte1 : UInt8) : Decidable (Indexed byte0 byte1) :=
  inferInstanceAs (Decidable (_ < _))

variable {self : Mpeg4AacProcessor} {byte0 byte1 : UInt8} {rest payload : List UInt8}

theorem bind_updateAac {β : Type} {g : Mpeg4Aac → Mpeg4Aac} {f : Unit → Read Mpeg4AacProcessor β}
    {s : Reading Mpeg4AacProcessor} : (updateAac g >>= f) s =
      f () ⟨{ s.owner with mpeg4Aac := g s.owner.mpeg4Aac }, s.reader⟩ := rfl

theorem frequency_ok {index : UInt8} (h : index.toNat < 13) :
    ∃ samplingFrequency, frequency index = pure samplingFrequency := by
  have hGet : AAC_FREQUENCE[index.toNat]? = some AAC_FREQUENCE[index.toNat] :=
    List.getElem?_eq_getElem h
  refine ⟨AAC_FREQUENCE[index.toNat], ?_⟩
  rw [frequency, hGet]

theorem frequency_panic {index : UInt8} (h : ¬index.toNat < 13) : frequency index = throw .panic := by
  have hGet : AAC_FREQUENCE[index.toNat]? = none := List.getElem?_eq_none (Nat.not_lt.mp h)
  rw [frequency, hGet]

/-- Two bytes in the table: the configuration is loaded, and nothing is left. -/
theorem audioSpecificConfigLoad_ok (h : Indexed byte0 byte1) :
    ∃ samplingFrequency, audioSpecificConfigLoad ⟨self, ⟨byte0 :: byte1 :: rest⟩⟩ = .ok ()
      ⟨{ self with mpeg4Aac :=
          { configure self.mpeg4Aac byte0 byte1 with samplingFrequency } }, ⟨[]⟩⟩ := by
  obtain ⟨samplingFrequency, hFrequency⟩ := frequency_ok h
  refine ⟨samplingFrequency, ?_⟩
  rw [audioSpecificConfigLoad, bind_of_ok (readU8_cons byte0), bind_updateAac,
    bind_of_ok (readU8_cons byte1), bind_updateAac, hFrequency]
  rfl

theorem audioSpecificConfigLoad_panics (h : ¬Indexed byte0 byte1) :
    Panics (audioSpecificConfigLoad ⟨self, ⟨byte0 :: byte1 :: rest⟩⟩) := by
  rw [audioSpecificConfigLoad, bind_of_ok (readU8_cons byte0), bind_updateAac,
    bind_of_ok (readU8_cons byte1), bind_updateAac, frequency_panic h]
  exact ⟨_, rfl⟩

/-- The header of a frame with a payload of a length. -/
def adtsHeader (aac : Mpeg4Aac) (payloadLength : Nat) : List UInt8 :=
  let length := UInt32.ofNat (payloadLength + 7)
  [0xFF, 0xF1,
    (UInt8.ofNat (aac.objectType.toNat - 1) <<< 6) ||| ((aac.samplingFrequencyIndex &&& 0x0F) <<< 2) |||
      ((aac.channelConfiguration >>> 2) &&& 0x01),
    ((aac.channelConfiguration &&& 0x03) <<< 6) ||| ((length >>> 11).toUInt8 &&& 0x03),
    (length >>> 3).toUInt8,
    ((length &&& 0x07).toUInt8 <<< 5) ||| 0x1F,
    0xFC]

theorem bind_writeU8 {β : Type} {byte : UInt8} {f : Unit → Read Mpeg4AacProcessor β}
    {s : Reading Mpeg4AacProcessor} : (writeU8 byte >>= f) s =
      f () ⟨{ s.owner with bytesWriter := s.owner.bytesWriter.writeU8 byte }, s.reader⟩ := rfl

theorem adtsSave_ok (h : self.mpeg4Aac.objectType ≠ 0) :
    adtsSave ⟨self, ⟨payload⟩⟩ = .ok () ⟨{ self with bytesWriter :=
      ⟨self.bytesWriter.bytes ++ adtsHeader self.mpeg4Aac payload.length ++ payload⟩ }, ⟨[]⟩⟩ := by
  have hOne : 1 ≤ self.mpeg4Aac.objectType.toNat :=
    Nat.one_le_iff_ne_zero.mpr fun hZero => h (UInt8.toNat_inj.mp hZero)
  rw [adtsSave, bind_len, bind_writeU8, bind_writeU8, bind_owner, sub_ok hOne]
  simp only [pure_bind, bind_writeU8]
  rw [bind_of_ok extractRemainingBytes_apply, act_apply]
  simp only [BytesWriter.writeU8, BytesWriter.write, adtsHeader, BytesReader.len, List.append_assoc,
    List.cons_append, List.nil_append]
  rfl

theorem adtsSave_panics (h : self.mpeg4Aac.objectType = 0) (reader : BytesReader) :
    Panics (adtsSave ⟨self, reader⟩) := by
  rw [adtsSave, bind_len, bind_writeU8, bind_writeU8, bind_owner]
  have hProfile : self.mpeg4Aac.objectType.toNat < 1 := by
    rw [h]
    decide
  simp only [sub_panic hProfile]
  exact ⟨_, rfl⟩

end Mpeg4AacProcessor

end Xiu.Flv
