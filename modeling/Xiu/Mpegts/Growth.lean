import Xiu.Mpegts.TsMuxer

/-! What the TS muxer writes is only ever appended: a call of `write`, whether it succeeds or not, leaves
the bytes that are there where they are. -/

namespace Xiu.Mpegts

open Bytesio ProofKit

/-- The bytes that are there stay where they are. -/
def Grows (m m' : TsMuxer) : Prop := m.bytesWriter.bytes <+: m'.bytesWriter.bytes

theorem Grows.trans {m m' m'' : TsMuxer} (h : Grows m m') (h' : Grows m' m'') : Grows m m'' :=
  List.IsPrefix.trans h h'

theorem grows_refl (m : TsMuxer) : Grows m m := List.prefix_refl _

theorem grows_append (bytes : List UInt8) (m : TsMuxer) : Grows m (m.append bytes) :=
  List.prefix_append _ _

variable {α β : Type}

theorem grows_bind {x : Mux α} {f : α → Mux β} (hx : ∀ m, Grows m (stateOf (x m)))
    (hf : ∀ a m, Grows m (stateOf (f a m))) (m : TsMuxer) : Grows m (stateOf ((x >>= f) m)) :=
  stateOf_bind (R := Grows) Grows.trans (hx m) hf

theorem grows_modify {g : TsMuxer → TsMuxer} {f : Unit → Mux β} (hg : ∀ m, Grows m (g m))
    (hf : ∀ m, Grows m (stateOf (f () m))) (m : TsMuxer) :
    Grows m (stateOf (((modify g : Mux Unit) >>= f) m)) := by
  rw [bind_modify]
  exact (hg m).trans (hf (g m))

theorem grows_ofExcept (x : Except MuxFault α) (m : TsMuxer) : Grows m (stateOf (ofExcept x m)) := by
  cases x with
  | ok a => exact grows_refl m
  | error e => exact grows_refl m

namespace TsMuxer

theorem grows_curPmt (m : TsMuxer) : Grows m (stateOf (curPmt m)) := by
  unfold curPmt
  split
  · exact grows_refl m
  · exact grows_refl m

theorem grows_curStream (m : TsMuxer) : Grows m (stateOf (curStream m)) := by
  unfold curStream
  split
  · exact grows_refl m
  · exact grows_refl m

theorem grows_writeTsHeaderForPatPmt (pid : UInt16) (payload : List UInt8) (continuityCounter : UInt8)
    (m : TsMuxer) : Grows m (stateOf (writeTsHeaderForPatPmt pid payload continuityCounter m)) := by
  unfold writeTsHeaderForPatPmt
  apply grows_modify
  · exact grows_append _
  apply grows_modify
  · exact grows_append _
  apply grows_bind
  · exact grows_ofExcept _
  intro leftSize
  apply grows_bind
  · exact grows_ofExcept _
  · exact fun leftSize m => grows_append _ m

theorem grows_writePmts (pmts : List Pmt) (m : TsMuxer) : Grows m (stateOf (writePmts pmts m)) := by
  induction pmts generalizing m with
  | nil => exact grows_refl m
  | cons pmt rest ih =>
    unfold writePmts
    apply grows_bind
    · exact grows_ofExcept _
    intro payload m
    rw [bind_get]
    apply grows_bind
    · exact grows_writeTsHeaderForPatPmt _ _ _
    · exact fun _ => grows_modify grows_refl ih

theorem grows_writePatPmt (m : TsMuxer) : Grows m (stateOf (writePatPmt m)) := by
  unfold writePatPmt
  rw [bind_get, bind_get]
  apply grows_bind
  · exact grows_writeTsHeaderForPatPmt _ _ _
  · exact fun _ => grows_modify grows_refl fun m => grows_writePmts m.pat.pmt m

theorem grows_pesHeaderFor (isStart : Bool) (n : Nat) (m : TsMuxer) :
    Grows m (stateOf (pesHeaderFor isStart n m)) := by
  cases isStart with
  | false => exact grows_refl m
  | true =>
    apply grows_bind
    · exact grows_curStream
    · exact fun stream m => grows_ofExcept _ m

theorem grows_writeTsHeaderForPes (pesHeaderLength n : Nat) (isStart : Bool) (m : TsMuxer) :
    Grows m (stateOf (writeTsHeaderForPes pesHeaderLength n isStart m)) := by
  unfold writeTsHeaderForPes
  apply grows_bind
  · exact grows_curPmt
  intro pmt
  apply grows_bind
  · exact grows_curStream
  intro stream
  apply grows_modify
  · exact grows_refl
  apply grows_bind
  · exact grows_ofExcept _
  · exact fun tsHeader => grows_ofExcept _

theorem grows_pesPacket (isStart : Bool) (n : Nat) (m : TsMuxer) :
    Grows m (stateOf (pesPacket isStart n m)) := by
  unfold pesPacket
  apply grows_bind
  · exact grows_pesHeaderFor isStart n
  intro pesMuxer
  apply grows_bind
  · exact grows_writeTsHeaderForPes _ n isStart
  · exact fun _ => grows_refl

theorem grows_pesTurn (isStart : Bool) (s : Reading TsMuxer) :
    Grows s.owner (stateOf (pesTurn isStart s)).owner := by
  unfold pesTurn
  have hPacket := grows_pesPacket isStart s.reader.len s.owner
  split
  · exact grows_refl _
  cases h : pesPacket isStart s.reader.len s.owner with
  | error e m =>
    rw [h] at hPacket
    exact hPacket
  | ok p m =>
    rw [h] at hPacket
    obtain ⟨headers, payloadLength⟩ := p
    dsimp only
    split
    · exact hPacket
    · exact hPacket.trans (grows_append _ m)

theorem grows_writePes (payload : List UInt8) (m : TsMuxer) :
    Grows m (stateOf (writePes payload m)) := by
  have hLoop := @stateOf_loopM _ _ _ _ pesTurn (·.reader.len) pesTurn_decreases
    (fun s s' => Grows s.owner s'.owner) Grows.trans grows_pesTurn true ⟨m, ⟨payload⟩⟩
  unfold writePes
  split
  · rename_i h
    rw [h] at hLoop
    exact hLoop
  · rename_i h
    rw [h] at hLoop
    exact hLoop

theorem grows_findStream (pid : UInt16) (m : TsMuxer) : Grows m (stateOf (findStream pid m)) := by
  unfold findStream
  split
  · exact grows_refl m
  · exact grows_refl m

theorem grows_writePatPmtIfDue (dts : Int64) (m : TsMuxer) :
    Grows m (stateOf (writePatPmtIfDue dts m)) := by
  unfold writePatPmtIfDue
  apply grows_bind
  · intro m
    unfold patPmtDue
    split
    · exact grows_refl m
    split
    · exact grows_refl m
    · exact grows_refl m
  · intro due
    cases due with
    | true => exact grows_modify grows_refl grows_writePatPmt
    | false => exact grows_refl

/-- A call of `write` only appends. -/
theorem grows_write (pid : UInt16) (pts dts : Int64) (flags : UInt16) (payload : List UInt8)
    (m : TsMuxer) : Grows m (stateOf (write pid pts dts flags payload m)) := by
  have hClock : ∀ pmt stream (m : TsMuxer), Grows m (takeClock pmt stream m) := by
    intro pmt stream m
    unfold takeClock
    split
    · exact grows_refl m
    · exact grows_refl m
  unfold write
  apply grows_modify
  · exact grows_refl
  apply grows_bind
  · exact grows_findStream pid
  intro _
  apply grows_bind
  · exact grows_curPmt
  intro pmt
  apply grows_bind
  · exact grows_curStream
  intro stream
  apply grows_modify
  · exact hClock pmt stream
  apply grows_modify
  · exact grows_refl
  apply grows_bind
  · exact grows_writePatPmtIfDue dts
  · exact fun _ => grows_writePes payload

end TsMuxer

end Xiu.Mpegts
