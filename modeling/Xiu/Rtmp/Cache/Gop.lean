import Xiu.ProofKit.Groups
import Xiu.StreamHub.Define

/-! The groups of pictures that are kept for new subscribers, of `protocol/rtmp/src/cache/gop.rs`: what
they are after any frames. -/

namespace Xiu.Rtmp

open StreamHub ProofKit

structure Gop where
  datas : List FrameData
  deriving DecidableEq

namespace Gop

def new : Gop := ⟨[]⟩

def saveFrameData (self : Gop) (data : FrameData) : Gop := ⟨self.datas ++ [data]⟩

end Gop

structure Gops where
  gops : List Gop
  size : Nat
  deriving DecidableEq

namespace Gops

def new (size : Nat) : Gops := ⟨[Gop.new], size⟩

/-- A key frame opens a group, and the oldest one goes when there is no room. -/
def openGop (self : Gops) (isKeyFrame : Bool) : Gops :=
  if isKeyFrame then
    let gops := if self.gops.length = self.size then self.gops.tail else self.gops
    { self with gops := gops ++ [Gop.new] }
  else self

def saveFrameData (self : Gops) (data : FrameData) (isKeyFrame : Bool) : Gops :=
  if self.size = 0 then self
  else
    let self := self.openGop isKeyFrame
    { self with gops := self.gops.modifyLast (·.saveFrameData data) }

def setted (self : Gops) : Bool := self.size != 0

def getGops (self : Gops) : List Gop := self.gops

/-- A call of `save_frame_data`: the frame, and whether it is a key frame. -/
abbrev Call := FrameData × Bool

def saveAll (self : Gops) (calls : List Call) : Gops :=
  calls.foldl (fun self call => self.saveFrameData call.1 call.2) self

/-! ### What is kept -/

/-- The group of the frames of some calls. -/
def gopOf (calls : List Call) : Gop := ⟨calls.map Prod.fst⟩

theorem saveAll_concat (self : Gops) (calls : List Call) (call : Call) :
    self.saveAll (calls ++ [call]) = (self.saveAll calls).saveFrameData call.1 call.2 := by
  rw [saveAll, List.foldl_append]
  rfl

theorem map_modifyLast_gopOf (groups : List (List Call)) (call : Call) :
    (groups.map gopOf).modifyLast (·.saveFrameData call.1) =
      (groups.modifyLast (· ++ [call])).map gopOf := by
  rcases List.eq_nil_or_concat groups with rfl | ⟨before, last, rfl⟩
  · rfl
  · rw [List.concat_eq_append, List.map_append, List.map_singleton, List.modifyLast_concat,
      List.modifyLast_concat, List.map_append, List.map_singleton]
    simp only [gopOf, Gop.saveFrameData, List.map_append, List.map_singleton]

/-- The oldest group goes exactly when the groups of the calls are as many as there is room for. -/
theorem openGop_rtake {groups : List (List Call)} {size : Nat} (hSize : 0 < size) :
    (openGop ⟨(groups.rtake size).map gopOf, size⟩ true).gops =
      ((groups ++ [[]]).rtake size).map gopOf := by
  obtain ⟨n, rfl⟩ : ∃ n, size = n + 1 := ⟨size - 1, by omega⟩
  have hLength := length_rtake groups (n + 1)
  rw [List.rtake_concat_succ, List.map_append]
  simp only [openGop, if_true, List.length_map]
  by_cases hRoom : groups.length ≤ n
  · rw [if_neg (by omega), rtake_eq_self hRoom, rtake_eq_self (by omega)]
    rfl
  · have hTail : (groups.rtake (n + 1)).tail = groups.rtake n := by
      rw [List.rtake, List.rtake, List.tail_drop]
      congr 1
      omega
    rw [if_pos (by omega), ← List.map_tail, hTail]
    rfl

/-- The groups that are kept are the last groups of the calls. -/
theorem saveAll_eq {size : Nat} (hSize : 0 < size) (calls : List Call) :
    (new size).saveAll calls = ⟨((groups Prod.snd calls).rtake size).map gopOf, size⟩ := by
  induction calls using List.reverseRecOn with
  | nil =>
    rw [groups, List.foldl_nil, rtake_eq_self (by exact hSize)]
    rfl
  | append_singleton calls call ih =>
    obtain ⟨n, rfl⟩ : ∃ n, size = n + 1 := ⟨size - 1, by omega⟩
    rw [saveAll_concat, ih, saveFrameData, if_neg (by exact Nat.succ_ne_zero n), groups_concat, addTo]
    by_cases hKey : call.2 = true
    · rw [hKey, if_pos rfl]
      have hOpened := @openGop_rtake (groups Prod.snd calls) _ hSize
      simp only [hOpened]
      rw [List.rtake_concat_succ, List.rtake_concat_succ, map_modifyLast_gopOf,
        List.modifyLast_concat]
      rfl
    · rw [if_neg hKey, modifyLast_rtake, ← map_modifyLast_gopOf]
      simp only [openGop, if_neg hKey]

/-- What is kept of the calls: groups, no more than there is room for, that together are what the calls
end with.  Every group begins with a key frame, but for the one that is open before any key frame is
saved; and once there are enough key frames, the groups begin with the last but so many. -/
structure Replay (size : Nat) (calls : List Call) (kept : List (List Call)) : Prop where
  bounded : kept.length ≤ size
  suffix : kept.flatten <:+ calls
  keyed : ∀ i group, kept[i]? = some group → (∃ data rest, group = (data, true) :: rest) ∨
    (i = 0 ∧ kept.flatten = calls ∧ ∀ call ∈ group, call.2 = false)
  exact : size ≤ calls.countP Prod.snd → ∃ before data after,
    calls = before ++ (data, true) :: after ∧ after.countP Prod.snd = size - 1 ∧
      kept.flatten = (data, true) :: after

theorem keyed_rtake_groups {calls : List Call} {size i : Nat} {group : List Call}
    (h : ((groups Prod.snd calls).rtake size)[i]? = some group) :
    (∃ data rest, group = (data, true) :: rest) ∨
      (i = 0 ∧ ((groups Prod.snd calls).rtake size).flatten = calls ∧
        ∀ call ∈ group, call.2 = false) := by
  obtain ⟨first, opened, hGroups, hGrouped⟩ := @groups_grouped _ Prod.snd calls
  have hOpened : group ∈ opened → ∃ data rest, group = (data, true) :: rest := by
    intro hMem
    obtain ⟨⟨data, isKeyFrame⟩, rest, rfl, hKey, -⟩ := hGrouped.opens group hMem
    cases hKey
    exact ⟨data, rest, rfl⟩
  rw [hGroups] at h ⊢
  by_cases hRoom : size ≤ opened.length
  · rw [rtake_cons hRoom] at h
    exact .inl (hOpened ((rtake_suffix opened size).subset (List.mem_of_getElem? h)))
  · rw [rtake_eq_self (by rw [List.length_cons]; omega)] at h ⊢
    cases i with
    | zero =>
      cases h
      exact .inr ⟨rfl, hGrouped.flatten, hGrouped.unopened⟩
    | succ i => exact .inl (hOpened (List.mem_of_getElem? h))

theorem flatten_groups (calls : List Call) : (groups Prod.snd calls).flatten = calls := by
  obtain ⟨first, opened, hGroups, hGrouped⟩ := @groups_grouped _ Prod.snd calls
  rw [hGroups]
  exact hGrouped.flatten

/-- The frames that are handed out are what the saved frames end with. -/
theorem getGops_suffix {size : Nat} (hSize : 0 < size) (calls : List Call) :
    ((new size).saveAll calls).getGops.flatMap (·.datas) <:+ calls.map Prod.fst := by
  have hDatas : ∀ kept : List (List Call),
      (kept.map gopOf).flatMap (·.datas) = kept.flatten.map Prod.fst := by
    intro kept
    rw [List.flatMap_map, List.map_flatten]
    rfl
  obtain ⟨before, hBefore⟩ := rtake_suffix (groups Prod.snd calls) size
  refine ⟨before.flatten.map Prod.fst, ?_⟩
  rw [saveAll_eq hSize, getGops, hDatas, ← List.map_append, ← List.flatten_append, hBefore,
    flatten_groups]

/-- Whatever frames are saved, the groups that are handed out are what the frames end with. -/
theorem replay_decodable {size : Nat} (hSize : 0 < size) (calls : List Call) :
    ∃ kept, Replay size calls kept ∧ ((new size).saveAll calls).getGops = kept.map gopOf := by
  refine ⟨(groups Prod.snd calls).rtake size, ⟨?_, ?_, ?_, ?_⟩, by rw [saveAll_eq hSize]; rfl⟩
  · rw [length_rtake]
    omega
  · obtain ⟨before, hBefore⟩ := rtake_suffix (groups Prod.snd calls) size
    refine ⟨before.flatten, ?_⟩
    rw [← List.flatten_append, hBefore, flatten_groups]
  · intro i group h
    exact keyed_rtake_groups h
  · intro hKeys
    obtain ⟨before, ⟨data, isKeyFrame⟩, after, hCalls, hKey, hCount, hKept⟩ := rtake_groups hSize hKeys
    cases hKey
    exact ⟨before, data, after, hCalls, hCount, hKept⟩

/-- An audio frame and two groups, of which one is kept. -/
theorem second_group_kept : ∃ kept,
    Replay 1 [(.audio 0 [], false), (.video 1 [], true), (.video 2 [], true), (.audio 3 [], false)] kept ∧
      ((new 1).saveAll [(.audio 0 [], false), (.video 1 [], true), (.video 2 [], true),
        (.audio 3 [], false)]).getGops = kept.map gopOf :=
  replay_decodable (by decide) _

end Gops

end Xiu.Rtmp
