import Protogate.Lib.Access
import Protogate.Wire.Agreement

/-!
# The splitter by accesses

`process_tcp_frames` and `handle_tcp_frame` once more, by single accesses to the
buffer of a read.  The loop runs on the number of bytes consumed, which every frame
increases.  What it takes off the buffer are exactly frames in the documented format,
and it goes on as long as there is one with a payload it accepts.  The forwarder, which
gets the frames, is taken to return; so are calls of the logger.

## Main definitions

* `frameSizeFrom`, `handleTcpFrameFrom`, `processTcpFramesFrom` — `none` where a byte
  outside the buffer is read.
* `exists_tcpFrame_of_takeFrame` — a frame taken off a buffer is a documented one.
* `StopsAt` — the reasons to stop.
* `processTcpFrames_maximal` — the splitter is maximal and exact.
-/

namespace Protogate.TunnelAgent

open Protogate.Lib Protogate.Wire Protogate.Agreement
open Protogate.Proxy (connectionIdOfBytes connectionIdOfBytes_of_length connectionIdOfBytes_toList)

/-! ## The loop -/

/-- The size of the frame at `consumed`, or 0 where the loop stops. -/
def frameSizeFrom (data : Bytes) (consumed : ℕ) : Option ℕ := do
  let remaining := data.length - consumed
  let type ← data[consumed]?
  if type < 0x10 ∨ 0x14 < type then return 0
  else if type = 0x10 then return 19
  else if type = 0x11 then
    if 25 ≤ remaining then do
      let dataLen ← numberAt data (consumed + 21) 4
      return if 65536 < dataLen then 0 else 25 + dataLen
    else return 0
  else if type = 0x12 then return 19
  else if type = 0x13 then
    if 21 ≤ remaining then do
      let msgLen ← numberAt data (consumed + 19) 2
      return 21 + msgLen
    else return 0
  else return 25

/-- `handle_tcp_frame` with a forwarder: the call it makes. -/
def handleTcpFrameFrom (frame : Bytes) : Option (Option ForwarderCall) :=
  if frame.length < 1 then some none
  else do
    let type ← frame[0]?
    if frame.length < 17 then return none
    else do
      let id ← (copyAt frame 1 16).bind connectionIdOfBytes
      if type = 0x10 then
        if 19 ≤ frame.length then do
          let targetPort ← numberAt frame 17 2
          return some (.tcpOpen id (.ofNat targetPort))
        else return none
      else if type = 0x11 then
        if 25 ≤ frame.length then do
          let dataLen ← numberAt frame 21 4
          if (25 + dataLen) % 2 ^ 32 ≤ frame.length then do
            let data ← copyAt frame 25 dataLen
            return some (.tcpData id data)
          else return none
        else return none
      else if type = 0x12 then return some (.tcpClose id)
      else if type = 0x13 then
        if 21 ≤ frame.length then do
          let errorCode ← numberAt frame 17 2
          let msgLen ← numberAt frame 19 2
          let message ← if 21 + msgLen ≤ frame.length then copyAt frame 21 msgLen else some []
          return some (.tcpError id (.ofNat errorCode) message)
        else return none
      else return none

/-- `process_tcp_frames` from the byte `consumed` on: the frames passed to
`handle_tcp_frame`, and the number of bytes consumed in the end. -/
def processTcpFramesFrom (data : Bytes) (consumed : ℕ) : Option (List Bytes × ℕ) :=
  if consumed < data.length then
    match frameSizeFrom data consumed with
    | none => none
    | some size =>
        if size = 0 ∨ data.length - consumed < size then some ([], consumed)
        else
          match (copyAt data consumed size).bind fun frame =>
              (handleTcpFrameFrom frame).map fun _ => frame with
          | none => none
          | some frame =>
              (processTcpFramesFrom data (consumed + size)).map fun r => (frame :: r.1, r.2)
  else some ([], consumed)
termination_by data.length - consumed

/-! ## Documented frames -/

/-- A frame and what follows its header. -/
theorem exists_header {frame : Bytes} (hlen : 17 ≤ frame.length) :
    ∃ id, frame = TcpFrame.header (frame.headD 0) id ++ frame.drop 17 := by
  have hid : ((frame.drop 1).take 16).length = 16 := by
    rw [List.length_take, List.length_drop]
    omega
  refine ⟨⟨((frame.drop 1).take 16).toArray, by simpa using hid⟩, ?_⟩
  cases frame with
  | nil => simp at hlen
  | cons b rest =>
      have hsplit : rest = rest.take 16 ++ rest.drop 16 := (List.take_append_drop 16 rest).symm
      simp [TcpFrame.header]

/-- The bytes of a field and what follows it. -/
theorem drop_eq_be_append {off w : ℕ} {data : Bytes} (h : off + w ≤ data.length) :
    data.drop off = be w (field off w data) ++ data.drop (off + w) := by
  rw [be_field h, take_drop_append]

/-- A number of two bytes as the source holds it. -/
theorem toNat_field16 (off : ℕ) (data : Bytes) :
    (UInt16.ofNat (field off 2 data)).toNat = field off 2 data :=
  UInt16.toNat_ofNat_of_lt (field_lt off 2 data)

theorem toNat_field32 (off : ℕ) (data : Bytes) :
    (UInt32.ofNat (field off 4 data)).toNat = field off 4 data :=
  UInt32.toNat_ofNat_of_lt (field_lt off 4 data)

/-- The frames as long as the splitter reads off them. -/
theorem frameSize_cases {frame : Bytes} (hne : frame ≠ [])
    (hsize : frameSize frame = frame.length) :
    (frame.headD 0 = 0x10 ∧ frame.length = 19) ∨
      (frame.headD 0 = 0x11 ∧ 25 ≤ frame.length ∧ field 21 4 frame ≤ 65536 ∧
        frame.length = 25 + field 21 4 frame) ∨
      (frame.headD 0 = 0x12 ∧ frame.length = 19) ∨
      (frame.headD 0 = 0x13 ∧ 21 ≤ frame.length ∧ frame.length = 21 + field 19 2 frame) ∨
      (frame.headD 0 = 0x14 ∧ frame.length = 25) := by
  have hpos : 0 < frame.length := List.length_pos_iff.mpr hne
  obtain ⟨type, tail, rfl⟩ := List.exists_cons_of_ne_nil hne
  simp only [frameSize] at hsize
  simp only [List.headD_cons]
  split at hsize
  · exact .inl ⟨‹_›, hsize.symm⟩
  · split at hsize
    · split at hsize
      · split at hsize
        · omega
        · exact .inr (.inl ⟨‹_›, ‹_›, by omega, hsize.symm⟩)
      · omega
    · split at hsize
      · exact .inr (.inr (.inl ⟨‹_›, hsize.symm⟩))
      · split at hsize
        · split at hsize
          · exact .inr (.inr (.inr (.inl ⟨‹_›, ‹_›, hsize.symm⟩)))
          · omega
        · split at hsize
          · exact .inr (.inr (.inr (.inr ⟨‹_›, hsize.symm⟩)))
          · omega

/-- A frame as long as the splitter reads off it is a documented one. -/
theorem exists_tcpFrame_of_frameSize {frame : Bytes} (hne : frame ≠ [])
    (hsize : frameSize frame = frame.length) : ∃ f, PayloadFits f ∧ f.bytes = frame := by
  -- every frame is its header, its numbers and the rest
  rcases frameSize_cases hne hsize with ⟨htype, hlen⟩ | ⟨htype, hlong, hfit, hlen⟩ |
    ⟨htype, hlen⟩ | ⟨htype, hlong, hlen⟩ | ⟨htype, hlen⟩
  · obtain ⟨id, hframe⟩ := exists_header (show 17 ≤ frame.length by omega)
    have hport := drop_eq_be_append (show 17 + 2 ≤ frame.length by omega)
    have hend : frame.drop (17 + 2) = [] := List.drop_eq_nil_of_le (by omega)
    refine ⟨.tcpOpen id (.ofNat (field 17 2 frame)), Nat.zero_le _, ?_⟩
    rw [TcpFrame.bytes, toNat_field16]
    rw [htype, hport, hend, List.append_nil] at hframe
    exact hframe.symm
  · obtain ⟨id, hframe⟩ := exists_header (show 17 ≤ frame.length by omega)
    have hseq := drop_eq_be_append (show 17 + 4 ≤ frame.length by omega)
    have hnum := drop_eq_be_append (show 21 + 4 ≤ frame.length by omega)
    have hpayload : (frame.drop 25).length = field 21 4 frame := by
      rw [List.length_drop]
      omega
    refine ⟨.tcpData id (.ofNat (field 17 4 frame)) (frame.drop 25) (by omega), ?_, ?_⟩
    · simp only [PayloadFits, TcpFrame.payload, hpayload, hfit]
    · rw [TcpFrame.bytes, toNat_field32, hpayload]
      rw [htype, hseq, hnum] at hframe
      exact hframe.symm
  · obtain ⟨id, hframe⟩ := exists_header (show 17 ≤ frame.length by omega)
    have hreason := drop_eq_be_append (show 17 + 2 ≤ frame.length by omega)
    have hend : frame.drop (17 + 2) = [] := List.drop_eq_nil_of_le (by omega)
    refine ⟨.tcpClose id (.ofNat (field 17 2 frame)), Nat.zero_le _, ?_⟩
    rw [TcpFrame.bytes, toNat_field16]
    rw [htype, hreason, hend, List.append_nil] at hframe
    exact hframe.symm
  · obtain ⟨id, hframe⟩ := exists_header (show 17 ≤ frame.length by omega)
    have hcode := drop_eq_be_append (show 17 + 2 ≤ frame.length by omega)
    have hnum := drop_eq_be_append (show 19 + 2 ≤ frame.length by omega)
    have hmessage : (frame.drop 21).length = field 19 2 frame := by
      rw [List.length_drop]
      omega
    have hlt := field_lt 19 2 frame
    refine ⟨.tcpError id (.ofNat (field 17 2 frame)) (frame.drop 21) (by omega), Nat.zero_le _, ?_⟩
    rw [TcpFrame.bytes, toNat_field16, hmessage]
    rw [htype, hcode, hnum] at hframe
    exact hframe.symm
  · obtain ⟨id, hframe⟩ := exists_header (show 17 ≤ frame.length by omega)
    have hack := drop_eq_be_append (show 17 + 4 ≤ frame.length by omega)
    have hwindow := drop_eq_be_append (show 21 + 4 ≤ frame.length by omega)
    have hend : frame.drop (21 + 4) = [] := List.drop_eq_nil_of_le (by omega)
    refine ⟨.tcpAck id (.ofNat (field 17 4 frame)) (.ofNat (field 21 4 frame)), Nat.zero_le _, ?_⟩
    rw [TcpFrame.bytes, toNat_field32, toNat_field32]
    rw [htype, hack, hwindow, hend, List.append_nil] at hframe
    exact hframe.symm

/-- The size read off the front of a buffer is the size read off the frame taken. -/
theorem frameSize_take {data : Bytes} (h0 : frameSize data ≠ 0)
    (hle : frameSize data ≤ data.length) : frameSize (data.take (frameSize data)) = frameSize data := by
  generalize hn : frameSize data = n at h0 hle
  obtain ⟨type, tail, rfl⟩ : ∃ type tail, data = type :: tail := by
    cases data with
    | nil => exact absurd hn.symm h0
    | cons type tail => exact ⟨type, tail, rfl⟩
  obtain ⟨k, rfl⟩ : ∃ k, n = k + 1 := ⟨n - 1, by omega⟩
  have hlen : ((type :: tail).take (k + 1)).length = k + 1 := by
    rw [List.length_take]
    omega
  have hcons : (type :: tail).take (k + 1) = type :: tail.take k := rfl
  have hdata : 25 ≤ k + 1 → field 21 4 ((type :: tail).take (k + 1)) = field 21 4 (type :: tail) :=
    fun h => field_take h _
  have herror : 21 ≤ k + 1 → field 19 2 ((type :: tail).take (k + 1)) = field 19 2 (type :: tail) :=
    fun h => field_take h _
  rw [hcons] at hlen hdata herror ⊢
  simp only [frameSize, hlen] at hn ⊢
  by_cases h10 : type = 0x10
  · simpa only [h10, if_true] using hn
  · by_cases h11 : type = 0x11
    · subst h11
      simp only [h10, if_false, if_true] at hn ⊢
      split at hn
      · split at hn
        · omega
        · have hlong : 25 ≤ k + 1 := by omega
          rw [if_pos hlong, hdata hlong, if_neg ‹_›, hn]
      · omega
    · by_cases h13 : type = 0x13
      · subst h13
        simp only [h10, h11, show ¬ (0x13 : UInt8) = 0x12 by decide, if_false, if_true] at hn ⊢
        split at hn
        · have hlong : 21 ≤ k + 1 := by omega
          rw [if_pos hlong, herror hlong, hn]
        · omega
      · -- the other sizes do not depend on the bytes
        simpa only [h10, h11, h13, if_false] using hn

/-- A frame taken off a buffer is as long as the size it gives. -/
theorem frameSize_of_takeFrame {data frame rest : Bytes}
    (h : takeFrame frameSize data = some (frame, rest)) : frameSize frame = frame.length := by
  simp only [takeFrame] at h
  split at h
  · cases h
  · rename_i hsize
    obtain ⟨h0, hle⟩ := not_or.mp hsize
    have hframe : data.take (frameSize data) = frame := congrArg Prod.fst (Option.some.inj h)
    have htake := frameSize_take h0 (by omega)
    rw [hframe] at htake
    rw [htake, ← hframe, List.length_take]
    omega

/-- **A frame taken off a buffer** is in the documented format. -/
theorem exists_tcpFrame_of_takeFrame {data frame rest : Bytes}
    (h : takeFrame frameSize data = some (frame, rest)) : ∃ f, PayloadFits f ∧ f.bytes = frame :=
  exists_tcpFrame_of_frameSize (takeFrame_eq_some h).1 (frameSize_of_takeFrame h)

/-! ## The accesses -/

/-- A byte is the type of no TCP frame, or one of the five. -/
theorem foreign_or_type (type : UInt8) : (type < 0x10 ∨ 0x14 < type) ∨
    type = 0x10 ∨ type = 0x11 ∨ type = 0x12 ∨ type = 0x13 ∨ type = 0x14 := by
  simp only [UInt8.lt_iff_toNat_lt, ← UInt8.toNat_inj, UInt8.toNat_ofNat]
  omega

theorem frameSizeFrom_eq {data : Bytes} {consumed : ℕ} (h : consumed < data.length) :
    frameSizeFrom data consumed = some (frameSize (data.drop consumed)) := by
  have hdrop : data.drop consumed = data[consumed] :: data.drop (consumed + 1) :=
    List.drop_eq_getElem_cons h
  have hlen : (data.drop consumed).length = data.length - consumed := List.length_drop
  have hfirst : data[consumed]? = some data[consumed] := List.getElem?_eq_getElem h
  have hdata : 25 ≤ data.length - consumed →
      numberAt data (consumed + 21) 4 = some (field 21 4 (data.drop consumed)) := by
    intro hlong
    rw [numberAt_eq (by omega), field_drop]
  have herror : 21 ≤ data.length - consumed →
      numberAt data (consumed + 19) 2 = some (field 19 2 (data.drop consumed)) := by
    intro hlong
    rw [numberAt_eq (by omega), field_drop]
  have hsize : frameSize (data.drop consumed) =
      if data[consumed] = 0x10 then 19
      else if data[consumed] = 0x11 then
        if 25 ≤ data.length - consumed then
          if 65536 < field 21 4 (data.drop consumed) then 0
          else 25 + field 21 4 (data.drop consumed)
        else 0
      else if data[consumed] = 0x12 then 19
      else if data[consumed] = 0x13 then
        if 21 ≤ data.length - consumed then 21 + field 19 2 (data.drop consumed) else 0
      else if data[consumed] = 0x14 then 25
      else 0 := by
    rw [← hlen, hdrop]
    rfl
  generalize data[consumed] = type at hfirst hsize
  rw [hsize]
  simp only [frameSizeFrom, hfirst, Option.bind_eq_bind, Option.bind_some]
  obtain hforeign | rfl | rfl | rfl | rfl | rfl := foreign_or_type type
  · have hne : ∀ t : UInt8, 0x10 ≤ t → t ≤ 0x14 → type ≠ t := by
      rintro t hlow hhigh rfl
      obtain hless | hless := hforeign
      · exact absurd hlow (UInt8.not_le.mpr hless)
      · exact absurd hhigh (UInt8.not_le.mpr hless)
    simp only [hforeign, if_true, hne 0x10 (by decide) (by decide), hne 0x11 (by decide) (by decide),
      hne 0x12 (by decide) (by decide), hne 0x13 (by decide) (by decide),
      hne 0x14 (by decide) (by decide), if_false]
    rfl
  · rfl
  · by_cases hlong : 25 ≤ data.length - consumed
    · simp only [hlong, if_true, hdata hlong, Option.bind_some]
      rfl
    · simp only [hlong, if_false]
      rfl
  · rfl
  · by_cases hlong : 21 ≤ data.length - consumed
    · simp only [hlong, if_true, herror hlong, Option.bind_some]
      rfl
    · simp only [hlong, if_false]
      rfl
  · rfl

/-- On a frame as long as its size says the handler stays inside it. -/
theorem handleTcpFrameFrom_eq {frame : Bytes} (hne : frame ≠ [])
    (hsize : frameSize frame = frame.length) :
    handleTcpFrameFrom frame = some (forwarderCall frame) := by
  have hlong : 19 ≤ frame.length := by
    rcases frameSize_cases hne hsize with h | h | h | h | h <;> omega
  have hpayload : frame.headD 0 = 0x11 → 25 + field 21 4 frame ≤ frame.length := by
    intro htype
    rcases frameSize_cases hne hsize with h | h | h | h | h
    · exact absurd (htype.symm.trans h.1) (by decide)
    · omega
    · exact absurd (htype.symm.trans h.1) (by decide)
    · exact absurd (htype.symm.trans h.1) (by decide)
    · exact absurd (htype.symm.trans h.1) (by decide)
  have htype := getElem?_zero_eq_headD (show 0 < frame.length by omega)
  have hcopy : copyAt frame 1 16 = some ((frame.drop 1).take 16) := copyAt_eq (by omega)
  obtain ⟨id, hid⟩ := connectionIdOfBytes_of_length (show 17 ≤ frame.length by omega)
  have hempty : ¬ frame.length < 1 := by omega
  have hshort : ¬ frame.length < 17 := by omega
  have hcode : numberAt frame 17 2 = some (field 17 2 frame) := numberAt_eq hlong
  simp only [handleTcpFrameFrom, forwarderCall, hempty, hshort, if_false, htype, hcopy, hid,
    Option.bind_eq_bind, Option.bind_some]
  by_cases h10 : frame.headD 0 = 0x10
  · simp only [h10, hlong, if_true, hcode, Option.bind_some]
    rfl
  · by_cases h11 : frame.headD 0 = 0x11
    · have hinside := hpayload h11
      have hnum : numberAt frame 21 4 = some (field 21 4 frame) := numberAt_eq (by omega)
      have hpass : (25 + field 21 4 frame) % 2 ^ 32 ≤ frame.length :=
        Nat.le_trans (Nat.mod_le _ _) hinside
      simp only [h11, show 25 ≤ frame.length by omega, hpass, if_true, hnum, copyAt_eq hinside,
        Option.bind_some]
      rfl
    · by_cases h12 : frame.headD 0 = 0x12
      · simp only [h12, if_true]
        rfl
      · by_cases h13 : frame.headD 0 = 0x13
        · by_cases hhead : 21 ≤ frame.length
          · have hnum : numberAt frame 19 2 = some (field 19 2 frame) := numberAt_eq hhead
            by_cases hmessage : 21 + field 19 2 frame ≤ frame.length
            · simp only [h13, hhead, hmessage, if_true, hcode, hnum, copyAt_eq hmessage,
                Option.bind_some]
              rfl
            · simp only [h13, hhead, hmessage, if_true, if_false, hcode, hnum, Option.bind_some]
              rfl
          · simp only [h13, hhead, if_true, if_false]
            rfl
        · simp only [h10, h11, h12, h13, if_false]
          rfl

/-- The loop takes off what the splitter takes off. -/
theorem processTcpFramesFrom_eq {data : Bytes} {fuel consumed : ℕ} (hle : consumed ≤ data.length)
    (hfuel : data.length - consumed ≤ fuel) :
    processTcpFramesFrom data consumed =
      some ((splitFrames frameSize fuel (data.drop consumed)).1,
        data.length - (splitFrames frameSize fuel (data.drop consumed)).2.length) := by
  induction fuel generalizing consumed with
  | zero =>
      have hend : ¬ consumed < data.length := by omega
      have hall : data.drop consumed = [] := List.drop_eq_nil_of_le (by omega)
      rw [processTcpFramesFrom, if_neg hend]
      simp only [splitFrames, hall, List.length_nil]
      congr 2
      omega
  | succ fuel ih =>
      rw [processTcpFramesFrom]
      by_cases hmore : consumed < data.length
      · have hlen : (data.drop consumed).length = data.length - consumed := List.length_drop
        simp only [hmore, if_true, frameSizeFrom_eq hmore, splitFrames]
        by_cases hstop : frameSize (data.drop consumed) = 0 ∨
            data.length - consumed < frameSize (data.drop consumed)
        · have htake : takeFrame frameSize (data.drop consumed) = none := by
            rw [takeFrame, hlen, if_pos hstop]
          simp only [hstop, if_true, htake, hlen]
          congr 2
          omega
        · have htake : takeFrame frameSize (data.drop consumed) =
              some ((data.drop consumed).take (frameSize (data.drop consumed)),
                (data.drop consumed).drop (frameSize (data.drop consumed))) := by
            rw [takeFrame, hlen, if_neg hstop]
          have hne := (takeFrame_eq_some htake).1
          have hcall := handleTcpFrameFrom_eq hne (frameSize_of_takeFrame htake)
          obtain ⟨hpos, hfits⟩ := not_or.mp hstop
          have hcopy := copyAt_eq (show consumed + frameSize (data.drop consumed) ≤ data.length by omega)
          have hrec := ih (show consumed + frameSize (data.drop consumed) ≤ data.length by omega)
            (by omega)
          simp only [hstop, if_false, htake, hcopy, hcall, Option.bind_some, Option.map_some, hrec,
            List.drop_drop]
      · have hall : data.drop consumed = [] := List.drop_eq_nil_of_le (by omega)
        simp only [hmore, if_false, hall, splitFrames, takeFrame_nil, List.length_nil]
        congr 2
        omega

/-! ## Maximality -/

/-- The reasons to stop: the buffer is used up, the next byte is not a frame type, no whole
frame is left, or the next header announces too large a payload. -/
inductive StopsAt : Bytes → Prop
  | done : StopsAt []
  | foreign {b : UInt8} {rest : Bytes} (h : isTcpType b = false) : StopsAt (b :: rest)
  | incomplete {rest : Bytes} (h : ∀ f : TcpFrame, ¬ f.bytes <+: rest) : StopsAt rest
  | tooLarge {rest : Bytes} (hlen : 25 ≤ rest.length) (htype : rest.headD 0 = 0x11)
      (hsize : 65536 < field 21 4 rest) : StopsAt rest

/-- Where no frame can be taken there is a reason. -/
theorem stopsAt_of_takeFrame {rest : Bytes} (h : takeFrame frameSize rest = none) : StopsAt rest := by
  by_cases hframe : ∃ f : TcpFrame, f.bytes <+: rest
  · obtain ⟨f, tail, rfl⟩ := hframe
    have hlarge : ¬ PayloadFits f := by
      intro hfit
      rw [whole_bytes hfit tail] at h
      cases h
    cases f with
    | tcpData id seq data hlt =>
        have hlen := length_tcpData id seq data hlt
        refine .tooLarge ?_ rfl ?_
        · rw [List.length_append]
          omega
        · have htake := field_take (show 21 + 4 ≤ (TcpFrame.tcpData id seq data hlt).bytes.length by omega)
            ((TcpFrame.tcpData id seq data hlt).bytes ++ tail)
          rw [List.take_left, field_tcpData] at htake
          rw [← htake]
          simpa [PayloadFits, TcpFrame.payload] using hlarge
    | _ => exact absurd (Nat.zero_le _) hlarge
  · exact .incomplete fun f hf => hframe ⟨f, hf⟩

/-- **The splitter is maximal and exact.**  It terminates without an access outside the
buffer; what it consumes is made up of the frames it passes on, each a documented one; and it
stops only for a reason. -/
theorem processTcpFrames_maximal (data : Bytes) :
    ∃ frames consumed, processTcpFramesFrom data 0 = some (frames, consumed) ∧
      consumed ≤ data.length ∧ data.take consumed = frames.flatten ∧
      (∀ g ∈ frames, (∃ f : TcpFrame, PayloadFits f ∧ f.bytes = g) ∧
        handleTcpFrameFrom g = some (forwarderCall g)) ∧
      StopsAt (data.drop consumed) := by
  have hloop := processTcpFramesFrom_eq (Nat.zero_le data.length) (Nat.sub_le data.length 0)
  rw [List.drop_zero] at hloop
  obtain ⟨frames, rest, hsplit⟩ : ∃ frames rest,
      splitFrames frameSize data.length data = (frames, rest) := ⟨_, _, rfl⟩
  have hflat : frames.flatten ++ rest = data := by
    rw [← @splitFrames_flatten frameSize data.length data, hsplit]
  have hnone : takeFrame frameSize rest = none := by
    have h := @takeFrame_splitFrames frameSize _ data (Nat.le_refl data.length)
    rwa [hsplit] at h
  have hframes : ∀ g ∈ frames, g ≠ [] ∧ frameSize g = g.length := by
    have h := forall_mem_splitFrames (P := fun g => g ≠ [] ∧ frameSize g = g.length)
      (fun _ _ _ h => ⟨(takeFrame_eq_some h).1, frameSize_of_takeFrame h⟩) data.length data
    rwa [hsplit] at h
  rw [hsplit] at hloop
  subst hflat
  have hconsumed : (frames.flatten ++ rest).length - rest.length = frames.flatten.length := by
    rw [List.length_append]
    omega
  rw [hconsumed] at hloop
  refine ⟨frames, frames.flatten.length, hloop, ?_, List.take_left, ?_, ?_⟩
  · rw [List.length_append]
    omega
  · intro g hg
    obtain ⟨hne, hsize⟩ := hframes g hg
    exact ⟨exists_tcpFrame_of_frameSize hne hsize, handleTcpFrameFrom_eq hne hsize⟩
  · rw [List.drop_left]
    exact stopsAt_of_takeFrame hnone

end Protogate.TunnelAgent
