/-
# `SmallModbus.Validation` — what `modbus_start_request` checks of its arguments, and what it does not.

The public type of function, address and quantity is `int`, the check's parameters are `uint8_t` and
`uint16_t`: what the check sees are the low bits, while the header, the byte count and the copy loops work
on the `int`s. `RequestValidated` says that a call is refused without any effect, or is within the protocol
and builds a frame whose counts agree. `start_request_validated_iff` says on which arguments it holds:
those the check refuses, and those that lose nothing in the conversion.
-/
import SmallModbus.Transactions

namespace SmallModbus

open SmallModbus.Lib

variable {σ : Type} {n : Nat}

/-! ## §1 — what a validated request is. -/

/-- The two functions that carry no quantity. -/
def WritesSingle (function : Int) : Prop :=
  function = modbusFcWriteSingleCoil ∨ function = modbusFcWriteSingleRegister

/-- A request the protocol has: one of the eight functions, an address of 16 bits, and a quantity within
the limit of the function where it carries one. -/
structure InProtocol (function addr num : Int) : Prop where
  function_mem : function ∈ requestFunctions
  addr_nonneg : 0 ≤ addr
  addr_le : addr ≤ 65535
  num_range : ¬ WritesSingle function → 1 ≤ num ∧ num ≤ maxNum (toU8 function)

/-- The byte count, the data and the quantity of a frame agree. -/
structure CountsAgree (core : Core) (function num : Int) (frame : List UInt8) : Prop where
  multiple : WritesMultiple function → ∃ (head data check : List UInt8) (count : UInt8),
    frame = head ++ [highByte num, lowByte num, count] ++ data ++ check ∧
      head.length = core.lenHeader + 3 ∧ check.length = core.lenChecksum ∧
      count.toNat = data.length ∧ data.length = dataNeeded function num
  plain : ¬ WritesMultiple function → frame.length = core.lenHeader + 5 + core.lenChecksum

/-- **A validated call**: it is refused and has no effect, or it is within the protocol, stays within 260
bytes of the request buffer, and sends a frame whose counts agree, which is then in the buffer. -/
def RequestValidated {port : Port σ} (T : Tap port) (core : Core) (smb : Smb σ) (w : σ) (old : Buffer UInt8 n)
    (function addr num : Int) (writeData : List UInt8) : Prop :=
  (∃ smb' w', modbusStartRequest smb w old function addr num writeData = .ok (modbusFailRequest, smb', w', old) ∧
      smb'.transferId = smb.transferId ∧ T.sent w' = T.sent w) ∨
    (InProtocol function addr num ∧ ∃ ret smb' w' buff' frame,
      modbusStartRequest smb w old function addr num writeData = .ok (ret, smb', w', buff') ∧
        buff'.toList = frame ++ old.toList.drop frame.length ∧ frame.length ≤ 260 ∧
        T.sent w' = T.sent w ++ [frame] ∧ CountsAgree core function num frame)

/-- The arguments are what the check sees of them; a quantity that is not sent does not matter. -/
structure Untruncated (function addr num : Int) : Prop where
  function_range : 0 ≤ function ∧ function ≤ 255
  addr_range : 0 ≤ addr ∧ addr ≤ 65535
  num_range : ¬ WritesSingle function → 0 ≤ num ∧ num ≤ 65535

/-! ## §2 — calls that pass the check. -/

section Checked

variable {smb : Smb σ} {core : Core} {port : Port σ} {function addr num : Int} {writeData : List UInt8}

theorem function_mem_of_check (hf : 0 ≤ function ∧ function ≤ 255)
    (hcheck : modbusCheckAddrNum (toU8 function) (toU16 addr) (toU16 num) = true) :
    function ∈ requestFunctions := by
  have hval : ((toU8 function).toNat : Int) = function := by
    have := toNat_toU8 function
    omega
  have hmem : ((toU8 function).toNat : Int) ∈ requestFunctions := by
    unfold modbusCheckAddrNum at hcheck
    simp only [requestFunctions, List.mem_cons, List.not_mem_nil, or_false]
    grind
  rwa [hval] at hmem

/-- Arguments that lose nothing and pass the check are within the protocol, and can be sent. -/
theorem Untruncated.inProtocol (h : Untruncated function addr num)
    (hcheck : modbusCheckAddrNum (toU8 function) (toU16 addr) (toU16 num) = true)
    (hdata : dataNeeded function num ≤ writeData.length) :
    InProtocol function addr num ∧ Sendable function addr num writeData := by
  have hmem := function_mem_of_check h.function_range hcheck
  have hval := toNat_toU8_of_mem hmem
  have hnum : ¬ WritesSingle function → 1 ≤ num ∧ num ≤ maxNum (toU8 function) := by
    intro hs
    obtain ⟨h0, h1⟩ := h.num_range hs
    obtain ⟨h5, h6⟩ := not_or.mp hs
    have hrange := (modbusCheckAddrNum_iff (by rwa [hval]) (by rwa [hval])).mp hcheck
    have := toNat_toU16 num
    omega
  refine ⟨⟨hmem, h.addr_range.1, h.addr_range.2, hnum⟩, ⟨hmem, hcheck, ?_, hdata⟩⟩
  intro hm
  have hs : ¬ WritesSingle function := by
    rintro (hs | hs) <;> rcases hm with hm | hm <;> rw [hs] at hm <;> exact absurd hm (by decide)
  obtain ⟨h0, h1⟩ := h.num_range hs
  omega

/-- Behind function and address of a multiple write come the quantity, the byte count and the data, for coils and
registers alike. -/
theorem Sendable.requestTail_multiple (hs : Sendable function addr num writeData)
    (hm : function = 15 ∨ function = 16) :
    ∃ (data : List UInt8) (count : UInt8),
      requestTail function num writeData = [highByte num, lowByte num, count] ++ data ∧
        count.toNat = data.length ∧ data.length = dataNeeded function num := by
  obtain ⟨k, rfl, -, hle⟩ := hs.num_natCast hm
  have hneed := hs.data_le
  rcases hm with rfl | rfl
  · have hneed : byteCount k ≤ writeData.length := hneed
    have hle : k ≤ 1968 := hle
    have hbytes : byteCount k < 256 := by
      unfold byteCount
      omega
    have hl : (writeData.take (byteCount k)).length = byteCount k := List.length_take_of_le hneed
    exact ⟨_, _, rfl, (toNat_toU8_of_lt hbytes).trans hl.symm, hl⟩
  · have hneed : 2 * k ≤ writeData.length := hneed
    have hle : k ≤ 123 := hle
    have hl : (swapPairs (writeData.take (2 * k))).length = 2 * k := by
      rw [length_swapPairs]
      exact List.length_take_of_le hneed
    exact ⟨_, _, rfl, (toNat_toU8_of_lt (by omega)).trans hl.symm, hl⟩

/-- The counts of the frame of a request agree. -/
theorem Sendable.countsAgree (hs : Sendable function addr num writeData) (core : Core) (tid : UInt16)
    (slave : UInt8) :
    CountsAgree core function num (core.adu tid slave (requestPdu function addr num writeData)) where
  multiple hm := by
    obtain ⟨data, count, htail, hcount, hlen⟩ := hs.requestTail_multiple hm
    obtain ⟨head, hhead⟩ : ∃ head, head = core.header tid slave (requestPdu function addr num writeData).length :=
      ⟨_, rfl⟩
    refine ⟨head ++ [toU8 function, highByte addr, lowByte addr], data,
      core.checksum (head ++ requestPdu function addr num writeData), count, ?_, ?_, Core.length_checksum _ _,
      hcount, hlen⟩
    · rw [Core.adu, ← hhead]
      congr 1
      rw [requestPdu, htail]
      simp only [List.append_assoc]
    · rw [List.length_append, hhead, Core.length_header]
      rfl
  plain hm := by
    have hmem := hs.function_mem
    have hneed := hs.data_le
    rw [Core.length_adu]
    congr 2
    simp only [requestFunctions, List.mem_cons, List.not_mem_nil, or_false] at hmem
    rcases hmem with rfl | rfl | rfl | rfl | rfl | rfl | rfl | rfl
    · rfl
    · rfl
    · rfl
    · rfl
    · rfl
    · have hneed : 2 ≤ writeData.length := hneed
      show ([_, _, _] ++ swapPairs (writeData.take 2)).length = 5
      rw [List.length_append, length_swapPairs, List.length_take_of_le hneed]
      rfl
    · exact absurd (Or.inl rfl) hm
    · exact absurd (Or.inr rfl) hm

/-- Completing a frame never gives a negative length. -/
theorem checkSendPre_nonneg {b b' : Buffer UInt8 n} {len : Nat} {ret : Int}
    (h : core.checkSendPre smb b len = .ok (ret, b')) : 0 ≤ ret := by
  cases core with
  | rtu =>
    obtain ⟨crc, -, h⟩ := bind_eq_ok.mp h
    obtain ⟨b₁, -, h⟩ := bind_eq_ok.mp h
    obtain ⟨b₂, -, h⟩ := bind_eq_ok.mp h
    cases h
    omega
  | tcp =>
    obtain ⟨b₁, -, h⟩ := bind_eq_ok.mp h
    obtain ⟨b₂, -, h⟩ := bind_eq_ok.mp h
    cases h
    omega

/-- A call that passes the check and returns has sent something, or returns no negative code of its own. -/
theorem modbusStartRequest_sent (h : Ready smb core port) (T : Tap port) {w w' : σ} {old buff' : Buffer UInt8 n}
    (hn : modbusMaxAduLength ≤ n)
    (hcheck : modbusCheckAddrNum (toU8 function) (toU16 addr) (toU16 num) = true) {ret : Int} {smb' : Smb σ}
    (hrun : modbusStartRequest smb w old function addr num writeData = .ok (ret, smb', w', buff')) :
    0 ≤ ret ∨ ∃ frame, T.sent w' = T.sent w ++ [frame] := by
  have hmax : modbusMaxAduLength = 260 := rfl
  have hh := core.lenHeader_le
  obtain ⟨x, y, hbuild⟩ := buildRequestHeader_fill core smb old (by omega) smb.slaveAddr.toNat function addr num
  unfold modbusStartRequest at hrun
  simp only [h.contextCheck, ne_eq, not_true, if_false, if_pos hcheck, h.coreOf, exec_ok_bind, hbuild] at hrun
  obtain ⟨⟨len, request⟩, -, hrun⟩ := bind_eq_ok.mp hrun
  obtain ⟨⟨total, request'⟩, hsend, hrun⟩ := bind_eq_ok.mp hrun
  have h0 := checkSendPre_nonneg hsend
  dsimp only at hrun
  split at hrun
  · -- the frame is handed to the port
    obtain ⟨frame, -, hrun⟩ := bind_eq_ok.mp hrun
    rw [modbusWrite_requestContext, h.write T.writeFn] at hrun
    cases hrun
    exact Or.inr ⟨frame, T.sent_write w frame⟩
  · cases hrun
    exact Or.inl h0

/-- A call that the check refuses is validated. -/
theorem requestValidated_of_refused (h : Ready smb core port) (T : Tap port) (w : σ) (old : Buffer UInt8 n)
    (writeData : List UInt8) (hcheck : modbusCheckAddrNum (toU8 function) (toU16 addr) (toU16 num) = false) :
    RequestValidated T core smb w old function addr num writeData :=
  Or.inl ⟨smb, w, modbusStartRequest_refused h.contextCheck (Bool.eq_false_iff.mp hcheck) w old writeData, rfl, rfl⟩

end Checked

/-! ## §3 — when a call is validated. -/

/-- **Validation, exactly.** A call is validated if and only if the check refuses what it sees of the
arguments, or nothing of them was lost on the way to the check. -/
theorem start_request_validated_iff {smb : Smb σ} {core : Core} {port : Port σ} (h : Ready smb core port)
    (T : Tap port) (w : σ) (old : Buffer UInt8 n) (hn : modbusMaxAduLength ≤ n) (function addr num : Int)
    {writeData : List UInt8} (hdata : dataNeeded function num ≤ writeData.length) :
    RequestValidated T core smb w old function addr num writeData ↔
      modbusCheckAddrNum (toU8 function) (toU16 addr) (toU16 num) = false ∨ Untruncated function addr num := by
  constructor
  · rintro (⟨smb', w', hrun, -, hsent⟩ | ⟨hin, -⟩)
    · -- a refused call has sent nothing, so the check did not pass
      left
      by_contra hcheck
      rw [Bool.not_eq_false] at hcheck
      rcases modbusStartRequest_sent h T hn hcheck hrun with h0 | ⟨frame, hframe⟩
      · exact absurd h0 (by decide)
      · rw [hsent] at hframe
        simpa using congrArg List.length hframe
    · right
      have hval := toNat_toU8_of_mem hin.function_mem
      have hbyte := (toU8 function).toNat_lt
      refine ⟨by omega, ⟨hin.addr_nonneg, hin.addr_le⟩, fun hs => ?_⟩
      obtain ⟨h1, hle⟩ := hin.num_range hs
      have hmax : maxNum (toU8 function) ≤ 2000 := by
        unfold maxNum
        dsimp only
        split_ifs <;> decide
      omega
  · rintro (hcheck | hwhole)
    · exact requestValidated_of_refused h T w old writeData hcheck
    · by_cases hcheck : modbusCheckAddrNum (toU8 function) (toU16 addr) (toU16 num) = true
      · right
        obtain ⟨hin, hs⟩ := hwhole.inProtocol hcheck hdata
        have hle := hs.length_adu_le core (core.requestContext smb).transferId smb.slaveAddr
        refine ⟨hin, _, _, _, _, requestFrame core smb function addr num writeData,
          modbusStartRequest_eq h T.writeFn w old hn hs, ?_, hle, T.sent_write _ _, hs.countsAgree core _ _⟩
        exact Buffer.toList_fill old (hle.trans hn)
      · exact requestValidated_of_refused h T w old writeData (Bool.eq_false_iff.mpr hcheck)

/-- The write of two registers at address 300, within the protocol. -/
theorem start_request_validated_iff_write :
    RequestValidated Wire.tap .tcp (newContext .tcp Wire.port 17) ⟨[], [], []⟩ (Buffer.replicate 260 0)
        modbusFcWriteMultipleRegisters 300 2 [1, 2, 3, 4] ↔
      modbusCheckAddrNum (toU8 modbusFcWriteMultipleRegisters) (toU16 300) (toU16 2) = false ∨
        Untruncated modbusFcWriteMultipleRegisters 300 2 :=
  start_request_validated_iff (newContext_ready .tcp Wire.port 17) Wire.tap ⟨[], [], []⟩ (Buffer.replicate 260 0)
    le_rfl modbusFcWriteMultipleRegisters 300 2 (by decide)

/-- One register at address 65536: the check sees address 0, and the request is sent. -/
theorem start_request_address_lost :
    ¬ RequestValidated Wire.tap .tcp (newContext .tcp Wire.port 17) ⟨[], [], []⟩ (Buffer.replicate 260 0)
      modbusFcReadHoldingRegisters 65536 1 [] := by
  rintro (⟨smb', w', hrun, -⟩ | ⟨hin, -⟩)
  · have hsent : (modbusStartRequest (newContext .tcp Wire.port 17) ⟨[], [], []⟩ (Buffer.replicate 260 0)
        modbusFcReadHoldingRegisters 65536 1 []).map (fun x => x.1) = .ok 12 := by decide +kernel
    rw [hrun] at hsent
    cases hsent
  · exact absurd hin.addr_le (by decide)

end SmallModbus
