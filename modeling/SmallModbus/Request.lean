/-
# `SmallModbus.Request` — what `modbus_start_request` sends, and that the slave receives it.

`requestPdu` is the PDU of a request as a list. `modbusStartRequest_eq` says that the port is handed
exactly the frame of this PDU, and the buffer then begins with it; `request_roundtrip` that the slave's
`modbus_slave_wait` takes this frame, and nothing behind it, out of any stream.
-/
import SmallModbus.Receive

namespace SmallModbus

open SmallModbus.Lib

variable {σ : Type} {n : Nat}

/-! ## §1 — the PDU of a request. -/

/-- The functions of the eight master operations. -/
def requestFunctions : List Int :=
  [modbusFcReadHoldingCoils, modbusFcReadInputsCoils, modbusFcReadHoldingRegisters,
    modbusFcReadInputRegisters, modbusFcWriteSingleCoil, modbusFcWriteSingleRegister,
    modbusFcWriteMultipleCoils, modbusFcWriteMultipleRegisters]

/-- The bytes a request reads behind the caller's data pointer. -/
def dataNeeded (function num : Int) : Nat :=
  if function = modbusFcWriteSingleCoil then 1
  else if function = modbusFcWriteSingleRegister then 2
  else if function = modbusFcWriteMultipleCoils then byteCount num.toNat
  else if function = modbusFcWriteMultipleRegisters then 2 * num.toNat
  else 0

/-- The bytes a request puts behind the address. -/
def requestTail (function num : Int) (writeData : List UInt8) : List UInt8 :=
  if function = modbusFcWriteSingleCoil then [if writeData.headD 0 ≠ 0 then 0xFF else 0x00, 0x00]
  else if function = modbusFcWriteSingleRegister then swapPairs (writeData.take 2)
  else if function = modbusFcWriteMultipleCoils then
    [highByte num, lowByte num, toU8 (byteCount num.toNat)] ++ writeData.take (byteCount num.toNat)
  else if function = modbusFcWriteMultipleRegisters then
    [highByte num, lowByte num, toU8 ((2 * num.toNat : Nat) : Int)] ++
      swapPairs (writeData.take (2 * num.toNat))
  else [highByte num, lowByte num]

/-- **The PDU of a request.** -/
def requestPdu (function addr num : Int) (writeData : List UInt8) : List UInt8 :=
  [toU8 function, highByte addr, lowByte addr] ++ requestTail function num writeData

/-- The functions whose quantity also says how much data there is. -/
def WritesMultiple (function : Int) : Prop :=
  function = modbusFcWriteMultipleCoils ∨ function = modbusFcWriteMultipleRegisters

/-- A request the master can send: the function is one of the eight, the quantity passes the check, and
the caller's object is as large as the function needs. -/
structure Sendable (function addr num : Int) (writeData : List UInt8) : Prop where
  function_mem : function ∈ requestFunctions
  check : modbusCheckAddrNum (toU8 function) (toU16 addr) (toU16 num) = true
  num_range : WritesMultiple function → 0 ≤ num ∧ num < 65536
  data_le : dataNeeded function num ≤ writeData.length

/-! ## §2 — what `modbus_start_request` does. -/

theorem toNat_toU8_of_mem {function : Int} (h : function ∈ requestFunctions) :
    ((toU8 function).toNat : Int) = function := by
  simp only [requestFunctions, List.mem_cons, List.not_mem_nil, or_false] at h
  rcases h with rfl | rfl | rfl | rfl | rfl | rfl | rfl | rfl <;> rfl

namespace Sendable

variable {function addr num : Int} {writeData : List UInt8}

/-- The quantity of a multiple write is in the range of its function. -/
theorem num_natCast (h : Sendable function addr num writeData) (hm : WritesMultiple function) :
    ∃ k : Nat, num = k ∧ 0 < k ∧ k ≤ maxNum (toU8 function) := by
  obtain ⟨h0, hlt⟩ := h.num_range hm
  obtain ⟨k, rfl⟩ := Int.eq_ofNat_of_zero_le h0
  have hf := toNat_toU8_of_mem h.function_mem
  have h5 : ((toU8 function).toNat : Int) ≠ modbusFcWriteSingleCoil := by
    rw [hf]
    rcases hm with rfl | rfl <;> decide
  have h6 : ((toU8 function).toNat : Int) ≠ modbusFcWriteSingleRegister := by
    rw [hf]
    rcases hm with rfl | rfl <;> decide
  have hnum := (modbusCheckAddrNum_iff h5 h6).mp h.check
  rw [toNat_toU16_natCast (by omega)] at hnum
  exact ⟨k, rfl, hnum⟩

end Sendable

section Data

variable {function addr num : Int} {writeData : List UInt8} (h : Sendable function addr num writeData)
  (old : Buffer UInt8 n) (hn : modbusMaxAduLength ≤ n) {pre : List UInt8} (hpre : pre.length ≤ 10)

include h hn hpre

/-- The single writes overwrite the quantity the header presets. -/
theorem requestData_single (hf : function = modbusFcWriteSingleCoil ∨
      function = modbusFcWriteSingleRegister) (x y : UInt8) :
    requestData (old.fill (pre ++ [x, y])) (pre.length + 2) function num writeData =
      .ok (pre.length + 2, old.fill (pre ++ requestTail function num writeData)) := by
  have hmax : modbusMaxAduLength = 260 := rfl
  have hdata := h.data_le
  have hover : ∀ b c, (old.fill (pre ++ [x, y])).fill (pre ++ [b, c]) = old.fill (pre ++ [b, c]) := by
    intro b c
    exact Buffer.fill_fill old (by simp) (by simp; omega)
  unfold requestData requestTail
  -- the cursor goes back behind the address: the stores are below the preset quantity
  rw [← Buffer.fill_append_fill old (show (pre ++ [x, y]).length ≤ n by simp; omega)]
  rcases hf with rfl | rfl
  · obtain ⟨b, l, rfl⟩ : ∃ b l, writeData = b :: l := List.exists_cons_of_length_pos hdata
    rw [if_pos rfl, if_pos rfl]
    show (do
      let request ← ((old.fill (pre ++ [x, y])).fill pre).store (pre.length + 2 - 2)
        (if b ≠ 0 then 0xFF else 0x00)
      let request ← request.store (pre.length + 2 - 1) 0x00
      return (pre.length + 2, request)) = _
    rw [Buffer.store_fill_end _ (by omega) (by omega), exec_ok_bind,
      Buffer.store_fill_end _ (by simp) (by omega), exec_ok_bind, List.append_assoc]
    exact congrArg (fun b => Except.ok (pre.length + 2, b)) (hover _ _)
  · have h2 : 2 ≤ writeData.length := hdata
    obtain ⟨b, c, l, rfl⟩ : ∃ b c l, writeData = b :: c :: l := by
      match writeData, h2 with
      | b :: c :: l, _ => exact ⟨b, c, l, rfl⟩
    rw [if_neg (by decide), if_pos rfl, if_neg (by decide), if_pos rfl]
    have hcopy := modbusRegH2m_other (old.fill (pre ++ [x, y])) (b :: c :: l)
      (rfl : pre.length = pre.length) (show 0 < 1 by decide) h2 (by omega)
    rw [Nat.add_sub_cancel, show (1 : Int) = ((1 : Nat) : Int) from rfl, hcopy, exec_ok_bind]
    exact congrArg (fun b => Except.ok (pre.length + 2, b)) (hover _ _)

/-- The multiple writes append the byte count and the data. -/
theorem requestData_multiple (hm : WritesMultiple function) :
    requestData (old.fill (pre ++ [highByte num, lowByte num])) (pre.length + 2) function num writeData =
      .ok (pre.length + (requestTail function num writeData).length,
        old.fill (pre ++ requestTail function num writeData)) := by
  have hmax : modbusMaxAduLength = 260 := rfl
  have hdata := h.data_le
  obtain ⟨num, rfl, hpos, hle⟩ := h.num_natCast hm
  unfold requestData requestTail
  unfold dataNeeded at hdata
  rw [Int.toNat_natCast] at hdata ⊢
  rcases hm with rfl | rfl
  · rw [if_neg (by decide), if_neg (by decide), if_pos rfl] at hdata ⊢
    rw [if_neg (by decide), if_neg (by decide), if_pos rfl]
    have hle' : num ≤ 1968 := hle
    have hbytes : byteCount num ≤ 246 := by
      unfold byteCount
      omega
    have hcount : (toU16 (coilBytes num)).toNat = byteCount num := by
      rw [coilBytes_natCast, toNat_toU16_natCast (by omega)]
    dsimp only
    rw [hcount, Buffer.store_fill_end _ (by simp) (by omega), exec_ok_bind,
      modbusCoilH2m_other old writeData (by simp) hpos hdata (by simp; omega), exec_ok_bind]
    simp only [exec_pure, List.append_assoc, List.cons_append, List.nil_append, List.length_cons,
      List.length_take, Nat.min_eq_left hdata]
    congr 2
    omega
  · rw [if_neg (by decide), if_neg (by decide), if_neg (by decide), if_pos rfl] at hdata ⊢
    rw [if_neg (by decide), if_neg (by decide), if_neg (by decide), if_pos rfl]
    have hle' : num ≤ 123 := hle
    have hcast : (num : Int) * 2 = ((2 * num : Nat) : Int) := by
      push_cast
      omega
    have hcount : (toU16 ((2 * num : Nat) : Int)).toNat = 2 * num := toNat_toU16_natCast (by omega)
    dsimp only
    rw [hcast, hcount, Buffer.store_fill_end _ (by simp) (by omega), exec_ok_bind,
      modbusRegH2m_other old writeData (by simp) hpos hdata (by simp; omega), exec_ok_bind]
    simp only [exec_pure, List.append_assoc, List.cons_append, List.nil_append, List.length_cons,
      length_swapPairs, List.length_take, Nat.min_eq_left hdata]
    congr 2
    omega

/-- **The switch of `modbus_start_request`**, behind a header that presets the quantity. -/
theorem requestData_fill :
    requestData (old.fill (pre ++ [highByte num, lowByte num])) (pre.length + 2) function num writeData =
      .ok (pre.length + (requestTail function num writeData).length,
        old.fill (pre ++ requestTail function num writeData)) := by
  by_cases hf : function = modbusFcWriteSingleCoil ∨ function = modbusFcWriteSingleRegister
  · rw [requestData_single h old hn hpre hf]
    have h2 : (requestTail function num writeData).length = 2 := by
      have hdata := h.data_le
      unfold requestTail
      rcases hf with rfl | rfl
      · rfl
      · have h2 : 2 ≤ writeData.length := hdata
        rw [if_neg (by decide), if_pos rfl, length_swapPairs, List.length_take_of_le h2]
    rw [h2]
  · rw [not_or] at hf
    by_cases hm : WritesMultiple function
    · exact requestData_multiple h old hn hpre hm
    · -- the reads keep the header as it is
      have hm' := not_or.mp hm
      unfold requestData requestTail
      rw [if_neg hf.1, if_neg hf.2, if_neg hm'.1, if_neg hm'.2, if_neg hf.1, if_neg hf.2, if_neg hm'.1,
        if_neg hm'.2]
      rfl

end Data

/-! ### The length of a request -/

namespace Sendable

variable {function addr num : Int} {writeData : List UInt8}

/-- A request has the length the slave's table gives it, and fits a frame. -/
theorem sized (h : Sendable function addr num writeData) :
    slaveFormat.Sized (requestPdu function addr num writeData) ∧
      (requestPdu function addr num writeData).length ≤ 252 := by
  have hdata := h.data_le
  have hrange := h.num_natCast
  have hmem := h.function_mem
  simp only [requestFunctions, List.mem_cons, List.not_mem_nil, or_false] at hmem
  have hfive : 5 ≤ 252 := by decide
  unfold requestPdu
  rcases hmem with rfl | rfl | rfl | rfl | rfl | rfl | rfl | rfl
  · exact ⟨rfl, hfive⟩
  · exact ⟨rfl, hfive⟩
  · exact ⟨rfl, hfive⟩
  · exact ⟨rfl, hfive⟩
  · exact ⟨rfl, hfive⟩
  · have h2 : 2 ≤ writeData.length := hdata
    have hl : (requestTail modbusFcWriteSingleRegister num writeData).length = 2 := by
      show (swapPairs (writeData.take 2)).length = 2
      rw [length_swapPairs, List.length_take_of_le h2]
    refine ⟨?_, ?_⟩
    · show (_ ++ _ : List UInt8).length = 5
      rw [List.length_append, hl]
      rfl
    · rw [List.length_append, hl]
      exact hfive
  · obtain ⟨num, rfl, -, hle⟩ := hrange (Or.inl rfl)
    have hle : num ≤ 1968 := hle
    have hbytes : byteCount num < 247 := by
      unfold byteCount
      omega
    have hd : byteCount num ≤ writeData.length := hdata
    have hl : (requestTail modbusFcWriteMultipleCoils num writeData).length = 3 + byteCount num := by
      show ([_, _, _] ++ writeData.take (byteCount num)).length = _
      rw [List.length_append, List.length_take_of_le hd]
      rfl
    refine ⟨?_, ?_⟩
    · show (_ ++ _ : List UInt8).length = 1 + 5 + (toU8 (byteCount num)).toNat
      rw [List.length_append, hl, toNat_toU8_of_lt (by omega), List.length_cons, List.length_cons,
        List.length_singleton]
      omega
    · rw [List.length_append, hl, List.length_cons, List.length_cons, List.length_singleton]
      omega
  · obtain ⟨num, rfl, -, hle⟩ := hrange (Or.inr rfl)
    have hle : num ≤ 123 := hle
    have hd : 2 * num ≤ writeData.length := hdata
    have hl : (requestTail modbusFcWriteMultipleRegisters num writeData).length = 3 + 2 * num := by
      show ([_, _, _] ++ swapPairs (writeData.take (2 * num))).length = _
      rw [List.length_append, length_swapPairs, List.length_take_of_le hd]
      rfl
    refine ⟨?_, ?_⟩
    · show (_ ++ _ : List UInt8).length = 1 + 5 + (toU8 ((2 * num : Nat) : Int)).toNat
      rw [List.length_append, hl, toNat_toU8_of_lt (by omega), List.length_cons, List.length_cons,
        List.length_singleton]
      omega
    · rw [List.length_append, hl, List.length_cons, List.length_cons, List.length_singleton]
      omega

theorem length_adu_le (h : Sendable function addr num writeData) (core : Core) (tid : UInt16)
    (slave : UInt8) :
    (core.adu tid slave (requestPdu function addr num writeData)).length ≤ modbusMaxAduLength := by
  have h1 := h.sized.2
  have h2 := core.lenOverhead_le
  rw [Core.length_adu]
  show _ ≤ 260
  omega

end Sendable

/-! ### The function as a whole -/

theorem requestContext_ready {smb : Smb σ} {core : Core} {port : Port σ} (h : Ready smb core port)
    (core' : Core) : Ready (core'.requestContext smb) core port := by
  cases core' with
  | rtu => exact h
  | tcp => exact h.congr rfl rfl rfl

@[simp] theorem requestContext_slaveAddr (core : Core) (smb : Smb σ) :
    (core.requestContext smb).slaveAddr = smb.slaveAddr := by cases core <;> rfl

/-- The frame of a request. -/
def requestFrame (core : Core) (smb : Smb σ) (function addr num : Int) (writeData : List UInt8) :
    List UInt8 :=
  core.adu (core.requestContext smb).transferId smb.slaveAddr (requestPdu function addr num writeData)

/-- What a port does with a frame does not depend on the transaction id. -/
theorem modbusWrite_requestContext (core : Core) (smb : Smb σ) (w : σ) (frame : List UInt8) :
    modbusWrite (core.requestContext smb) w frame = modbusWrite smb w frame := by cases core <;> rfl

/-- **`modbus_start_request`** hands the port the frame of the request, and leaves it in the buffer. -/
theorem modbusStartRequest_run {smb : Smb σ} {core : Core} {port : Port σ} (h : Ready smb core port)
    (w : σ) (old : Buffer UInt8 n) (hn : modbusMaxAduLength ≤ n) {function addr num : Int}
    {writeData : List UInt8} (hs : Sendable function addr num writeData) :
    modbusStartRequest smb w old function addr num writeData =
      .ok ((modbusWrite smb w (requestFrame core smb function addr num writeData)).1,
        core.requestContext smb,
        (modbusWrite smb w (requestFrame core smb function addr num writeData)).2,
        old.fill (requestFrame core smb function addr num writeData)) := by
  have hmax : modbusMaxAduLength = 260 := rfl
  have hh := core.lenHeader_le
  have hlen := hs.length_adu_le core (core.requestContext smb).transferId smb.slaveAddr
  obtain ⟨x, y, hbuild⟩ := buildRequestHeader_fill core smb old (by omega) smb.slaveAddr.toNat function
    addr num
  rw [toU8_toNat] at hbuild
  set hd := core.openHeader (core.requestContext smb).transferId smb.slaveAddr x y with hhd
  have hhdlen : hd.length = core.lenHeader := Core.length_openHeader core _ _ x y
  have hsplit : hd ++ [toU8 function, highByte addr, lowByte addr, highByte num, lowByte num] =
      (hd ++ [toU8 function, highByte addr, lowByte addr]) ++ [highByte num, lowByte num] := by simp
  have hpre : (hd ++ [toU8 function, highByte addr, lowByte addr]).length = core.lenHeader + 3 := by
    simp [hhdlen]
  have hdata := requestData_fill hs old hn (hpre.trans_le (by omega))
  have hpos : core.lenHeader + 5 = (hd ++ [toU8 function, highByte addr, lowByte addr]).length + 2 := by
    omega
  have hsend := checkSendPre_fill core (core.requestContext smb) old hn
    (core.requestContext smb).transferId smb.slaveAddr x y hlen
    (show (hd ++ [toU8 function, highByte addr, lowByte addr]).length +
      (requestTail function num writeData).length = core.lenHeader + _ by
        rw [hpre, requestPdu, List.length_append, ← Nat.add_assoc]; rfl)
  rw [← hhd, requestPdu, ← List.append_assoc, ← requestPdu] at hsend
  unfold modbusStartRequest
  simp only [h.contextCheck, ne_eq, not_true, if_false, if_pos hs.check, h.coreOf, exec_ok_bind, hbuild]
  rw [hsplit, hpos, hdata, exec_ok_bind]
  dsimp only
  rw [hsend, exec_ok_bind]
  set frame := core.adu (core.requestContext smb).transferId smb.slaveAddr
    (requestPdu function addr num writeData) with hframe
  have hpos' : 0 < frame.length := by
    rw [hframe, Core.length_adu]
    have := core.lenHeader_pos
    omega
  have hslice : (old.fill frame).slice (toU16 (frame.length : Nat)).toNat = .ok frame := by
    rw [toNat_toU16_natCast (by omega), Buffer.slice_fill old (by omega)]
  dsimp only
  rw [if_pos (by omega), hslice, exec_ok_bind, modbusWrite_requestContext]
  rfl

theorem modbusStartRequest_eq {smb : Smb σ} {core : Core} {port : Port σ} (h : Ready smb core port)
    {write : σ → List UInt8 → Int × σ} (hwrite : port.writeFn = some write) (w : σ)
    (old : Buffer UInt8 n) (hn : modbusMaxAduLength ≤ n) {function addr num : Int}
    {writeData : List UInt8} (hs : Sendable function addr num writeData) :
    modbusStartRequest smb w old function addr num writeData =
      .ok ((write w (requestFrame core smb function addr num writeData)).1, core.requestContext smb,
        (write w (requestFrame core smb function addr num writeData)).2,
        old.fill (requestFrame core smb function addr num writeData)) := by
  rw [modbusStartRequest_run h w old hn hs, h.write hwrite]

/-! ### What it can send -/

/-- A negative quantity gives a byte count that is no more than one. -/
theorem coilBytes_neg (m : Nat) : coilBytes (-m) ≤ 1 - ((m / 8 : Nat) : Int) := by
  have hd : ((-(m : Int)).tdiv 8) = -((m / 8 : Nat) : Int) := by
    rw [Int.neg_tdiv]
    rfl
  unfold coilBytes
  rw [hd]
  split <;> omega

/-- The switch of `modbus_start_request` returns only on requests that can be sent. -/
theorem sendable_of_requestData {request : Buffer UInt8 modbusMaxAduLength} {len : Nat}
    {function addr num : Int} (hf : function ∈ requestFunctions)
    (hcheck : modbusCheckAddrNum (toU8 function) (toU16 addr) (toU16 num) = true)
    {writeData : List UInt8} {x : Nat × Buffer UInt8 modbusMaxAduLength}
    (hrun : requestData request len function num writeData = .ok x) :
    Sendable function addr num writeData := by
  have hmod := toNat_toU16 num
  have hmax : modbusMaxAduLength = 260 := rfl
  refine ⟨hf, hcheck, ?_, ?_⟩
  -- the copy of a multiple write stops only when its count is positive
  · rintro (rfl | rfl)
    · obtain ⟨b, -, hrun⟩ := bind_eq_ok.mp hrun
      obtain ⟨c, hcopy, -⟩ := bind_eq_ok.mp hrun
      obtain ⟨hpos, hfits, -, -⟩ := coilCopyLoop_ok hcopy
      rcases le_or_gt 0 num with h0 | hneg
      · obtain ⟨m, rfl⟩ := Int.eq_ofNat_of_zero_le h0
        rw [coilBytes_natCast] at hfits
        unfold byteCount at hfits
        omega
      · -- a negative quantity whose low 16 bits pass the check has a negative byte count
        have hle : (toU16 num).toNat ≤ 1968 :=
          ((modbusCheckAddrNum_iff (by decide) (by decide)).mp hcheck).2
        have hlo : 0 < (toU16 num).toNat :=
          ((modbusCheckAddrNum_iff (by decide) (by decide)).mp hcheck).1
        obtain ⟨m, rfl⟩ := Int.exists_eq_neg_ofNat (Int.le_of_lt hneg)
        have := coilBytes_neg m
        omega
    · obtain ⟨b, -, hrun⟩ := bind_eq_ok.mp hrun
      obtain ⟨c, hcopy, -⟩ := bind_eq_ok.mp hrun
      obtain ⟨hpos, hfits, -, -⟩ := regCopyLoop_ok hcopy
      omega
  · simp only [requestFunctions, List.mem_cons, List.not_mem_nil, or_false] at hf
    rcases hf with rfl | rfl | rfl | rfl | rfl | rfl | rfl | rfl
    · exact Nat.zero_le _
    · exact Nat.zero_le _
    · exact Nat.zero_le _
    · exact Nat.zero_le _
    · obtain ⟨b, hb, -⟩ := bind_eq_ok.mp hrun
      exact source_other_ok hb
    · obtain ⟨c, hcopy, -⟩ := bind_eq_ok.mp hrun
      have hsrc := (regCopyLoop_ok hcopy).2.2.1 writeData rfl
      show 2 ≤ writeData.length
      omega
    · obtain ⟨b, -, hrun⟩ := bind_eq_ok.mp hrun
      obtain ⟨c, hcopy, -⟩ := bind_eq_ok.mp hrun
      obtain ⟨hpos, -, hsrc, -⟩ := coilCopyLoop_ok hcopy
      have hle := hsrc writeData rfl
      show byteCount num.toNat ≤ writeData.length
      rcases le_or_gt 0 num with h0 | hneg
      · obtain ⟨m, rfl⟩ := Int.eq_ofNat_of_zero_le h0
        rw [coilBytes_natCast] at hle
        rw [Int.toNat_natCast]
        omega
      · rw [Int.toNat_of_nonpos (Int.le_of_lt hneg)]
        exact Nat.zero_le _
    · obtain ⟨b, -, hrun⟩ := bind_eq_ok.mp hrun
      obtain ⟨c, hcopy, -⟩ := bind_eq_ok.mp hrun
      have hsrc := (regCopyLoop_ok hcopy).2.2.1 writeData rfl
      show 2 * num.toNat ≤ writeData.length
      omega

/-- A request that does not pass the check of its quantity is not started. -/
theorem modbusStartRequest_refused {smb : Smb σ} (hctx : modbusContextCheck smb = modbusOk) {function addr num : Int}
    (hcheck : ¬ modbusCheckAddrNum (toU8 function) (toU16 addr) (toU16 num) = true) (w : σ) (old : Buffer UInt8 n)
    (writeData : List UInt8) :
    modbusStartRequest smb w old function addr num writeData = .ok (modbusFailRequest, smb, w, old) := by
  unfold modbusStartRequest
  simp only [hctx, ne_eq, not_true, if_false, if_neg hcheck]
  rfl

/-- **A call that returns** refused its quantity and did nothing, or was a request that can be sent. -/
theorem modbusStartRequest_cases {smb : Smb σ} {core : Core} {port : Port σ} (h : Ready smb core port)
    {w : σ} {old : Buffer UInt8 modbusMaxAduLength} {function addr num : Int}
    (hf : function ∈ requestFunctions) {writeData : List UInt8} {ret : Int} {smb' : Smb σ} {w' : σ}
    {buff' : Buffer UInt8 modbusMaxAduLength}
    (hrun : modbusStartRequest smb w old function addr num writeData = .ok (ret, smb', w', buff')) :
    ret = modbusFailRequest ∧ smb' = smb ∧ w' = w ∧ buff' = old ∨
      Sendable function addr num writeData := by
  by_cases hcheck : modbusCheckAddrNum (toU8 function) (toU16 addr) (toU16 num) = true
  · right
    unfold modbusStartRequest at hrun
    simp only [h.contextCheck, ne_eq, not_true, if_false, if_pos hcheck, h.coreOf, exec_ok_bind] at hrun
    obtain ⟨⟨len, smb₁, request⟩, -, hrun⟩ := bind_eq_ok.mp hrun
    obtain ⟨x, hdata, -⟩ := bind_eq_ok.mp hrun
    exact sendable_of_requestData hf hcheck hdata
  · left
    rw [modbusStartRequest_refused h.contextCheck hcheck] at hrun
    cases hrun
    exact ⟨rfl, rfl, rfl, rfl⟩

/-! ## §3 — the slave receives it. -/

/-- **Request round trip.** The master hands its port one frame. A slave with the same address, on any
prompt and fair line that holds this frame followed by any other bytes, receives exactly the frame: it
returns its length, its buffer begins with it, and the other bytes stay unread. On TCP the slave has then
the transaction id of the master. -/
theorem request_roundtrip {core : Core} {smb : Smb σ} {port : Port σ} (h : Ready smb core port)
    (T : Tap port) (w : σ) (old : Buffer UInt8 n) (hn : modbusMaxAduLength ≤ n) {function addr num : Int}
    {writeData : List UInt8} (hs : Sendable function addr num writeData) {τ : Type} {m : Nat}
    {slave : Smb τ} {slavePort : Port τ} (hslave : Ready slave core slavePort)
    (haddr : slave.slaveAddr = smb.slaveAddr) (L : Line slavePort) (hp : L.Prompt) {rank : τ → Nat}
    (hf : L.Fair rank) (slaveOld : Buffer UInt8 m) (hm : modbusMaxAduLength ≤ m) (rest : List UInt8) :
    ∃ frame ret smb' w' buff',
      modbusStartRequest smb w old function addr num writeData = .ok (ret, smb', w', buff') ∧
      T.sent w' = T.sent w ++ [frame] ∧
      ∀ (v : τ) (t : Int) (fuel : Nat), L.rem v = frame ++ rest → rank v + 2 * m + 1 < fuel →
        ∃ slave' v', modbusSlaveWait fuel slave v slaveOld t =
            .ok ((frame.length : Nat), slave', v', slaveOld.fill frame) ∧
          L.rem v' = rest ∧ (core = .tcp → slave'.transferId = smb'.transferId) := by
  refine ⟨requestFrame core smb function addr num writeData, _, _, _, _,
    modbusStartRequest_eq h T.writeFn w old hn hs, T.sent_write w _, ?_⟩
  intro v t fuel hrem hfuel
  obtain ⟨⟨ret, slave', v', buff'⟩, hrun⟩ := modbusSlaveWait_returns L hslave slaveOld hm hf t hfuel
  obtain ⟨rfl, rfl, rfl, hrest⟩ := modbusSlaveWait_adu L hslave slaveOld hm hp (Or.inl haddr.symm)
    hs.sized.1 (hs.length_adu_le core _ _) hrem hrun
  refine ⟨_, v', hrun, hrest, ?_⟩
  rintro rfl
  rfl

/-- A write of two registers over TCP, received byte by byte with another frame behind it. -/
theorem request_roundtrip_registers :
    ∃ frame ret smb' w' buff', modbusStartRequest (newContext .tcp Wire.port 17) ⟨[], [], []⟩
        (Buffer.replicate 260 0) modbusFcWriteMultipleRegisters 300 2 [1, 2, 3, 4] =
        .ok (ret, smb', w', buff') ∧ w'.tx = [frame] ∧
      ∃ slave' v', modbusSlaveWait 600 (newContext .tcp Wire.port 17)
          ⟨frame ++ [0, 1, 0, 0], [1, 1, 0, 1], []⟩ (Buffer.replicate 260 0) 5 =
          .ok ((frame.length : Nat), slave', v', (Buffer.replicate 260 0).fill frame) ∧
        v'.rx = [0, 1, 0, 0] ∧ slave'.transferId = smb'.transferId := by
  have hs : Sendable modbusFcWriteMultipleRegisters 300 2 [1, 2, 3, 4] :=
    ⟨by decide, by decide, fun _ => by decide, by decide⟩
  obtain ⟨frame, ret, smb', w', buff', hrun, hsent, hwait⟩ :=
    request_roundtrip (newContext_ready .tcp Wire.port 17) Wire.tap ⟨[], [], []⟩ (Buffer.replicate 260 0)
      (by decide) hs (newContext_ready .tcp Wire.port 17) rfl Wire.line Wire.steady.prompt Wire.fair
      (Buffer.replicate 260 0) (by decide) [0, 1, 0, 0]
  obtain ⟨slave', v', hslave, hrest, htid⟩ :=
    hwait ⟨frame ++ [0, 1, 0, 0], [1, 1, 0, 1], []⟩ 5 600 rfl (show 4 + 2 * 260 + 1 < 600 by decide)
  exact ⟨frame, ret, smb', w', buff', hrun, hsent, slave', v', hslave, hrest, htid rfl⟩

end SmallModbus
