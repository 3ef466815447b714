/-
# `SmallModbus.Confirm` — what the master accepts as a confirmation.

`modbusHandleConfirm_read` and `modbusHandleConfirm_write` say what `modbus_handle_confirm` makes of a
response frame, `masterOperation_ok` what a master operation that returns OK has received, whatever the
line does. From these come `read_sound_iff`, when a read that returns OK has read what it asked for, and
`write_accepted`, what is known of the response of a write that returns OK.
-/
import SmallModbus.Answers

namespace SmallModbus

open SmallModbus.Lib

variable {σ : Type} {n m j : Nat}

/-! ## §1 — the operations. -/

/-- The four read operations of the master. -/
inductive ReadOp
  | bits
  | inputBits
  | registers
  | inputRegisters
  deriving DecidableEq, Repr

namespace ReadOp

/-- The function code of the operation. -/
def function : ReadOp → UInt8
  | .bits => 1
  | .inputBits => 2
  | .registers => 3
  | .inputRegisters => 4

/-- What it reads. -/
def kind : ReadOp → Kind
  | .bits => .coil
  | .inputBits => .coil
  | .registers => .register
  | .inputRegisters => .register

/-- The C function of the operation. -/
def run : ReadOp → Nat → Smb σ → σ → (addr num : Int) → Buffer UInt8 n →
    Exec (Int × Smb σ × σ × Buffer UInt8 n)
  | .bits => modbusReadBits
  | .inputBits => modbusReadInputBits
  | .registers => modbusReadRegisters
  | .inputRegisters => modbusReadInputRegisters

theorem run_eq (op : ReadOp) (fuel : Nat) (smb : Smb σ) (w : σ) (addr num : Int)
    (readData : Buffer UInt8 n) :
    op.run fuel smb w addr num readData =
      masterOperation fuel smb w op.function.toNat addr num [] readData := by cases op <;> rfl

theorem serviceOf_function (op : ReadOp) : serviceOf op.function = .read op.kind := by
  cases op <;> rfl

theorem function_mem (op : ReadOp) : (op.function.toNat : Int) ∈ requestFunctions := by
  cases op <;> decide

end ReadOp

/-- The four write operations of the master with their arguments. -/
inductive WriteOp
  | bit (addr writeStatus : Int)
  | register (addr writeValue : Int)
  | bits (addr num : Int) (writeData : List UInt8)
  | registers (addr num : Int) (writeData : List UInt8)
  deriving DecidableEq, Repr

namespace WriteOp

/-- The function code of the operation. -/
def function : WriteOp → UInt8
  | .bit _ _ => 5
  | .register _ _ => 6
  | .bits _ _ _ => 15
  | .registers _ _ _ => 16

/-- The C function of the operation. -/
def run (host : Host) (fuel : Nat) (smb : Smb σ) (w : σ) :
    WriteOp → Exec (Int × Smb σ × σ × Buffer UInt8 0)
  | .bit addr writeStatus => modbusWriteBit host fuel smb w addr writeStatus
  | .register addr writeValue => modbusWriteRegister host fuel smb w addr writeValue
  | .bits addr num writeData => modbusWriteBits fuel smb w addr num writeData
  | .registers addr num writeData => modbusWriteRegisters fuel smb w addr num writeData

def addr : WriteOp → Int
  | .bit addr _ => addr
  | .register addr _ => addr
  | .bits addr _ _ => addr
  | .registers addr _ _ => addr

def num : WriteOp → Int
  | .bit _ _ => 1
  | .register _ _ => 1
  | .bits _ num _ => num
  | .registers _ num _ => num

/-- The object the request is built from. -/
def data (host : Host) : WriteOp → List UInt8
  | .bit _ writeStatus => intObject host (if writeStatus ≠ 0 then 0xFF00 else 0x0)
  | .register _ writeValue => intObject host writeValue
  | .bits _ _ writeData => writeData
  | .registers _ _ writeData => writeData

theorem run_eq (op : WriteOp) (host : Host) (fuel : Nat) (smb : Smb σ) (w : σ) :
    op.run host fuel smb w =
      masterOperation fuel smb w op.function.toNat op.addr op.num (op.data host) noData := by
  cases op <;> rfl

theorem function_mem (op : WriteOp) : (op.function.toNat : Int) ∈ requestFunctions := by
  cases op
  · exact (by decide : (5 : Int) ∈ requestFunctions)
  · exact (by decide : (6 : Int) ∈ requestFunctions)
  · exact (by decide : (15 : Int) ∈ requestFunctions)
  · exact (by decide : (16 : Int) ∈ requestFunctions)

theorem serviceOf_function (op : WriteOp) :
    (∃ k, serviceOf op.function = .writeSingle k) ∨ ∃ k, serviceOf op.function = .writeMultiple k := by
  cases op
  · exact Or.inl ⟨.coil, rfl⟩
  · exact Or.inl ⟨.register, rfl⟩
  · exact Or.inr ⟨.coil, rfl⟩
  · exact Or.inr ⟨.register, rfl⟩

end WriteOp

/-! ## §2 — `modbus_handle_confirm` on a response frame. -/

section Handle

variable {smb : Smb σ} {core : Core} {port : Port σ} (h : Ready smb core port) {q : Query}
  {request : Buffer UInt8 n} (hin : q.In core request) (old : Buffer UInt8 m) (hm : modbusMaxAduLength ≤ m)
  {tid : UInt16} {a : UInt8}

/-- Loading from the PDU of the frame in a buffer. -/
theorem load_adu (old : Buffer UInt8 m) {pdu : List UInt8} (hlen : (core.adu tid a pdu).length ≤ m)
    {i : Nat} {b : UInt8} (hb : pdu[i]? = some b) :
    (old.fill (core.adu tid a pdu)).load (core.lenHeader + i) = .ok b := by
  have hi : i < pdu.length := (List.getElem?_eq_some_iff.mp hb).1
  exact Buffer.load_fill_of_getElem? old (by rw [adu_getElem? core tid a hi, hb]) hlen

/-- The bytes behind a position of the PDU. -/
theorem take_tailFrom_adu (old : Buffer UInt8 m) {l data : List UInt8}
    (hlen : (core.adu tid a (l ++ data)).length ≤ m) {k : Nat} (hk : k = data.length) :
    ((old.fill (core.adu tid a (l ++ data))).tailFrom (core.lenHeader + l.length)).take k = data := by
  subst hk
  have hl : (core.header tid a (l ++ data).length ++ l).length = core.lenHeader + l.length := by simp
  obtain ⟨tail, htail⟩ : ∃ tail, (old.fill (core.adu tid a (l ++ data))).toList =
      (core.header tid a (l ++ data).length ++ l) ++ (data ++ tail) := by
    rw [Buffer.toList_fill _ hlen]
    unfold Core.adu
    simp only [List.append_assoc]
    exact ⟨_, rfl⟩
  rw [Buffer.tailFrom, htail, ← hl, List.drop_left, List.take_left]

include h hin in
/-- The response decides first by its function code. -/
theorem modbusHandleConfirm_function {g : UInt8} {response : Buffer UInt8 m}
    (hg : response.load core.lenHeader = .ok g) (requestLen responseLen : UInt16)
    (readData : Buffer UInt8 j) :
    modbusHandleConfirm smb request requestLen response responseLen readData =
      if (g.toNat : Int) ≥ 0x80 then .ok (0 - (g.toNat : Int), readData)
      else if (q.function.toNat : Int) = g.toNat then do
        let calcLength ← confirmCalcLength core request q.function.toNat
        if calcLength = responseLen then confirmReadData core modbusOk request response g.toNat readData
        else .ok (modbusOk, readData)
      else .ok (modbusFailConfirm, readData) := by
  unfold modbusHandleConfirm
  simp only [h.contextCheck, ne_eq, not_true, if_false, h.coreOf, exec_ok_bind, hin.function_eq, hg]
  rfl

/-- The length the response to a read must have. -/
theorem confirmCalcLength_read {k : Kind} (hin : q.In core request)
    (hread : serviceOf q.function = .read k) :
    confirmCalcLength core request q.function.toNat =
      .ok (toU16 ((core.lenHeader + core.lenChecksum + 2 + k.bytes q.num.toNat : Nat) : Int)) := by
  unfold confirmCalcLength
  cases k with
  | coil =>
    have hf := serviceOf_read_coil q.function hread
    rw [if_pos hf, hin.num_eq, exec_ok_bind, coilBytes_natCast]
    show Except.ok _ = Except.ok (toU16 ((_ + _ + 2 + byteCount q.num.toNat : Nat) : Int))
    push_cast
    rw [add_assoc, add_assoc, add_assoc]
  | register =>
    have hf := serviceOf_read_register q.function hread
    rw [if_neg (by rcases hf with hf | hf <;> rw [hf] <;> decide), if_pos (Or.inr hf), hin.num_eq,
      exec_ok_bind]
    show Except.ok _ = Except.ok (toU16 ((_ + _ + 2 + 2 * q.num.toNat : Nat) : Int))
    push_cast
    rw [add_assoc, add_assoc, add_assoc]

/-- A copy from another object returns when there is room for it, and fills the first bytes. -/
theorem Kind.m2h_other_iff (k : Kind) {num : Nat} (hnum : 0 < num) {des out : Buffer UInt8 j} {cells : List UInt8}
    (hc : k.bytes num ≤ cells.length) :
    k.m2h des 0 (.other cells) num = .ok out ↔
      k.bytes num ≤ j ∧ out = des.fill (k.conv (cells.take (k.bytes num))) := by
  have hcopy : k.bytes num ≤ j →
      k.m2h des 0 (.other cells) num = .ok (des.fill (k.conv (cells.take (k.bytes num)))) := by
    intro hj
    have hother : k.m2h (des.fill []) 0 (.other cells) num = .ok (des.fill ([] ++ k.conv (cells.take (k.bytes num)))) :=
      k.m2h_other des cells rfl hnum hc (by simpa using hj)
    rwa [Buffer.fill_nil, List.nil_append] at hother
  constructor
  · intro hrun
    have hsize := (k.m2h_ok hrun).1
    rw [k.bytesOf_natCast] at hsize
    have hj : k.bytes num ≤ j := by omega
    exact ⟨hj, Except.ok.inj (hrun.symm.trans (hcopy hj))⟩
  · rintro ⟨hj, rfl⟩
    exact hcopy hj

/-- Behind the byte count of a response there is room for the data of any read. -/
theorem confirm_cells (core : Core) {k : Kind} {num : Nat} (hnum : num ≤ k.maxRead) (response : Buffer UInt8 m)
    (hm : modbusMaxAduLength ≤ m) : k.bytes num ≤ (response.tailFrom (core.lenHeader + 2)).length := by
  have hmax : modbusMaxAduLength = 260 := rfl
  have hh := core.lenHeader_le
  have hbytes : k.bytes num ≤ 250 := k.bytes_maxRead ▸ k.bytes_mono hnum
  rw [Buffer.tailFrom, List.length_drop, Buffer.length_toList]
  omega

/-- On a response of the right length the byte count decides whether the data are copied. -/
theorem confirmReadData_read {k : Kind} (hin : q.In core request)
    (hread : serviceOf q.function = .read k) (hnum : q.num.toNat ≤ k.maxRead) {response : Buffer UInt8 m} {b : UInt8}
    (hb : response.load (core.lenHeader + 1) = .ok b) (ret : Int) (readData : Buffer UInt8 j) :
    confirmReadData core ret request response q.function.toNat readData =
      if toU8 (k.bytes q.num.toNat) = b then do
        let readData ← k.m2h readData 0 (.other (response.tailFrom (core.lenHeader + 2))) q.num.toNat
        return (modbusOk, readData)
      else .ok (ret, readData) := by
  have hbytes : k.bytes q.num.toNat ≤ 250 := k.bytes_maxRead ▸ k.bytes_mono hnum
  have htemp : (toU16 ((k.bytes q.num.toNat : Nat) : Int)).toNat = k.bytes q.num.toNat :=
    toNat_toU16_natCast (by omega)
  unfold confirmReadData
  cases k with
  | coil =>
    have hf := serviceOf_read_coil q.function hread
    have htemp' : (toU16 (coilBytes q.num.toNat)).toNat = Kind.coil.bytes q.num.toNat := by
      rw [coilBytes_natCast]
      exact htemp
    dsimp only
    rw [if_pos hf, hin.num_eq, exec_ok_bind, hb, exec_ok_bind, htemp']
    rfl
  | register =>
    have hf := serviceOf_read_register q.function hread
    have htemp' : (toU16 ((q.num.toNat : Int) * 2)).toNat = Kind.register.bytes q.num.toNat := by
      rw [mul_comm]
      exact_mod_cast htemp
    dsimp only
    rw [if_neg (by rcases hf with hf | hf <;> rw [hf] <;> decide), if_pos hf, hin.num_eq, exec_ok_bind, hb,
      exec_ok_bind, htemp']
    rfl

include h in
/-- **`modbus_handle_confirm` on the response to a read.** A frame of another length is let through with
the result of the context check, `MODBUS_OK`, and no data. -/
theorem modbusHandleConfirm_read {k : Kind} (hin : q.In core request)
    (hread : serviceOf q.function = .read k) (hnum : 0 < q.num.toNat ∧ q.num.toNat ≤ k.maxRead) {b : UInt8}
    {data : List UInt8} (hb : b.toNat = data.length)
    (hlen : (core.adu tid a (q.function :: b :: data)).length ≤ modbusMaxAduLength)
    (hm : modbusMaxAduLength ≤ m) (requestLen : UInt16) (readData : Buffer UInt8 j) {ret : Int}
    {out : Buffer UInt8 j} :
    modbusHandleConfirm smb request requestLen (old.fill (core.adu tid a (q.function :: b :: data)))
        (toU16 ((core.adu tid a (q.function :: b :: data)).length : Nat)) readData = .ok (ret, out) ↔
      ret = modbusOk ∧
        if data.length = k.bytes q.num.toNat then
          k.bytes q.num.toNat ≤ j ∧ out = readData.fill (k.conv data)
        else out = readData := by
  have hmax : modbusMaxAduLength = 260 := rfl
  have hf := (serviceOf_read q.function hread).2
  have hbytes : k.bytes q.num.toNat ≤ 250 := k.bytes_maxRead ▸ k.bytes_mono hnum.2
  have ho := core.lenOverhead_le
  have hadu : (core.adu tid a (q.function :: b :: data)).length =
      core.lenHeader + (data.length + 2) + core.lenChecksum := by rw [Core.length_adu]; rfl
  have hload0 : (old.fill (core.adu tid a (q.function :: b :: data))).load core.lenHeader =
      .ok q.function := load_adu old (hlen.trans hm) (i := 0) rfl
  have hcalc : toU16 ((core.lenHeader + core.lenChecksum + 2 + k.bytes q.num.toNat : Nat) : Int) =
      toU16 ((core.adu tid a (q.function :: b :: data)).length : Nat) ↔
        data.length = k.bytes q.num.toNat := by
    rw [← UInt16.toNat_inj, toNat_toU16_natCast (by omega), toNat_toU16_natCast (by omega)]
    omega
  rw [modbusHandleConfirm_function h hin hload0, if_neg (by omega), if_pos rfl,
    confirmCalcLength_read hin hread, exec_ok_bind]
  by_cases hsame : data.length = k.bytes q.num.toNat
  · have hload1 : (old.fill (core.adu tid a (q.function :: b :: data))).load (core.lenHeader + 1) = .ok b :=
      load_adu old (hlen.trans hm) (i := 1) rfl
    have htake : ((old.fill (core.adu tid a (q.function :: b :: data))).tailFrom
        (core.lenHeader + 2)).take (k.bytes q.num.toNat) = data :=
      take_tailFrom_adu old (l := [q.function, b]) (hlen.trans hm) hsame.symm
    have hcells := confirm_cells core hnum.2 (old.fill (core.adu tid a (q.function :: b :: data))) hm
    have hcount : toU8 (k.bytes q.num.toNat) = b := by rw [← hsame, ← hb, toU8_toNat]
    rw [if_pos (hcalc.mpr hsame), if_pos hsame, confirmReadData_read hin hread hnum.2 hload1, if_pos hcount]
    constructor
    · intro hrun
      obtain ⟨rd, hrd, hrun⟩ := bind_eq_ok.mp hrun
      cases hrun
      rw [k.m2h_other_iff hnum.1 hcells, htake] at hrd
      exact ⟨rfl, hrd⟩
    · rintro ⟨rfl, hout⟩
      rw [← htake, ← k.m2h_other_iff hnum.1 hcells] at hout
      rw [hout]
      rfl
  · rw [if_neg (mt hcalc.mp hsame), if_neg hsame]
    constructor
    · intro hrun
      cases hrun
      exact ⟨rfl, rfl⟩
    · rintro ⟨rfl, rfl⟩
      rfl

include h in
/-- **`modbus_handle_confirm` on the response to a write**: nothing but the function code matters, the
quantity of a multiple write is compared without effect. -/
theorem modbusHandleConfirm_write (hin : q.In core request)
    (hwrite : (∃ k, serviceOf q.function = .writeSingle k) ∨ ∃ k, serviceOf q.function = .writeMultiple k)
    {l : List UInt8} (hl : l.length = 4) (hm : modbusMaxAduLength ≤ m) (requestLen : UInt16)
    (readData : Buffer UInt8 j) :
    modbusHandleConfirm smb request requestLen (old.fill (core.adu tid a (q.function :: l)))
      (toU16 ((core.adu tid a (q.function :: l)).length : Nat)) readData = .ok (modbusOk, readData) := by
  have hmax : modbusMaxAduLength = 260 := rfl
  have hh := core.lenHeader_le
  have ho := core.lenOverhead_le
  have hadu : (core.adu tid a (q.function :: l)).length = core.lenHeader + 5 + core.lenChecksum := by
    rw [Core.length_adu, List.length_cons, hl]
  match l, hl with
  | [b1, b2, b3, b4], _ =>
    have hload : ∀ i b, (q.function :: [b1, b2, b3, b4])[i]? = some b →
        (old.fill (core.adu tid a (q.function :: [b1, b2, b3, b4]))).load (core.lenHeader + i) = .ok b :=
      fun i b hb => load_adu old (by omega) hb
    have hcalc : confirmCalcLength core request q.function.toNat =
        .ok (toU16 ((core.adu tid a (q.function :: [b1, b2, b3, b4])).length : Nat)) := by
      have hlen : ((core.adu tid a (q.function :: [b1, b2, b3, b4])).length : Int) =
          ((core.lenHeader + core.lenChecksum : Nat) : Int) + 5 := by omega
      rw [hlen]
      unfold confirmCalcLength
      rcases hwrite with ⟨k, hk⟩ | ⟨k, hk⟩
      · rw [serviceOf_writeSingle q.function hk]
        cases k <;> rfl
      · rw [serviceOf_writeMultiple q.function hk]
        cases k <;> rfl
    have hquantity : loadWord (old.fill (core.adu tid a (q.function :: [b1, b2, b3, b4])))
        (core.lenHeader + 3) = .ok (toU16 (word b3 b4)) := by
      unfold loadWord
      rw [hload 3 b3 rfl, exec_ok_bind, Nat.add_assoc, hload 4 b4 rfl, exec_ok_bind]
      rfl
    have hf : ¬ (q.function.toNat : Int) ≥ 0x80 := by
      rcases hwrite with ⟨k, hk⟩ | ⟨k, hk⟩
      · rw [serviceOf_writeSingle q.function hk]
        cases k <;> decide
      · rw [serviceOf_writeMultiple q.function hk]
        cases k <;> decide
    rw [modbusHandleConfirm_function h hin (hload 0 q.function rfl), if_neg hf, if_pos rfl, hcalc,
      exec_ok_bind, if_pos rfl]
    unfold confirmReadData
    dsimp only
    rw [hin.num_eq, hquantity]
    -- whichever way the comparison goes, the shared result is `MODBUS_OK`
    rcases hwrite with ⟨k, hk⟩ | ⟨k, hk⟩
    · rw [serviceOf_writeSingle q.function hk]
      cases k <;> rfl
    · rw [serviceOf_writeMultiple q.function hk]
      cases k <;> exact ite_self _

end Handle

/-! ## §3 — what a master operation that returns OK has received. -/

section Operation

variable {smb : Smb σ} {core : Core} {port : Port σ} (h : Ready smb core port) (L : Line port)

/-- The context in which the master waits for the confirmation. -/
def waitingContext (core : Core) (smb : Smb σ) (frame : List UInt8) : Smb σ :=
  { core.requestContext smb with writeBuff := smb.writeBuff.fill frame }

/-- The context after a master operation that received `frame`. -/
def confirmedContext (core : Core) (smb : Smb σ) (request frame : List UInt8) : Smb σ :=
  { waitingContext core smb request with readBuff := smb.readBuff.fill frame }

include h

theorem waitingContext_ready (frame : List UInt8) : Ready (waitingContext core smb frame) core port := by
  have hr := requestContext_ready h core
  exact hr.congr rfl rfl rfl

theorem confirmedContext_ready (request frame : List UInt8) :
    Ready (confirmedContext core smb request frame) core port := by
  have hr := waitingContext_ready h request
  exact hr.congr rfl rfl rfl

/-- A master operation that sends its request goes on with the confirmation. -/
theorem masterOperation_eq {function addr num : Int} {writeData : List UInt8}
    (hs : Sendable function addr num writeData) (fuel : Nat) (w : σ) (readData : Buffer UInt8 n)
    {frame : List UInt8} (hframe : frame = requestFrame core smb function addr num writeData) :
    masterOperation fuel smb w function addr num writeData readData =
      if 0 > (modbusWrite smb w frame).1 then
        .ok ((modbusWrite smb w frame).1, waitingContext core smb frame, (modbusWrite smb w frame).2, readData)
      else do
        let (ret, w, response) ← modbusWaitConfirm fuel (waitingContext core smb frame)
          (modbusWrite smb w frame).2 smb.readBuff
        if 0 ≥ ret then
          return (ret, { waitingContext core smb frame with readBuff := response }, w, readData)
        else
          let (ret, readData) ← modbusHandleConfirm { waitingContext core smb frame with readBuff := response }
            (smb.writeBuff.fill frame) (toU16 (modbusWrite smb w frame).1) response (toU16 ret) readData
          return (ret, { waitingContext core smb frame with readBuff := response }, w, readData) := by
  subst hframe
  unfold masterOperation
  simp only [h.contextCheck, ne_eq, not_true, if_false]
  rw [modbusStartRequest_run h w smb.writeBuff le_rfl hs, exec_ok_bind]
  cases core <;> rfl

include L

/-- A positive result of `modbus_wait_confirm` is the length of a frame at the head of the stream that
passed the check of the core, and the buffer begins with it. -/
theorem modbusWaitConfirm_ok {old : Buffer UInt8 m} (hm : modbusMaxAduLength ≤ m) {fuel : Nat} {w w' : σ}
    {ret : Int} {buff' : Buffer UInt8 m} (hrun : modbusWaitConfirm fuel smb w old = .ok (ret, w', buff'))
    (hret : 0 ≤ ret) :
    ∃ a pdu frame, frame = core.adu smb.transferId a pdu ∧ smb.Admits a ∧ confirmFormat.Sized pdu ∧
      frame <+: L.rem w ∧ frame.length ≤ modbusMaxAduLength ∧ ret = (frame.length : Nat) ∧
      buff' = old.fill frame := by
  obtain ⟨cut, code, o, -, -, -, ho, rfl, -, hends, -⟩ :=
    modbusWaitConfirm_line L h old hm (show (-1 : Int) < 0 by decide) hrun
  rcases hends with ⟨e, -, hneg, rfl⟩ | ⟨hnone, ⟨rfl, a, pdu, ha, hsize, hadu⟩ | ⟨hneg, -⟩⟩
  · omega
  · subst ho
    obtain ⟨_, _, _, -, -, -, -, hlen⟩ := framePull_accepts_iff.mp (Pull.accepts_of_run code hnone)
    have hpre : ((framePull core confirmFormat).run code ((L.rem w).take cut)).taken <+: L.rem w :=
      List.IsPrefix.trans ⟨_, Pull.taken_append_rest code _ _⟩ (List.take_prefix cut _)
    exact ⟨a, pdu, _, hadu, ha, hsize, hpre, hlen, rfl, rfl⟩
  · omega

omit L in
/-- A non-negative confirmation is of the function that was asked for. -/
theorem modbusHandleConfirm_nonneg {q : Query} {request : Buffer UInt8 m} (hin : q.In core request)
    {old : Buffer UInt8 n} {tid : UInt16} {a : UInt8} {pdu : List UInt8} (hsize : confirmFormat.Sized pdu)
    (hlen : (core.adu tid a pdu).length ≤ n) {requestLen responseLen : UInt16} {readData out : Buffer UInt8 j}
    {ret : Int} (hret : 0 ≤ ret)
    (hrun : modbusHandleConfirm smb request requestLen (old.fill (core.adu tid a pdu)) responseLen readData =
      .ok (ret, out)) : ∃ l, pdu = q.function :: l := by
  cases pdu with
  | nil =>
    have h0 : 0 = 1 + confirmFormat.fixed 0 + confirmFormat.dataLength [] := hsize
    omega
  | cons g l =>
    have hload : (old.fill (core.adu tid a (g :: l))).load core.lenHeader = .ok g :=
      load_adu old hlen (i := 0) rfl
    rw [modbusHandleConfirm_function h hin hload] at hrun
    split_ifs at hrun with hexc hfun
    · cases hrun
      omega
    · refine ⟨l, ?_⟩
      rw [UInt8.toNat_inj.mp (show q.function.toNat = g.toNat by exact_mod_cast hfun)]
    · cases hrun
      exact absurd hret (by decide)

/-- **A master operation that returns OK** could send its request, received a frame of its function that
passed the check of the core, and returned what `modbus_handle_confirm` made of it. -/
theorem masterOperation_ok {function addr num : Int} (hf : function ∈ requestFunctions)
    {writeData : List UInt8} {fuel : Nat} {w : σ} {readData : Buffer UInt8 n} {ret : Int} {smb' : Smb σ}
    {w' : σ} {out : Buffer UInt8 n}
    (hrun : masterOperation fuel smb w function addr num writeData readData = .ok (ret, smb', w', out))
    (hret : 0 ≤ ret) :
    Sendable function addr num writeData ∧ ∃ a l frame requestLen smb₁, Ready smb₁ core port ∧
      frame = core.adu (core.requestContext smb).transferId a (toU8 function :: l) ∧ smb.Admits a ∧
      confirmFormat.Sized (toU8 function :: l) ∧
      frame <+: L.rem (modbusWrite smb w (requestFrame core smb function addr num writeData)).2 ∧
      frame.length ≤ modbusMaxAduLength ∧
      modbusHandleConfirm smb₁ (smb.writeBuff.fill (requestFrame core smb function addr num writeData))
        requestLen (smb.readBuff.fill frame) (toU16 (frame.length : Nat)) readData = .ok (ret, out) := by
  have hs : Sendable function addr num writeData := by
    have hpeel := hrun
    unfold masterOperation at hpeel
    simp only [h.contextCheck, ne_eq, not_true, if_false] at hpeel
    obtain ⟨⟨ret₀, smb₀, w₀, request⟩, hstart, hpeel⟩ := bind_eq_ok.mp hpeel
    rcases modbusStartRequest_cases h hf hstart with ⟨rfl, rfl, rfl, rfl⟩ | hs
    · -- the refusal of the quantity is what the operation returns
      dsimp only at hpeel
      rw [if_pos (by decide)] at hpeel
      cases hpeel
      exact absurd hret (by decide)
    · exact hs
  rw [masterOperation_eq h hs fuel w readData rfl] at hrun
  refine ⟨hs, ?_⟩
  split at hrun
  · cases hrun
    omega
  · obtain ⟨⟨ret₁, w₁, response⟩, hwait, hrun⟩ := bind_eq_ok.mp hrun
    have hready := waitingContext_ready h (requestFrame core smb function addr num writeData)
    dsimp only at hrun
    split at hrun
    · -- a frame is not empty, so this is an error of the wait
      rename_i h0
      cases hrun
      obtain ⟨a, pdu, frame, rfl, -, -, -, -, hlen, -⟩ := modbusWaitConfirm_ok hready L le_rfl hwait hret
      rw [Core.length_adu] at hlen
      have := core.lenHeader_pos
      omega
    · rename_i h0
      obtain ⟨a, pdu, frame, rfl, ha, hsize, hpre, hlen, rfl, rfl⟩ :=
        modbusWaitConfirm_ok hready L le_rfl hwait (by omega)
      obtain ⟨⟨ret₂, out'⟩, hconfirm, hrun⟩ := bind_eq_ok.mp hrun
      cases hrun
      have ha' : smb.Admits a := ha.imp_left fun e => e.trans (requestContext_slaveAddr core smb)
      obtain ⟨q, tail, hpdu, hqf⟩ := hs.query
      have hin : q.In core (smb.writeBuff.fill (requestFrame core smb function addr num writeData)) :=
        Query.in_adu smb.writeBuff (by rw [requestFrame, hpdu]) (hs.length_adu_le core _ _)
      have hready' := confirmedContext_ready h (requestFrame core smb function addr num writeData)
      obtain ⟨l, rfl⟩ := modbusHandleConfirm_nonneg (hready' _) hin hsize hlen hret hconfirm
      rw [hqf] at hsize hpre hlen hconfirm
      exact ⟨a, l, _, _, _, hready' _, rfl, ha', hsize, hpre, hlen, hconfirm⟩

/-- **A master operation that is answered** returns what `modbus_handle_confirm` makes of the answer, and
takes nothing else from the line. -/
theorem masterOperation_adu (hp : L.Prompt) {rank : σ → Nat} (hfair : L.Fair rank)
    {function addr num : Int} {writeData : List UInt8} (hs : Sendable function addr num writeData) {w : σ}
    {readData : Buffer UInt8 n} {request : List UInt8}
    (hrequest : request = requestFrame core smb function addr num writeData)
    (hwrite : 0 ≤ (modbusWrite smb w request).1) {a : UInt8} {pdu rest frame : List UInt8}
    (hframe : frame = core.adu (core.requestContext smb).transferId a pdu) (ha : smb.Admits a)
    (hsize : confirmFormat.Sized pdu) (hlen : frame.length ≤ modbusMaxAduLength)
    (hrem : L.rem (modbusWrite smb w request).2 = frame ++ rest) {fuel : Nat}
    (hfuel : rank (modbusWrite smb w request).2 + 2 * modbusMaxAduLength + 1 < fuel) {ret : Int}
    {out : Buffer UInt8 n}
    (hconfirm : ∀ smb₁ requestLen, Ready smb₁ core port →
      modbusHandleConfirm smb₁ (smb.writeBuff.fill request) requestLen (smb.readBuff.fill frame)
        (toU16 (frame.length : Nat)) readData = .ok (ret, out)) :
    ∃ w', masterOperation fuel smb w function addr num writeData readData =
        .ok (ret, confirmedContext core smb request frame, w', out) ∧ L.rem w' = rest ∧
      ∀ {P : σ → Prop}, L.Preserves P → P (modbusWrite smb w request).2 → P w' := by
  have hready := waitingContext_ready h request
  have hready' := confirmedContext_ready h request frame
  have hframe' : frame = core.adu (waitingContext core smb request).transferId a pdu := hframe
  obtain ⟨⟨ret₁, w₁, response⟩, hwait⟩ := modbusWaitConfirm_returns L hready smb.readBuff le_rfl hfair hfuel
  obtain ⟨hret, hbuff, hrest⟩ := modbusWaitConfirm_adu L hready smb.readBuff le_rfl hp
    (ha.imp_left fun e => e.trans (requestContext_slaveAddr core smb).symm) hsize (hframe' ▸ hlen)
    (hframe' ▸ hrem) hwait
  rw [← hframe'] at hret hbuff
  subst hret hbuff
  have hpos : 0 < frame.length := by
    rw [hframe, Core.length_adu]
    have := core.lenHeader_pos
    omega
  refine ⟨w₁, ?_, hrest, fun hP => modbusWaitConfirm_preserves L hready smb.readBuff le_rfl hP hwait⟩
  rw [masterOperation_eq h hs fuel w readData hrequest, if_neg (by omega), hwait, exec_ok_bind]
  show (if (0 : Int) ≥ (frame.length : Nat) then _ else do
    let x ← modbusHandleConfirm (confirmedContext core smb request frame) (smb.writeBuff.fill request) _
      (smb.readBuff.fill frame) (toU16 (frame.length : Nat)) readData
    return (x.1, confirmedContext core smb request frame, w₁, x.2)) = _
  rw [if_neg (by omega), hconfirm _ _ hready', exec_ok_bind]
  rfl

end Operation

/-! ## §4 — reads. -/

/-- The transaction id of the next request. -/
def Core.nextId (core : Core) (tid : UInt16) : UInt16 :=
  match core with
  | .rtu => tid
  | .tcp => tid + 1

theorem requestContext_transferId (core : Core) (smb : Smb σ) :
    (core.requestContext smb).transferId = core.nextId smb.transferId := by cases core <;> rfl

/-- A response of a read function is its byte count and as many bytes. -/
theorem exists_of_sized_read {f : UInt8} {k : Kind} (hread : serviceOf f = .read k) {l : List UInt8}
    (hsize : confirmFormat.Sized (f :: l)) : ∃ b data, l = b :: data ∧ b.toNat = data.length := by
  obtain ⟨hfixed, hcounted⟩ := confirmFormat_read f hread
  cases l with
  | nil =>
    have hlen : 1 = 1 + confirmFormat.fixed f + confirmFormat.dataLength [f] := hsize
    omega
  | cons b data => exact ⟨b, data, rfl, (Format.sized_counted_iff hcounted hfixed).mp hsize⟩

namespace ReadOp

/-- The stream begins with a response to the read that passes the check of the core and carries `data`. -/
def Response (op : ReadOp) (core : Core) (slaveAddr : UInt8) (tid : UInt16) (stream data : List UInt8) :
    Prop :=
  ∃ a b, (a = slaveAddr ∨ a = modbusBroadcastAddress) ∧ b.toNat = data.length ∧
    core.adu tid a (op.function :: b :: data) <+: stream ∧
    (core.adu tid a (op.function :: b :: data)).length ≤ modbusMaxAduLength

theorem response_sized (op : ReadOp) {b : UInt8} {data : List UInt8} (hb : b.toNat = data.length) :
    confirmFormat.Sized (op.function :: b :: data) := by
  obtain ⟨hfixed, hcounted⟩ := confirmFormat_read op.function op.serviceOf_function
  exact (Format.sized_counted_iff hcounted hfixed).mpr hb

/-- A stream begins with one response at most. -/
theorem Response.unique {op : ReadOp} {core : Core} {slaveAddr : UInt8} {tid : UInt16}
    {stream data data' : List UInt8} (h : op.Response core slaveAddr tid stream data)
    (h' : op.Response core slaveAddr tid stream data') : data = data' := by
  obtain ⟨a, b, -, hb, hpre, hlen⟩ := h
  obtain ⟨a', b', -, hb', hpre', hlen'⟩ := h'
  have hsame := Pull.Accepts.prefix_unique (framePull_accepts_adu (op.response_sized hb) hlen)
    (framePull_accepts_adu (op.response_sized hb') hlen') hpre hpre'
  obtain ⟨-, hpdu, -⟩ := Core.adu_inj (σ := Unit) hsame
  exact (List.cons.inj (List.cons.inj hpdu).2).2

/-- The query of the request. -/
theorem requestPdu_eq (op : ReadOp) (addr num : Int) :
    requestPdu op.function.toNat addr num [] =
      (⟨op.function, toU16 addr, toU16 num⟩ : Query).echoReply ++ [] := by
  unfold Query.echoReply
  simp only [highByte_toU16, lowByte_toU16]
  cases op <;> rfl

end ReadOp

namespace ReadOp

variable (op : ReadOp)

section Check

variable {addr num : Int} (hcheck : modbusCheckAddrNum op.function (toU16 addr) (toU16 num) = true)

include hcheck

/-- A read whose 16-bit quantity passes the check can be sent. -/
theorem sendable : Sendable op.function.toNat addr num [] := by
  refine ⟨op.function_mem, by rwa [toU8_toNat], ?_, ?_⟩
  · rintro (hf | hf) <;> cases op <;> exact absurd hf (by decide)
  · cases op <;> exact Nat.zero_le _

/-- The request of the read in the buffer. -/
theorem query_in {core : Core} (smb : Smb σ) (old : Buffer UInt8 modbusMaxAduLength) :
    Query.In core (old.fill (requestFrame core smb op.function.toNat addr num []))
      ⟨op.function, toU16 addr, toU16 num⟩ :=
  Query.in_adu old (by rw [requestFrame, requestPdu_eq])
    ((op.sendable hcheck).length_adu_le core _ _)

end Check

theorem num_toNat {num : Nat} (hnum : num ≤ op.kind.maxRead) : (toU16 (num : Int)).toNat = num := by
  have hmax := op.kind.maxRead_le
  exact toNat_toU16_natCast (by omega)

/-- A quantity inside the limits of the operation passes. -/
theorem check_of_num {num : Nat} (hnum : 0 < num ∧ num ≤ op.kind.maxRead) (addr : Int) :
    modbusCheckAddrNum op.function (toU16 addr) (toU16 (num : Int)) = true := by
  rw [checkAddrNum_read op.serviceOf_function, op.num_toNat hnum.2]
  exact hnum

/-- The request asks for as many. -/
theorem query_num {num : Nat} (hnum : 0 < num ∧ num ≤ op.kind.maxRead) (addr : Int) :
    0 < (⟨op.function, toU16 addr, toU16 num⟩ : Query).num.toNat ∧
      (⟨op.function, toU16 addr, toU16 num⟩ : Query).num.toNat ≤ op.kind.maxRead := by
  rw [op.num_toNat hnum.2]
  exact hnum

section Run

variable {smb : Smb σ} {core : Core} {port : Port σ} (h : Ready smb core port) (L : Line port) (addr : Int)
  {num : Nat} (hnum : 0 < num ∧ num ≤ op.kind.maxRead) {w : σ} {readData out : Buffer UInt8 n}

include h hnum

/-- A read that returns OK got a response, and its data if they have the requested length. -/
theorem response_of_ok {fuel : Nat} {ret : Int} {smb' : Smb σ} {w' : σ}
    (hrun : op.run fuel smb w addr num readData = .ok (ret, smb', w', out)) (hret : 0 ≤ ret) :
    ∃ data, op.Response core smb.slaveAddr (core.nextId smb.transferId)
        (L.rem (modbusWrite smb w (requestFrame core smb op.function.toNat addr num [])).2) data ∧
      if data.length = op.kind.bytes num then op.kind.bytes num ≤ n ∧ out = readData.fill (op.kind.conv data)
      else out = readData := by
  rw [op.run_eq] at hrun
  obtain ⟨-, a, l, frame, requestLen, smb₁, h₁, rfl, ha, hsize, hpre, hlen, hconfirm⟩ :=
    masterOperation_ok h L op.function_mem hrun hret
  rw [toU8_toNat] at hsize hpre hlen hconfirm
  obtain ⟨b, data, rfl, hb⟩ := exists_of_sized_read op.serviceOf_function hsize
  obtain ⟨-, hout⟩ := (modbusHandleConfirm_read h₁ _ (op.query_in (op.check_of_num hnum addr) smb _) op.serviceOf_function
    (op.query_num hnum addr) hb hlen le_rfl requestLen readData).mp hconfirm
  rw [op.num_toNat hnum.2] at hout
  exact ⟨data, ⟨a, b, ha, hb, requestContext_transferId core smb ▸ hpre,
    requestContext_transferId core smb ▸ hlen⟩, hout⟩

/-- A read that gets a response on a line that keeps no byte back returns OK. -/
theorem ok_of_response (hp : L.Prompt) {rank : σ → Nat} (hfair : L.Fair rank) {data : List UInt8}
    (hwrite : 0 ≤ (modbusWrite smb w (requestFrame core smb op.function.toNat addr num [])).1)
    (hresp : op.Response core smb.slaveAddr (core.nextId smb.transferId)
      (L.rem (modbusWrite smb w (requestFrame core smb op.function.toNat addr num [])).2) data)
    (hout : if data.length = op.kind.bytes num then op.kind.bytes num ≤ n ∧ out = readData.fill (op.kind.conv data)
      else out = readData) {fuel : Nat}
    (hfuel : rank (modbusWrite smb w (requestFrame core smb op.function.toNat addr num [])).2 +
      2 * modbusMaxAduLength + 1 < fuel) :
    ∃ smb' w', op.run fuel smb w addr num readData = .ok (modbusOk, smb', w', out) := by
  obtain ⟨a, b, ha, hb, ⟨rest, hrest⟩, hlen⟩ := hresp
  obtain ⟨w', hrun, -⟩ := masterOperation_adu h L hp hfair (op.sendable (op.check_of_num hnum addr)) rfl hwrite
    (by rw [requestContext_transferId]) ha (op.response_sized hb) hlen hrest.symm hfuel
    (fun smb₁ requestLen h₁ => (modbusHandleConfirm_read h₁ _ (op.query_in (op.check_of_num hnum addr) _ _)
      op.serviceOf_function (op.query_num hnum addr) hb hlen le_rfl requestLen readData).mpr
        ⟨rfl, by rwa [op.num_toNat hnum.2]⟩)
  rw [op.run_eq]
  exact ⟨_, w', hrun⟩

end Run

end ReadOp

/-- **Reads are sound exactly on the streams that do not begin with a response of another length.** On
the left: on every port that hands over the stream after the request, a read that returns OK got a response
with the requested byte count, and the caller's object begins with its data in host order. -/
theorem read_sound_iff (op : ReadOp) (core : Core) (slaveAddr : UInt8) (tid : UInt16) (addr : Int)
    {num : Nat} (hnum : 0 < num ∧ num ≤ op.kind.maxRead) (readData : Buffer UInt8 n)
    (stream : List UInt8) :
    (∀ (σ : Type) (port : Port σ) (L : Line port) (smb : Smb σ) (w : σ), Ready smb core port →
      smb.slaveAddr = slaveAddr → smb.transferId = tid →
      L.rem (modbusWrite smb w (requestFrame core smb op.function.toNat addr num [])).2 = stream →
      ∀ (fuel : Nat) (ret : Int) (smb' : Smb σ) (w' : σ) (out : Buffer UInt8 n),
        op.run fuel smb w addr num readData = .ok (ret, smb', w', out) → 0 ≤ ret →
        ∃ data, op.Response core slaveAddr (core.nextId tid) stream data ∧
          data.length = op.kind.bytes num ∧ out = readData.fill (op.kind.conv data)) ↔
      ¬ ∃ data, op.Response core slaveAddr (core.nextId tid) stream data ∧
        data.length ≠ op.kind.bytes num := by
  constructor
  · -- a wire that holds the stream lets the wrong response through
    rintro hsound ⟨data, hresp, hne⟩
    have hready : Ready { newContext core Wire.port slaveAddr with transferId := tid } core Wire.port :=
      ⟨rfl, rfl, rfl⟩
    obtain ⟨smb', w', hrun⟩ := op.ok_of_response (w := ⟨stream, [], []⟩) hready Wire.line addr hnum
      Wire.steady.prompt Wire.fair (Int.natCast_nonneg _) hresp (by rw [if_neg hne]) (show 0 + 2 * 260 + 1 < 522 by decide)
    obtain ⟨data', hresp', hlen', -⟩ := hsound _ _ Wire.line _ _ hready rfl rfl rfl _ _ _ _ _ hrun le_rfl
    rw [hresp.unique hresp'] at hne
    exact hne hlen'
  · intro hgood σ port L smb w h haddr htid hstream fuel ret smb' w' out hrun hret
    subst haddr htid hstream
    obtain ⟨data, hresp, hout⟩ := op.response_of_ok h L addr hnum hrun hret
    have hsame : data.length = op.kind.bytes num := by
      by_contra hne
      exact hgood ⟨data, hresp, hne⟩
    rw [if_pos hsame] at hout
    exact ⟨data, hresp, hsame, hout.2⟩

/-- Two registers, read over TCP from a response of the right length. -/
theorem read_sound_iff_two :
    ∃ smb' w' out, ReadOp.registers.run 600 (newContext .tcp Wire.port 17)
        ⟨[0, 1, 0, 0, 0, 7, 17, 3, 4, 1, 2, 3, 4], [], []⟩ 300 2 (Buffer.replicate 4 0) =
        .ok (modbusOk, smb', w', out) ∧
      ∃ data, ReadOp.registers.Response .tcp 17 1 [0, 1, 0, 0, 0, 7, 17, 3, 4, 1, 2, 3, 4] data ∧
        data.length = 4 ∧ out = (Buffer.replicate 4 0).fill (swapPairs data) := by
  have hresp : ReadOp.registers.Response .tcp 17 1 [0, 1, 0, 0, 0, 7, 17, 3, 4, 1, 2, 3, 4] [1, 2, 3, 4] :=
    ⟨17, 4, Or.inl rfl, rfl, by decide, by decide⟩
  obtain ⟨⟨ret, smb', w', out⟩, hrun, hret⟩ := map_eq_ok.mp (show (ReadOp.registers.run 600
    (newContext .tcp Wire.port 17) ⟨[0, 1, 0, 0, 0, 7, 17, 3, 4, 1, 2, 3, 4], [], []⟩ 300 2
    (Buffer.replicate 4 0)).map (fun x => x.1) = .ok modbusOk by decide +kernel)
  obtain rfl : ret = modbusOk := hret
  obtain ⟨data, hdata, hlen, hout⟩ := (read_sound_iff .registers .tcp 17 0 300 (show 0 < 2 ∧ 2 ≤ 125 by decide)
    (Buffer.replicate 4 0) [0, 1, 0, 0, 0, 7, 17, 3, 4, 1, 2, 3, 4]).mpr
    (by
      rintro ⟨data, hdata, hne⟩
      rw [← hresp.unique hdata] at hne
      exact hne rfl)
    Wire Wire.port Wire.line _ _ (newContext_ready .tcp Wire.port 17) rfl rfl rfl 600 _ _ _ _ hrun le_rfl
  exact ⟨smb', w', out, hrun, data, hdata, hlen, hout⟩

/-- Two registers, read from a response that carries one: the result is OK and nothing was read. -/
theorem read_sound_short :
    (ReadOp.registers.run 600 (newContext .rtu Wire.port 1) ⟨[1, 3, 2, 0, 0, 184, 68], [], []⟩ 0 2
        (Buffer.replicate 4 7)).map (fun x => (x.1, x.2.2.2.toList)) = .ok (modbusOk, [7, 7, 7, 7]) ∧
      ¬ ∃ data, ReadOp.registers.Response .rtu 1 0 [1, 3, 2, 0, 0, 184, 68] data ∧ data.length = 4 := by
  have hresp : ReadOp.registers.Response .rtu 1 0 [1, 3, 2, 0, 0, 184, 68] [0, 0] :=
    ⟨1, 2, Or.inl rfl, rfl, by decide +kernel, by decide +kernel⟩
  refine ⟨by decide +kernel, ?_⟩
  rintro ⟨data, hdata, hlen⟩
  rw [← hresp.unique hdata] at hlen
  exact absurd hlen (by decide)

/-! ## §5 — writes. -/

/-- **A write that returns OK** received, at the head of the stream, a frame that passes the check of the
core, is from its slave or from address 0, has the function code of the request and the length of the reply
to a write. -/
theorem write_accepted (op : WriteOp) (host : Host) {smb : Smb σ} {core : Core} {port : Port σ}
    (h : Ready smb core port) (L : Line port) {fuel : Nat} {w : σ} {ret : Int} {smb' : Smb σ} {w' : σ}
    {out : Buffer UInt8 0} (hrun : op.run host fuel smb w = .ok (ret, smb', w', out)) (hret : 0 ≤ ret) :
    ∃ a l, (a = smb.slaveAddr ∨ a = modbusBroadcastAddress) ∧ l.length = 4 ∧
      core.adu (core.nextId smb.transferId) a (op.function :: l) <+:
        L.rem (modbusWrite smb w
          (requestFrame core smb op.function.toNat op.addr op.num (op.data host))).2 := by
  rw [op.run_eq] at hrun
  obtain ⟨-, a, l, frame, requestLen, smb₁, h₁, rfl, ha, hsize, hpre, -, -⟩ :=
    masterOperation_ok h L op.function_mem hrun hret
  rw [toU8_toNat] at hsize hpre
  obtain ⟨hfixed, hcounted⟩ := confirmFormat_write op.function op.serviceOf_function
  refine ⟨a, l, ha, ?_, requestContext_transferId core smb ▸ hpre⟩
  rw [(Format.sized_uncounted_iff hcounted).mp hsize, hfixed]

/-- A register, written over TCP and confirmed. -/
theorem write_accepted_register :
    ∃ a l, (a = 17 ∨ a = modbusBroadcastAddress) ∧ l.length = 4 ∧
      Core.tcp.adu 1 a (6 :: l) <+: [0, 1, 0, 0, 0, 6, 17, 6, 0, 5, 0x12, 0x34] := by
  obtain ⟨⟨ret, smb', w', out⟩, hrun, hret⟩ := map_eq_ok.mp (show ((WriteOp.register 5 0x1234).run
    .littleEndian 600 (newContext .tcp Wire.port 17) ⟨[0, 1, 0, 0, 0, 6, 17, 6, 0, 5, 0x12, 0x34], [], []⟩).map
    (fun x => x.1) = .ok modbusOk by decide +kernel)
  obtain rfl : ret = modbusOk := hret
  exact write_accepted (.register 5 0x1234) .littleEndian (newContext_ready .tcp Wire.port 17) Wire.line hrun
    le_rfl

/-- The same write, answered from address 0, and answered with another register and another value: the
result is OK. -/
theorem write_accepted_other :
    ((WriteOp.register 5 0x1234).run .littleEndian 600 (newContext .tcp Wire.port 17)
        ⟨[0, 1, 0, 0, 0, 6, 0, 6, 0, 5, 0x12, 0x34], [], []⟩).map (fun x => (x.1, x.2.2.1.tx)) =
        .ok (modbusOk, [[0, 1, 0, 0, 0, 6, 17, 6, 0, 5, 0x12, 0x34]]) ∧
      ((WriteOp.register 5 0x1234).run .littleEndian 600 (newContext .tcp Wire.port 17)
        ⟨[0, 1, 0, 0, 0, 6, 17, 6, 0, 9, 0x77, 0x34], [], []⟩).map (fun x => (x.1, x.2.2.1.tx)) =
        .ok (modbusOk, [[0, 1, 0, 0, 0, 6, 17, 6, 0, 5, 0x12, 0x34]]) :=
  ⟨by decide +kernel, by decide +kernel⟩

end SmallModbus
