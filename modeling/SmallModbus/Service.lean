/-
# `SmallModbus.Service` — what the functions have in common.

Coils and registers differ in the bytes that hold a number of them and in the order these bytes have on
the wire: a `Kind` is one of the two, with both pairs of copies and what they do. A `Service` is what the
dispatcher of the slave does with a function code, `slaveDispatch_eq` reads the dispatcher as a match on
it.
-/
import SmallModbus.Receive

namespace SmallModbus

open SmallModbus.Lib

variable {σ κ : Type} {n : Nat}

/-! ## §1 — coils and registers. -/

/-- What the items of a function are. -/
inductive Kind
  | coil
  | register
  deriving DecidableEq, Repr

namespace Kind

/-- The bytes that hold `num` items. -/
def bytes : Kind → Nat → Nat
  | .coil, num => byteCount num
  | .register, num => 2 * num

/-- The exchange of host order and wire order. -/
def conv : Kind → List UInt8 → List UInt8
  | .coil => id
  | .register => swapPairs

/-- The copies from host order to wire order. -/
def h2m : Kind → Buffer UInt8 n → Nat → Buffer.Source UInt8 → Int → Exec (Buffer UInt8 n)
  | .coil => modbusCoilH2m
  | .register => modbusRegH2m

/-- The copies from wire order to host order. -/
def m2h : Kind → Buffer UInt8 n → Nat → Buffer.Source UInt8 → Int → Exec (Buffer UInt8 n)
  | .coil => modbusCoilM2h
  | .register => modbusRegM2h

/-- The byte count as the source computes it from an `int`. -/
def bytesOf : Kind → Int → Int
  | .coil => coilBytes
  | .register => fun len => len * 2

@[simp] theorem length_conv (k : Kind) (l : List UInt8) : (k.conv l).length = l.length := by
  cases k with
  | coil => rfl
  | register => exact length_swapPairs l

@[simp] theorem conv_conv (k : Kind) (l : List UInt8) : k.conv (k.conv l) = l := by
  cases k with
  | coil => rfl
  | register => exact swapPairs_swapPairs l

/-- More items take at least as many bytes. -/
theorem bytes_mono (k : Kind) {num num' : Nat} (h : num ≤ num') : k.bytes num ≤ k.bytes num' := by
  cases k with
  | coil =>
    show (num + 7) / 8 ≤ (num' + 7) / 8
    omega
  | register =>
    show 2 * num ≤ 2 * num'
    omega

theorem bytesOf_natCast (k : Kind) (num : Nat) : k.bytesOf num = k.bytes num := by
  cases k with
  | coil => exact coilBytes_natCast num
  | register =>
    show (num : Int) * 2 = ((2 * num : Nat) : Int)
    omega

theorem take_conv (k : Kind) (num : Nat) (l : List UInt8) :
    (k.conv l).take (k.bytes num) = k.conv (l.take (k.bytes num)) := by
  cases k with
  | coil => rfl
  | register => exact take_swapPairs num l

section Copies

variable (k : Kind) (old : Buffer UInt8 n) {pre : List UInt8} {d num : Nat}

/-- A copy from another object puts its first bytes at the cursor, in the other order. -/
theorem m2h_other (cells : List UInt8) (hd : d = pre.length) (hnum : 0 < num)
    (hc : k.bytes num ≤ cells.length) (hn : pre.length + k.bytes num ≤ n) :
    k.m2h (old.fill pre) d (.other cells) num =
      .ok (old.fill (pre ++ k.conv (cells.take (k.bytes num)))) := by
  cases k with
  | coil => exact modbusCoilM2h_other old cells hd hnum hc hn
  | register => exact modbusRegM2h_other old cells hd hnum hc hn

/-- A copy of an object onto itself changes the order of the bytes it copies. -/
theorem h2m_self {mid : List UInt8} (hd : d = pre.length) (hnum : 0 < num)
    (hmid : mid.length = k.bytes num) (hn : pre.length + k.bytes num ≤ n) :
    k.h2m (old.fill (pre ++ mid)) d (.self d) num = .ok (old.fill (pre ++ k.conv mid)) := by
  cases k with
  | coil =>
    subst hd
    obtain ⟨j, hj⟩ := Nat.exists_eq_add_of_lt (byteCount_pos hnum)
    rw [Nat.zero_add] at hj
    have hb : byteCount num = j + 1 := hj
    show coilCopyLoop (.self pre.length) pre.length (n + 1) _ 0 (coilBytes num) = _
    have hn' : pre.length + byteCount num ≤ n := hn
    rw [coilBytes_natCast, hb, coilCopyLoop_self _ _ _ _ (by omega) (by omega)]
    rfl
  | register => exact modbusRegH2m_self old hd hnum hmid hn

theorem m2h_self {mid : List UInt8} (hd : d = pre.length) (hnum : 0 < num)
    (hmid : mid.length = k.bytes num) (hn : pre.length + k.bytes num ≤ n) :
    k.m2h (old.fill (pre ++ mid)) d (.self d) num = .ok (old.fill (pre ++ k.conv mid)) := by
  cases k with
  | coil => exact h2m_self .coil old hd hnum hmid hn
  | register => exact h2m_self .register old hd hnum hmid hn

/-- A copy that returns copied at least one byte, stayed inside its object and wrote nothing before its
pointer. -/
theorem m2h_ok {src : Buffer.Source UInt8} {des res : Buffer UInt8 n} {count : Int}
    (h : k.m2h des d src count = .ok res) :
    d + k.bytesOf count ≤ n ∧ ∀ j < d, res.toList[j]? = des.toList[j]? := by
  cases k with
  | coil =>
    obtain ⟨-, h2, -, h4⟩ := coilCopyLoop_ok h
    exact ⟨by show d + coilBytes count ≤ n; omega, h4⟩
  | register =>
    obtain ⟨-, h2, -, h4⟩ := regCopyLoop_ok h
    exact ⟨by show d + count * 2 ≤ n; omega, h4⟩

theorem h2m_ok {src : Buffer.Source UInt8} {des res : Buffer UInt8 n} {count : Int}
    (h : k.h2m des d src count = .ok res) :
    d + k.bytesOf count ≤ n ∧ ∀ j < d, res.toList[j]? = des.toList[j]? := by
  cases k with
  | coil => exact m2h_ok .coil h
  | register => exact m2h_ok .register h

end Copies

end Kind

/-! ## §2 — what the dispatcher does with a function code. -/

/-- The kinds of branch of the dispatcher. -/
inductive Service
  | read (k : Kind)
  | writeSingle (k : Kind)
  | writeMultiple (k : Kind)
  | reportSlaveId
  | unsupported
  deriving DecidableEq, Repr

/-- The branch a function code takes. -/
def serviceOf (function : UInt8) : Service :=
  let f : Int := function.toNat
  if f = modbusFcReadHoldingCoils ∨ f = modbusFcReadInputsCoils then .read .coil
  else if f = modbusFcReadHoldingRegisters ∨ f = modbusFcReadInputRegisters then .read .register
  else if f = modbusFcWriteSingleCoil then .writeSingle .coil
  else if f = modbusFcWriteSingleRegister then .writeSingle .register
  else if f = modbusFcWriteMultipleCoils then .writeMultiple .coil
  else if f = modbusFcWriteMultipleRegisters then .writeMultiple .register
  else if f = modbusFcReportSlaveId then .reportSlaveId
  else .unsupported

/-- **The dispatcher** is a match on the service. -/
theorem slaveDispatch_eq (smb : Smb σ) (core : Core) (f : UInt8) (request : Buffer UInt8 n)
    (cb : Option (SlaveCallback κ)) (app : κ) :
    slaveDispatch smb core f request cb app =
      match serviceOf f with
      | .read k => handleRead k.h2m k.bytesOf smb core f request cb app
      | .writeSingle k => handleWriteSingle k.m2h smb core f request cb app
      | .writeMultiple k => handleWriteMultiple k.m2h smb core f request cb app
      | .reportSlaveId => handleReportSlaveId smb core f request app
      | .unsupported => .ok ⟨0, 0, modbusExceptionIllegalFunction, smb.writeBuff, request, app⟩ := by
  unfold slaveDispatch serviceOf
  dsimp only
  split_ifs <;> rfl

/-- The largest quantity of a read. -/
def Kind.maxRead : Kind → Nat
  | .coil => modbusMaxReadBits
  | .register => modbusMaxReadRegisters

/-- The largest quantity of a multiple write. -/
def Kind.maxWrite : Kind → Nat
  | .coil => modbusMaxWriteBits
  | .register => modbusMaxWriteRegisters

/-- The data of the largest read and of the largest write fit a frame. -/
theorem Kind.bytes_maxRead (k : Kind) : k.bytes k.maxRead = 250 := by cases k <;> rfl

theorem Kind.bytes_maxWrite (k : Kind) : k.bytes k.maxWrite = 246 := by cases k <;> rfl

/-- The limits are far below the 16 bits of a quantity. -/
theorem Kind.maxRead_le (k : Kind) : k.maxRead ≤ 2000 := by cases k <;> decide

theorem Kind.maxWrite_le (k : Kind) : k.maxWrite ≤ 1968 := by cases k <;> decide

theorem Kind.one_le_maxWrite (k : Kind) : 1 ≤ k.maxWrite := by cases k <;> decide

/-- One item is in the value of a single write. -/
theorem Kind.bytes_one_le (k : Kind) : k.bytes 1 ≤ 2 := by cases k <;> decide

/-- A property of bytes may be checked on the 256 of them. -/
theorem forall_uint8 {P : UInt8 → Prop} (h : ∀ i : Fin 256, P (UInt8.ofNat i)) (f : UInt8) : P f := by
  have hf := h ⟨f.toNat, f.toNat_lt⟩
  rwa [UInt8.ofNat_toNat] at hf

/-- The function code of a single write. -/
def Kind.fcSingle : Kind → UInt8
  | .coil => 5
  | .register => 6

/-- The function code of a multiple write. -/
def Kind.fcMultiple : Kind → UInt8
  | .coil => 15
  | .register => 16

theorem serviceOf_fcSingle (k : Kind) : serviceOf k.fcSingle = .writeSingle k := by cases k <;> rfl

theorem serviceOf_fcMultiple (k : Kind) : serviceOf k.fcMultiple = .writeMultiple k := by cases k <;> rfl

theorem serviceOf_read (f : UInt8) {k : Kind} (h : serviceOf f = .read k) :
    maxNum f = k.maxRead ∧ 1 ≤ f.toNat ∧ f.toNat ≤ 4 := by
  revert f
  cases k <;> exact forall_uint8 (by decide +kernel)

theorem serviceOf_read_coil (f : UInt8) (h : serviceOf f = .read .coil) :
    (f.toNat : Int) = modbusFcReadHoldingCoils ∨ (f.toNat : Int) = modbusFcReadInputsCoils := by
  revert f
  exact forall_uint8 (by decide +kernel)

theorem serviceOf_read_register (f : UInt8) (h : serviceOf f = .read .register) :
    (f.toNat : Int) = modbusFcReadHoldingRegisters ∨ (f.toNat : Int) = modbusFcReadInputRegisters := by
  revert f
  exact forall_uint8 (by decide +kernel)

theorem serviceOf_writeSingle (f : UInt8) {k : Kind} (h : serviceOf f = .writeSingle k) :
    f = k.fcSingle := by
  revert f
  cases k <;> exact forall_uint8 (by decide +kernel)

theorem serviceOf_writeMultiple (f : UInt8) {k : Kind} (h : serviceOf f = .writeMultiple k) :
    f = k.fcMultiple := by
  revert f
  cases k <;> exact forall_uint8 (by decide +kernel)

/-- The check of a read is the check of its quantity. -/
theorem checkAddrNum_read {f : UInt8} {k : Kind} (h : serviceOf f = .read k) (address num : UInt16) :
    modbusCheckAddrNum f address num = true ↔ 0 < num.toNat ∧ num.toNat ≤ k.maxRead := by
  obtain ⟨hmax, -, hf⟩ := serviceOf_read f h
  rw [← hmax]
  exact modbusCheckAddrNum_iff (by simp only [modbusFcWriteSingleCoil]; omega)
    (by simp only [modbusFcWriteSingleRegister]; omega)

/-- The check of a multiple write is the check of its quantity. -/
theorem checkAddrNum_writeMultiple {f : UInt8} {k : Kind} (h : serviceOf f = .writeMultiple k)
    (address num : UInt16) :
    modbusCheckAddrNum f address num = true ↔ 0 < num.toNat ∧ num.toNat ≤ k.maxWrite := by
  obtain rfl := serviceOf_writeMultiple f h
  cases k <;> exact modbusCheckAddrNum_iff (by decide) (by decide)

end SmallModbus
