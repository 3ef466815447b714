/-
# `SmallModbus.Types` — the constants, the port, the core and the context of `small_modbus_base.h`.

C integers are `Int` where the source computes in `int`, and `UInt8`, `UInt16`, `UInt32` where a value is
held in a fixed-width object; the conversions between them are `toU8`, `toU16`, `toU32` and `toI32`.
The two cores of the library are constants of the source, so a core is one of two names and its
function pointers are the functions of `SmallModbus.Core`. A port is a record of functions over a state
`σ` of its own, a null function pointer being `none`.
-/
import SmallModbus.Lib.Memory

namespace SmallModbus

open SmallModbus.Lib

/-! ## §1 — conversions between C integer types. -/

/-- Conversion of an `int` to `uint8_t`. -/
def toU8 (x : Int) : UInt8 := UInt8.ofInt x
/-- Conversion of an `int` to `uint16_t`. -/
def toU16 (x : Int) : UInt16 := UInt16.ofInt x
/-- Conversion of an `int` to `uint32_t`. -/
def toU32 (x : Int) : UInt32 := UInt32.ofInt x
/-- Conversion of a `uint32_t` to `int`, by wrap-around. -/
def toI32 (x : UInt32) : Int := (x.toNat : Int).bmod (2 ^ 32)

/-- `(uint8_t)(x >> 8)` of an `int`. -/
def highByte (x : Int) : UInt8 := toU8 (x / 256)
/-- `(uint8_t)(x & 0x00ff)` of an `int`. -/
def lowByte (x : Int) : UInt8 := toU8 (x % 256)

/-- `(hi << 8) + lo`, an `int` between 0 and 65535. -/
def word (hi lo : UInt8) : Nat := hi.toNat * 256 + lo.toNat

/-! ## §2 — the enumerations and limits of the header. -/

/-! ### `enum functionCode` -/

@[simp] def modbusFcReadHoldingCoils : Int := 0x01
@[simp] def modbusFcReadInputsCoils : Int := 0x02
@[simp] def modbusFcReadHoldingRegisters : Int := 0x03
@[simp] def modbusFcReadInputRegisters : Int := 0x04
@[simp] def modbusFcWriteSingleCoil : Int := 0x05
@[simp] def modbusFcWriteSingleRegister : Int := 0x06
@[simp] def modbusFcReadExceptionStatus : Int := 0x07
@[simp] def modbusFcWriteMultipleCoils : Int := 0x0F
@[simp] def modbusFcWriteMultipleRegisters : Int := 0x10
@[simp] def modbusFcReportSlaveId : Int := 0x11
@[simp] def modbusFcMaskWriteRegister : Int := 0x16
@[simp] def modbusFcWriteAndReadRegisters : Int := 0x17

/-! ### `enum returnCode` -/

@[simp] def modbusExceptionIllegalDataValue : Int := -0x83
@[simp] def modbusExceptionIllegalDataAddress : Int := -0x82
@[simp] def modbusExceptionIllegalFunction : Int := -0x81
@[simp] def modbusException : Int := -0x80
@[simp] def modbusErrorContext : Int := -0x0A
@[simp] def modbusErrorWait : Int := -9
@[simp] def modbusErrorRead : Int := -8
@[simp] def modbusFailCheck : Int := -7
@[simp] def modbusFailAdrr : Int := -6
@[simp] def modbusFailHandle : Int := -5
@[simp] def modbusFailConfirm : Int := -4
@[simp] def modbusFailRequest : Int := -3
@[simp] def modbusTimeout : Int := -2
@[simp] def modbusFail : Int := -1
@[simp] def modbusOk : Int := 0

/-! ### The other constants -/

/-- `MODBUS_WAIT_FOREVER`. -/
@[simp] def modbusWaitForever : Int := -1
/-- `MODBUS_MAGIC`, the letters `MBCB`. -/
def modbusMagicWord : UInt32 := 0x4243424D
/-- `MODBUS_DEVICE_SLAVE`. -/
def modbusDeviceSlave : UInt16 := 1
/-- `MODBUS_BROADCAST_ADDRESS`. -/
def modbusBroadcastAddress : UInt8 := 0
/-- `MODBUS_MAX_READ_BITS`. -/
@[simp] def modbusMaxReadBits : Nat := 2000
/-- `MODBUS_MAX_WRITE_BITS`. -/
@[simp] def modbusMaxWriteBits : Nat := 1968
/-- `MODBUS_MAX_READ_REGISTERS`. -/
@[simp] def modbusMaxReadRegisters : Nat := 125
/-- `MODBUS_MAX_WRITE_REGISTERS`. -/
@[simp] def modbusMaxWriteRegisters : Nat := 123
/-- `MODBUS_MAX_ADU_LENGTH`, the size of the two buffers of a context. -/
abbrev modbusMaxAduLength : Nat := 260

/-! ## §3 — ports, cores, contexts. -/

/-- `struct _small_modbus_port` over a device state `σ`. A read gives the count the port returns and
the bytes it put at the pointer it was given. -/
structure Port (σ : Type) where
  openFn : Option (σ → Int × σ)
  closeFn : Option (σ → Int × σ)
  readFn : Option (σ → UInt16 → Int × List UInt8 × σ)
  writeFn : Option (σ → List UInt8 → Int × σ)
  flushFn : Option (σ → Int × σ)
  waitFn : Option (σ → Int → Int × σ)

/-- The two constants of type `small_modbus_core_t`: `_modbus_rtu_core` and `_modbus_tcp_core`. -/
inductive Core
  | rtu
  | tcp
  deriving DecidableEq, Repr

/-- `struct _small_modbus`, the context of one master or slave. -/
structure Smb (σ : Type) where
  modbusMagic : UInt32
  deviceMode : UInt16
  slaveAddr : UInt8
  debugLevel : UInt8
  transferId : UInt16
  protocolId : UInt16
  status : Int
  errorCode : Int
  timeoutFrame : UInt32
  timeoutByte : UInt32
  readBuff : Buffer UInt8 modbusMaxAduLength
  writeBuff : Buffer UInt8 modbusMaxAduLength
  core : Option Core
  port : Option (Port σ)

/-- `small_modbus_slave_callback_t` over an application state `κ`. It gets the cells from the data
pointer to the end of the object the pointer points into, and leaves as many. The callback of the source gets
`smb` as well; here it is one that leaves the context alone. -/
structure SlaveCallback (κ : Type) where
  call : κ → (functionCode addr num : Int) → List UInt8 → Int × List UInt8 × κ
  size_eq : ∀ k f a n data, (call k f a n data).2.1.length = data.length

/-! ## §4 — arithmetic of the conversions. -/

theorem toU8_natCast (n : Nat) : toU8 n = UInt8.ofNat n := by
  simp only [toU8, UInt8.ofInt]
  rw [← UInt8.toNat_inj]
  simp
  omega

theorem toU16_natCast (n : Nat) : toU16 n = UInt16.ofNat n := by
  simp only [toU16, UInt16.ofInt]
  rw [← UInt16.toNat_inj]
  simp
  omega

theorem toNat_toU8 (x : Int) : ((toU8 x).toNat : Int) = x % 256 := by
  simp [toU8, UInt8.ofInt]
  omega

theorem toNat_toU16 (x : Int) : ((toU16 x).toNat : Int) = x % 65536 := by
  simp [toU16, UInt16.ofInt]
  omega

@[simp] theorem toU8_toNat (b : UInt8) : toU8 b.toNat = b := by
  rw [toU8_natCast, UInt8.ofNat_toNat]

@[simp] theorem toU16_toNat (x : UInt16) : toU16 x.toNat = x := by
  rw [toU16_natCast, UInt16.ofNat_toNat]

theorem toNat_toU16_of_lt {x : Int} (h0 : 0 ≤ x) (h : x < 65536) : (toU16 x).toNat = x.toNat := by
  have := toNat_toU16 x
  omega

theorem toNat_toU16_natCast {x : Nat} (h : x < 65536) : (toU16 (x : Int)).toNat = x := by
  rw [toNat_toU16_of_lt (by omega) (by omega), Int.toNat_natCast]

theorem toNat_toU8_of_lt {k : Nat} (h : k < 256) : (toU8 k).toNat = k := by
  have := toNat_toU8 (k : Int)
  omega

theorem toNat_highByte {x : Int} (h0 : 0 ≤ x) (h : x < 65536) :
    ((highByte x).toNat : Int) = x / 256 := by
  rw [highByte, toNat_toU8]
  omega

theorem toNat_lowByte (x : Int) : ((lowByte x).toNat : Int) = x % 256 := by
  rw [lowByte, toNat_toU8]
  omega

/-- The two bytes of a 16-bit value make the value again. -/
theorem word_highByte_lowByte {x : Int} (h0 : 0 ≤ x) (h : x < 65536) :
    (word (highByte x) (lowByte x) : Int) = x := by
  have hh := toNat_highByte h0 h
  have hl := toNat_lowByte x
  rw [word]
  push_cast
  omega

theorem word_lt (hi lo : UInt8) : word hi lo < 65536 := by
  have h := hi.toNat_lt
  have h' := lo.toNat_lt
  rw [word]
  omega

theorem highByte_word (hi lo : UInt8) : highByte (word hi lo) = hi := by
  have h := toNat_highByte (x := word hi lo) (by omega) (by have := word_lt hi lo; omega)
  have h' := lo.toNat_lt
  rw [← UInt8.toNat_inj]
  simp only [word] at h ⊢
  omega

theorem lowByte_word (hi lo : UInt8) : lowByte (word hi lo) = lo := by
  have h := toNat_lowByte (word hi lo)
  have h' := lo.toNat_lt
  rw [← UInt8.toNat_inj]
  simp only [word] at h ⊢
  omega

/-- The bytes on the wire are those of the low 16 bits. -/
@[simp] theorem highByte_toU16 (x : Int) : highByte (toU16 x).toNat = highByte x := by
  have h := toNat_toU16 x
  have h1 := toNat_toU8 (((toU16 x).toNat : Int) / 256)
  have h2 := toNat_toU8 (x / 256)
  rw [← UInt8.toNat_inj]
  unfold highByte
  omega

@[simp] theorem lowByte_toU16 (x : Int) : lowByte (toU16 x).toNat = lowByte x := by
  have h := toNat_toU16 x
  have h1 := toNat_lowByte ((toU16 x).toNat : Int)
  have h2 := toNat_lowByte x
  rw [← UInt8.toNat_inj]
  omega

end SmallModbus
