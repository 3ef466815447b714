/-
# `SmallModbus.Core` — the two cores, `small_modbus_rtu.c` and `small_modbus_tcp.c`.

A core fixes the header and checksum sizes and supplies five functions: the header builders for requests
and responses, the completion of a frame before it is sent, and the checks of a received request and a
received response. Each `rtu…` and `tcp…` definition is the C function of that name; the `Core.…`
definitions are the calls through the function pointers of `small_modbus_core_t`.
-/
import SmallModbus.Utils

namespace SmallModbus

open SmallModbus.Lib

variable {σ : Type} {n : Nat}

/-! ## §1 — the RTU core. -/

/-- `_rtu_build_request_header`. -/
def rtuBuildRequestHeader (smb : Smb σ) (buff : Buffer UInt8 n) (slave function reg num : Int) :
    Exec (Nat × Smb σ × Buffer UInt8 n) := do
  let buff ← buff.store 0 (toU8 slave)
  let buff ← buff.store 1 (toU8 function)
  let buff ← buff.store 2 (highByte reg)
  let buff ← buff.store 3 (lowByte reg)
  let buff ← buff.store 4 (highByte num)
  let buff ← buff.store 5 (lowByte num)
  return (6, smb, buff)

/-- `_rtu_build_response_header`. -/
def rtuBuildResponseHeader (_smb : Smb σ) (buff : Buffer UInt8 n) (slave function : Int) :
    Exec (Nat × Buffer UInt8 n) := do
  let buff ← buff.store 0 (toU8 slave)
  let buff ← buff.store 1 (toU8 function)
  return (2, buff)

/-- `_rtu_check_send_pre`: the CRC after the frame, low byte first. -/
def rtuCheckSendPre (_smb : Smb σ) (buff : Buffer UInt8 n) (length : Nat) :
    Exec (Int × Buffer UInt8 n) := do
  let crc ← modbusCrc16 buff (toU16 length)
  let buff ← buff.store length (lowByte crc.toNat)
  let buff ← buff.store (length + 1) (highByte crc.toNat)
  return (length + 2, buff)

/-- The common body of `_rtu_check_wait_request` and `_rtu_check_wait_response`. -/
def rtuCheckWait (smb : Smb σ) (buff : Buffer UInt8 n) (length : Int) : Exec Int := do
  let lo ← buff.loadAt (length - 2)
  let hi ← buff.loadAt (length - 1)
  let crcRecv := toU16 (word hi lo)
  let crcCal ← modbusCrc16 buff (toU16 (length - 2))
  if crcCal ≠ crcRecv then
    return modbusFailCheck
  else
    let addr ← buff.load 0
    if addr ≠ smb.slaveAddr ∧ addr ≠ modbusBroadcastAddress then
      return modbusFailAdrr
    else
      return length

/-- `_rtu_check_wait_request`. -/
def rtuCheckWaitRequest (smb : Smb σ) (buff : Buffer UInt8 n) (length : Int) :
    Exec (Int × Smb σ) := do
  let ret ← rtuCheckWait smb buff length
  return (ret, smb)

/-- `_rtu_check_wait_response`. -/
def rtuCheckWaitResponse (smb : Smb σ) (buff : Buffer UInt8 n) (length : Int) : Exec Int :=
  rtuCheckWait smb buff length

/-! ## §2 — the TCP core. -/

/-- `_tcp_build_request_header`: a new transaction id, bytes 4 and 5 left for `_tcp_check_send_pre`. -/
def tcpBuildRequestHeader (smb : Smb σ) (buff : Buffer UInt8 n) (slave function reg num : Int) :
    Exec (Nat × Smb σ × Buffer UInt8 n) := do
  let smb := { smb with transferId := smb.transferId + 1 }
  let buff ← buff.store 0 (highByte smb.transferId.toNat)
  let buff ← buff.store 1 (lowByte smb.transferId.toNat)
  let buff ← buff.store 2 0x00
  let buff ← buff.store 3 0x00
  let buff ← buff.store 6 (toU8 slave)
  let buff ← buff.store 7 (toU8 function)
  let buff ← buff.store 8 (highByte reg)
  let buff ← buff.store 9 (lowByte reg)
  let buff ← buff.store 10 (highByte num)
  let buff ← buff.store 11 (lowByte num)
  return (12, smb, buff)

/-- `_tcp_build_response_header`. -/
def tcpBuildResponseHeader (smb : Smb σ) (buff : Buffer UInt8 n) (slave function : Int) :
    Exec (Nat × Buffer UInt8 n) := do
  let buff ← buff.store 0 (highByte smb.transferId.toNat)
  let buff ← buff.store 1 (lowByte smb.transferId.toNat)
  let buff ← buff.store 2 0x00
  let buff ← buff.store 3 0x00
  let buff ← buff.store 6 (toU8 slave)
  let buff ← buff.store 7 (toU8 function)
  return (8, buff)

/-- `_tcp_check_send_pre`: the MBAP length. -/
def tcpCheckSendPre (_smb : Smb σ) (buff : Buffer UInt8 n) (length : Nat) :
    Exec (Int × Buffer UInt8 n) := do
  let rc : Int := (length : Int) - 6
  let buff ← buff.store 4 (highByte rc)
  let buff ← buff.store 5 (lowByte rc)
  return (length, buff)

/-- `_tcp_check_wait_request`. -/
def tcpCheckWaitRequest (smb : Smb σ) (buff : Buffer UInt8 n) (length : Int) :
    Exec (Int × Smb σ) := do
  let checkLen : Int := word (← buff.load 4) (← buff.load 5)
  let addr ← buff.load 6
  if (← buff.load 2) = 0x00 ∧ (← buff.load 3) = 0x00 then
    if length - checkLen = 6 then
      if addr = smb.slaveAddr ∨ addr = modbusBroadcastAddress then
        let transferId := toU16 (word (← buff.load 0) (← buff.load 1))
        return (length, { smb with transferId := transferId })
      else
        return (modbusFailAdrr, smb)
    else
      return (modbusFailCheck, smb)
  else
    return (modbusFailCheck, smb)

/-- `_tcp_check_wait_response`. -/
def tcpCheckWaitResponse (smb : Smb σ) (buff : Buffer UInt8 n) (length : Int) : Exec Int := do
  let checkLen : Int := word (← buff.load 4) (← buff.load 5)
  let addr ← buff.load 6
  let transferId := toU16 (word (← buff.load 0) (← buff.load 1))
  if transferId = smb.transferId then
    if (← buff.load 2) = 0x00 ∧ (← buff.load 3) = 0x00 then
      if length - checkLen = 6 then
        if addr = smb.slaveAddr ∨ addr = modbusBroadcastAddress then
          return length
        else
          return modbusFailAdrr
      else
        return modbusFailCheck
    else
      return modbusFailCheck
  else
    return modbusFailCheck

/-! ## §3 — the fields of the two core constants. -/

namespace Core

def lenHeader : Core → Nat
  | .rtu => 1
  | .tcp => 7

def lenChecksum : Core → Nat
  | .rtu => 2
  | .tcp => 0

def lenAduMax : Core → Nat
  | .rtu => 260
  | .tcp => 260

def buildRequestHeader : Core → Smb σ → Buffer UInt8 n → (slave function reg num : Int) →
    Exec (Nat × Smb σ × Buffer UInt8 n)
  | .rtu => rtuBuildRequestHeader
  | .tcp => tcpBuildRequestHeader

def buildResponseHeader : Core → Smb σ → Buffer UInt8 n → (slave function : Int) →
    Exec (Nat × Buffer UInt8 n)
  | .rtu => rtuBuildResponseHeader
  | .tcp => tcpBuildResponseHeader

def checkSendPre : Core → Smb σ → Buffer UInt8 n → (length : Nat) → Exec (Int × Buffer UInt8 n)
  | .rtu => rtuCheckSendPre
  | .tcp => tcpCheckSendPre

def checkWaitRequest : Core → Smb σ → Buffer UInt8 n → (length : Int) → Exec (Int × Smb σ)
  | .rtu => rtuCheckWaitRequest
  | .tcp => tcpCheckWaitRequest

def checkWaitResponse : Core → Smb σ → Buffer UInt8 n → (length : Int) → Exec Int
  | .rtu => rtuCheckWaitResponse
  | .tcp => tcpCheckWaitResponse

end Core

end SmallModbus
