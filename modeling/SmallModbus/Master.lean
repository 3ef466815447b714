/-
# `SmallModbus.Master` — `small_modbus_base.c`: the master side.

`modbus_start_request`, `modbus_wait_confirm`, `modbus_handle_confirm` and the eight operations. The
switches of the three functions are definitions of their own, so that each has its own lemma.
-/
import SmallModbus.Base

namespace SmallModbus

open SmallModbus.Lib

variable {σ : Type} {n m : Nat}

/-! ## §1 — the request. -/

/-- The switch of `modbus_start_request`: the data behind the header of `len` bytes, and the new `len`. -/
def requestData (request : Buffer UInt8 n) (len : Nat) (function num : Int)
    (writeData : List UInt8) : Exec (Nat × Buffer UInt8 n) :=
  if function = modbusFcWriteSingleCoil then do
    -- the first byte of the caller's object decides
    let first ← Buffer.Source.load request (.other writeData) 0
    let request ← request.store (len - 2) (if first ≠ 0 then 0xFF else 0x00)
    let request ← request.store (len - 1) 0x00
    return (len, request)
  else if function = modbusFcWriteSingleRegister then do
    let request ← modbusRegH2m request (len - 2) (.other writeData) 1
    return (len, request)
  else if function = modbusFcWriteMultipleCoils then do
    let count := toU16 (coilBytes num)
    let request ← request.store len (toU8 count.toNat)
    let request ← modbusCoilH2m request (len + 1) (.other writeData) num
    return (len + 1 + count.toNat, request)
  else if function = modbusFcWriteMultipleRegisters then do
    let count := toU16 (num * 2)
    let request ← request.store len (toU8 count.toNat)
    let request ← modbusRegH2m request (len + 1) (.other writeData) num
    return (len + 1 + count.toNat, request)
  else
    return (len, request)

/-- `modbus_start_request`. -/
def modbusStartRequest (smb : Smb σ) (w : σ) (request : Buffer UInt8 n) (function addr num : Int)
    (writeData : List UInt8) : Exec (Int × Smb σ × σ × Buffer UInt8 n) :=
  let ret := modbusContextCheck smb
  if ret ≠ modbusOk then
    return (ret, smb, w, request)
  else if modbusCheckAddrNum (toU8 function) (toU16 addr) (toU16 num) then do
    let core ← coreOf smb
    let (len, smb, request) ←
      core.buildRequestHeader smb request smb.slaveAddr.toNat function addr num
    let (len, request) ← requestData request len function num writeData
    let (ret, request) ← core.checkSendPre smb request len
    if ret > 0 then
      let frame ← request.slice (toU16 ret).toNat
      let (ret, w) := modbusWrite smb w frame
      return (ret, smb, w, request)
    else
      return (ret, smb, w, request)
  else
    return (modbusFailRequest, smb, w, request)

/-! ## §2 — the confirmation. -/

/-- The inner switch of `modbus_wait_confirm` at the data position: the bytes that follow, without the
checksum. -/
def confirmDataWant (core : Core) (response : Buffer UInt8 n) : Exec Int := do
  let function : Int := (← response.load core.lenHeader).toNat
  if function = modbusFcReadHoldingCoils ∨ function = modbusFcReadInputsCoils ∨
      function = modbusFcReadHoldingRegisters ∨ function = modbusFcReadInputRegisters then
    let bytes ← response.load (core.lenHeader + 1)
    return bytes.toNat
  else
    return 0

/-- The switch of `modbus_wait_confirm`. -/
def confirmNextWant (core : Core) : NextWant n := fun response position readLength =>
  if position = 0 then do
    let function : Int := (← response.load core.lenHeader).toNat
    if function = modbusFcReadHoldingCoils ∨ function = modbusFcReadInputsCoils ∨
        function = modbusFcReadHoldingRegisters ∨ function = modbusFcReadInputRegisters then
      return (1, .ok 1)
    else if function = modbusFcWriteSingleCoil ∨ function = modbusFcWriteSingleRegister ∨
        function = modbusFcWriteMultipleCoils ∨ function = modbusFcWriteMultipleRegisters then
      return (1, .ok 4)
    else if function = modbusFcMaskWriteRegister then
      return (1, .ok 6)
    else
      return (1, .ok 1)
  else if position = 1 then do
    let readWant ← confirmDataWant core response
    let readWant := readWant + core.lenChecksum
    if readWant + readLength > core.lenAduMax then
      return (1, .error modbusFailConfirm)
    else
      return (2, .ok readWant)
  else
    return (position, .ok 0)

/-- `modbus_wait_confirm`. -/
def modbusWaitConfirm (fuel : Nat) (smb : Smb σ) (w : σ) (response : Buffer UInt8 n) :
    Exec (Int × σ × Buffer UInt8 n) :=
  let ret := modbusContextCheck smb
  if ret ≠ modbusOk then
    return (ret, w, response)
  else do
    let core ← coreOf smb
    let (exit, w, response) ←
      receiveLoop (confirmNextWant core) smb fuel w response 0 (core.lenHeader + 1) 0
        (toI32 smb.timeoutFrame)
    match exit with
    | .error ret => return (ret, w, response)
    | .ok readLength =>
        let ret ← core.checkWaitResponse smb response readLength
        return (ret, w, response)

/-- The first switch of `modbus_handle_confirm`: the length the response must have, from the request. -/
def confirmCalcLength (core : Core) (request : Buffer UInt8 n) (requestFunction : Int) :
    Exec UInt16 :=
  let calcLength : Nat := core.lenHeader + core.lenChecksum
  if requestFunction = modbusFcReadHoldingCoils ∨ requestFunction = modbusFcReadInputsCoils then do
    let temp ← loadWord request (core.lenHeader + 3)
    return toU16 (calcLength + (2 + coilBytes temp.toNat))
  else if requestFunction = modbusFcWriteAndReadRegisters ∨
      requestFunction = modbusFcReadHoldingRegisters ∨
      requestFunction = modbusFcReadInputRegisters then do
    let temp ← loadWord request (core.lenHeader + 3)
    return toU16 (calcLength + (2 + 2 * (temp.toNat : Int)))
  else if requestFunction = modbusFcReadExceptionStatus then
    return toU16 (calcLength + 3)
  else if requestFunction = modbusFcMaskWriteRegister then
    return toU16 (calcLength + 7)
  else
    return toU16 (calcLength + 5)

/-- The second switch of `modbus_handle_confirm`, on a response of the right length; `ret` is the shared
result, left as it is by a branch whose comparison fails. -/
def confirmReadData {k : Nat} (core : Core) (ret : Int) (request : Buffer UInt8 n)
    (response : Buffer UInt8 m) (responseFunction : Int) (readData : Buffer UInt8 k) :
    Exec (Int × Buffer UInt8 k) :=
  let h := core.lenHeader
  if responseFunction = modbusFcReadHoldingCoils ∨ responseFunction = modbusFcReadInputsCoils then do
    let rwNum ← loadWord request (h + 3)
    let temp := toU16 (coilBytes rwNum.toNat)
    let byteNum ← response.load (h + 1)
    if toU8 temp.toNat = byteNum then
      let readData ← modbusCoilM2h readData 0 (.other (response.tailFrom (h + 2))) rwNum.toNat
      return (modbusOk, readData)
    else
      return (ret, readData)
  else if responseFunction = modbusFcReadHoldingRegisters ∨
      responseFunction = modbusFcReadInputRegisters then do
    let rwNum ← loadWord request (h + 3)
    let temp := toU16 (rwNum.toNat * 2)
    let byteNum ← response.load (h + 1)
    if toU8 temp.toNat = byteNum then
      let readData ← modbusRegM2h readData 0 (.other (response.tailFrom (h + 2))) rwNum.toNat
      return (modbusOk, readData)
    else
      return (ret, readData)
  else if responseFunction = modbusFcWriteMultipleCoils ∨
      responseFunction = modbusFcWriteMultipleRegisters then do
    let rwNum ← loadWord request (h + 3)
    let temp ← loadWord response (h + 3)
    if rwNum = temp then
      return (modbusOk, readData)
    else
      return (ret, readData)
  else
    return (modbusOk, readData)

/-- `modbus_handle_confirm`. The shared `ret` is `MODBUS_OK` from the context check on, and an exit
that does not set it leaves it so. -/
def modbusHandleConfirm {k : Nat} (smb : Smb σ) (request : Buffer UInt8 n) (_requestLen : UInt16)
    (response : Buffer UInt8 m) (responseLen : UInt16) (readData : Buffer UInt8 k) :
    Exec (Int × Buffer UInt8 k) :=
  let ret := modbusContextCheck smb
  if ret ≠ modbusOk then
    return (ret, readData)
  else do
    let core ← coreOf smb
    let requestFunction : Int := (← request.load core.lenHeader).toNat
    let responseFunction : Int := (← response.load core.lenHeader).toNat
    if responseFunction ≥ 0x80 then
      return (0 - responseFunction, readData)
    else if requestFunction = responseFunction then
      let calcLength ← confirmCalcLength core request requestFunction
      if calcLength = responseLen then
        confirmReadData core ret request response responseFunction readData
      else
        return (ret, readData)
    else
      return (modbusFailConfirm, readData)

/-! ## §3 — the operations. -/

/-- The common body of the eight master operations: start the request from `write_buff`, wait for the
confirmation in `read_buff`, handle it. A `NULL` data pointer is the object of size 0. -/
def masterOperation (fuel : Nat) (smb : Smb σ) (w : σ) (function addr num : Int)
    (writeData : List UInt8) (readData : Buffer UInt8 n) :
    Exec (Int × Smb σ × σ × Buffer UInt8 n) :=
  let ret := modbusContextCheck smb
  if ret ≠ modbusOk then
    return (ret, smb, w, readData)
  else do
    let (ret, smb, w, request) ← modbusStartRequest smb w smb.writeBuff function addr num writeData
    let smb := { smb with writeBuff := request }
    if 0 > ret then
      return (ret, smb, w, readData)
    else
      let requestLen := toU16 ret
      let (ret, w, response) ← modbusWaitConfirm fuel smb w smb.readBuff
      let smb := { smb with readBuff := response }
      if 0 ≥ ret then
        return (ret, smb, w, readData)
      else
        let (ret, readData) ←
          modbusHandleConfirm smb smb.writeBuff requestLen smb.readBuff (toU16 ret) readData
        return (ret, smb, w, readData)

/-- The object behind a `NULL` data pointer. -/
def noData : Buffer UInt8 0 := Buffer.replicate 0 0

/-- The byte order of the host. -/
inductive Host
  | littleEndian
  | bigEndian
  deriving DecidableEq, Repr

/-- The four bytes of an `int` object in memory. -/
def intObject (host : Host) (x : Int) : List UInt8 :=
  let bytes := [toU8 x, toU8 (x / 256), toU8 (x / 65536), toU8 (x / 16777216)]
  match host with
  | .littleEndian => bytes
  | .bigEndian => bytes.reverse

/-- `modbus_read_bits`. -/
def modbusReadBits (fuel : Nat) (smb : Smb σ) (w : σ) (addr num : Int) (readData : Buffer UInt8 n) :
    Exec (Int × Smb σ × σ × Buffer UInt8 n) :=
  masterOperation fuel smb w modbusFcReadHoldingCoils addr num [] readData

/-- `modbus_read_input_bits`. -/
def modbusReadInputBits (fuel : Nat) (smb : Smb σ) (w : σ) (addr num : Int)
    (readData : Buffer UInt8 n) : Exec (Int × Smb σ × σ × Buffer UInt8 n) :=
  masterOperation fuel smb w modbusFcReadInputsCoils addr num [] readData

/-- `modbus_read_registers`. -/
def modbusReadRegisters (fuel : Nat) (smb : Smb σ) (w : σ) (addr num : Int)
    (readData : Buffer UInt8 n) : Exec (Int × Smb σ × σ × Buffer UInt8 n) :=
  masterOperation fuel smb w modbusFcReadHoldingRegisters addr num [] readData

/-- `modbus_read_input_registers`. -/
def modbusReadInputRegisters (fuel : Nat) (smb : Smb σ) (w : σ) (addr num : Int)
    (readData : Buffer UInt8 n) : Exec (Int × Smb σ × σ × Buffer UInt8 n) :=
  masterOperation fuel smb w modbusFcReadInputRegisters addr num [] readData

/-- `modbus_write_bit`: the request is built from the object `int status`. -/
def modbusWriteBit (host : Host) (fuel : Nat) (smb : Smb σ) (w : σ) (addr writeStatus : Int) :
    Exec (Int × Smb σ × σ × Buffer UInt8 0) :=
  let status : Int := if writeStatus ≠ 0 then 0xFF00 else 0x0
  masterOperation fuel smb w modbusFcWriteSingleCoil addr 1 (intObject host status) noData

/-- `modbus_write_register`: the request is built from the object `int value`. -/
def modbusWriteRegister (host : Host) (fuel : Nat) (smb : Smb σ) (w : σ) (addr writeValue : Int) :
    Exec (Int × Smb σ × σ × Buffer UInt8 0) :=
  masterOperation fuel smb w modbusFcWriteSingleRegister addr 1 (intObject host writeValue) noData

/-- `modbus_write_bits`. -/
def modbusWriteBits (fuel : Nat) (smb : Smb σ) (w : σ) (addr num : Int) (writeData : List UInt8) :
    Exec (Int × Smb σ × σ × Buffer UInt8 0) :=
  masterOperation fuel smb w modbusFcWriteMultipleCoils addr num writeData noData

/-- `modbus_write_registers`. -/
def modbusWriteRegisters (fuel : Nat) (smb : Smb σ) (w : σ) (addr num : Int)
    (writeData : List UInt8) : Exec (Int × Smb σ × σ × Buffer UInt8 0) :=
  masterOperation fuel smb w modbusFcWriteMultipleRegisters addr num writeData noData

end SmallModbus
