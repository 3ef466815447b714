/-
# `SmallModbus.Slave` — `small_modbus_base.c`: the slave side.

`modbus_slave_wait`, `modbus_slave_handle` and `modbus_slave_wait_handle`. The dispatcher has three kinds
of branch: the reads, whose reply data the callback puts into the reply buffer; the single writes and the
multiple writes, whose data the callback gets inside the request buffer. Coils and registers differ in
the copy that is applied in place and in the byte count.
-/
import SmallModbus.Base

namespace SmallModbus

open SmallModbus.Lib

variable {σ κ : Type} {n : Nat}

/-! ## §1 — `modbus_slave_wait`. -/

/-- The bytes that follow the function code in step 0. -/
def slaveHeadWant (function : Int) : Int :=
  if function ≤ modbusFcWriteSingleRegister then 4
  else if function = modbusFcWriteMultipleCoils ∨ function = modbusFcWriteMultipleRegisters then 5
  else if function = modbusFcMaskWriteRegister then 6
  else if function = modbusFcWriteAndReadRegisters then 9
  else 0

/-- Case 1 of the switch of `modbus_slave_wait`: the data and the checksum. -/
def slaveDataWant (core : Core) (request : Buffer UInt8 n) (readLength : Int) :
    Exec (Int × Except Int Int) := do
  let function : Int := (← request.load core.lenHeader).toNat
  let readWant : Int ←
    if function = modbusFcWriteMultipleCoils ∨ function = modbusFcWriteMultipleRegisters then
      (fun b => (b.toNat : Int)) <$> request.load (core.lenHeader + 5)
    else if function = modbusFcWriteAndReadRegisters then
      (fun b => (b.toNat : Int)) <$> request.load (core.lenHeader + 9)
    else
      .ok 0
  let readWant := readWant + core.lenChecksum
  if readWant + readLength > core.lenAduMax then
    return (2, .error modbusFail)
  else
    return (2, .ok readWant)

/-- The switch of `modbus_slave_wait`. -/
def slaveNextWant (core : Core) : NextWant n := fun request step readLength =>
  if step = 0 then do
    let function : Int := (← request.load core.lenHeader).toNat
    if slaveHeadWant function ≠ 0 then
      return (1, .ok (slaveHeadWant function))
    else
      -- no `break` in the source: case 0 falls through to case 1
      slaveDataWant core request readLength
  else if step = 1 then
    slaveDataWant core request readLength
  else
    return (step, .ok 0)

/-- `modbus_slave_wait`. -/
def modbusSlaveWait (fuel : Nat) (smb : Smb σ) (w : σ) (request : Buffer UInt8 n) (waitTime : Int) :
    Exec (Int × Smb σ × σ × Buffer UInt8 n) :=
  let ret := modbusContextCheck smb
  if ret ≠ modbusOk then
    return (ret, smb, w, request)
  else do
    let core ← coreOf smb
    let (exit, w, request) ←
      receiveLoop (slaveNextWant core) smb fuel w request 0 (core.lenHeader + 1) 0 waitTime
    match exit with
    | .error ret => return (ret, smb, w, request)
    | .ok readLength =>
        let (ret, smb) ← core.checkWaitRequest smb request readLength
        return (ret, smb, w, request)

/-! ## §2 — `modbus_slave_handle`. -/

/-- The variables of `modbus_slave_handle` at the end of its switch. -/
structure Handling (κ : Type) (n : Nat) where
  responseLen : Nat
  responseDataLen : Int
  responseDataException : Int
  response : Buffer UInt8 modbusMaxAduLength
  request : Buffer UInt8 n
  app : κ

/-- Call the slave callback, if there is one, on the cells of `buff` from `off` on. -/
def callSlave (cb : Option (SlaveCallback κ)) (app : κ) (function addr num : Int)
    (buff : Buffer UInt8 n) (off : Nat) : Exec (Int × Buffer UInt8 n × κ) :=
  match cb with
  | some cb => do
      let (ret, data, app) := cb.call app function addr num (buff.tailFrom off)
      let buff ← buff.replaceFrom off data
      return (ret, buff, app)
  | none => return (0, buff, app)

/-- The branches of functions 0x01 to 0x04. -/
def handleRead
    (h2m : Buffer UInt8 modbusMaxAduLength → Nat → Buffer.Source UInt8 → Int →
      Exec (Buffer UInt8 modbusMaxAduLength))
    (bytesOf : Int → Int) (smb : Smb σ) (core : Core) (queryFunction : UInt8)
    (request : Buffer UInt8 n) (cb : Option (SlaveCallback κ)) (app : κ) : Exec (Handling κ n) := do
  let queryAddress ← loadWord request (core.lenHeader + 1)
  let queryNum ← loadWord request (core.lenHeader + 3)
  if modbusCheckAddrNum queryFunction queryAddress queryNum then
    let (len, response) ←
      core.buildResponseHeader smb smb.writeBuff smb.slaveAddr.toNat queryFunction.toNat
    let (dataLen, response, app) ←
      callSlave cb app queryFunction.toNat queryAddress.toNat queryNum.toNat response (len + 1)
    if 0 < dataLen ∧ modbusCheckAddrNum queryFunction queryAddress (toU16 dataLen) then
      let bytes := toU8 (bytesOf dataLen)
      let response ← response.store len bytes
      let response ← h2m response (len + 1) (.self (len + 1)) dataLen
      return ⟨len + (bytes.toNat + 1), dataLen, modbusOk, response, request, app⟩
    else
      return ⟨len, dataLen, modbusException, response, request, app⟩
  else
    return ⟨0, 0, modbusExceptionIllegalDataValue, smb.writeBuff, request, app⟩

/-- The four bytes after the header of a normal write reply. -/
def storeEcho (response : Buffer UInt8 n) (len : Nat) (queryAddress queryNum : UInt16) :
    Exec (Buffer UInt8 n) := do
  let response ← response.store len (highByte queryAddress.toNat)
  let response ← response.store (len + 1) (lowByte queryAddress.toNat)
  let response ← response.store (len + 2) (highByte queryNum.toNat)
  response.store (len + 3) (lowByte queryNum.toNat)

/-- The branches of functions 0x05 and 0x06. The copy and the callback are skipped together. -/
def handleWriteSingle
    (m2h : Buffer UInt8 n → Nat → Buffer.Source UInt8 → Int → Exec (Buffer UInt8 n))
    (smb : Smb σ) (core : Core) (queryFunction : UInt8) (request : Buffer UInt8 n)
    (cb : Option (SlaveCallback κ)) (app : κ) : Exec (Handling κ n) := do
  let queryAddress ← loadWord request (core.lenHeader + 1)
  let queryNum ← loadWord request (core.lenHeader + 3)
  let (len, response) ←
    core.buildResponseHeader smb smb.writeBuff smb.slaveAddr.toNat queryFunction.toNat
  let data := core.lenHeader + 3
  let request ← if cb.isSome then m2h request data (.self data) 1 else .ok request
  let (dataLen, request, app) ←
    callSlave cb app queryFunction.toNat queryAddress.toNat 1 request data
  if 1 = dataLen then
    let response ← storeEcho response len queryAddress queryNum
    return ⟨len + 4, dataLen, modbusOk, response, request, app⟩
  else
    return ⟨len, dataLen, modbusExceptionIllegalDataValue, response, request, app⟩

/-- The branches of functions 0x0F and 0x10. -/
def handleWriteMultiple
    (m2h : Buffer UInt8 n → Nat → Buffer.Source UInt8 → Int → Exec (Buffer UInt8 n))
    (smb : Smb σ) (core : Core) (queryFunction : UInt8) (request : Buffer UInt8 n)
    (cb : Option (SlaveCallback κ)) (app : κ) : Exec (Handling κ n) := do
  let queryAddress ← loadWord request (core.lenHeader + 1)
  let queryNum ← loadWord request (core.lenHeader + 3)
  if modbusCheckAddrNum queryFunction queryAddress queryNum then
    let (len, response) ←
      core.buildResponseHeader smb smb.writeBuff smb.slaveAddr.toNat queryFunction.toNat
    let data := core.lenHeader + 6
    let request ← if cb.isSome then m2h request data (.self data) queryNum.toNat else .ok request
    let (dataLen, request, app) ←
      callSlave cb app queryFunction.toNat queryAddress.toNat queryNum.toNat request data
    if 0 < dataLen ∧ modbusCheckAddrNum queryFunction queryAddress (toU16 dataLen) then
      let response ← storeEcho response len queryAddress queryNum
      return ⟨len + 4, dataLen, modbusOk, response, request, app⟩
    else
      return ⟨len, dataLen, modbusException, response, request, app⟩
  else
    return ⟨0, 0, modbusExceptionIllegalDataValue, smb.writeBuff, request, app⟩

/-- The branch of function 0x11. -/
def handleReportSlaveId (smb : Smb σ) (core : Core) (queryFunction : UInt8)
    (request : Buffer UInt8 n) (app : κ) : Exec (Handling κ n) := do
  let (len, response) ←
    core.buildResponseHeader smb smb.writeBuff smb.slaveAddr.toNat queryFunction.toNat
  let response ← response.store len 9
  let response ← response.store (len + 1) smb.slaveAddr
  let response ← response.store (len + 2) 0xFF
  -- the letters SMODBUS
  let response ← response.store (len + 3) 0x53
  let response ← response.store (len + 4) 0x4D
  let response ← response.store (len + 5) 0x4F
  let response ← response.store (len + 6) 0x44
  let response ← response.store (len + 7) 0x42
  let response ← response.store (len + 8) 0x55
  let response ← response.store (len + 9) 0x53
  return ⟨len + 10, 0, modbusOk, response, request, app⟩

/-- The switch of `modbus_slave_handle`. -/
def slaveDispatch (smb : Smb σ) (core : Core) (queryFunction : UInt8) (request : Buffer UInt8 n)
    (cb : Option (SlaveCallback κ)) (app : κ) : Exec (Handling κ n) :=
  let f : Int := queryFunction.toNat
  if f = modbusFcReadHoldingCoils ∨ f = modbusFcReadInputsCoils then
    handleRead modbusCoilH2m coilBytes smb core queryFunction request cb app
  else if f = modbusFcReadHoldingRegisters ∨ f = modbusFcReadInputRegisters then
    handleRead modbusRegH2m (fun len => len * 2) smb core queryFunction request cb app
  else if f = modbusFcWriteSingleCoil then
    handleWriteSingle modbusCoilM2h smb core queryFunction request cb app
  else if f = modbusFcWriteSingleRegister then
    handleWriteSingle modbusRegM2h smb core queryFunction request cb app
  else if f = modbusFcWriteMultipleCoils then
    handleWriteMultiple modbusCoilM2h smb core queryFunction request cb app
  else if f = modbusFcWriteMultipleRegisters then
    handleWriteMultiple modbusRegM2h smb core queryFunction request cb app
  else if f = modbusFcReportSlaveId then
    handleReportSlaveId smb core queryFunction request app
  else
    -- 0x07, 0x16, 0x17 and `default` alike
    return ⟨0, 0, modbusExceptionIllegalFunction, smb.writeBuff, request, app⟩

/-- The end of `modbus_slave_handle` up to the write: the exception rewrite, and the length and the
buffer of the reply. -/
def finishReply (smb : Smb σ) (core : Core) (queryFunction : UInt8) (d : Handling κ n) :
    Exec (Nat × Buffer UInt8 modbusMaxAduLength) :=
  if d.responseDataException ≤ modbusException then do
    let code := if d.responseDataLen < 0 then d.responseDataLen else d.responseDataException
    let (len, response) ←
      core.buildResponseHeader smb d.response smb.slaveAddr.toNat (queryFunction.toNat + 0x80)
    let response ← response.store len (toU8 code)
    return (len + 1, response)
  else
    return (d.responseLen, d.response)

/-- `modbus_slave_handle`; the request buffer is returned because the dispatcher converts its data in
place and the callback may write to it. -/
def modbusSlaveHandle (smb : Smb σ) (w : σ) (request : Buffer UInt8 n) (_requestLen : UInt16)
    (cb : Option (SlaveCallback κ)) (app : κ) :
    Exec (Int × Smb σ × σ × Buffer UInt8 n × κ) := do
  let core ← coreOf smb
  let queryFunction ← request.load core.lenHeader
  let ret := modbusContextCheck smb
  if ret ≠ modbusOk then
    return (ret, smb, w, request, app)
  else
    let d ← slaveDispatch smb core queryFunction request cb app
    let (responseLen, response) ← finishReply smb core queryFunction d
    if responseLen > 0 then
      let (ret, response) ← core.checkSendPre smb response responseLen
      let smb := { smb with writeBuff := response }
      if ret > 0 then
        let frame ← response.slice (toU16 ret).toNat
        let (ret, w) := modbusWrite smb w frame
        return (ret, smb, w, d.request, d.app)
      else
        return (ret, smb, w, d.request, d.app)
    else
      return (modbusFailHandle, { smb with writeBuff := response }, w, d.request, d.app)

/-! ## §3 — `modbus_slave_wait_handle`. -/

/-- `modbus_slave_wait_handle`, receiving into `read_buff`. -/
def modbusSlaveWaitHandle (fuel : Nat) (smb : Smb σ) (w : σ) (cb : Option (SlaveCallback κ)) (app : κ)
    (waitTime : Int) : Exec (Int × Smb σ × σ × κ) :=
  let ret := modbusContextCheck smb
  if ret ≠ modbusOk then
    return (ret, smb, w, app)
  else do
    let (ret, smb, w, request) ← modbusSlaveWait fuel smb w smb.readBuff waitTime
    let smb := { smb with readBuff := request }
    if 0 > ret then
      return (ret, smb, w, app)
    else
      let (ret, smb, w, request, app) ← modbusSlaveHandle smb w smb.readBuff (toU16 ret) cb app
      return (ret, { smb with readBuff := request }, w, app)

end SmallModbus
