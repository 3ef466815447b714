/-
# `SmallModbus.Base` — `small_modbus_base.c`: the context check, the port wrappers, reception.

Buffers passed by pointer are passed and returned as values; a caller that passed a buffer of its context
puts it back. `fuel` bounds the rounds of each loop. Debug output has no effect on the state and is left
out.
-/
import SmallModbus.Core

namespace SmallModbus

open SmallModbus.Lib

variable {σ : Type} {n : Nat}

/-! ## §1 — the context check and the port wrappers. -/

/-- `modbus_context_check`, on a context that is not `NULL`. -/
def modbusContextCheck (smb : Smb σ) : Int :=
  let ret := modbusOk
  let ret := if modbusMagicWord ≠ smb.modbusMagic then modbusErrorContext else ret
  if smb.port.isNone then modbusErrorContext else ret

/-- `_modbus_init`, on a context that is not `NULL`. -/
def modbusInit (smb : Smb σ) : Smb σ :=
  { smb with
    modbusMagic := modbusMagicWord
    deviceMode := modbusDeviceSlave
    transferId := 0
    protocolId := 0
    debugLevel := 2
    timeoutFrame := if smb.timeoutFrame = 0 then 100 else smb.timeoutFrame
    timeoutByte := if smb.timeoutByte = 0 then 10 else smb.timeoutByte }

/-- `modbus_connect`. -/
def modbusConnect (smb : Smb σ) (w : σ) : Int × σ :=
  let ret := modbusContextCheck smb
  if ret ≠ modbusOk then (ret, w)
  else
    match smb.port.bind Port.openFn with
    | some openFn => openFn w
    | none => (ret, w)

/-- `modbus_disconnect`. -/
def modbusDisconnect (smb : Smb σ) (w : σ) : Int × σ :=
  let ret := modbusContextCheck smb
  if ret ≠ modbusOk then (ret, w)
  else
    match smb.port.bind Port.closeFn with
    | some closeFn => closeFn w
    | none => (ret, w)

/-- `modbus_error_exit`. -/
def modbusErrorExit (smb : Smb σ) (code : Int) : Int × Smb σ :=
  let ret := modbusContextCheck smb
  if modbusOk = ret then (ret, { smb with errorCode := code })
  else (ret, smb)

/-- `modbus_set_frame_timeout`. -/
def modbusSetFrameTimeout (smb : Smb σ) (timeoutMs : Int) : Int × Smb σ :=
  let ret := modbusContextCheck smb
  if modbusOk = ret then (ret, { smb with timeoutFrame := toU32 timeoutMs })
  else (ret, smb)

/-- `modbus_set_debug`. -/
def modbusSetDebug (smb : Smb σ) (level : Int) : Int × Smb σ :=
  let ret := modbusContextCheck smb
  if modbusOk = ret then (ret, { smb with debugLevel := toU8 level })
  else (ret, smb)

/-- `modbus_set_slave`. -/
def modbusSetSlave (smb : Smb σ) (slave : Int) : Int × Smb σ :=
  let ret := modbusContextCheck smb
  if modbusOk = ret then
    if 0 < slave ∧ 247 > slave then (ret, { smb with slaveAddr := toU8 slave })
    else (modbusFail, smb)
  else (ret, smb)

/-- `modbus_set_byte_timeout`. The field is unsigned and nothing bounds it. -/
def modbusSetByteTimeout (smb : Smb σ) (timeoutMs : Int) : Int × Smb σ :=
  let ret := modbusContextCheck smb
  if modbusOk = ret then (ret, { smb with timeoutByte := toU32 timeoutMs })
  else (ret, smb)

/-- The pointer `smb->core` dereferenced. -/
def coreOf (smb : Smb σ) : Exec Core :=
  match smb.core with
  | some core => .ok core
  | none => .error .fault

/-- `modbus_read`: the count the port returns and the bytes it stored. -/
def modbusRead (smb : Smb σ) (w : σ) (length : UInt16) : Int × List UInt8 × σ :=
  let ret := modbusContextCheck smb
  if ret ≠ modbusOk then (ret, [], w)
  else
    match smb.port.bind Port.readFn with
    | some read => read w length
    | none => (ret, [], w)

/-- `modbus_write`. -/
def modbusWrite (smb : Smb σ) (w : σ) (data : List UInt8) : Int × σ :=
  let ret := modbusContextCheck smb
  if ret ≠ modbusOk then (ret, w)
  else
    match smb.port.bind Port.writeFn with
    | some write => write w data
    | none => (ret, w)

/-- `modbus_flush`. -/
def modbusFlush (smb : Smb σ) (w : σ) : Int × σ :=
  let ret := modbusContextCheck smb
  if ret ≠ modbusOk then (ret, w)
  else
    match smb.port.bind Port.flushFn with
    | some flush => flush w
    | none => (ret, w)

/-- `modbus_wait`. -/
def modbusWait (smb : Smb σ) (w : σ) (timeout : Int) : Int × σ :=
  let ret := modbusContextCheck smb
  if ret ≠ modbusOk then (ret, w)
  else
    match smb.port.bind Port.waitFn with
    | some wait => wait w timeout
    | none => (ret, w)

/-- `modbus_error_recovery`. -/
def modbusErrorRecovery (smb : Smb σ) (w : σ) : Int × σ :=
  let ret := modbusContextCheck smb
  if ret ≠ modbusOk then (ret, w)
  else
    match smb.port.bind Port.flushFn with
    | some flush => flush w
    | none => (ret, w)

/-! ## §2 — reception. -/

/-- The 16-bit value at `buff[i]`, high byte first. -/
def loadWord (buff : Buffer UInt8 n) (i : Nat) : Exec UInt16 := do
  let hi ← buff.load i
  let lo ← buff.load (i + 1)
  return toU16 (word hi lo)

/-- The do-while loop of `modbus_want_read`, with `readLen` bytes stored behind `buff + off` so far. -/
def wantReadLoop (smb : Smb σ) (off : Nat) (len : UInt16) (waitTime : Int) :
    Nat → σ → Buffer UInt8 n → (readLen : UInt16) → Exec (Int × σ × Buffer UInt8 n)
  | 0, _, _, _ => .error .fuel
  | fuel + 1, w, buff, readLen => do
      let (ret, bytes, w) := modbusRead smb w (toU16 ((len.toNat : Int) - readLen.toNat))
      let buff ← buff.storeBlock (off + readLen.toNat) bytes
      -- the signed result is added to a `uint16_t`
      let readLen := toU16 (readLen.toNat + ret)
      if readLen.toNat ≥ len.toNat then
        return (readLen.toNat, w, buff)
      else
        let (rc, w) := modbusWait smb w waitTime
        if rc ≥ modbusOk then
          wantReadLoop smb off len waitTime fuel w buff readLen
        else
          return (rc, w, buff)

/-- `modbus_want_read`, storing behind `buff + off`. -/
def modbusWantRead (fuel : Nat) (smb : Smb σ) (w : σ) (buff : Buffer UInt8 n) (off : Nat)
    (len : UInt16) (waitTime : Int) : Exec (Int × σ × Buffer UInt8 n) :=
  wantReadLoop smb off len waitTime fuel w buff 0

/-- The switch on the position inside a reception loop, called when a demand is met: the next position
and either the next `read_want` or the code the reception fails with. -/
abbrev NextWant (n : Nat) := Buffer UInt8 n → (position readLength : Int) → Exec (Int × Except Int Int)

/-- The `while (read_want != 0)` loop of `modbus_slave_wait` and `modbus_wait_confirm`. It leaves with
`read_length`, or with the code of the exit it took. -/
def receiveLoop (next : NextWant n) (smb : Smb σ) :
    Nat → σ → Buffer UInt8 n → (position readWant readLength waitTime : Int) →
      Exec (Except Int Int × σ × Buffer UInt8 n)
  | 0, _, _, _, _, _, _ => .error .fuel
  | fuel + 1, w, buff, position, readWant, readLength, waitTime =>
      if readWant ≠ 0 then do
        let (ret, w, buff) ←
          modbusWantRead fuel smb w buff readLength.toNat (toU16 readWant) waitTime
        if modbusOk > ret then
          return (.error ret, w, buff)
        else
          let readLength := readLength + ret
          let readWant := readWant - ret
          let (position, verdict) ←
            if readWant = 0 then next buff position readLength else .ok (position, .ok readWant)
          match verdict with
          | .error code => return (.error code, w, buff)
          | .ok readWant =>
              let waitTime :=
                if readWant ≠ 0 then toI32 (smb.timeoutByte * toU32 readWant) else waitTime
              receiveLoop next smb fuel w buff position readWant readLength waitTime
      else
        return (.ok readLength, w, buff)

end SmallModbus
