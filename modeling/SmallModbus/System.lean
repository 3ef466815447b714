/-
# `SmallModbus.System` — a master and a slave joined by a channel.

A `World` is what the master's port is connected to: its own end of the channel, and the slave with the
other end. A frame the master writes goes to the slave unmodified, the slave that waits there receives and
handles it, and the frames it writes go back. Both ends are wires with schedules of their own, so each
frame arrives in any fragmentation.

`Joined` is the state between two operations. `exchange` is one operation on it: what the slave is asked,
what it replies, and that both parties are joined again.
-/
import SmallModbus.Confirm
import SmallModbus.Handover

namespace SmallModbus

open SmallModbus.Lib

variable {κ : Type}

/-! ## §1 — the channel. -/

/-- The master's end, the slave, the slave's end, the application behind the slave's callback. -/
structure World (κ : Type) where
  line : Wire
  slave : Smb Wire
  wire : Wire
  app : κ

namespace World

def read (w : World κ) (len : UInt16) : Int × List UInt8 × World κ :=
  ((w.line.read len).1, (w.line.read len).2.1, { w with line := (w.line.read len).2.2 })

def wait (w : World κ) (timeout : Int) : Int × World κ :=
  ((w.line.wait timeout).1, { w with line := (w.line.wait timeout).2 })

/-- A frame to the slave that waits for it, and its frames back. The budget is enough for any frame. -/
def write (cb : SlaveCallback κ) (w : World κ) (frame : List UInt8) : Int × World κ :=
  match modbusSlaveWaitHandle (w.wire.grants.length + 2 * modbusMaxAduLength + 2) w.slave
      { w.wire with rx := w.wire.rx ++ frame } (some cb) w.app modbusWaitForever with
  | .ok (_, slave, wire, app) =>
      (frame.length, ⟨{ w.line with rx := w.line.rx ++ wire.tx.flatten, tx := w.line.tx ++ [frame] }, slave,
        { wire with tx := [] }, app⟩)
  | .error _ => (modbusFail, w)

/-- The port of the master. -/
def port (cb : SlaveCallback κ) : Port (World κ) where
  openFn := none
  closeFn := none
  readFn := some read
  writeFn := some (write cb)
  flushFn := none
  waitFn := some wait

/-- The line the master reads. -/
def lineOf (cb : SlaveCallback κ) : Line (port cb) where
  read := read
  wait := wait
  readFn := rfl
  waitFn := rfl
  rem w := w.line.rx
  count w := w.line.count
  read_count w := Wire.line.read_count w.line
  read_bytes w := Wire.line.read_bytes w.line
  count_le w := Wire.line.count_le w.line
  count_le_rem w := Wire.line.count_le_rem w.line
  rem_read w := Wire.line.rem_read w.line
  rem_wait w := Wire.line.rem_wait w.line

theorem prompt (cb : SlaveCallback κ) : (lineOf cb).Prompt :=
  fun w t h => Wire.steady.prompt w.line t h

theorem fair (cb : SlaveCallback κ) : (lineOf cb).Fair (fun w => w.line.grants.length) where
  rank_read w := Wire.fair.rank_read w.line
  rank_wait w := Wire.fair.rank_wait w.line
  rank_stall w := Wire.fair.rank_stall w.line

/-- What happens at the master's end leaves the rest as it is. -/
theorem preserves (cb : SlaveCallback κ) (v : World κ) (bound : Nat) :
    (lineOf cb).Preserves fun w => w.slave = v.slave ∧ w.wire = v.wire ∧ w.app = v.app ∧
      w.line.tx = v.line.tx ∧ w.line.grants.length ≤ bound where
  preserves_read w len := by
    rintro ⟨hslave, hwire, happ, htx, hgrants⟩
    exact ⟨hslave, hwire, happ, htx, (Wire.fair.rank_read w.line len).trans hgrants⟩
  preserves_wait w t h := h

end World

/-- Reading a wire does not write to it. -/
theorem Wire.preserves_tx (sent : List (List UInt8)) : Wire.line.Preserves fun w => w.tx = sent where
  preserves_read _ _ h := h
  preserves_wait _ _ h := h

/-! ## §2 — one request and its reply. -/

/-- **A request delivered**: the slave makes the call of its query, and the reply is on the master's
line. -/
theorem World.write_request {core : Core} (cb : SlaveCallback κ) {w : World κ}
    (hslave : Ready w.slave core Wire.port) (hrx : w.wire.rx = []) (htx : w.wire.tx = [])
    {tid : UInt16} {q : Query} {tail frame : List UInt8}
    (hframe : frame = core.adu tid w.slave.slaveAddr (q.echoReply ++ tail))
    (hsize : slaveFormat.Sized (q.echoReply ++ tail)) (hlen : frame.length ≤ modbusMaxAduLength) {r : Int}
    {data : List UInt8} {app' : κ}
    (hcall : q.call core (core.adopt w.slave tid) (w.slave.readBuff.fill frame) (some cb) w.app =
      (r, data, app')) (hfits : q.Fits r) :
    ∃ slave' grants', World.write cb w frame =
        ((frame.length : Int), ⟨{ w.line with
          rx := w.line.rx ++ core.adu tid w.slave.slaveAddr (q.reply w.slave.slaveAddr r data),
          tx := w.line.tx ++ [frame] }, slave', ⟨[], grants', []⟩, app'⟩) ∧
      Ready slave' core Wire.port ∧ slave'.slaveAddr = w.slave.slaveAddr := by
  obtain ⟨reply, hreply⟩ : ∃ reply, reply =
      core.adu tid w.slave.slaveAddr (q.reply w.slave.slaveAddr r data) := ⟨_, rfl⟩
  have hmax : modbusMaxAduLength = 260 := rfl
  have hrem : Wire.line.rem { w.wire with rx := w.wire.rx ++ frame } = frame ++ [] := by
    show w.wire.rx ++ frame = frame ++ []
    rw [hrx, List.nil_append, List.append_nil]
  obtain ⟨y, hwait⟩ := modbusSlaveWait_returns Wire.line hslave w.slave.readBuff le_rfl Wire.fair modbusWaitForever
    (w := { w.wire with rx := w.wire.rx ++ frame })
    (show w.wire.grants.length + 2 * modbusMaxAduLength + 1 <
      w.wire.grants.length + 2 * modbusMaxAduLength + 2 by omega)
  obtain ⟨hy, -⟩ := modbusSlaveWait_adu Wire.line hslave w.slave.readBuff le_rfl Wire.steady.prompt (Or.inl rfl)
    hsize (hframe ▸ hlen) (by rw [hrem, hframe]) hwait
  have hy' : 0 ≤ y.1 := hy ▸ Int.natCast_nonneg _
  have htx' : y.2.2.1.tx = [] :=
    modbusSlaveWait_preserves Wire.line hslave w.slave.readBuff le_rfl (Wire.preserves_tx []) hwait htx
  obtain ⟨hrest, readBuff', writeBuff', hrun⟩ := modbusSlaveWaitHandle_accepted hslave Wire.line hframe hsize
    hlen hrem hwait hy' (some cb) w.app hcall hfits hreply
  have hready := adopt_ready hslave core tid
  refine ⟨{ core.adopt w.slave tid with readBuff := readBuff', writeBuff := writeBuff' },
    y.2.2.1.grants, ?_, hready.congr rfl rfl rfl, adopt_slaveAddr core w.slave tid⟩
  have hsent : modbusWrite w.slave y.2.2.1 reply = Wire.write y.2.2.1 reply := hslave.write Wire.tap.writeFn _ _
  have hrest' : y.2.2.1.rx = [] := hrest
  unfold World.write
  rw [hrun, hsent, ← hreply]
  show ((frame.length : Int), World.mk ⟨w.line.rx ++ (y.2.2.1.tx ++ [reply]).flatten, w.line.grants,
    w.line.tx ++ [frame]⟩ _ ⟨y.2.2.1.rx, y.2.2.1.grants, []⟩ app') = _
  rw [htx', hrest', List.nil_append, List.flatten_singleton]

/-- Master and slave between two operations: the same core and the same slave address, nothing on the way. -/
structure Joined (core : Core) (cb : SlaveCallback κ) (smb : Smb (World κ)) (w : World κ) : Prop where
  master : Ready smb core (World.port cb)
  slave : Ready w.slave core Wire.port
  addr_eq : w.slave.slaveAddr = smb.slaveAddr
  line_rx : w.line.rx = []
  wire_rx : w.wire.rx = []
  wire_tx : w.wire.tx = []

/-- **One operation.** The slave makes the call of the query in the request, the master returns what
`modbus_handle_confirm` makes of the reply, and both are joined again. The master wrote one frame. -/
theorem exchange {core : Core} {cb : SlaveCallback κ} {smb : Smb (World κ)} {w : World κ}
    (hj : Joined core cb smb w) {function addr num : Int} {writeData : List UInt8}
    (hs : Sendable function addr num writeData) {q : Query} {tail : List UInt8}
    (hpdu : requestPdu function addr num writeData = q.echoReply ++ tail)
    {request : List UInt8} (hrequest : request = requestFrame core smb function addr num writeData) {r : Int}
    {data : List UInt8} {app' : κ}
    (hcall : q.call core (core.adopt w.slave (core.requestContext smb).transferId)
      (w.slave.readBuff.fill request) (some cb) w.app = (r, data, app')) (hfits : q.Fits r)
    {reply : List UInt8}
    (hreply : reply = core.adu (core.requestContext smb).transferId smb.slaveAddr (q.reply smb.slaveAddr r data))
    {n : Nat} {readData out : Buffer UInt8 n} {ret : Int}
    (hconfirm : ∀ smb₁ requestLen, Ready smb₁ core (World.port cb) →
      modbusHandleConfirm smb₁ (smb.writeBuff.fill request) requestLen (smb.readBuff.fill reply)
        (toU16 (reply.length : Nat)) readData = .ok (ret, out))
    {fuel : Nat} (hfuel : w.line.grants.length + 2 * modbusMaxAduLength + 1 < fuel) :
    ∃ smb' w', masterOperation fuel smb w function addr num writeData readData = .ok (ret, smb', w', out) ∧
      Joined core cb smb' w' ∧ w'.app = app' ∧ w'.line.tx = w.line.tx ++ [request] ∧
      w'.line.grants.length ≤ w.line.grants.length := by
  have hlen : request.length ≤ modbusMaxAduLength := hrequest ▸ hs.length_adu_le core _ _
  have hsize : slaveFormat.Sized (q.echoReply ++ tail) := hpdu ▸ hs.sized.1
  -- the write runs the slave
  obtain ⟨slave', grants', hwrite, hslave', haddr'⟩ := World.write_request cb hj.slave hj.wire_rx hj.wire_tx
    (by rw [hrequest, hj.addr_eq, ← hpdu]; rfl) hsize hlen hcall hfits
  rw [hj.addr_eq, ← hreply, hj.line_rx, List.nil_append] at hwrite
  have hport : modbusWrite smb w request = World.write cb w request := hj.master.write rfl w request
  rw [hwrite] at hport
  -- the reply has the length the master's table gives it
  have hqf := q.function_of_request hpdu
  have hserv := serviceOf_request hs.function_mem
  rw [← hqf] at hserv
  have hsized : confirmFormat.Sized (q.reply smb.slaveAddr r data) := by
    have h := reply_sized hcall hfits hserv
    rwa [adopt_slaveAddr, hj.addr_eq] at h
  -- the master waits for it and handles it
  have hrem : (World.lineOf cb).rem (modbusWrite smb w request).2 = reply ++ [] := by
    rw [hport]
    exact (List.append_nil reply).symm
  obtain ⟨w', hrun, hrest, hkept⟩ := masterOperation_adu hj.master (World.lineOf cb) (World.prompt cb)
    (World.fair cb) hs hrequest (by rw [hport]; exact Int.natCast_nonneg _) hreply (Or.inl rfl) hsized
    (hreply ▸ length_replyAdu_le hfits core _ smb.slaveAddr data) hrem (by rw [hport]; exact hfuel) hconfirm
  obtain ⟨hslave, hwire, happ, htx, hgrants⟩ := hkept (World.preserves cb _ w.line.grants.length)
    ⟨rfl, rfl, rfl, rfl, by rw [hport]⟩
  rw [hport] at hslave hwire happ htx
  refine ⟨_, w', hrun, ⟨confirmedContext_ready hj.master request reply, ?_, ?_, hrest, ?_, ?_⟩, happ, htx, hgrants⟩
  · rw [hslave]
    exact hslave'
  · rw [hslave, haddr', hj.addr_eq]
    exact (requestContext_slaveAddr core smb).symm
  · rw [hwire]
  · rw [hwire]

end SmallModbus
