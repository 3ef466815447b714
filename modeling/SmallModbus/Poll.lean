/-
# `SmallModbus.Poll` — the polling masters against the shipped slaves.

Both masters of `src/test` make the same six requests in a round: they read eight input coils and write them to the
coils, read these back, and do the same with eight registers, all through one `temp_buff`. The master over RTU uses
the addresses that the callback of the slaves maps to its banks, the master over TCP uses address 0 for all.

`master_poll_mirrors` says what the first comes to: after each round the outputs show the inputs as they were in it.
`tcp_round_refused` says what the second comes to: four requests of each round are refused, and of the board only the
coils that `temp_buff` holds are written.
-/
import SmallModbus.Plant

namespace SmallModbus

open SmallModbus.Lib

variable {σ η : Type}

/-! ## §1 — the masters. -/

/-- A master with its port, `temp_buff` and the counters. -/
structure Poller (σ : Type) where
  smb : Smb σ
  device : σ
  tempBuff : Buffer UInt8 256
  countOk : Nat
  countErr : Nat

/-- A read into `temp_buff`, or a write of its first items. -/
inductive PollOp
  | read (op : ReadOp) (addr num : Nat)
  | write (k : Kind) (addr num : Nat)

/-- The call of the library. -/
def PollOp.run (fuel : Nat) (smb : Smb σ) (w : σ) (tempBuff : Buffer UInt8 256) :
    PollOp → Exec (Int × Smb σ × σ × Buffer UInt8 256)
  | .read op addr num => op.run fuel smb w addr num tempBuff
  | .write .coil addr num => do
      let (rc, smb, w, _) ← modbusWriteBits fuel smb w addr num tempBuff.toList
      return (rc, smb, w, tempBuff)
  | .write .register addr num => do
      let (rc, smb, w, _) ← modbusWriteRegisters fuel smb w addr num tempBuff.toList
      return (rc, smb, w, tempBuff)

/-- What the masters do for a request. -/
def pollRequest (fuel : Nat) (op : PollOp) (s : Poller σ) : Exec (Int × Poller σ) := do
  let w := (modbusErrorRecovery s.smb s.device).2
  let smb := (modbusSetSlave s.smb 1).2
  let (rc, smb, w, tempBuff) ← op.run fuel smb w s.tempBuff
  if rc ≥ modbusOk then
    return (rc, ⟨smb, w, tempBuff, s.countOk + 1, s.countErr⟩)
  else
    return (rc, ⟨smb, w, tempBuff, s.countOk, s.countErr + 1⟩)

/-- `master_poll`. -/
def masterPoll (fuel : Nat) (s : Poller σ) : Exec (Poller σ) := do
  let (_, s) ← pollRequest fuel (.read .inputBits 10000 8) s
  let (_, s) ← pollRequest fuel (.write .coil 0 8) s
  let (_, s) ← pollRequest fuel (.read .bits 0 8) s
  let (_, s) ← pollRequest fuel (.read .inputRegisters 30000 8) s
  let (_, s) ← pollRequest fuel (.write .register 40000 8) s
  let (_, s) ← pollRequest fuel (.read .registers 40000 8) s
  return s

/-- The requests of the master over TCP, in order. -/
def tcpPolls : List PollOp :=
  [.read .inputBits 0 8, .write .coil 0 8, .read .bits 0 8, .read .inputRegisters 0 8, .write .register 0 8,
    .read .registers 0 8]

/-- A round of the loop of `test_modbus_tcp_master_thread`: the requests up to one that fails to read, and whether
there is none. -/
def tcpRound (fuel : Nat) : List PollOp → Poller σ → Exec (Bool × Poller σ)
  | [], s => .ok (true, s)
  | op :: ops, s => do
      let (rc, s) ← pollRequest fuel op s
      if rc = modbusErrorRead then return (false, s)
      else tcpRound fuel ops s

/-- What the requests of a round return. -/
def tcpResults (fuel : Nat) : List PollOp → Poller σ → Exec (List Int)
  | [], _ => .ok []
  | op :: ops, s => do
      let (rc, s) ← pollRequest fuel op s
      if rc = modbusErrorRead then return [rc]
      else do
        let results ← tcpResults fuel ops s
        return rc :: results

/-- The counters. -/
def Poller.counters (s : Poller σ) : Nat × Nat := (s.countOk, s.countErr)

/-- The counters after a request. -/
def tally (rc : Int) (c : Nat × Nat) : Nat × Nat := if rc ≥ modbusOk then (c.1 + 1, c.2) else (c.1, c.2 + 1)

/-- A request that does not fail to read is followed by the rest of its round. -/
theorem tcpRound_cons {fuel : Nat} {op : PollOp} {ops : List PollOp} {s s₁ s' : Poller σ} {rc : Int}
    {results : List Int} (hrequest : pollRequest fuel op s = .ok (rc, s₁)) (hrc : rc ≠ modbusErrorRead)
    (hrest : tcpResults fuel ops s₁ = .ok results ∧ tcpRound fuel ops s₁ = .ok (true, s')) :
    tcpResults fuel (op :: ops) s = .ok (rc :: results) ∧ tcpRound fuel (op :: ops) s = .ok (true, s') := by
  constructor
  · rw [tcpResults, hrequest, exec_ok_bind]
    dsimp only
    rw [if_neg hrc, hrest.1]
    rfl
  · rw [tcpRound, hrequest, exec_ok_bind]
    dsimp only
    rw [if_neg hrc, hrest.2]

theorem PollOp.run_write (k : Kind) (fuel : Nat) (smb : Smb σ) (w : σ) (tempBuff : Buffer UInt8 256) (addr num : Nat) :
    (PollOp.write k addr num).run fuel smb w tempBuff =
      (masterOperation fuel smb w k.fcMultiple.toNat addr num tempBuff.toList noData).map fun x =>
        (x.1, x.2.1, x.2.2.1, tempBuff) := by
  cases k with
  | coil => rfl
  | register => rfl

/-! ## §2 — one request. -/

@[simp] theorem servedResult_zero (function : UInt8) : servedResult function 0 = -(0x80 + function.toNat) := if_pos rfl

theorem servedResult_pos (function : UInt8) {served : Nat} (h : 0 < served) : servedResult function served = modbusOk :=
  if_neg (by omega)

/-- The board after a write, when the notified hardware leaves it. -/
theorem Vio.board_written {vioLowlevelUpdate : Vio η → Vio η} (hhook : ∀ v, (vioLowlevelUpdate v).board = v.board)
    (v : Vio η) (b : Board) : (v.written vioLowlevelUpdate b).board = b := by
  unfold Vio.written
  split
  · rename_i heq
    exact heq.symm
  · exact hhook _

theorem servedResult_ne_errorRead (function : UInt8) (served : Nat) :
    servedResult function served ≠ modbusErrorRead := by
  unfold servedResult
  split
  · show -((0x80 : Int) + function.toNat) ≠ -8
    omega
  · decide

theorem tally_served (function : UInt8) {served : Nat} (h : 0 < served) (c : Nat × Nat) :
    tally (servedResult function served) c = (c.1 + 1, c.2) := by
  rw [servedResult_pos function h]
  exact if_pos le_rfl

theorem tally_refused (function : UInt8) (c : Nat × Nat) : tally (servedResult function 0) c = (c.1, c.2 + 1) := by
  rw [servedResult_zero]
  refine if_neg ?_
  show ¬ -((0x80 : Int) + function.toNat) ≥ 0
  omega

theorem eight_le_maxRead (k : Kind) : 0 < 8 ∧ 8 ≤ k.maxRead := by
  cases k with
  | coil => decide
  | register => decide

theorem eight_le_maxWrite (k : Kind) : 0 < 8 ∧ 8 ≤ k.maxWrite := by
  cases k with
  | coil => decide
  | register => decide

/-- The master and the shipped slave between two requests: both have address 1. -/
structure Polling (vioLowlevelUpdate : Vio η → Vio η) (core : Core) (bound : Nat) (s : Poller (World (Vio η))) :
    Prop where
  joined : Joined core (testModbusSlaveCallback vioLowlevelUpdate) s.smb s.device
  addr_eq : s.smb.slaveAddr = 1
  bound : s.device.line.grants.length ≤ bound

namespace Polling

section Requests

variable {vioLowlevelUpdate : Vio η → Vio η} {core : Core} {bound : Nat} {s : Poller (World (Vio η))}
  (h : Polling vioLowlevelUpdate core bound s)

include h

/-- The address is set already. -/
theorem setSlave : (modbusSetSlave s.smb 1).2 = s.smb := by
  unfold modbusSetSlave
  rw [h.joined.master.contextCheck]
  simp only [if_true]
  rw [if_pos (by decide), show toU8 1 = s.smb.slaveAddr from h.addr_eq.symm]

/-- Nothing is left to flush. -/
theorem errorRecovery : (modbusErrorRecovery s.smb s.device).2 = s.device := by
  unfold modbusErrorRecovery
  rw [h.joined.master.contextCheck, h.joined.master.port_eq]
  rfl

/-- A request whose call leaves master and slave joined. -/
theorem request (op : PollOp) {fuel : Nat} {rc : Int} {smb' : Smb (World (Vio η))} {w' : World (Vio η)}
    {tempBuff' : Buffer UInt8 256} (hrun : op.run fuel s.smb s.device s.tempBuff = .ok (rc, smb', w', tempBuff'))
    (hj : Joined core (testModbusSlaveCallback vioLowlevelUpdate) smb' w') (hconfig : smb'.config = s.smb.config)
    (hgrants : w'.line.grants.length ≤ s.device.line.grants.length) :
    ∃ s', pollRequest fuel op s = .ok (rc, s') ∧ Polling vioLowlevelUpdate core bound s' ∧ s'.device = w' ∧
      s'.tempBuff = tempBuff' ∧ s'.counters = tally rc s.counters := by
  have haddr : smb'.slaveAddr = 1 := (congrArg Config.slaveAddr hconfig).trans h.addr_eq
  have hbound := hgrants.trans h.bound
  unfold pollRequest tally
  rw [h.errorRecovery, h.setSlave]
  dsimp only
  rw [hrun, exec_ok_bind]
  dsimp only
  split
  · exact ⟨_, rfl, ⟨hj, haddr, hbound⟩, rfl, rfl, rfl⟩
  · exact ⟨_, rfl, ⟨hj, haddr, hbound⟩, rfl, rfl, rfl⟩

variable {fuel : Nat} (hfuel : bound + 2 * modbusMaxAduLength + 1 < fuel)

include hfuel

/-- The budget is enough for the wire. -/
theorem fuel_le : s.device.line.grants.length + 2 * modbusMaxAduLength + 1 < fuel := by
  have := h.bound
  omega

/-- The call of a read. -/
theorem read (op : ReadOp) {addr num : Nat} (hnum : 0 < num ∧ num ≤ op.kind.maxRead) (haddr : addr < 65536) :
    ∃ rc s', pollRequest fuel (.read op addr num) s = .ok (rc, s') ∧ Polling vioLowlevelUpdate core bound s' ∧
      rc = servedResult op.function (op.served addr num) ∧ s'.device.app = s.device.app ∧
      s'.counters = tally rc s.counters ∧
      if 0 < op.served addr num ∧ op.kind.bytes (op.served addr num) = op.kind.bytes num then
        ∀ i < op.served addr num, op.kind.item s'.tempBuff.toList i = s.device.app.board.bank.get op (addr + i)
      else s'.tempBuff.toList = s.tempBuff.toList := by
  have hbytes : op.kind.bytes num ≤ 250 := op.kind.bytes_maxRead ▸ op.kind.bytes_mono hnum.2
  obtain ⟨smb', w', out, hrun, hj', happ, hitems, hgrants⟩ := read_plant h.joined
    (h.fuel_le hfuel) op hnum haddr s.tempBuff (by omega)
  have hconfig := masterOperation_config ((op.run_eq fuel s.smb s.device addr num s.tempBuff).symm.trans hrun)
  obtain ⟨s', hrequest, h', rfl, rfl, hcounters⟩ := h.request (.read op addr num) hrun hj' hconfig hgrants
  exact ⟨_, s', hrequest, h', rfl, happ, hcounters, hitems⟩

/-- **A read** of items that are all on the board. -/
theorem read_served (op : ReadOp) {addr num : Nat} (hnum : 0 < num ∧ num ≤ op.kind.maxRead) (haddr : addr < 65536)
    (hserved : op.served addr num = num) :
    ∃ s', pollRequest fuel (.read op addr num) s = .ok (modbusOk, s') ∧ Polling vioLowlevelUpdate core bound s' ∧
      s'.device.app = s.device.app ∧ s'.counters = (s.counters.1 + 1, s.counters.2) ∧
      ∀ i < num, op.kind.item s'.tempBuff.toList i = s.device.app.board.bank.get op (addr + i) := by
  obtain ⟨rc, s', hrun, h', rfl, happ, hcounters, hitems⟩ := h.read hfuel op hnum haddr
  rw [hserved] at hrun hcounters hitems
  rw [servedResult_pos op.function hnum.1] at hrun
  rw [tally_served op.function hnum.1] at hcounters
  rw [if_pos ⟨hnum.1, rfl⟩] at hitems
  exact ⟨s', hrun, h', happ, hcounters, hitems⟩

/-- **A read** of items that are not on the board. -/
theorem read_refused (op : ReadOp) {addr num : Nat} (hnum : 0 < num ∧ num ≤ op.kind.maxRead) (haddr : addr < 65536)
    (hserved : op.served addr num = 0) :
    ∃ s', pollRequest fuel (.read op addr num) s = .ok (servedResult op.function 0, s') ∧
      Polling vioLowlevelUpdate core bound s' ∧ s'.device.app = s.device.app ∧
      s'.counters = (s.counters.1, s.counters.2 + 1) ∧ s'.tempBuff = s.tempBuff := by
  obtain ⟨rc, s', hrun, h', rfl, happ, hcounters, hitems⟩ := h.read hfuel op hnum haddr
  rw [hserved] at hrun hcounters hitems
  rw [tally_refused] at hcounters
  rw [if_neg (by omega)] at hitems
  exact ⟨s', hrun, h', happ, hcounters, Buffer.ext hitems⟩

/-- **A write** of the first items of `temp_buff`. -/
theorem write (k : Kind) {addr num : Nat} (hnum : 0 < num ∧ num ≤ k.maxWrite) (haddr : addr < 65536) :
    ∃ rc s' b, pollRequest fuel (.write k addr num) s = .ok (rc, s') ∧ Polling vioLowlevelUpdate core bound s' ∧
      rc = servedResult k.fcMultiple (k.held.served addr num) ∧
      s'.device.app = s.device.app.written vioLowlevelUpdate b ∧ s'.counters = tally rc s.counters ∧
      s'.tempBuff = s.tempBuff ∧
      b.bank = s.device.app.board.bank.put addr (k.held.served addr num) s.tempBuff.toList k := by
  have hbytes : k.bytes num ≤ 256 := by
    have := k.bytes_mono hnum.2
    cases k with
    | coil => exact this.trans (by decide)
    | register => exact this.trans (by decide)
  obtain ⟨smb', w', b, hrun, hj', happ, hbank, hgrants⟩ := writeMultiple_plant h.joined
    (h.fuel_le hfuel) k haddr hnum (show k.bytes num ≤ s.tempBuff.toList.length by rwa [s.tempBuff.size_eq])
  have hop : (PollOp.write k addr num).run fuel s.smb s.device s.tempBuff =
      .ok (servedResult k.fcMultiple (k.held.served addr num), smb', w', s.tempBuff) := by
    rw [PollOp.run_write, hrun]
    rfl
  obtain ⟨s', hrequest, h', rfl, htemp, hcounters⟩ := h.request (.write k addr num) hop hj' (masterOperation_config hrun) hgrants
  exact ⟨_, s', b, hrequest, h', rfl, happ, hcounters, htemp, hbank⟩

section Hook

variable (hhook : ∀ v, (vioLowlevelUpdate v).board = v.board)

include hhook

/-- **A write** to items that are all on the board. -/
theorem write_served (k : Kind) {addr num : Nat} (hnum : 0 < num ∧ num ≤ k.maxWrite) (haddr : addr < 65536)
    (hserved : k.held.served addr num = num) :
    ∃ s', pollRequest fuel (.write k addr num) s = .ok (modbusOk, s') ∧ Polling vioLowlevelUpdate core bound s' ∧
      s'.device.app.board.bank = s.device.app.board.bank.put addr num s.tempBuff.toList k ∧
      s'.counters = (s.counters.1 + 1, s.counters.2) ∧ s'.tempBuff = s.tempBuff := by
  obtain ⟨rc, s', b, hrun, h', rfl, happ, hcounters, htemp, hbank⟩ := h.write hfuel k hnum haddr
  rw [hserved] at hrun hcounters hbank
  rw [servedResult_pos k.fcMultiple hnum.1] at hrun
  rw [tally_served k.fcMultiple hnum.1] at hcounters
  refine ⟨s', hrun, h', ?_, hcounters, htemp⟩
  rw [happ, Vio.board_written hhook, hbank]

/-- **A write** to items that are not on the board. -/
theorem write_refused (k : Kind) {addr num : Nat} (hnum : 0 < num ∧ num ≤ k.maxWrite) (haddr : addr < 65536)
    (hserved : k.held.served addr num = 0) :
    ∃ s', pollRequest fuel (.write k addr num) s = .ok (servedResult k.fcMultiple 0, s') ∧
      Polling vioLowlevelUpdate core bound s' ∧ s'.device.app.board.bank = s.device.app.board.bank ∧
      s'.counters = (s.counters.1, s.counters.2 + 1) ∧ s'.tempBuff = s.tempBuff := by
  obtain ⟨rc, s', b, hrun, h', rfl, happ, hcounters, htemp, hbank⟩ := h.write hfuel k hnum haddr
  rw [hserved] at hrun hcounters hbank
  rw [tally_refused] at hcounters
  refine ⟨s', hrun, h', ?_, hcounters, htemp⟩
  rw [happ, Vio.board_written hhook, hbank, Bank.put_zero]

end Hook

end Requests

end Polling

/-! ## §3 — a round. -/

/-- The outputs show the inputs, and nothing else has changed. -/
structure Mirrors (b b' : Bank) : Prop where
  inputs : b'.inputs = b.inputs
  inputRegs : b'.inputRegs = b.inputRegs
  coils : ∀ a, b'.coils a = if a < 8 then b.inputs (10000 + a) else b.coils a
  holding : ∀ a, b'.holding a = if 40000 ≤ a ∧ a < 40008 then b.inputRegs (a - 10000) else b.holding a

/-- Inputs read and written to the outputs. -/
theorem Mirrors.of_put {b : Bank} {coils regs : List UInt8}
    (hcoils : ∀ i < 8, Kind.coil.item coils i = b.inputs (10000 + i))
    (hregs : ∀ i < 8, Kind.register.item regs i = b.inputRegs (30000 + i)) :
    Mirrors b ((b.put 0 8 coils .coil).put 40000 8 regs .register) where
  inputs := rfl
  inputRegs := rfl
  coils a := by
    show Bank.overlay .coil b.coils 0 8 coils a = _
    unfold Bank.overlay
    by_cases ha : a < 8
    · rw [if_pos (by omega), if_pos ha, Nat.sub_zero, hcoils a ha]
    · rw [if_neg (by omega), if_neg ha]
  holding a := by
    show Bank.overlay .register b.holding 40000 8 regs a = _
    unfold Bank.overlay
    by_cases ha : 40000 ≤ a ∧ a < 40008
    · have hindex : 30000 + (a - 40000) = a - 10000 := by omega
      rw [if_pos (by omega), if_pos ha, hregs (a - 40000) (by omega), hindex]
    · rw [if_neg (by omega), if_neg ha]

namespace Polling

section Rounds

variable {vioLowlevelUpdate : Vio η → Vio η} (hhook : ∀ v, (vioLowlevelUpdate v).board = v.board) {core : Core}
  {bound : Nat} {s : Poller (World (Vio η))} (h : Polling vioLowlevelUpdate core bound s) {fuel : Nat}
  (hfuel : bound + 2 * modbusMaxAduLength + 1 < fuel)

include hhook h hfuel

/-- **`master_poll`.** Its six requests succeed. -/
theorem masterPoll :
    ∃ s', SmallModbus.masterPoll fuel s = .ok s' ∧ Polling vioLowlevelUpdate core bound s' ∧
      Mirrors s.device.app.board.bank s'.device.app.board.bank ∧ s'.counters = (s.countOk + 6, s.countErr) ∧
      ∀ i < 8, Kind.register.item s'.tempBuff.toList i = s.device.app.board.bank.inputRegs (30000 + i) := by
  obtain ⟨s₁, hrun₁, h₁, happ₁, hc₁, hitems₁⟩ :=
    h.read_served hfuel .inputBits (eight_le_maxRead _) (show 10000 < 65536 by decide) rfl
  obtain ⟨s₂, hrun₂, h₂, hbank₂, hc₂, -⟩ :=
    h₁.write_served hfuel hhook .coil (eight_le_maxWrite _) (show 0 < 65536 by decide) rfl
  obtain ⟨s₃, hrun₃, h₃, happ₃, hc₃, -⟩ :=
    h₂.read_served hfuel .bits (eight_le_maxRead _) (show 0 < 65536 by decide) rfl
  obtain ⟨s₄, hrun₄, h₄, happ₄, hc₄, hitems₄⟩ :=
    h₃.read_served hfuel .inputRegisters (eight_le_maxRead _) (show 30000 < 65536 by decide) rfl
  obtain ⟨s₅, hrun₅, h₅, hbank₅, hc₅, -⟩ :=
    h₄.write_served hfuel hhook .register (eight_le_maxWrite _) (show 40000 < 65536 by decide) rfl
  obtain ⟨s₆, hrun₆, h₆, happ₆, hc₆, hitems₆⟩ :=
    h₅.read_served hfuel .registers (eight_le_maxRead _) (show 40000 < 65536 by decide) rfl
  -- between the two reads of inputs only coils are written
  have hbank : s₄.device.app.board.bank = s.device.app.board.bank.put 0 8 s₁.tempBuff.toList .coil := by
    rw [happ₄, happ₃, hbank₂, happ₁]
  rw [show s₃.device.app = s₄.device.app from happ₄.symm, hbank] at hitems₄
  have hmirrors : Mirrors s.device.app.board.bank s₆.device.app.board.bank := by
    rw [happ₆, hbank₅, hbank]
    exact .of_put hitems₁ hitems₄
  refine ⟨s₆, ?_, h₆, hmirrors, ?_, ?_⟩
  · unfold SmallModbus.masterPoll
    rw [hrun₁, exec_ok_bind]
    dsimp only
    rw [hrun₂, exec_ok_bind]
    dsimp only
    rw [hrun₃, exec_ok_bind]
    dsimp only
    rw [hrun₄, exec_ok_bind]
    dsimp only
    rw [hrun₅, exec_ok_bind]
    dsimp only
    rw [hrun₆, exec_ok_bind]
    rfl
  · rw [hc₆, hc₅, hc₄, hc₃, hc₂, hc₁]
    rfl
  · intro i hi
    have hback : Kind.register.item s₆.tempBuff.toList i = s₅.device.app.board.bank.holding (40000 + i) := hitems₆ i hi
    have hindex : 40000 + i - 10000 = 30000 + i := by omega
    rw [hback, ← happ₆, hmirrors.holding, if_pos (by omega), hindex]

/-- **A round over TCP** goes through: two requests succeed and four are refused. -/
theorem tcpRound :
    ∃ s', SmallModbus.tcpRound fuel tcpPolls s = .ok (true, s') ∧
      tcpResults fuel tcpPolls s = .ok [-130, modbusOk, modbusOk, -132, -144, -131] ∧
      Polling vioLowlevelUpdate core bound s' ∧
      s'.device.app.board.bank = s.device.app.board.bank.put 0 8 s.tempBuff.toList .coil ∧
      s'.counters = (s.countOk + 2, s.countErr + 4) ∧
      ∀ i < 8, Kind.coil.item s'.tempBuff.toList i = Kind.coil.item s.tempBuff.toList i := by
  obtain ⟨s₁, hrun₁, h₁, happ₁, hc₁, htemp₁⟩ :=
    h.read_refused hfuel .inputBits (eight_le_maxRead _) (show 0 < 65536 by decide) rfl
  obtain ⟨s₂, hrun₂, h₂, hbank₂, hc₂, -⟩ :=
    h₁.write_served hfuel hhook .coil (eight_le_maxWrite _) (show 0 < 65536 by decide) rfl
  obtain ⟨s₃, hrun₃, h₃, happ₃, hc₃, hitems₃⟩ :=
    h₂.read_served hfuel .bits (eight_le_maxRead _) (show 0 < 65536 by decide) rfl
  obtain ⟨s₄, hrun₄, h₄, happ₄, hc₄, htemp₄⟩ :=
    h₃.read_refused hfuel .inputRegisters (eight_le_maxRead _) (show 0 < 65536 by decide) rfl
  obtain ⟨s₅, hrun₅, h₅, hbank₅, hc₅, htemp₅⟩ :=
    h₄.write_refused hfuel hhook .register (eight_le_maxWrite _) (show 0 < 65536 by decide) rfl
  obtain ⟨s₆, hrun₆, h₆, happ₆, hc₆, htemp₆⟩ :=
    h₅.read_refused hfuel .registers (eight_le_maxRead _) (show 0 < 65536 by decide) rfl
  have hok : modbusOk ≠ modbusErrorRead := by decide
  have hrefused := fun op : ReadOp => servedResult_ne_errorRead op.function 0
  obtain ⟨hresults, hround⟩ : tcpResults fuel tcpPolls s = .ok [-130, modbusOk, modbusOk, -132, -144, -131] ∧
      SmallModbus.tcpRound fuel tcpPolls s = .ok (true, s₆) := by
    apply tcpRound_cons hrun₁ (hrefused _)
    apply tcpRound_cons hrun₂ hok
    apply tcpRound_cons hrun₃ hok
    apply tcpRound_cons hrun₄ (hrefused _)
    apply tcpRound_cons hrun₅ (servedResult_ne_errorRead _ 0)
    apply tcpRound_cons hrun₆ (hrefused _)
    exact ⟨rfl, rfl⟩
  refine ⟨s₆, hround, hresults, h₆, ?_, ?_, ?_⟩
  · rw [happ₆, hbank₅, happ₄, happ₃, hbank₂, happ₁, htemp₁]
  · rw [hc₆, hc₅, hc₄, hc₃, hc₂, hc₁]
    rfl
  · intro i hi
    rw [htemp₆, htemp₅, htemp₄]
    -- what is read back is what was written
    have hback : Kind.coil.item s₃.tempBuff.toList i = s₂.device.app.board.bank.coils (0 + i) := hitems₃ i hi
    rw [hback, hbank₂, htemp₁]
    show Bank.overlay .coil _ 0 8 s.tempBuff.toList (0 + i) = _
    unfold Bank.overlay
    rw [if_pos (by omega), Nat.zero_add, Nat.sub_zero]

end Rounds

end Polling

/-! ## §4 — runs. -/

/-- The slave's application has become `v` since the last round. -/
def Poller.onPlant (s : Poller (World (Vio η))) (v : Vio η) : Poller (World (Vio η)) :=
  { s with device := { s.device with app := v } }

/-- A round over RTU. -/
def masterPollOn (fuel : Nat) (v : Vio η) (s : Poller (World (Vio η))) : Exec (Unit × Poller (World (Vio η))) := do
  let s ← masterPoll fuel (s.onPlant v)
  return ((), s)

/-- A round over TCP, with what its requests returned and whether it went through. -/
def tcpRoundOn (fuel : Nat) (v : Vio η) (s : Poller (World (Vio η))) :
    Exec ((List Int × Bool) × Poller (World (Vio η))) := do
  let results ← tcpResults fuel tcpPolls (s.onPlant v)
  let (through, s) ← tcpRound fuel tcpPolls (s.onPlant v)
  return ((results, through), s)

/-- What a run is looked at for: the board and the counters. -/
def Poller.outcome (s : Poller (World (Vio η))) : Bank × Nat × Nat := (s.device.app.board.bank, s.counters)

/-- A round over RTU, from the board that it found. -/
def RtuRound (c : Bank × Nat × Nat) (v : Vio η) (_ : Unit) (c' : Bank × Nat × Nat) : Prop :=
  Mirrors v.board.bank c'.1 ∧ c'.2 = (c.2.1 + 6, c.2.2)

/-- A round over TCP, which writes these coils. The negative results are the exceptions, with the function code of the
reply. -/
def TcpRound (coils : List UInt8) (c : Bank × Nat × Nat) (v : Vio η) (results : List Int × Bool)
    (c' : Bank × Nat × Nat) : Prop :=
  results = ([-130, modbusOk, modbusOk, -132, -144, -131], true) ∧
    c'.1 = v.board.bank.put 0 8 coils .coil ∧ c'.2 = (c.2.1 + 2, c.2.2 + 4)

section Runs

variable {vioLowlevelUpdate : Vio η → Vio η} {core : Core} {bound fuel : Nat} {s : Poller (World (Vio η))}

theorem Polling.onPlant (h : Polling vioLowlevelUpdate core bound s) (v : Vio η) :
    Polling vioLowlevelUpdate core bound (s.onPlant v) :=
  ⟨⟨h.joined.master, h.joined.slave, h.joined.addr_eq, h.joined.line_rx, h.joined.wire_rx, h.joined.wire_tx⟩, h.addr_eq,
    h.bound⟩

variable (hhook : ∀ v, (vioLowlevelUpdate v).board = v.board) (hfuel : bound + 2 * modbusMaxAduLength + 1 < fuel)

include hhook hfuel

theorem masterPoll_simulation :
    Simulation (masterPollOn fuel) Poller.outcome RtuRound (fun _ : Vio η => True)
      (Polling vioLowlevelUpdate core bound) where
  step v s _ h := by
    obtain ⟨s', hrun, h', hmirrors, hcounters, -⟩ := (h.onPlant v).masterPoll hhook hfuel
    refine ⟨((), s'), ?_, h', hmirrors, hcounters⟩
    unfold masterPollOn
    rw [hrun, exec_ok_bind]
    rfl

theorem tcpRound_simulation (coils : List UInt8) :
    Simulation (tcpRoundOn fuel) Poller.outcome (TcpRound coils) (fun _ : Vio η => True)
      (fun s => Polling vioLowlevelUpdate core bound s ∧
        ∀ i < 8, Kind.coil.item s.tempBuff.toList i = Kind.coil.item coils i) where
  step v s _ h := by
    obtain ⟨s', hrun, hresults, h', hbank, hcounters, htemp⟩ := (h.1.onPlant v).tcpRound hhook hfuel
    refine ⟨((_, true), s'), ?_, ⟨h', fun i hi => (htemp i hi).trans (h.2 i hi)⟩, rfl, ?_, hcounters⟩
    · unfold tcpRoundOn
      rw [hresults, exec_ok_bind, hrun]
      rfl
    · exact hbank.trans (Bank.put_congr _ .coil h.2 0)

/-- **The outputs follow the inputs.** The master over RTU polls the shipped slave, whose board changes in any way
between two rounds, over a channel that delivers in any fragmentation. Every round goes through, its six requests are
counted as successes, and after it the first eight coils and holding registers are the first eight input coils and
input registers; nothing else on the board has changed. -/
theorem master_poll_mirrors (h : Polling vioLowlevelUpdate core bound s) (plants : List (Vio η)) :
    ∃ trace, runAll (masterPollOn fuel) plants s = .ok trace ∧
      Explains Poller.outcome RtuRound s.outcome plants trace := by
  obtain ⟨trace, hrun, hexplains, -⟩ :=
    (masterPoll_simulation hhook hfuel).run plants s (fun _ _ => trivial) h
  exact ⟨trace, hrun, hexplains⟩

/-- **Four requests of six are refused.** The master over TCP asks the same slave for addresses that its callback does
not map, but for the coils, over a channel that never fails. No round is broken off. In each of them two requests
succeed and four return the exception of their function, and the board gets the coils that `temp_buff` held in the
beginning, whatever its inputs are. -/
theorem tcp_round_refused (h : Polling vioLowlevelUpdate core bound s) (plants : List (Vio η)) :
    ∃ trace, runAll (tcpRoundOn fuel) plants s = .ok trace ∧
      Explains Poller.outcome (TcpRound s.tempBuff.toList) s.outcome plants trace := by
  obtain ⟨trace, hrun, hexplains, -⟩ := (tcpRound_simulation hhook hfuel s.tempBuff.toList).run plants s
    (fun _ _ => trivial) ⟨h, fun _ _ => rfl⟩
  exact ⟨trace, hrun, hexplains⟩

end Runs

/-- Hardware that counts its notifications. -/
def Poller.countingHook (v : Vio Nat) : Vio Nat := { v with hardware := v.hardware + 1 }

theorem Poller.countingHook_board (v : Vio Nat) : (Poller.countingHook v).board = v.board := rfl

/-- A master that has polled nothing yet, joined to the shipped slave. -/
def Poller.idle (core : Core) : Poller (World (Vio Nat)) where
  smb := newContext core (World.port (testModbusSlaveCallback Poller.countingHook)) 1
  device := ⟨⟨[], [2, 0, 1], []⟩, newContext core Wire.port 1, ⟨[], [0, 3], []⟩, ⟨Board.zeroed, 0⟩⟩
  tempBuff := Buffer.replicate 256 0
  countOk := 0
  countErr := 0

theorem Poller.idle_polling (core : Core) :
    Polling Poller.countingHook core 3 (Poller.idle core) :=
  ⟨⟨newContext_ready core _ 1, newContext_ready core _ 1, rfl, rfl, rfl, rfl⟩, rfl, le_rfl⟩

/-- Inputs that are set, and then cleared by something else. -/
def Poller.plants : List (Vio Nat) :=
  [⟨{ Board.zeroed with inputCoils := ⟨[0xA5, 1, 0, 0, 0, 0, 0, 0], rfl⟩ }, 0⟩,
    ⟨{ Board.zeroed with holdCoils := ⟨[0xFF, 1, 0, 0, 0, 0, 0, 0], rfl⟩ }, 7⟩]

/-- Two rounds over RTU. -/
theorem master_poll_mirrors_two :
    ∃ trace, runAll (masterPollOn 600) Poller.plants (Poller.idle .rtu) = .ok trace ∧
      Explains Poller.outcome RtuRound (Poller.idle .rtu).outcome Poller.plants trace :=
  master_poll_mirrors Poller.countingHook_board (show 3 + 2 * 260 + 1 < 600 by decide) (Poller.idle_polling .rtu) _

/-- Two rounds over TCP. The coils that something else has set are cleared. -/
theorem tcp_round_refused_two :
    ∃ trace, runAll (tcpRoundOn 600) Poller.plants (Poller.idle .tcp) = .ok trace ∧
      Explains Poller.outcome (TcpRound (Poller.idle .tcp).tempBuff.toList) (Poller.idle .tcp).outcome Poller.plants
        trace :=
  tcp_round_refused Poller.countingHook_board (show 3 + 2 * 260 + 1 < 600 by decide) (Poller.idle_polling .tcp) _

end SmallModbus
