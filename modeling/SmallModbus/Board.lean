/-
# `SmallModbus.Board` — the callback of the shipped slaves.

The slaves over RTU and over TCP share the body of their callback: the address of the master chooses one of
the four banks of the board. `testModbusSlaveCall_read` and `testModbusSlaveCall_write` say what a call
moves: the `served` items, those of the window that are on the board.
-/
import SmallModbus.VirtualIO

namespace SmallModbus

open SmallModbus.Lib

variable {η : Type} {n : Nat}

/-! ## §1 — the callback of the slaves. -/

section Hardware

variable (vioLowlevelUpdate : Vio η → Vio η)

/-- What a read leaves to the slave, nothing when it stops. -/
def readResult (v : Vio η) (data : List UInt8) (run : Exec (Int × List UInt8)) : Int × List UInt8 × Vio η :=
  match run with
  | .ok (rc, data) => (rc, data, v)
  | .error _ => (0, data, v)

/-- What a write leaves. -/
def writeResult (v : Vio η) (data : List UInt8) (run : Exec (Int × Vio η)) : Int × List UInt8 × Vio η :=
  match run with
  | .ok (rc, v) => (rc, data, v)
  | .error _ => (0, data, v)

/-- The body of `test_modbus_tcp_slave_callback` and `test_modbus_rtu_slave_callback`. -/
def testModbusSlaveCall (v : Vio η) (functionCode addr num : Int) (data : List UInt8) :
    Int × List UInt8 × Vio η :=
  if functionCode = modbusFcReadHoldingCoils then
    if 0 ≤ addr ∧ addr < 10000 then
      readResult v data (vioReadHoldCoils v.board (toU16 addr) (toU16 num) data)
    else (0, data, v)
  else if functionCode = modbusFcReadInputsCoils then
    if 10000 ≤ addr ∧ addr < 20000 then
      let addr := addr - 10000
      readResult v data (vioReadInputCoils v.board (toU16 addr) (toU16 num) data)
    else (0, data, v)
  else if functionCode = modbusFcReadHoldingRegisters then
    if 40000 ≤ addr ∧ addr < 50000 then
      let addr := addr - 40000
      readResult v data (vioReadHoldRegs v.board (toU16 addr) (toU16 num) data)
    else (0, data, v)
  else if functionCode = modbusFcReadInputRegisters then
    if 30000 ≤ addr ∧ addr < 40000 then
      let addr := addr - 30000
      readResult v data (vioReadInputRegs v.board (toU16 addr) (toU16 num) data)
    else (0, data, v)
  else if functionCode = modbusFcWriteSingleCoil ∨ functionCode = modbusFcWriteMultipleCoils then
    if 0 ≤ addr ∧ addr < 10000 then
      writeResult v data (vioWriteHoldCoils vioLowlevelUpdate v (toU16 addr) (toU16 num) data)
    else (0, data, v)
  else if functionCode = modbusFcWriteSingleRegister ∨ functionCode = modbusFcWriteMultipleRegisters then
    if 40000 ≤ addr ∧ addr < 50000 then
      let addr := addr - 40000
      writeResult v data (vioWriteHoldRegs vioLowlevelUpdate v (toU16 addr) (toU16 num) data)
    else (0, data, v)
  else (0, data, v)

theorem length_readResult {k : Kind} (v : Vio η) (bank : Buffer UInt8 n) (addr num : UInt16) (data : List UInt8) :
    (readResult v data (vioRead k bank addr num data)).2.1.length = data.length := by
  unfold readResult
  split
  · rename_i rc data' hrun
    unfold vioRead at hrun
    split at hrun
    · obtain ⟨⟨index, buffer⟩, hmove, hrun⟩ := bind_eq_ok.mp hrun
      cases hrun
      exact length_vioMove hmove
    · cases hrun
      rfl
  · rfl

theorem length_writeResult (v : Vio η) (data : List UInt8) (run : Exec (Int × Vio η)) :
    (writeResult v data run).2.1.length = data.length := by
  unfold writeResult
  split <;> rfl

end Hardware

/-- The loop of a read counts its rounds. -/
theorem vioMove_index {k : Kind} {src : List UInt8} {left i j index index' : Nat} {des des' : List UInt8}
    (h : vioMove k src left i j index des = .ok (index', des')) : index' = index + left := by
  induction left generalizing i j index des with
  | zero =>
    cases h
    rfl
  | succ left ih =>
    obtain ⟨val, -, h⟩ := bind_eq_ok.mp h
    obtain ⟨des₁, -, h⟩ := bind_eq_ok.mp h
    rw [ih h, Nat.add_right_comm, Nat.add_assoc]

/-- So does the loop of a write. -/
theorem vioStore_index {k : Kind} {buffer : List UInt8} {left ioStart index index' count count' : Nat}
    {bank bank' : List UInt8} (h : vioStore k buffer left ioStart index count bank = .ok (index', count', bank')) :
    index' = index + left := by
  induction left generalizing ioStart index count bank with
  | zero =>
    cases h
    rfl
  | succ left ih =>
    obtain ⟨valOld, -, h⟩ := bind_eq_ok.mp h
    obtain ⟨valNew, -, h⟩ := bind_eq_ok.mp h
    split at h
    · obtain ⟨bank₁, -, h⟩ := bind_eq_ok.mp h
      rw [ih h, Nat.add_right_comm, Nat.add_assoc]
    · rw [ih h, Nat.add_right_comm, Nat.add_assoc]

/-- A read returns at most the number of items on the board. -/
theorem vioRead_le {k : Kind} {bank : Buffer UInt8 n} {addr num : UInt16} {buffer buffer' : List UInt8} {rc : Int}
    (h : vioRead k bank addr num buffer = .ok (rc, buffer')) : rc ≤ k.boardMax := by
  unfold vioRead at h
  by_cases haddr : addr.toNat < k.boardMax
  · rw [if_pos haddr] at h
    obtain ⟨⟨index, buffer₁⟩, hmove, h⟩ := bind_eq_ok.mp h
    cases h
    rw [vioMove_index hmove]
    split_ifs <;> omega
  · rw [if_neg haddr] at h
    cases h
    exact Int.natCast_nonneg _

/-- So does a write. -/
theorem vioWrite_le {k : Kind} {bank bank' : Buffer UInt8 n} {addr num : UInt16} {buffer : List UInt8} {rc : Int}
    {count : Nat} (h : vioWrite k bank addr num buffer = .ok (rc, count, bank')) : rc ≤ k.boardMax := by
  unfold vioWrite at h
  by_cases haddr : addr.toNat < k.boardMax
  · rw [if_pos haddr] at h
    obtain ⟨⟨index, count₁, items⟩, hstore, h⟩ := bind_eq_ok.mp h
    obtain ⟨bank₁, -, h⟩ := bind_eq_ok.mp h
    cases h
    rw [vioStore_index hstore]
    split_ifs <;> omega
  · rw [if_neg haddr] at h
    cases h
    exact Int.natCast_nonneg _

/-- What a read leaves is small when the read returns little. -/
theorem readResult_lt {v : Vio η} {data : List UInt8} {run : Exec (Int × List UInt8)} {k : Kind}
    (h : ∀ {rc data'}, run = .ok (rc, data') → rc ≤ k.boardMax) : (readResult v data run).1 < 65536 := by
  have hmax := k.boardMax_le
  unfold readResult
  split
  · rename_i rc data'
    have hle := h rfl
    show rc < 65536
    omega
  · exact (by decide : (0 : Int) < 65536)

/-- So is what a write leaves. -/
theorem writeResult_lt {v : Vio η} {data : List UInt8} {run : Exec (Int × Vio η)} {k : Kind}
    (h : ∀ {rc v'}, run = .ok (rc, v') → rc ≤ k.boardMax) : (writeResult v data run).1 < 65536 := by
  have hmax := k.boardMax_le
  unfold writeResult
  split
  · rename_i rc v'
    have hle := h rfl
    show rc < 65536
    omega
  · exact (by decide : (0 : Int) < 65536)

section Hardware

variable (vioLowlevelUpdate : Vio η → Vio η)

/-- **The callback of the shipped slaves.** -/
def testModbusSlaveCallback : SlaveCallback (Vio η) where
  call := testModbusSlaveCall vioLowlevelUpdate
  size_eq v f addr num data := by
    unfold testModbusSlaveCall
    split_ifs
    all_goals first
      | rfl
      | exact length_readResult v _ _ _ data
      | exact length_writeResult v data _

theorem vioWriteHoldCoils_le {v v' : Vio η} {addr num : UInt16} {buffer : List UInt8} {rc : Int}
    (h : vioWriteHoldCoils vioLowlevelUpdate v addr num buffer = .ok (rc, v')) : rc ≤ Kind.coil.boardMax := by
  obtain ⟨⟨index, count, bank⟩, hwrite, h⟩ := bind_eq_ok.mp h
  cases h
  exact vioWrite_le hwrite

theorem vioWriteHoldRegs_le {v v' : Vio η} {addr num : UInt16} {buffer : List UInt8} {rc : Int}
    (h : vioWriteHoldRegs vioLowlevelUpdate v addr num buffer = .ok (rc, v')) : rc ≤ Kind.register.boardMax := by
  obtain ⟨⟨index, count, bank⟩, hwrite, h⟩ := bind_eq_ok.mp h
  cases h
  exact vioWrite_le hwrite

/-- Its results fit 16 bits. -/
theorem testModbusSlaveCallback_fitsWord : (testModbusSlaveCallback vioLowlevelUpdate).FitsWord := by
  intro v f addr num data
  show (testModbusSlaveCall vioLowlevelUpdate v f addr num data).1 < 65536
  unfold testModbusSlaveCall
  split_ifs
  all_goals first
    | exact readResult_lt vioRead_le
    | exact writeResult_lt (vioWriteHoldCoils_le vioLowlevelUpdate)
    | exact writeResult_lt (vioWriteHoldRegs_le vioLowlevelUpdate)
    | exact (by decide : (0 : Int) < 65536)

end Hardware

/-! ## §2 — the board as a memory. -/

/-- The board's own addresses begin here. -/
def ReadOp.base : ReadOp → Nat
  | .bits => 0
  | .inputBits => 10000
  | .registers => 40000
  | .inputRegisters => 30000

/-- How many of `num` items at the address are on the board. -/
def ReadOp.served (op : ReadOp) (addr num : Nat) : Nat :=
  if op.base ≤ addr then min num (op.base + op.kind.boardMax - addr) else 0

/-- The table that is written. -/
def Kind.held : Kind → ReadOp
  | .coil => .bits
  | .register => .registers

/-- The items of a byte string, the first of them at `base`. -/
def Kind.tableAt (k : Kind) (base : Nat) (l : List UInt8) (a : Nat) : k.Item :=
  if base ≤ a then k.item l (a - base) else k.zero

namespace Board

/-- The bank that an operation reads. -/
def area (b : Board) : (op : ReadOp) → Buffer UInt8 (op.kind.bytes op.kind.boardMax)
  | .bits => b.holdCoils
  | .inputBits => b.inputCoils
  | .registers => b.holdRegs
  | .inputRegisters => b.inputRegs

/-- The table at the addresses of the master. -/
def table (b : Board) (op : ReadOp) : Nat → op.kind.Item := op.kind.tableAt op.base (b.area op).toList

/-- The board as the master sees it. -/
def bank (b : Board) : Bank := ⟨b.table .bits, b.table .inputBits, b.table .registers, b.table .inputRegisters⟩

@[simp] theorem bank_get (b : Board) (op : ReadOp) : b.bank.get op = b.table op := by
  cases op <;> rfl

end Board

/-- **The board is what the master can read of it.** -/
theorem Board.bank_injective : Function.Injective Board.bank := by
  intro b b' hbank
  have harea : ∀ op, (b.area op).toList = (b'.area op).toList := by
    intro op
    apply op.kind.ext_item (b.area op).size_eq (b'.area op).size_eq
    intro i
    have hget : b.bank.get op (op.base + i) = b'.bank.get op (op.base + i) := by rw [hbank]
    simp only [Board.bank_get, Board.table, Kind.tableAt, Nat.le_add_right, if_true, Nat.add_sub_cancel_left] at hget
    exact hget
  obtain ⟨inputCoils, holdCoils, inputRegs, holdRegs⟩ := b
  obtain ⟨inputCoils', holdCoils', inputRegs', holdRegs'⟩ := b'
  obtain rfl : inputCoils = inputCoils' := Buffer.ext (harea .inputBits)
  obtain rfl : holdCoils = holdCoils' := Buffer.ext (harea .bits)
  obtain rfl : inputRegs = inputRegs' := Buffer.ext (harea .inputRegisters)
  obtain rfl : holdRegs = holdRegs' := Buffer.ext (harea .registers)
  rfl

/-! ## §3 — what a call moves. -/

theorem ReadOp.served_le (op : ReadOp) (addr num : Nat) : op.served addr num ≤ num := by
  unfold served
  split_ifs
  · exact Nat.min_le_left _ _
  · exact Nat.zero_le num

theorem ReadOp.served_eq (op : ReadOp) {addr num : Nat} (h : op.base ≤ addr) :
    op.served addr num = op.kind.avail (addr - op.base) num := by
  unfold served Kind.avail
  rw [if_pos h]
  omega

/-- No item at an address behind the window of the bank is served. -/
theorem ReadOp.served_eq_zero (op : ReadOp) {addr : Nat} (num : Nat)
    (h : ¬ (op.base ≤ addr ∧ addr < op.base + 10000)) : op.served addr num = 0 := by
  have hmax := op.kind.boardMax_le
  unfold served
  split_ifs <;> omega

/-- The address in the bank. -/
theorem toNat_toU16_sub {addr base : Nat} (hbase : base ≤ addr) (haddr : addr < base + 10000) :
    (toU16 ((addr : Int) - base)).toNat = addr - base := by
  rw [toNat_toU16_of_lt (by omega) (by omega)]
  omega

section Call

variable (vioLowlevelUpdate : Vio η → Vio η) (v : Vio η)

/-- The branch of a read. -/
theorem testModbusSlaveCall_readOp (op : ReadOp) (addr num : Int) (data : List UInt8) :
    testModbusSlaveCall vioLowlevelUpdate v op.function.toNat addr num data =
      if op.base ≤ addr ∧ addr < op.base + 10000 then
        readResult v data (vioRead op.kind (v.board.area op) (toU16 (addr - op.base)) (toU16 num) data)
      else (0, data, v) := by
  cases op with
  | bits =>
    -- no base is subtracted here
    simp only [ReadOp.base, Nat.cast_zero, sub_zero, zero_add]
    rfl
  | inputBits => rfl
  | registers => rfl
  | inputRegisters => rfl

/-- **A read** moves the items of its window that are on the board. -/
theorem testModbusSlaveCall_read (op : ReadOp) (addr : Nat) {num : Nat} (hnum : num < 65536) (data : List UInt8)
    (hdata : op.kind.bytes (op.served addr num) ≤ data.length) :
    ∃ data', testModbusSlaveCall vioLowlevelUpdate v op.function.toNat addr num data =
        (((op.served addr num : Nat) : Int), data', v) ∧ data'.length = data.length ∧
      ∀ p, op.kind.item data' p =
        if p < op.served addr num then v.board.table op (addr + p) else op.kind.item data p := by
  rw [testModbusSlaveCall_readOp]
  by_cases hin : op.base ≤ addr ∧ addr < op.base + 10000
  · obtain ⟨hbase, haddr⟩ := hin
    have haddr' := toNat_toU16_sub hbase haddr
    have hnum' := toNat_toU16_natCast hnum
    rw [op.served_eq hbase] at hdata ⊢
    obtain ⟨data', hrun, hmoved⟩ := vioRead_eq op.kind (v.board.area op) rfl
      (toU16 ((addr : Int) - op.base)) (toU16 num) (by rwa [haddr', hnum'])
    rw [haddr', hnum'] at hrun hmoved
    refine ⟨data', ?_, hmoved.length_eq, fun p => ?_⟩
    · rw [if_pos ⟨by omega, by omega⟩, hrun]
      rfl
    · have hindex : addr + p - op.base = addr - op.base + p := by omega
      rw [hmoved.item_eq p, Board.table, Kind.tableAt, if_pos (show op.base ≤ addr + p by omega), hindex]
      simp only [Nat.zero_le, true_and, Nat.zero_add, Nat.sub_zero]
  · rw [op.served_eq_zero num hin, if_neg (by omega)]
    exact ⟨data, rfl, rfl, fun p => by rw [if_neg (by omega)]⟩

/-- The board with one of its written banks replaced. -/
def Board.set (b : Board) : (k : Kind) → Buffer UInt8 (k.bytes k.boardMax) → Board
  | .coil, bank => { b with holdCoils := bank }
  | .register, bank => { b with holdRegs := bank }

/-- The bank that is written. -/
def Board.hold (b : Board) : (k : Kind) → Buffer UInt8 (k.bytes k.boardMax)
  | .coil => b.holdCoils
  | .register => b.holdRegs

/-- The board after a write: the hardware is notified when the board has changed. -/
def Vio.written (v : Vio η) (b : Board) : Vio η :=
  if b = v.board then v else vioLowlevelUpdate { v with board := b }

/-- The functions of a write. -/
theorem testModbusSlaveCall_writeKind (k : Kind) {f : UInt8} (hf : f = k.fcSingle ∨ f = k.fcMultiple)
    (addr num : Int) (data : List UInt8) :
    testModbusSlaveCall vioLowlevelUpdate v f.toNat addr num data =
      if k.held.base ≤ addr ∧ addr < k.held.base + 10000 then
        writeResult v data (do
          let (index, count, bank) ← vioWrite k (v.board.hold k) (toU16 (addr - k.held.base)) (toU16 num) data
          let v' := { v with board := v.board.set k bank }
          return (index, if count ≠ 0 then vioLowlevelUpdate v' else v'))
      else (0, data, v) := by
  cases k with
  | coil =>
    simp only [Kind.held, ReadOp.base, Nat.cast_zero, sub_zero, zero_add]
    rcases hf with rfl | rfl <;> rfl
  | register => rcases hf with rfl | rfl <;> rfl

end Call

/-- Items moved to a byte string overlay its table. -/
theorem Kind.Moved.tableAt {k : Kind} {data l l' : List UInt8} {addr base num : Nat} (hbase : base ≤ addr)
    (h : k.Moved data 0 (addr - base) num l l') :
    k.tableAt base l' = Bank.overlay k (k.tableAt base l) addr num data := by
  funext a
  unfold Kind.tableAt Bank.overlay
  dsimp only
  by_cases ha : base ≤ a
  · rw [if_pos ha, if_pos ha, h.item_eq]
    by_cases hin : addr ≤ a ∧ a < addr + num
    · have hindex : 0 + (a - base - (addr - base)) = a - addr := by omega
      rw [if_pos (by omega), if_pos hin, hindex]
    · rw [if_neg (by omega), if_neg hin]
  · rw [if_neg ha, if_neg ha, if_neg (by omega)]

/-- The board with items moved to a written bank is the memory written to directly. -/
theorem Board.bank_set (b : Board) {k : Kind} {data : List UInt8} {addr num : Nat} (hbase : k.held.base ≤ addr)
    {bank : Buffer UInt8 (k.bytes k.boardMax)}
    (h : k.Moved data 0 (addr - k.held.base) num (b.hold k).toList bank.toList) :
    (b.set k bank).bank = b.bank.put addr num data k := by
  cases k with
  | coil => exact congrArg (fun table => { b.bank with coils := table }) (h.tableAt hbase)
  | register => exact congrArg (fun table => { b.bank with holding := table }) (h.tableAt hbase)

theorem Board.set_eq_self {b : Board} {k : Kind} {bank : Buffer UInt8 (k.bytes k.boardMax)} :
    b.set k bank = b ↔ bank = b.hold k := by
  cases k with
  | coil => exact ⟨congrArg Board.holdCoils, fun h => by rw [h]; rfl⟩
  | register => exact ⟨congrArg Board.holdRegs, fun h => by rw [h]; rfl⟩

/-- Nothing written. -/
theorem Bank.put_zero (b : Bank) (addr : Nat) (data : List UInt8) (k : Kind) : b.put addr 0 data k = b := by
  have hoverlay : ∀ (k : Kind) (table : Nat → k.Item), overlay k table addr 0 data = table := by
    intro k table
    funext a
    unfold overlay
    rw [if_neg (by omega)]
  cases k with
  | coil => exact congrArg (fun table => { b with coils := table }) (hoverlay .coil b.coils)
  | register => exact congrArg (fun table => { b with holding := table }) (hoverlay .register b.holding)

/-- **A write** puts the items of its window that are on the board, and notifies the hardware when one of
them has changed. -/
theorem testModbusSlaveCall_write (vioLowlevelUpdate : Vio η → Vio η) (v : Vio η) (k : Kind) {f : UInt8}
    (hf : f = k.fcSingle ∨ f = k.fcMultiple) (addr : Nat) {num : Nat} (hnum : num < 65536) (data : List UInt8)
    (hdata : k.bytes (k.held.served addr num) ≤ data.length) :
    ∃ b : Board, testModbusSlaveCall vioLowlevelUpdate v f.toNat addr num data =
        (((k.held.served addr num : Nat) : Int), data, v.written vioLowlevelUpdate b) ∧
      b.bank = v.board.bank.put addr (k.held.served addr num) data k := by
  rw [testModbusSlaveCall_writeKind vioLowlevelUpdate v k hf]
  have hkind : k.held.kind = k := by cases k <;> rfl
  by_cases hin : k.held.base ≤ addr ∧ addr < k.held.base + 10000
  · obtain ⟨hbase, haddr⟩ := hin
    have haddr' := toNat_toU16_sub hbase haddr
    have hnum' := toNat_toU16_natCast hnum
    rw [k.held.served_eq hbase, hkind] at hdata ⊢
    obtain ⟨count, bank, hrun, hmoved, hcount⟩ := vioWrite_eq k (v.board.hold k) rfl
      (toU16 ((addr : Int) - k.held.base)) (toU16 num) (by rwa [haddr', hnum'])
    rw [haddr', hnum'] at hrun hmoved
    refine ⟨v.board.set k bank, ?_, v.board.bank_set hbase hmoved⟩
    rw [if_pos ⟨by omega, by omega⟩, hrun, exec_ok_bind]
    unfold Vio.written
    by_cases hzero : count = 0
    · have hsame : v.board.set k bank = v.board := Board.set_eq_self.mpr (hcount.mp hzero)
      dsimp only
      rw [if_neg (not_not.mpr hzero), if_pos hsame, hsame]
      rfl
    · dsimp only
      rw [if_pos hzero, if_neg (mt Board.set_eq_self.mp (mt hcount.mpr hzero))]
      rfl
  · rw [k.held.served_eq_zero num hin, if_neg (by omega)]
    refine ⟨v.board, ?_, (Bank.put_zero _ addr data k).symm⟩
    unfold Vio.written
    rw [if_pos rfl]
    rfl

end SmallModbus
