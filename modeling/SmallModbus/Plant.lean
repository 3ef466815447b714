/-
# `SmallModbus.Plant` — a master, the shipped slave and the hardware of its board.

The master's operations go to the shipped slave, and in between the hardware brings its inputs up to date.
`remote_board` says of any run of such calls what each of them returns and what the board is after it: the
board is a memory of the master in its own windows, an operation outside them is refused, and one that runs
over their end is served in part.
-/
import SmallModbus.Board
import SmallModbus.Context
import SmallModbus.Outcome

namespace SmallModbus

open SmallModbus.Lib

variable {σ τ η : Type} {n : Nat}

/-! ## §1 — the calls and what they come to. -/

/-- The bank with items of a table replaced. -/
def Bank.refresh (b : Bank) (addr num : Nat) (data : List UInt8) : ReadOp → Bank
  | .bits => { b with coils := overlay .coil b.coils addr num data }
  | .inputBits => { b with inputs := overlay .coil b.inputs addr num data }
  | .registers => { b with holding := overlay .register b.holding addr num data }
  | .inputRegisters => { b with inputRegs := overlay .register b.inputRegs addr num data }

/-- The four updates from the hardware. -/
def Board.lowlevelUpdate (b : Board) : ReadOp → (addr num : UInt16) → List UInt8 → Exec (Int × Board)
  | .bits => vioLowlevelUpdateHoldCoils b
  | .inputBits => vioLowlevelUpdateInputCoils b
  | .registers => vioLowlevelUpdateHoldRegs b
  | .inputRegisters => vioLowlevelUpdateInputRegs b

/-- The board with one of its banks replaced. -/
def Board.replace (b : Board) : (op : ReadOp) → Buffer UInt8 (op.kind.bytes op.kind.boardMax) → Board
  | .bits, bank => { b with holdCoils := bank }
  | .inputBits, bank => { b with inputCoils := bank }
  | .registers, bank => { b with holdRegs := bank }
  | .inputRegisters, bank => { b with inputRegs := bank }

theorem Board.lowlevelUpdate_run (b : Board) (op : ReadOp) (addr num : UInt16) (buffer : List UInt8) :
    b.lowlevelUpdate op addr num buffer =
      (vioLowlevelUpdateBank op.kind (b.area op) addr num buffer).map fun x => (x.1, b.replace op x.2) := by
  cases op <;> rfl

/-- Items moved to a bank. -/
theorem Board.bank_replace (b : Board) (op : ReadOp) {buffer : List UInt8} {addr num : Nat}
    (hbase : op.base ≤ addr) {bank : Buffer UInt8 (op.kind.bytes op.kind.boardMax)}
    (h : op.kind.Moved buffer 0 (addr - op.base) num (b.area op).toList bank.toList) :
    (b.replace op bank).bank = b.bank.refresh addr num buffer op := by
  have htable := h.tableAt hbase
  cases op with
  | bits => exact congrArg (fun table => { b.bank with coils := table }) htable
  | inputBits => exact congrArg (fun table => { b.bank with inputs := table }) htable
  | registers => exact congrArg (fun table => { b.bank with holding := table }) htable
  | inputRegisters => exact congrArg (fun table => { b.bank with inputRegs := table }) htable

/-- **An update from the hardware** replaces the items that are in the bank. -/
theorem Board.lowlevelUpdate_eq (b : Board) (op : ReadOp) (addr num : UInt16) {buffer : List UInt8}
    (hbuffer : op.kind.bytes (op.kind.avail addr.toNat num.toNat) ≤ buffer.length) :
    ∃ b', b.lowlevelUpdate op addr num buffer = .ok (op.kind.avail addr.toNat num.toNat, b') ∧
      b'.bank = b.bank.refresh (op.base + addr.toNat) (op.kind.avail addr.toNat num.toNat) buffer op := by
  obtain ⟨bank, hrun, hmoved⟩ := vioLowlevelUpdateBank_eq op.kind (b.area op) rfl addr num hbuffer
  have hoffset : op.base + addr.toNat - op.base = addr.toNat := Nat.add_sub_cancel_left _ _
  refine ⟨b.replace op bank, ?_, b.bank_replace op (Nat.le_add_right _ _) (by rw [hoffset]; exact hmoved)⟩
  rw [b.lowlevelUpdate_run, hrun]
  rfl

/-- The kind of the items that an operation writes. -/
def WriteOp.kind : WriteOp → Kind
  | .bit _ _ => .coil
  | .register _ _ => .register
  | .bits _ _ _ => .coil
  | .registers _ _ _ => .register

/-- The items an operation writes, in the byte order of the host. The write of a coil clears it. -/
def WriteOp.items : WriteOp → List UInt8
  | .bit _ _ => [0]
  | .register _ writeValue => [lowByte writeValue, highByte writeValue]
  | .bits _ _ writeData => writeData
  | .registers _ _ writeData => writeData

/-- An operation of the master, or an update of a table from the hardware. -/
inductive PlantCall
  | master (call : MasterCall)
  | lowlevelUpdate (op : ReadOp) (addr num : UInt16) (buffer : List UInt8)

namespace PlantCall

/-- The call on a little-endian host: its result, the caller's object, and both parties after it. -/
def step (fuel : Nat) : PlantCall → Smb (World (Vio η)) × World (Vio η) →
    Exec ((Int × List UInt8) × (Smb (World (Vio η)) × World (Vio η)))
  | .master call, s => call.step fuel s
  | .lowlevelUpdate op addr num buffer, (smb, w) => do
      let (rc, board) ← w.app.board.lowlevelUpdate op addr num buffer
      return ((rc, []), (smb, { w with app := { w.app with board := board } }))

/-- What a call comes to. Of a read the data are copied when the items served fill as many bytes as the
items asked for, and the items served are then those of the board. -/
def serves (vioLowlevelUpdate : Vio η → Vio η) (v : Vio η) : PlantCall → Int × List UInt8 → Vio η → Prop
  | .master (.read op addr num _ readData), result, v' =>
      let served := op.served addr.toNat num.toNat
      v' = v ∧ result.1 = servedResult op.function served ∧
        if 0 < served ∧ op.kind.bytes served = op.kind.bytes num.toNat then
          ∀ i < served, op.kind.item result.2 i = v.board.bank.get op (addr.toNat + i)
        else result.2 = readData.toList
  | .master (.write op), result, v' =>
      let served := op.kind.held.served op.addr.toNat op.num.toNat
      result.1 = servedResult op.function served ∧
        ∃ b : Board, v' = v.written vioLowlevelUpdate b ∧
          b.bank = v.board.bank.put op.addr.toNat served op.items op.kind
  | .lowlevelUpdate op addr num buffer, result, v' =>
      let moved := op.kind.avail addr.toNat num.toNat
      result.1 = moved ∧
        ∃ b : Board, v' = { v with board := b } ∧ b.bank = v.board.bank.refresh (op.base + addr.toNat) moved buffer op

/-- The address is one of the protocol, the quantity is inside its limits and the caller's object holds the
items. -/
def Admissible : PlantCall → Prop
  | .master (.read op addr num n _) =>
      0 ≤ addr ∧ addr < 65536 ∧ 0 < num ∧ num ≤ op.kind.maxRead ∧ op.kind.bytes num.toNat ≤ n
  | .master (.write op) =>
      0 ≤ op.addr ∧ op.addr < 65536 ∧ 0 < op.num ∧ op.num ≤ op.kind.maxWrite ∧
        op.kind.bytes op.num.toNat ≤ op.items.length
  | .lowlevelUpdate op addr num buffer => op.kind.bytes (op.kind.avail addr.toNat num.toNat) ≤ buffer.length

instance : DecidablePred Admissible
  | .master (.read _ _ _ _ _) => inferInstanceAs (Decidable (_ ∧ _))
  | .master (.write _) => inferInstanceAs (Decidable (_ ∧ _))
  | .lowlevelUpdate _ _ _ _ => inferInstanceAs (Decidable (_ ≤ _))

end PlantCall

/-- The arguments of the operation on a little-endian host. -/
def MasterCall.operation : MasterCall → Operation
  | .read op addr num n readData => ⟨op.function.toNat, addr, num, [], n, readData⟩
  | .write op => ⟨op.function.toNat, op.addr, op.num, op.data .littleEndian, 0, noData⟩

/-- The call is the operation. -/
theorem MasterCall.step_eq {κ : Type} (call : MasterCall) (fuel : Nat) (s : Smb (World κ) × World κ) :
    call.step fuel s = (call.operation.run fuel s.1 s.2).map fun x => ((x.1, x.2.2.2.toList), (x.2.1, x.2.2.1)) := by
  cases call with
  | read op addr num n readData =>
    unfold MasterCall.step Operation.run MasterCall.operation
    dsimp only
    rw [op.run_eq]
    rfl
  | write op =>
    unfold MasterCall.step Operation.run MasterCall.operation
    dsimp only
    rw [op.run_eq]
    rfl

/-! ## §2 — one operation of the master. -/

section Operations

variable (vioLowlevelUpdate : Vio η → Vio η) (core : Core) (port : Port σ) (smb : Smb σ) (slave : Smb τ) (v : Vio η)

theorem read_board (op : ReadOp) {addr num : Nat} (hnum : 0 < num ∧ num ≤ op.kind.maxRead) (haddr : addr < 65536)
    (readData : Buffer UInt8 n) (hn : op.kind.bytes num ≤ n) :
    ∃ reply out, Exchanged core port (testModbusSlaveCallback vioLowlevelUpdate) smb slave v
        ⟨op.function.toNat, addr, num, [], n, readData⟩ reply (servedResult op.function (op.served addr num)) out v ∧
      if 0 < op.served addr num ∧ op.kind.bytes (op.served addr num) = op.kind.bytes num then
        ∀ i < op.served addr num, op.kind.item out.toList i = v.board.bank.get op (addr + i)
      else out.toList = readData.toList := by
  have hmax : modbusMaxAduLength = 260 := rfl
  have hh := core.lenHeader_le
  have hlimit := op.kind.maxRead_le
  have hserved := op.served_le addr num
  have hbytes : op.kind.bytes num ≤ 250 := op.kind.bytes_maxRead ▸ op.kind.bytes_mono hnum.2
  have hsize := op.kind.bytes_mono hserved
  have hcells : (slave.writeBuff.toList.drop (core.lenHeader + 2)).length = 260 - (core.lenHeader + 2) := by
    rw [List.length_drop, Buffer.length_toList]
  obtain ⟨data, hcall, hlen, hitems⟩ := testModbusSlaveCall_read vioLowlevelUpdate v op addr
    (show num < 65536 by omega) (slave.writeBuff.toList.drop (core.lenHeader + 2)) (by omega)
  have hcall' : (testModbusSlaveCallback vioLowlevelUpdate).call v op.function.toNat addr num
      (slave.writeBuff.toList.drop (core.lenHeader + 2)) = ((op.served addr num : Int), data, v) := hcall
  obtain ⟨reply, hexchanged⟩ := read_exchanged core port smb slave op hnum haddr readData hn hserved hcall'
  refine ⟨reply, _, hexchanged, ?_⟩
  split_ifs with hsame
  · intro i hi
    have hle : (data.take (op.kind.bytes num)).length = op.kind.bytes num := List.length_take_of_le (by omega)
    rw [Buffer.toList_fill _ (hle.trans_le hn), op.kind.item_append (show i < num by omega) hle.ge,
      op.kind.item_take (by omega) (by omega), hitems i, if_pos hi, Board.bank_get]
  · rfl

/-- A write whose cells begin with the items `x`. -/
theorem write_board (k : Kind) {function : Int} {addr num : Nat} {writeData : List UInt8}
    (hs : Sendable function addr num writeData) {q : Query} {tail : List UInt8}
    (hpdu : requestPdu function addr num writeData = q.echoReply ++ tail) (haddr : q.address.toNat = addr)
    (hserv : q.function = k.fcSingle ∧ num = 1 ∨ q.function = k.fcMultiple ∧ num = q.num.toNat)
    (hnum : 0 < num ∧ num ≤ k.maxWrite) {x rest : List UInt8} (hx : k.bytes num ≤ x.length)
    (hcells : q.cells core (core.adopt slave (core.requestContext smb).transferId)
      (slave.readBuff.fill (requestFrame core smb function addr num writeData)) = x ++ rest) :
    ∃ reply b, Exchanged core port (testModbusSlaveCallback vioLowlevelUpdate) smb slave v
        ⟨function, addr, num, writeData, 0, noData⟩ reply (servedResult q.function (k.held.served addr num)) noData
        (v.written vioLowlevelUpdate b) ∧
      b.bank = v.board.bank.put addr (k.held.served addr num) x k := by
  have hlimit := k.maxWrite_le
  have hserved := k.held.served_le addr num
  have hsize := k.bytes_mono hserved
  obtain ⟨b, hcall, hbank⟩ := testModbusSlaveCall_write vioLowlevelUpdate v k (hserv.imp And.left And.left) addr
    (show num < 65536 by omega) (x ++ rest) (by rw [List.length_append]; omega)
  have hcall' : (testModbusSlaveCallback vioLowlevelUpdate).call v q.function.toNat q.address.toNat num
      (q.cells core (core.adopt slave (core.requestContext smb).transferId)
        (slave.readBuff.fill (requestFrame core smb function addr num writeData))) =
      ((k.held.served addr num : Int), x ++ rest, v.written vioLowlevelUpdate b) := by
    rw [hcells, haddr]
    exact hcall
  have hserv' : serviceOf q.function = .writeSingle k ∧ num = 1 ∨
      serviceOf q.function = .writeMultiple k ∧ num = q.num.toNat := by
    rcases hserv with ⟨hf, hone⟩ | ⟨hf, hq⟩
    · exact Or.inl ⟨hf ▸ serviceOf_fcSingle k, hone⟩
    · exact Or.inr ⟨hf ▸ serviceOf_fcMultiple k, hq⟩
  obtain ⟨reply, hexchanged⟩ := write_exchanged core port smb slave k hs hpdu hserv' hnum hserved hcall'
  refine ⟨reply, b, hexchanged, ?_⟩
  rw [hbank]
  refine Bank.put_congr _ k (fun i hi => ?_) addr
  exact k.item_append hi (hsize.trans hx) rest

theorem writeMultiple_board (k : Kind) {addr num : Nat} (haddr : addr < 65536)
    (hnum : 0 < num ∧ num ≤ k.maxWrite) {writeData : List UInt8} (hdata : k.bytes num ≤ writeData.length) :
    ∃ reply b, Exchanged core port (testModbusSlaveCallback vioLowlevelUpdate) smb slave v
        ⟨k.fcMultiple.toNat, addr, num, writeData, 0, noData⟩ reply
        (servedResult k.fcMultiple (k.held.served addr num)) noData (v.written vioLowlevelUpdate b) ∧
      b.bank = v.board.bank.put addr (k.held.served addr num) writeData k := by
  have hlimit := k.maxWrite_le
  have htaken : (writeData.take (k.bytes num)).length = k.bytes num := List.length_take_of_le hdata
  obtain ⟨rest, hcells⟩ := cells_writeMultiple core smb
    (core.adopt slave (core.requestContext smb).transferId) slave k hnum hdata
  obtain ⟨reply, b, hexchanged, hbank⟩ := write_board vioLowlevelUpdate core port smb slave v k
    (sendable_writeMultiple k (addr : Int) hnum hdata) (requestPdu_writeMultiple k (addr : Int) num writeData)
    (toNat_toU16_natCast haddr) (Or.inr ⟨rfl, (toNat_toU16_natCast (by omega)).symm⟩) hnum htaken.ge hcells
  refine ⟨reply, b, hexchanged, ?_⟩
  rw [hbank]
  refine Bank.put_congr _ k (fun i hi => ?_) addr
  exact k.item_take (hi.trans_le (k.held.served_le addr num)) hdata

/-- **The four writes** put the items that are on the board. -/
theorem writeOp_board (op : WriteOp) (haddr : 0 ≤ op.addr ∧ op.addr < 65536)
    (hnum : 0 < op.num ∧ op.num ≤ op.kind.maxWrite) (hdata : op.kind.bytes op.num.toNat ≤ op.items.length) :
    Sendable op.function.toNat op.addr op.num (op.data .littleEndian) ∧
      ∃ reply b, Exchanged core port (testModbusSlaveCallback vioLowlevelUpdate) smb slave v
          (MasterCall.write op).operation reply
          (servedResult op.function (op.kind.held.served op.addr.toNat op.num.toNat)) noData
          (v.written vioLowlevelUpdate b) ∧
        b.bank = v.board.bank.put op.addr.toNat (op.kind.held.served op.addr.toNat op.num.toNat) op.items
          op.kind := by
  obtain ⟨addr, ha⟩ := Int.eq_ofNat_of_zero_le haddr.1
  obtain ⟨num, hm⟩ := Int.eq_ofNat_of_zero_le hnum.1.le
  have hlt : addr < 65536 := by omega
  have hnum' : 0 < num ∧ num ≤ op.kind.maxWrite := by omega
  have haddr' : (toU16 (addr : Int)).toNat = addr := toNat_toU16_natCast hlt
  cases op with
  | bit a writeStatus =>
    obtain rfl : a = addr := ha
    have hs := sendable_writeBit .littleEndian (addr : Int) (if writeStatus ≠ 0 then 0xFF00 else 0x0)
    have hpdu := requestPdu_writeBit .littleEndian (addr : Int) writeStatus
    obtain ⟨rest, hcells⟩ := cells_writeSingle core smb
      (core.adopt slave (core.requestContext smb).transferId) slave .coil hs hpdu
    exact ⟨hs, write_board vioLowlevelUpdate core port smb slave v .coil hs hpdu haddr' (Or.inl ⟨rfl, rfl⟩)
      ⟨by decide, by decide⟩ (x := [0]) (by decide) hcells⟩
  | register a writeValue =>
    obtain rfl : a = addr := ha
    have hs := sendable_writeRegister .littleEndian (addr : Int) writeValue
    have hpdu := requestPdu_writeRegister (addr : Int) writeValue
    obtain ⟨rest, hcells⟩ := cells_writeSingle core smb
      (core.adopt slave (core.requestContext smb).transferId) slave .register hs hpdu
    have hx : Kind.register.conv ([highByte (toU16 writeValue).toNat, lowByte (toU16 writeValue).toNat].take
        (Kind.register.bytes 1)) = [lowByte writeValue, highByte writeValue] := by
      rw [highByte_toU16, lowByte_toU16]
      rfl
    rw [hx] at hcells
    exact ⟨hs, write_board vioLowlevelUpdate core port smb slave v .register hs hpdu haddr' (Or.inl ⟨rfl, rfl⟩)
      ⟨by decide, by decide⟩ (x := [lowByte writeValue, highByte writeValue]) le_rfl hcells⟩
  | bits a m writeData =>
    obtain rfl : a = addr := ha
    obtain rfl : m = num := hm
    exact ⟨sendable_writeMultiple .coil (addr : Int) hnum' hdata,
      writeMultiple_board vioLowlevelUpdate core port smb slave v .coil hlt hnum' hdata⟩
  | registers a m writeData =>
    obtain rfl : a = addr := ha
    obtain rfl : m = num := hm
    exact ⟨sendable_writeMultiple .register (addr : Int) hnum' hdata,
      writeMultiple_board vioLowlevelUpdate core port smb slave v .register hlt hnum' hdata⟩

/-- **A call of a master** can be sent, and whatever the slave and its board are, its reply is one with which the
master returns what the board serves. -/
theorem MasterCall.exchanged {call : MasterCall} (hcall : (PlantCall.master call).Admissible) :
    Sendable call.operation.function call.operation.addr call.operation.num call.operation.writeData ∧
      ∃ reply ret out v', Exchanged core port (testModbusSlaveCallback vioLowlevelUpdate) smb slave v call.operation
          reply ret out v' ∧
        PlantCall.serves vioLowlevelUpdate v (.master call) (ret, out.toList) v' := by
  cases call with
  | read op addr num n readData =>
    obtain ⟨haddr0, haddr, hnum0, hnum, hn⟩ := hcall
    obtain ⟨addr, rfl⟩ := Int.eq_ofNat_of_zero_le haddr0
    obtain ⟨num, rfl⟩ := Int.eq_ofNat_of_zero_le hnum0.le
    have hnum' : 0 < num ∧ num ≤ op.kind.maxRead := by omega
    obtain ⟨reply, out, hexchanged, hitems⟩ := read_board vioLowlevelUpdate core port smb slave v op hnum'
      (show addr < 65536 by omega) readData hn
    exact ⟨op.sendable (op.check_of_num hnum' addr), reply, _, out, v, hexchanged, rfl, rfl, hitems⟩
  | write op =>
    obtain ⟨haddr0, haddr, hnum0, hnum, hdata⟩ := hcall
    obtain ⟨hs, reply, b, hexchanged, hbank⟩ := writeOp_board vioLowlevelUpdate core port smb slave v op
      ⟨haddr0, haddr⟩ ⟨hnum0, hnum⟩ hdata
    exact ⟨hs, reply, _, noData, _, hexchanged, rfl, b, rfl, hbank⟩

end Operations

section Steps

variable {vioLowlevelUpdate : Vio η → Vio η} {core : Core} {smb : Smb (World (Vio η))} {w : World (Vio η)}
  (hj : Joined core (testModbusSlaveCallback vioLowlevelUpdate) smb w) {fuel : Nat}
  (hfuel : w.line.grants.length + 2 * modbusMaxAduLength + 1 < fuel)

include hj hfuel

theorem read_plant (op : ReadOp) {addr num : Nat} (hnum : 0 < num ∧ num ≤ op.kind.maxRead) (haddr : addr < 65536)
    (readData : Buffer UInt8 n) (hn : op.kind.bytes num ≤ n) :
    ∃ smb' w' out, op.run fuel smb w addr num readData =
        .ok (servedResult op.function (op.served addr num), smb', w', out) ∧
      Joined core (testModbusSlaveCallback vioLowlevelUpdate) smb' w' ∧ w'.app = w.app ∧
      (if 0 < op.served addr num ∧ op.kind.bytes (op.served addr num) = op.kind.bytes num then
        ∀ i < op.served addr num, op.kind.item out.toList i = w.app.board.bank.get op (addr + i)
      else out.toList = readData.toList) ∧
      w'.line.grants.length ≤ w.line.grants.length := by
  obtain ⟨reply, out, hexchanged, hitems⟩ := read_board vioLowlevelUpdate core
    (World.port (testModbusSlaveCallback vioLowlevelUpdate)) smb w.slave w.app op hnum haddr readData hn
  obtain ⟨smb', w', hrun, hj', happ, hgrants⟩ := hexchanged.joined (op.sendable (op.check_of_num hnum addr)) hj hfuel
  refine ⟨smb', w', out, ?_, hj', happ, hitems, hgrants⟩
  rw [op.run_eq]
  exact hrun

theorem writeMultiple_plant (k : Kind) {addr num : Nat} (haddr : addr < 65536)
    (hnum : 0 < num ∧ num ≤ k.maxWrite) {writeData : List UInt8} (hdata : k.bytes num ≤ writeData.length) :
    ∃ smb' w' b, masterOperation fuel smb w k.fcMultiple.toNat addr num writeData noData =
        .ok (servedResult k.fcMultiple (k.held.served addr num), smb', w', noData) ∧
      Joined core (testModbusSlaveCallback vioLowlevelUpdate) smb' w' ∧
      w'.app = w.app.written vioLowlevelUpdate b ∧
      b.bank = w.app.board.bank.put addr (k.held.served addr num) writeData k ∧
      w'.line.grants.length ≤ w.line.grants.length := by
  obtain ⟨reply, b, hexchanged, hbank⟩ := writeMultiple_board vioLowlevelUpdate core
    (World.port (testModbusSlaveCallback vioLowlevelUpdate)) smb w.slave w.app k haddr hnum hdata
  obtain ⟨smb', w', hrun, hj', happ, hgrants⟩ :=
    hexchanged.joined (sendable_writeMultiple k (addr : Int) hnum hdata) hj hfuel
  exact ⟨smb', w', b, hrun, hj', happ, hbank, hgrants⟩

end Steps

/-! ## §3 — runs. -/

section Runs

variable (vioLowlevelUpdate : Vio η → Vio η) (core : Core)

/-- One call is one step of the board. -/
theorem plantCall_simulation {fuel bound : Nat} (hfuel : bound + 2 * modbusMaxAduLength + 1 < fuel) :
    Simulation (PlantCall.step fuel) (fun s => s.2.app) (PlantCall.serves vioLowlevelUpdate) PlantCall.Admissible
      (fun s => Joined core (testModbusSlaveCallback vioLowlevelUpdate) s.1 s.2 ∧
        s.2.line.grants.length ≤ bound) where
  step := by
    rintro call ⟨smb, w⟩ hcall ⟨hj, hbound⟩
    have hfuel' : w.line.grants.length + 2 * modbusMaxAduLength + 1 < fuel := by
      have hbound' : w.line.grants.length ≤ bound := hbound
      omega
    cases call with
    | master call =>
      obtain ⟨hs, reply, ret, out, v', hexchanged, hserves⟩ := MasterCall.exchanged vioLowlevelUpdate core
        (World.port (testModbusSlaveCallback vioLowlevelUpdate)) smb w.slave w.app hcall
      obtain ⟨smb', w', hrun, hj', rfl, hgrants⟩ := hexchanged.joined hs hj hfuel'
      refine ⟨((ret, out.toList), (smb', w')), ?_, ⟨hj', hgrants.trans hbound⟩, hserves⟩
      show call.step fuel (smb, w) = _
      rw [call.step_eq, hrun]
      rfl
    | lowlevelUpdate op addr num buffer =>
      obtain ⟨b, hrun, hbank⟩ := w.app.board.lowlevelUpdate_eq op addr num hcall
      refine ⟨((_, []), (smb, { w with app := { w.app with board := b } })), ?_,
        ⟨⟨hj.master, hj.slave, hj.addr_eq, hj.line_rx, hj.wire_rx, hj.wire_tx⟩, hbound⟩, rfl, b, rfl, hbank⟩
      unfold PlantCall.step
      dsimp only
      rw [hrun]
      rfl

/-- **The shipped slave as a memory.** A master and the shipped slave on the same core with the same slave
address, joined by a channel that delivers in any fragmentation, the hardware bringing its tables up to date
in between: every sequence of calls runs to its end, and each of them is explained by the board alone. -/
theorem remote_board {smb : Smb (World (Vio η))} {w : World (Vio η)}
    (hj : Joined core (testModbusSlaveCallback vioLowlevelUpdate) smb w) {fuel : Nat}
    (hfuel : w.line.grants.length + 2 * modbusMaxAduLength + 1 < fuel) (calls : List PlantCall)
    (hcalls : ∀ call ∈ calls, call.Admissible) :
    ∃ trace, runAll (PlantCall.step fuel) calls (smb, w) = .ok trace ∧
      Explains (fun s => s.2.app) (PlantCall.serves vioLowlevelUpdate) w.app calls trace := by
  obtain ⟨trace, hrun, hexplains, -⟩ :=
    (plantCall_simulation vioLowlevelUpdate core hfuel).run calls (smb, w) hcalls ⟨hj, le_rfl⟩
  exact ⟨trace, hrun, hexplains⟩

end Runs

/-- The board at start-up. -/
def Board.zeroed : Board :=
  ⟨Buffer.replicate 8 0, Buffer.replicate 8 0, Buffer.replicate 32 0, Buffer.replicate 32 0⟩

/-- Inputs that change between two reads, a write over the end of the coils, a register written and read
back, a read outside the windows; the hook counts the notifications. -/
theorem remote_board_calls :
    ∃ trace, runAll (PlantCall.step 600)
        [.master (.read .inputBits 10000 8 1 (Buffer.replicate 1 0)), .lowlevelUpdate .inputBits 0 4 [0x0B],
          .master (.read .inputBits 10000 8 1 (Buffer.replicate 1 0)), .master (.write (.bits 62 5 [0x1F])),
          .master (.write (.register 40015 (-1))), .master (.read .registers 40014 2 4 (Buffer.replicate 4 0)),
          .master (.read .registers 0 2 4 (Buffer.replicate 4 0))]
        (newContext .rtu (World.port (testModbusSlaveCallback fun v : Vio Nat => { v with hardware := v.hardware + 1 })) 1,
          ⟨⟨[], [2, 0, 1], []⟩, newContext .rtu Wire.port 1, ⟨[], [0, 3], []⟩, ⟨Board.zeroed, 0⟩⟩) = .ok trace ∧
      Explains (fun s => s.2.app) (PlantCall.serves fun v : Vio Nat => { v with hardware := v.hardware + 1 })
        ⟨Board.zeroed, 0⟩
        [.master (.read .inputBits 10000 8 1 (Buffer.replicate 1 0)), .lowlevelUpdate .inputBits 0 4 [0x0B],
          .master (.read .inputBits 10000 8 1 (Buffer.replicate 1 0)), .master (.write (.bits 62 5 [0x1F])),
          .master (.write (.register 40015 (-1))), .master (.read .registers 40014 2 4 (Buffer.replicate 4 0)),
          .master (.read .registers 0 2 4 (Buffer.replicate 4 0))] trace :=
  remote_board _ .rtu ⟨newContext_ready .rtu _ 1, newContext_ready .rtu _ 1, rfl, rfl, rfl, rfl⟩
    (show 3 + 2 * 260 + 1 < 600 by decide) _ (by decide)

/-! ## §4 — the tables that are only read. -/

/-- The same input coils and input registers. -/
def Vio.SameInputs (v v' : Vio η) : Prop :=
  v'.board.inputCoils = v.board.inputCoils ∧ v'.board.inputRegs = v.board.inputRegs

section Inputs

variable {vioLowlevelUpdate : Vio η → Vio η} (hhook : ∀ v : Vio η, v.SameInputs (vioLowlevelUpdate v))

theorem readResult_app (v : Vio η) (data : List UInt8) (run : Exec (Int × List UInt8)) :
    (readResult v data run).2.2 = v := by
  unfold readResult
  split <;> rfl

include hhook

/-- A write changes the bank that it writes. -/
theorem writeResult_inputs (v : Vio η) (data : List UInt8) {run : Exec (Int × Nat × Buffer UInt8 n)}
    (set : Buffer UInt8 n → Board) (hset : ∀ bank, v.SameInputs { v with board := set bank }) :
    v.SameInputs (writeResult v data (do
      let (index, count, bank) ← run
      let v' := { v with board := set bank }
      return (index, if count ≠ 0 then vioLowlevelUpdate v' else v'))).2.2 := by
  cases run with
  | error e => exact ⟨rfl, rfl⟩
  | ok x =>
    obtain ⟨index, count, bank⟩ := x
    obtain ⟨hcoils, hregs⟩ := hset bank
    obtain ⟨hcoils', hregs'⟩ := hhook { v with board := set bank }
    show v.SameInputs (if count ≠ 0 then vioLowlevelUpdate { v with board := set bank } else { v with board := set bank })
    split_ifs
    · exact ⟨hcoils'.trans hcoils, hregs'.trans hregs⟩
    · exact ⟨hcoils, hregs⟩

/-- **No call** of the callback, whatever its arguments, changes the inputs. -/
theorem testModbusSlaveCall_inputs (v : Vio η) (functionCode addr num : Int) (data : List UInt8) :
    v.SameInputs (testModbusSlaveCall vioLowlevelUpdate v functionCode addr num data).2.2 := by
  have hsame : ∀ v' : Vio η, v' = v → v.SameInputs v' := by
    rintro v' rfl
    exact ⟨rfl, rfl⟩
  unfold testModbusSlaveCall
  split_ifs
  · exact hsame _ (readResult_app v data _)
  · exact hsame _ rfl
  · exact hsame _ (readResult_app v data _)
  · exact hsame _ rfl
  · exact hsame _ (readResult_app v data _)
  · exact hsame _ rfl
  · exact hsame _ (readResult_app v data _)
  · exact hsame _ rfl
  · exact writeResult_inputs hhook v data (fun bank => { v.board with holdCoils := bank }) fun _ => ⟨rfl, rfl⟩
  · exact hsame _ rfl
  · exact writeResult_inputs hhook v data (fun bank => { v.board with holdRegs := bank }) fun _ => ⟨rfl, rfl⟩
  · exact hsame _ rfl
  · exact hsame _ rfl

end Inputs

/-- **The inputs are read-only.** In every run of calls of the library that return, with the callback of the
shipped slaves and on any port, the input coils and the input registers stay as they are, when the notified
hardware leaves them. -/
theorem inputs_kept {σ : Type} {vioLowlevelUpdate : Vio η → Vio η}
    (hhook : ∀ v : Vio η, v.SameInputs (vioLowlevelUpdate v))
    {host : Host} {fuel : Nat} {calls : List (ApiCall σ)} {smb : Smb σ} {w : σ} {v : Vio η}
    {trace : List (Int × (Smb σ × σ × Vio η))}
    (hrun : runAll (ApiCall.step host (some (testModbusSlaveCallback vioLowlevelUpdate)) fuel) calls (smb, w, v) =
      .ok trace) : ∀ x ∈ trace, v.SameInputs x.2.2.2 := by
  refine apps_kept host (some (testModbusSlaveCallback vioLowlevelUpdate)) fuel hrun ?_ ⟨rfl, rfl⟩
  intro _ hcb app f addr num data ⟨hcoils, hregs⟩
  obtain rfl := Option.some.inj hcb
  obtain ⟨hcoils', hregs'⟩ := testModbusSlaveCall_inputs hhook app f addr num data
  exact ⟨hcoils'.trans hcoils, hregs'.trans hregs⟩

/-- A register of the board is written, and coils at the address of the inputs are not. -/
theorem inputs_kept_written :
    ∃ trace, runAll (ApiCall.step .littleEndian
        (some (testModbusSlaveCallback fun v : Vio Nat => { v with hardware := v.hardware + 1 })) 600)
        [.slaveWaitHandle (-1), .slaveWaitHandle (-1)]
        (newContext .rtu Wire.port 1, ⟨[1, 6, 156, 64, 18, 52, 171, 57, 1, 15, 39, 16, 0, 8, 1, 255, 121, 193], [], []⟩,
          ⟨Board.zeroed, 0⟩) = .ok trace ∧
      (∀ x ∈ trace, Vio.SameInputs ⟨Board.zeroed, 0⟩ x.2.2.2) := by
  obtain ⟨trace, hrun, -⟩ := map_eq_ok.mp (show (runAll (ApiCall.step .littleEndian
      (some (testModbusSlaveCallback fun v : Vio Nat => { v with hardware := v.hardware + 1 })) 600)
    [.slaveWaitHandle (-1), .slaveWaitHandle (-1)]
    (newContext .rtu Wire.port 1, ⟨[1, 6, 156, 64, 18, 52, 171, 57, 1, 15, 39, 16, 0, 8, 1, 255, 121, 193], [], []⟩,
      ⟨Board.zeroed, 0⟩)).map (fun trace => trace.map fun x => (x.1, x.2.2.2.hardware)) =
      .ok [(8, 1), (5, 1)] by decide +kernel)
  have hhook : ∀ v : Vio Nat, v.SameInputs { v with hardware := v.hardware + 1 } := fun _ => ⟨rfl, rfl⟩
  exact ⟨trace, hrun, inputs_kept hhook hrun⟩

end SmallModbus
