/-
# `SmallModbus.Remote` — the bank of the slave as a memory of the master.

A slave whose callback is backed by a bank is, to the joined master, this bank: `remote_bank` says that any
sequence of reads and writes inside the limits of the protocol returns OK, reads what the bank holds and
writes what the caller gave. The write of a single coil is not among them: `write_bit_iff` says that it
clears the coil whatever the status.
-/
import SmallModbus.Lib.Refine
import SmallModbus.Bank
import SmallModbus.System

namespace SmallModbus

open SmallModbus.Lib

variable {σ κ : Type} {n : Nat}

/-! ## §1 — what the callback of a bank-backed slave is handed. -/

/-- The items behind a position of the PDU in the buffer, in host order. -/
theorem hostCells_adu (k : Kind) {core : Core} (tid : UInt16) (a : UInt8) (old : Buffer UInt8 n)
    {l x : List UInt8} (hlen : (core.adu tid a (l ++ x)).length ≤ n) {num : Nat}
    (hx : k.bytes num ≤ x.length) :
    ∃ rest, Query.hostCells k (old.fill (core.adu tid a (l ++ x))) (core.lenHeader + l.length) num =
      k.conv (x.take (k.bytes num)) ++ rest := by
  have htake := congrArg (List.take (k.bytes num)) (take_tailFrom_adu old hlen rfl)
  rw [List.take_take, Nat.min_eq_left hx] at htake
  exact ⟨_, congrArg (fun x => k.conv x ++ _) htake⟩

/-- A multiple write inside the limits can be sent. -/
theorem sendable_writeMultiple (k : Kind) (addr : Int) {num : Nat} (hnum : 0 < num ∧ num ≤ k.maxWrite)
    {writeData : List UInt8} (hdata : k.bytes num ≤ writeData.length) :
    Sendable k.fcMultiple.toNat addr num writeData := by
  have hlimit := k.maxWrite_le
  have hserv := serviceOf_fcMultiple k
  refine ⟨by cases k <;> decide, ?_, fun _ => by omega, ?_⟩
  · rw [toU8_toNat, checkAddrNum_writeMultiple hserv, toNat_toU16_natCast (by omega)]
    exact hnum
  · cases k with
    | coil => exact hdata
    | register => exact hdata

/-- The PDU of a multiple write. -/
theorem requestPdu_writeMultiple (k : Kind) (addr : Int) (num : Nat) (writeData : List UInt8) :
    requestPdu k.fcMultiple.toNat addr num writeData =
      (⟨k.fcMultiple, toU16 addr, toU16 num⟩ : Query).echoReply ++
        ([toU8 (k.bytes num)] ++ k.conv (writeData.take (k.bytes num))) := by
  unfold Query.echoReply
  simp only [highByte_toU16, lowByte_toU16]
  cases k <;> rfl

section Steps

variable {core : Core} {cb : SlaveCallback κ} {smb : Smb (World κ)} {w : World κ}
  (hj : Joined core cb smb w) {fuel : Nat} (hfuel : w.line.grants.length + 2 * modbusMaxAduLength + 1 < fuel)

include hj hfuel

/-! ## §2 — one operation on the joined master. -/

/-- A write of which the callback returns the number of its items. -/
theorem write_exchange (k : Kind) {function addr num : Int} {writeData : List UInt8}
    (hs : Sendable function addr num writeData) {q : Query} {tail : List UInt8}
    (hpdu : requestPdu function addr num writeData = q.echoReply ++ tail) {items : Nat}
    (hserv : serviceOf q.function = .writeSingle k ∧ items = 1 ∨
      serviceOf q.function = .writeMultiple k ∧ items = q.num.toNat)
    (hitems : 0 < items ∧ items ≤ k.maxWrite) {request cells : List UInt8}
    (hrequest : request = requestFrame core smb function addr num writeData)
    (hcells : q.cells core (core.adopt w.slave (core.requestContext smb).transferId)
      (w.slave.readBuff.fill request) = cells)
    (hret : (cb.call w.app q.function.toNat q.address.toNat items cells).1 = items) :
    ∃ smb' w', masterOperation fuel smb w function addr num writeData noData =
        .ok (modbusOk, smb', w', noData) ∧ Joined core cb smb' w' ∧
      w'.app = (cb.call w.app q.function.toNat q.address.toNat items cells).2.2 ∧
      w'.line.tx = w.line.tx ++ [request] ∧ w'.line.grants.length ≤ w.line.grants.length := by
  have hmax := k.maxWrite_le
  obtain ⟨⟨r, left, app'⟩, hcall⟩ : ∃ x, cb.call w.app q.function.toNat q.address.toNat items cells = x :=
    ⟨_, rfl⟩
  rw [hcall] at hret ⊢
  obtain rfl : r = items := hret
  -- the range check of the quantity has passed, so the callback is called
  have hqcall : q.call core (core.adopt w.slave (core.requestContext smb).transferId)
      (w.slave.readBuff.fill request) (some cb) w.app = ((items : Int), left, app') := by
    unfold Query.call
    rw [hcells]
    unfold Query.items
    rcases hserv with ⟨hserv', rfl⟩ | ⟨hserv', rfl⟩
    · rw [hserv']
      exact hcall
    · rw [hserv']
      dsimp only
      rw [if_pos hitems]
      exact hcall
  have hfits : q.Fits (items : Int) := Query.fits_of_lt (by omega)
  have hreplyPdu : q.reply smb.slaveAddr items left = q.echoReply := by
    unfold Query.reply
    rcases hserv with ⟨hserv', rfl⟩ | ⟨hserv', hnum⟩
    · rw [hserv']
      exact if_pos rfl
    · rw [hserv']
      dsimp only
      rw [if_pos (hnum ▸ hitems), if_pos (by rw [toNat_toU16_natCast (by omega)]; omega)]
  have hconfirm : ∀ smb₁ requestLen, Ready smb₁ core (World.port cb) →
      modbusHandleConfirm smb₁ (smb.writeBuff.fill request) requestLen
        (smb.readBuff.fill (core.adu (core.requestContext smb).transferId smb.slaveAddr
          (q.reply smb.slaveAddr items left)))
        (toU16 ((core.adu (core.requestContext smb).transferId smb.slaveAddr
          (q.reply smb.slaveAddr items left)).length : Nat)) noData = .ok (modbusOk, noData) := by
    intro smb₁ requestLen h₁
    have hin : q.In core (smb.writeBuff.fill request) :=
      Query.in_adu smb.writeBuff (by rw [hrequest, requestFrame, hpdu])
        (hrequest ▸ hs.length_adu_le core _ _)
    rw [hreplyPdu]
    exact modbusHandleConfirm_write h₁ _ hin
      (hserv.imp (fun h => ⟨k, h.1⟩) (fun h => ⟨k, h.1⟩)) rfl le_rfl requestLen noData
  obtain ⟨smb', w', hrun, hj', happ, htx, hgrants⟩ := exchange hj hs hpdu hrequest hqcall hfits rfl hconfirm hfuel
  exact ⟨smb', w', hrun, hj', happ, htx, hgrants⟩

/-- **A single write** hands the callback the item whose bytes are in the request. -/
theorem writeSingle_exchange (k : Kind) {addr : Nat} (haddr : addr < 65536) {v : UInt16}
    {writeData : List UInt8} (hs : Sendable k.fcSingle.toNat addr 1 writeData)
    (hpdu : requestPdu k.fcSingle.toNat addr 1 writeData =
      (⟨k.fcSingle, toU16 addr, v⟩ : Query).echoReply ++ [])
    (hret : ∀ rest, (cb.call w.app k.fcSingle.toNat addr 1
      (k.conv ([highByte v.toNat, lowByte v.toNat].take (k.bytes 1)) ++ rest)).1 = 1) :
    ∃ smb' w' rest, masterOperation fuel smb w k.fcSingle.toNat addr 1 writeData noData =
        .ok (modbusOk, smb', w', noData) ∧ Joined core cb smb' w' ∧
      w'.app = (cb.call w.app k.fcSingle.toNat addr 1
        (k.conv ([highByte v.toNat, lowByte v.toNat].take (k.bytes 1)) ++ rest)).2.2 ∧
      w'.line.tx = w.line.tx ++ [requestFrame core smb k.fcSingle.toNat addr 1 writeData] ∧
      w'.line.grants.length ≤ w.line.grants.length := by
  have hone := k.bytes_one_le
  have hserv := serviceOf_fcSingle k
  have hqaddr : (⟨k.fcSingle, toU16 addr, v⟩ : Query).address.toNat = addr := toNat_toU16_natCast haddr
  have hlen := hs.length_adu_le core (core.requestContext smb).transferId smb.slaveAddr
  rw [hpdu] at hlen
  obtain ⟨rest, hrest⟩ := hostCells_adu k (core.requestContext smb).transferId smb.slaveAddr w.slave.readBuff
    (l := [k.fcSingle, highByte (toU16 addr).toNat, lowByte (toU16 addr).toNat])
    (x := [highByte v.toNat, lowByte v.toNat]) hlen hone
  -- the value follows function code and address
  have hcells : (⟨k.fcSingle, toU16 addr, v⟩ : Query).cells core
      (core.adopt w.slave (core.requestContext smb).transferId)
      (w.slave.readBuff.fill (requestFrame core smb k.fcSingle.toNat addr 1 writeData)) =
        k.conv ([highByte v.toNat, lowByte v.toNat].take (k.bytes 1)) ++ rest := by
    rw [requestFrame, hpdu]
    unfold Query.cells
    rw [hserv]
    exact hrest
  obtain ⟨smb', w', hrun, hj', happ, htx, hgrants⟩ := write_exchange hj hfuel k hs hpdu (Or.inl ⟨hserv, rfl⟩)
    ⟨Nat.one_pos, k.one_le_maxWrite⟩ rfl hcells (by rw [hqaddr]; exact hret rest)
  rw [hqaddr] at happ
  exact ⟨smb', w', rest, hrun, hj', happ, htx, hgrants⟩

variable {bankOf : κ → Bank} (hcb : BankBacked cb bankOf)

include hcb

/-! ## §3 — one operation on a bank-backed slave. -/

/-- **A read** returns OK and the items of the bank, and leaves the bank as it is. -/
theorem read_step (op : ReadOp) {addr num : Nat} (hnum : 0 < num ∧ num ≤ op.kind.maxRead)
    (haddr : addr + num ≤ 65536) (readData : Buffer UInt8 n) (hn : op.kind.bytes num ≤ n) :
    ∃ smb' w' out, op.run fuel smb w addr num readData = .ok (modbusOk, smb', w', out) ∧
      Joined core cb smb' w' ∧ bankOf w'.app = bankOf w.app ∧
      (∀ i < num, op.kind.item out.toList i = (bankOf w.app).get op (addr + i)) ∧
      w'.line.grants.length ≤ w.line.grants.length := by
  have hmax : modbusMaxAduLength = 260 := rfl
  have hh := core.lenHeader_le
  have hlimit := op.kind.maxRead_le
  have hbytes : op.kind.bytes num ≤ 250 := op.kind.bytes_maxRead ▸ op.kind.bytes_mono hnum.2
  obtain ⟨q, hq⟩ : ∃ q : Query, q = ⟨op.function, toU16 addr, toU16 num⟩ := ⟨_, rfl⟩
  have hqf : q.function = op.function := by rw [hq]
  have hread : serviceOf q.function = .read op.kind := by rw [hqf, op.serviceOf_function]
  have hqaddr : q.address.toNat = addr := by rw [hq, toNat_toU16_natCast (by omega)]
  have hqnum : q.num.toNat = num := by rw [hq, toNat_toU16_natCast (by omega)]
  have hqnum' : 0 < q.num.toNat ∧ q.num.toNat ≤ op.kind.maxRead := by rwa [hqnum]
  -- the callback moves the items into the reply buffer behind the byte count
  obtain ⟨slave, hslave⟩ : ∃ slave, slave = core.adopt w.slave (core.requestContext smb).transferId := ⟨_, rfl⟩
  obtain ⟨cells, hcells⟩ : ∃ cells, cells = slave.writeBuff.toList.drop (core.lenHeader + 2) := ⟨_, rfl⟩
  have hlen : op.kind.bytes num ≤ cells.length := by
    rw [hcells, List.length_drop, Buffer.length_toList]
    omega
  obtain ⟨⟨r, data, app'⟩, hcall⟩ : ∃ x, cb.call w.app op.function.toNat addr num cells = x := ⟨_, rfl⟩
  have hmoved := hcb.read op w.app addr num cells hnum.1 hnum.2 haddr hlen
  rw [hcall] at hmoved
  obtain ⟨rfl, hbank, hitems⟩ := hmoved
  have hdata : data.length = cells.length := by
    rw [← cb.size_eq w.app op.function.toNat addr num cells, hcall]
  obtain ⟨request, hrequest⟩ : ∃ request, request = requestFrame core smb op.function.toNat addr num [] := ⟨_, rfl⟩
  have hqcall : q.call core slave (w.slave.readBuff.fill request) (some cb) w.app =
      ((num : Int), data, app') := by
    unfold Query.call Query.items Query.cells
    rw [hread]
    dsimp only
    rw [if_pos hqnum', ← hcells, hqf, hqaddr, hqnum]
    exact hcall
  have hfits : q.Fits (num : Int) := Query.fits_of_lt (by omega)
  -- the reply carries them
  have hreplyPdu : q.reply smb.slaveAddr num data = op.function :: toU8 (op.kind.bytes num) ::
      op.kind.conv (data.take (op.kind.bytes num)) := by
    unfold Query.reply
    rw [hread]
    dsimp only
    rw [if_pos hqnum', if_pos (by rw [toNat_toU16_natCast (by omega)]; omega), hqf, Int.toNat_natCast]
  have htaken : (op.kind.conv (data.take (op.kind.bytes num))).length = op.kind.bytes num := by
    rw [Kind.length_conv, List.length_take_of_le (by omega)]
  obtain ⟨reply, hreply⟩ : ∃ reply, reply =
      core.adu (core.requestContext smb).transferId smb.slaveAddr (q.reply smb.slaveAddr num data) := ⟨_, rfl⟩
  have hreplyLen : reply.length ≤ modbusMaxAduLength := hreply ▸ length_replyAdu_le hfits core _ _ data
  -- and the master copies them out of it
  have hconfirm : ∀ smb₁ requestLen, Ready smb₁ core (World.port cb) →
      modbusHandleConfirm smb₁ (smb.writeBuff.fill request) requestLen (smb.readBuff.fill reply)
        (toU16 (reply.length : Nat)) readData =
          .ok (modbusOk, readData.fill (data.take (op.kind.bytes num))) := by
    intro smb₁ requestLen h₁
    have hin : q.In core (smb.writeBuff.fill request) := by
      rw [hq, hrequest]
      exact op.query_in (op.check_of_num hnum addr) smb _
    rw [hreplyPdu] at hreply
    rw [hreply] at hreplyLen ⊢
    rw [← hqf] at hreplyLen ⊢
    refine (modbusHandleConfirm_read h₁ _ hin hread hqnum' ?_ hreplyLen le_rfl requestLen readData).mpr ⟨rfl, ?_⟩
    · rw [htaken, toNat_toU8_of_lt (by omega)]
    · rw [hqnum, if_pos htaken, Kind.conv_conv]
      exact ⟨hn, rfl⟩
  obtain ⟨smb', w', hrun, hj', happ, -, hgrants⟩ := exchange hj (op.sendable (op.check_of_num hnum addr))
    (by rw [op.requestPdu_eq, ← hq]) hrequest (hslave ▸ hqcall) hfits hreply hconfirm hfuel
  refine ⟨smb', w', _, by rw [op.run_eq]; exact hrun, hj', by rw [happ, hbank], fun i hi => ?_, hgrants⟩
  have hle : (data.take (op.kind.bytes num)).length = op.kind.bytes num := List.length_take_of_le (by omega)
  rw [Buffer.toList_fill _ (by omega), op.kind.item_append hi hle.ge, op.kind.item_take hi (by omega)]
  exact hitems i hi

/-- **A single write** puts its item. -/
theorem writeSingle_step (k : Kind) {addr : Nat} (haddr : addr < 65536) {v : UInt16} {writeData : List UInt8}
    (hs : Sendable k.fcSingle.toNat addr 1 writeData)
    (hpdu : requestPdu k.fcSingle.toNat addr 1 writeData =
      (⟨k.fcSingle, toU16 addr, v⟩ : Query).echoReply ++ []) :
    ∃ smb' w', masterOperation fuel smb w k.fcSingle.toNat addr 1 writeData noData =
        .ok (modbusOk, smb', w', noData) ∧ Joined core cb smb' w' ∧
      bankOf w'.app =
        (bankOf w.app).put addr 1 (k.conv ([highByte v.toNat, lowByte v.toNat].take (k.bytes 1))) k ∧
      w'.line.grants.length ≤ w.line.grants.length := by
  have hone : k.bytes 1 ≤ (k.conv ([highByte v.toNat, lowByte v.toNat].take (k.bytes 1))).length := by
    cases k <;> exact le_rfl
  have hmoved := fun rest => hcb.write k k.fcSingle w.app addr 1
    (k.conv ([highByte v.toNat, lowByte v.toNat].take (k.bytes 1)) ++ rest) (Or.inl ⟨rfl, rfl⟩) Nat.one_pos
    k.one_le_maxWrite (by omega) (by rw [List.length_append]; omega)
  obtain ⟨smb', w', rest, hrun, hj', happ, -, hgrants⟩ := writeSingle_exchange hj hfuel k haddr hs hpdu
    (fun rest => (hmoved rest).1)
  refine ⟨smb', w', hrun, hj', ?_, hgrants⟩
  rw [happ]
  exact (hmoved rest).2.trans (Bank.put_congr _ k (fun i hi => k.item_append hi hone rest) addr)

/-- **A multiple write** puts the items of the caller's object. -/
theorem writeMultiple_step (k : Kind) {addr num : Nat} (hnum : 0 < num ∧ num ≤ k.maxWrite)
    (haddr : addr + num ≤ 65536) {writeData : List UInt8} (hdata : k.bytes num ≤ writeData.length) :
    ∃ smb' w', masterOperation fuel smb w k.fcMultiple.toNat addr num writeData noData =
        .ok (modbusOk, smb', w', noData) ∧ Joined core cb smb' w' ∧
      bankOf w'.app = (bankOf w.app).put addr num writeData k ∧
      w'.line.grants.length ≤ w.line.grants.length := by
  have hlimit := k.maxWrite_le
  have hs := sendable_writeMultiple k (addr : Int) hnum hdata
  have hpdu := requestPdu_writeMultiple k (addr : Int) num writeData
  have hserv := serviceOf_fcMultiple k
  have hwire : k.bytes num ≤ (k.conv (writeData.take (k.bytes num))).length := by
    rw [Kind.length_conv, List.length_take_of_le hdata]
  obtain ⟨rest, hrest⟩ := hostCells_adu k (core.requestContext smb).transferId smb.slaveAddr w.slave.readBuff
    (l := (⟨k.fcMultiple, toU16 addr, toU16 num⟩ : Query).echoReply ++ [toU8 (k.bytes num)])
    (x := k.conv (writeData.take (k.bytes num)))
    (by
      have h := hs.length_adu_le core (core.requestContext smb).transferId smb.slaveAddr
      rw [hpdu] at h
      rwa [List.append_assoc]) hwire
  have hdataTaken : k.conv ((k.conv (writeData.take (k.bytes num))).take (k.bytes num)) =
      writeData.take (k.bytes num) := by
    rw [Kind.take_conv, Kind.conv_conv, List.take_take, Nat.min_self]
  rw [List.append_assoc, hdataTaken] at hrest
  have hqnum : (⟨k.fcMultiple, toU16 addr, toU16 num⟩ : Query).num.toNat = num :=
    toNat_toU16_natCast (by omega)
  have hqaddr : (⟨k.fcMultiple, toU16 addr, toU16 num⟩ : Query).address.toNat = addr :=
    toNat_toU16_natCast (by omega)
  -- the data follow the byte count
  have hcells : (⟨k.fcMultiple, toU16 addr, toU16 num⟩ : Query).cells core
      (core.adopt w.slave (core.requestContext smb).transferId)
      (w.slave.readBuff.fill (requestFrame core smb k.fcMultiple.toNat addr num writeData)) =
        writeData.take (k.bytes num) ++ rest := by
    rw [requestFrame, hpdu]
    unfold Query.cells
    rw [hserv]
    dsimp only
    rw [hqnum]
    exact hrest
  obtain ⟨hret, hput⟩ := hcb.write k k.fcMultiple w.app addr num (writeData.take (k.bytes num) ++ rest)
    (Or.inr rfl) hnum.1 hnum.2 haddr (by rw [List.length_append, List.length_take_of_le hdata]; omega)
  obtain ⟨smb', w', hrun, hj', happ, -, hgrants⟩ := write_exchange hj hfuel k hs hpdu
    (Or.inr ⟨hserv, hqnum.symm⟩) hnum rfl hcells (by rw [hqaddr]; exact hret)
  rw [hqaddr] at happ
  refine ⟨smb', w', hrun, hj', ?_, hgrants⟩
  rw [happ, hput]
  refine Bank.put_congr _ k (fun i hi => ?_) addr
  rw [k.item_append hi (by rw [List.length_take_of_le hdata]), k.item_take hi hdata]

end Steps

/-! ## §4 — runs of operations. -/

/-- One item written. -/
theorem Bank.overlay_one (k : Kind) (table : Nat → k.Item) (addr : Nat) (data : List UInt8) :
    Bank.overlay k table addr 1 data = fun a => if a = addr then k.item data 0 else table a := by
  funext a
  unfold Bank.overlay
  by_cases ha : a = addr
  · subst ha
    rw [if_pos (by omega), if_pos rfl, Nat.sub_self]
  · rw [if_neg (by omega), if_neg ha]

/-- The word of the two bytes of a value. -/
theorem wordAt_value (v : UInt16) : wordAt [lowByte v.toNat, highByte v.toNat] 0 = v := by
  have hv := v.toNat_lt
  have hhi := toNat_highByte (x := v.toNat) (by omega) (by omega)
  have hlo := toNat_lowByte (v.toNat : Int)
  rw [← UInt16.toNat_inj]
  show (UInt16.ofNat ((lowByte v.toNat).toNat + 256 * (highByte v.toNat).toNat)).toNat = v.toNat
  rw [UInt16.toNat_ofNat']
  omega

/-- The bank after a write of the master, written to directly. -/
def WriteOp.apply (b : Bank) : WriteOp → Bank
  | .bit addr writeStatus =>
      { b with coils := fun a => if a = addr.toNat then decide (writeStatus ≠ 0) else b.coils a }
  | .register addr writeValue =>
      { b with holding := fun a => if a = addr.toNat then toU16 writeValue else b.holding a }
  | .bits addr num writeData => b.put addr.toNat num.toNat writeData .coil
  | .registers addr num writeData => b.put addr.toNat num.toNat writeData .register

/-- An operation of the master with its arguments. -/
inductive MasterCall
  | read (op : ReadOp) (addr num : Int) (n : Nat) (readData : Buffer UInt8 n)
  | write (op : WriteOp)

namespace MasterCall

/-- The operation on a little-endian host: its result and the caller's object after it. -/
def step (fuel : Nat) : MasterCall → Smb (World κ) × World κ →
    Exec ((Int × List UInt8) × (Smb (World κ) × World κ))
  | .read op addr num _ readData, (smb, w) => do
      let (ret, smb, w, out) ← op.run fuel smb w addr num readData
      return ((ret, out.toList), (smb, w))
  | .write op, (smb, w) => do
      let (ret, smb, w, out) ← op.run .littleEndian fuel smb w
      return ((ret, out.toList), (smb, w))

/-- The same operation on the bank itself: it returns OK, and the items read are those of the bank. -/
def serves (b : Bank) : MasterCall → Int × List UInt8 → Bank → Prop
  | .read op addr num _ _, result, b' =>
      result.1 = modbusOk ∧ b' = b ∧
        ∀ i < num.toNat, op.kind.item result.2 i = b.get op (addr.toNat + i)
  | .write op, result, b' => result.1 = modbusOk ∧ b' = op.apply b

/-- The quantity is inside the limits of the protocol, the items are inside the address space and the
caller's object holds them. The write of a single coil is left out. -/
def Admissible : MasterCall → Prop
  | .read op addr num n _ =>
      0 ≤ addr ∧ 0 < num ∧ num ≤ op.kind.maxRead ∧ addr + num ≤ 65536 ∧ op.kind.bytes num.toNat ≤ n
  | .write (.bit _ _) => False
  | .write (.register addr _) => 0 ≤ addr ∧ addr + 1 ≤ 65536
  | .write (.bits addr num writeData) =>
      0 ≤ addr ∧ 0 < num ∧ num ≤ modbusMaxWriteBits ∧ addr + num ≤ 65536 ∧
        byteCount num.toNat ≤ writeData.length
  | .write (.registers addr num writeData) =>
      0 ≤ addr ∧ 0 < num ∧ num ≤ modbusMaxWriteRegisters ∧ addr + num ≤ 65536 ∧
        2 * num.toNat ≤ writeData.length

instance : DecidablePred Admissible
  | .read _ _ _ _ _ => inferInstanceAs (Decidable (_ ∧ _))
  | .write (.bit _ _) => inferInstanceAs (Decidable False)
  | .write (.register _ _) => inferInstanceAs (Decidable (_ ∧ _))
  | .write (.bits _ _ _) => inferInstanceAs (Decidable (_ ∧ _))
  | .write (.registers _ _ _) => inferInstanceAs (Decidable (_ ∧ _))

end MasterCall

section SingleWrites

theorem sendable_writeRegister (host : Host) (addr writeValue : Int) :
    Sendable Kind.register.fcSingle.toNat addr 1 (intObject host writeValue) := by
  refine ⟨by decide, rfl, ?_, ?_⟩
  · rintro (hf | hf) <;> exact absurd hf (by decide)
  · cases host <;> exact (by decide : 2 ≤ 4)

/-- The PDU of the write of a register on a little-endian host carries the low 16 bits of the value. -/
theorem requestPdu_writeRegister (addr writeValue : Int) :
    requestPdu Kind.register.fcSingle.toNat addr 1 (intObject .littleEndian writeValue) =
      (⟨6, toU16 addr, toU16 writeValue⟩ : Query).echoReply ++ [] := by
  have hlow : lowByte writeValue = toU8 writeValue := by
    have h1 := toNat_lowByte writeValue
    have h2 := toNat_toU8 writeValue
    rw [← UInt8.toNat_inj]
    omega
  unfold Query.echoReply
  simp only [highByte_toU16, lowByte_toU16]
  rw [hlow]
  rfl

theorem sendable_writeBit (host : Host) (addr : Int) (x : Int) :
    Sendable Kind.coil.fcSingle.toNat addr 1 (intObject host x) := by
  refine ⟨by decide, rfl, ?_, ?_⟩
  · rintro (hf | hf) <;> exact absurd hf (by decide)
  · cases host <;> exact (by decide : 1 ≤ 4)

/-- The PDU of the write of a coil carries 0: in both byte orders the first byte of the object
`int status` is 0. -/
theorem requestPdu_writeBit (host : Host) (addr writeStatus : Int) :
    requestPdu Kind.coil.fcSingle.toNat addr 1 ((WriteOp.bit addr writeStatus).data host) =
      (⟨5, toU16 addr, 0⟩ : Query).echoReply ++ [] := by
  have hfirst : ((WriteOp.bit addr writeStatus).data host).headD 0 = 0 := by
    unfold WriteOp.data
    dsimp only
    split_ifs <;> cases host <;> rfl
  unfold Query.echoReply requestPdu
  simp only [highByte_toU16, lowByte_toU16]
  show [_, _, _] ++ [if ((WriteOp.bit addr writeStatus).data host).headD 0 ≠ 0 then 0xFF else 0x00, 0x00] = _
  rw [hfirst]
  rfl

end SingleWrites

section Remote

variable {core : Core} {cb : SlaveCallback κ} {bankOf : κ → Bank} (hcb : BankBacked cb bankOf)

include hcb

/-- One admissible operation is one operation on the bank. -/
theorem masterCall_simulation (core : Core) {fuel bound : Nat}
    (hfuel : bound + 2 * modbusMaxAduLength + 1 < fuel) :
    Simulation (MasterCall.step fuel) (fun s => bankOf s.2.app) MasterCall.serves MasterCall.Admissible
      (fun s => Joined core cb s.1 s.2 ∧ s.2.line.grants.length ≤ bound) where
  step := by
    rintro call ⟨smb, w⟩ hcall ⟨hj, hbound⟩
    have hfuel' : w.line.grants.length + 2 * modbusMaxAduLength + 1 < fuel := by
      have hbound' : w.line.grants.length ≤ bound := hbound
      omega
    cases call with
    | read op addr num n readData =>
      obtain ⟨haddr0, hnum0, hnum, haddr, hn⟩ := hcall
      obtain ⟨addr, rfl⟩ := Int.eq_ofNat_of_zero_le haddr0
      obtain ⟨num, rfl⟩ := Int.eq_ofNat_of_zero_le hnum0.le
      obtain ⟨smb', w', out, hrun, hj', hbank, hitems, hgrants⟩ :=
        read_step hj hfuel' hcb op (show 0 < num ∧ num ≤ op.kind.maxRead by omega)
          (show addr + num ≤ 65536 by omega) readData hn
      refine ⟨((modbusOk, out.toList), (smb', w')), ?_, ⟨hj', hgrants.trans hbound⟩, rfl, hbank, hitems⟩
      unfold MasterCall.step
      dsimp only
      rw [hrun]
      rfl
    | write op =>
      -- whichever write it is, it is enough that it runs like this
      suffices hwrite : ∃ smb' w', op.run .littleEndian fuel smb w = .ok (modbusOk, smb', w', noData) ∧
          Joined core cb smb' w' ∧ bankOf w'.app = op.apply (bankOf w.app) ∧
          w'.line.grants.length ≤ w.line.grants.length by
        obtain ⟨smb', w', hrun, hj', hbank, hgrants⟩ := hwrite
        refine ⟨((modbusOk, noData.toList), (smb', w')), ?_, ⟨hj', hgrants.trans hbound⟩, rfl, hbank⟩
        unfold MasterCall.step
        dsimp only
        rw [hrun]
        rfl
      cases op with
      | bit addr writeStatus => exact hcall.elim
      | register addr writeValue =>
        obtain ⟨haddr0, haddr⟩ := hcall
        obtain ⟨addr, rfl⟩ := Int.eq_ofNat_of_zero_le haddr0
        obtain ⟨smb', w', hrun, hj', hbank, hgrants⟩ := writeSingle_step hj hfuel' hcb .register
          (show addr < 65536 by omega) (sendable_writeRegister .littleEndian addr writeValue)
          (requestPdu_writeRegister addr writeValue)
        refine ⟨smb', w', hrun, hj', ?_, hgrants⟩
        have hoverlay := Bank.overlay_one .register (bankOf w.app).holding addr
          [lowByte (toU16 writeValue).toNat, highByte (toU16 writeValue).toNat]
        have hword : Kind.register.item [lowByte (toU16 writeValue).toNat, highByte (toU16 writeValue).toNat] 0 =
            toU16 writeValue := wordAt_value _
        rw [hword] at hoverlay
        rw [hbank]
        exact congrArg (fun table => { bankOf w.app with holding := table }) hoverlay
      | bits addr num writeData =>
        obtain ⟨haddr0, hnum0, hnum, haddr, hdata⟩ := hcall
        obtain ⟨addr, rfl⟩ := Int.eq_ofNat_of_zero_le haddr0
        obtain ⟨num, rfl⟩ := Int.eq_ofNat_of_zero_le hnum0.le
        exact writeMultiple_step hj hfuel' hcb .coil
          (show 0 < num ∧ num ≤ modbusMaxWriteBits by omega) (show addr + num ≤ 65536 by omega) hdata
      | registers addr num writeData =>
        obtain ⟨haddr0, hnum0, hnum, haddr, hdata⟩ := hcall
        obtain ⟨addr, rfl⟩ := Int.eq_ofNat_of_zero_le haddr0
        obtain ⟨num, rfl⟩ := Int.eq_ofNat_of_zero_le hnum0.le
        exact writeMultiple_step hj hfuel' hcb .register
          (show 0 < num ∧ num ≤ modbusMaxWriteRegisters by omega) (show addr + num ≤ 65536 by omega) hdata

/-- **Remote memory.** A master and a slave on the same core with the same slave address, joined by a
channel that delivers in any fragmentation, the slave's callback backed by a bank: every sequence of
admissible operations runs to its end, each returns OK, each read gives what the bank holds then, and after
each write the bank is as if it had been written to directly. -/
theorem remote_bank {smb : Smb (World κ)} {w : World κ} (hj : Joined core cb smb w) {fuel : Nat}
    (hfuel : w.line.grants.length + 2 * modbusMaxAduLength + 1 < fuel) (calls : List MasterCall)
    (hcalls : ∀ call ∈ calls, call.Admissible) :
    ∃ trace, runAll (MasterCall.step fuel) calls (smb, w) = .ok trace ∧
      Explains (fun s => bankOf s.2.app) MasterCall.serves (bankOf w.app) calls trace := by
  obtain ⟨trace, hrun, hexplains, -⟩ :=
    (masterCall_simulation hcb core hfuel).run calls (smb, w) hcalls ⟨hj, le_rfl⟩
  exact ⟨trace, hrun, hexplains⟩

end Remote

/-- Two registers written at the end of the address space and read back with the one before them, a
register written with -1, the largest read of coils, both ends of the channel delivering in pieces. -/
theorem remote_bank_calls :
    ∃ trace, runAll (MasterCall.step 600)
        [.write (.registers 65534 2 [1, 2, 3, 4]), .read .registers 65533 3 6 (Buffer.replicate 6 0),
          .write (.register 0 (-1)), .read .bits 0 2000 250 (Buffer.replicate 250 0)]
        (newContext .tcp (World.port bankCallback) 17,
          ⟨⟨[], [2, 0, 1], []⟩, newContext .tcp Wire.port 17, ⟨[], [0, 3], []⟩,
            ⟨fun _ => true, fun _ => false, fun _ => 9, fun _ => 0⟩⟩) = .ok trace ∧
      Explains (fun s => s.2.app) MasterCall.serves ⟨fun _ => true, fun _ => false, fun _ => 9, fun _ => 0⟩
        [.write (.registers 65534 2 [1, 2, 3, 4]), .read .registers 65533 3 6 (Buffer.replicate 6 0),
          .write (.register 0 (-1)), .read .bits 0 2000 250 (Buffer.replicate 250 0)] trace :=
  remote_bank bankCallback_backed
    ⟨newContext_ready .tcp _ 17, newContext_ready .tcp _ 17, rfl, rfl, rfl, rfl⟩
    (show 3 + 2 * 260 + 1 < 600 by decide) _ (by decide)

/-! ## §5 — the write of a single coil. -/

/-- The callback stores bit 0 of the data of a single write at `addr` and returns 1. -/
structure StoresBit (cb : SlaveCallback κ) (coils : κ → Nat → Bool) (addr : Nat) : Prop where
  ret : ∀ app data, 0 < data.length → (cb.call app modbusFcWriteSingleCoil addr 1 data).1 = 1
  coils : ∀ app data, 0 < data.length → ∀ a, coils (cb.call app modbusFcWriteSingleCoil addr 1 data).2.2 a =
    if a = addr then bitAt data 0 else coils app a

/-- A callback backed by a bank stores the bit. -/
theorem BankBacked.storesBit {cb : SlaveCallback κ} {bankOf : κ → Bank} (hcb : BankBacked cb bankOf)
    {addr : Nat} (haddr : addr < 65536) : StoresBit cb (fun app => (bankOf app).coils) addr where
  ret app data hdata :=
    (hcb.write .coil 5 app addr 1 data (Or.inl ⟨rfl, rfl⟩) Nat.one_pos (by decide) haddr hdata).1
  coils app data hdata a := by
    have hput :=
      (hcb.write .coil 5 app addr 1 data (Or.inl ⟨rfl, rfl⟩) Nat.one_pos (by decide) haddr hdata).2
    show (bankOf (cb.call app (5 : UInt8).toNat addr (1 : Nat) data).2.2).coils a = _
    rw [hput]
    exact congrFun (Bank.overlay_one .coil (bankOf app).coils addr data) a

/-- What the write of a coil is to do: the coil is set exactly when the status is not 0, the request
carries 0xFF00 or 0x0000, and no other coil changes. -/
structure CoilWritten (core : Core) (coils : κ → Nat → Bool) (w w' : World κ) (addr : Nat)
    (writeStatus : Int) : Prop where
  coil : coils w'.app addr = true ↔ writeStatus ≠ 0
  request : ∃ request, w'.line.tx = w.line.tx ++ [request] ∧
    request[core.lenHeader + 3]? = some (if writeStatus ≠ 0 then 0xFF else 0x00) ∧
    request[core.lenHeader + 4]? = some 0x00
  others : ∀ a, a ≠ addr → coils w'.app a = coils w.app a

section WriteBit

variable {core : Core} {cb : SlaveCallback κ} {coils : κ → Nat → Bool} {smb : Smb (World κ)} {w : World κ}
  (hj : Joined core cb smb w) {fuel : Nat} (hfuel : w.line.grants.length + 2 * modbusMaxAduLength + 1 < fuel)
  (host : Host) {addr : Nat} (haddr : addr < 65536) (hcb : StoresBit cb coils addr)

include hj hfuel haddr hcb

/-- **`modbus_write_bit` clears the coil whatever the status**: on both hosts the request carries 0x0000,
and the operation returns OK. -/
theorem writeBit_step (writeStatus : Int) :
    ∃ smb' w' request, (WriteOp.bit addr writeStatus).run host fuel smb w =
        .ok (modbusOk, smb', w', noData) ∧
      (∀ a, coils w'.app a = if a = addr then false else coils w.app a) ∧
      w'.line.tx = w.line.tx ++ [request] ∧ request[core.lenHeader + 3]? = some 0x00 ∧
      request[core.lenHeader + 4]? = some 0x00 := by
  have hpdu := requestPdu_writeBit host addr writeStatus
  have hhigh : highByte ((0 : UInt16).toNat : Int) = 0x00 := by decide
  have hlow : lowByte ((0 : UInt16).toNat : Int) = 0x00 := by decide
  obtain ⟨smb', w', rest, hrun, -, happ, htx, -⟩ := writeSingle_exchange hj hfuel .coil haddr
    (sendable_writeBit host addr _) hpdu (fun rest => hcb.ret w.app _ (Nat.succ_pos _))
  have hvalue : ∀ i b, (requestPdu Kind.coil.fcSingle.toNat addr 1 ((WriteOp.bit addr writeStatus).data
      host))[i]? = some b → (requestFrame core smb Kind.coil.fcSingle.toNat addr 1
        ((WriteOp.bit addr writeStatus).data host))[core.lenHeader + i]? = some b := by
    intro i b hb
    rw [requestFrame, adu_getElem? core _ _ (List.getElem?_eq_some_iff.mp hb).1, hb]
  refine ⟨smb', w', _, hrun, fun a => ?_, htx, hvalue 3 _ ?_, hvalue 4 _ ?_⟩
  · -- the callback was handed the high byte of the value
    have hstored := hcb.coils w.app ([highByte ((0 : UInt16).toNat : Int)] ++ rest) (Nat.succ_pos _) a
    have hbit : bitAt ([highByte ((0 : UInt16).toNat : Int)] ++ rest) 0 = false := by
      rw [hhigh, bitAt_append Nat.one_pos]
      decide
    rw [hbit] at hstored
    rw [happ]
    exact hstored
  · rw [hpdu]
    exact congrArg some hhigh
  · rw [hpdu]
    exact congrArg some hlow

/-- **The write of a single coil does what it is to do exactly when the status is 0.** It always returns
OK; on the left, what is to hold of every run that returns OK. -/
theorem write_bit_iff (writeStatus : Int) :
    (∃ smb' w' out, (WriteOp.bit addr writeStatus).run host fuel smb w = .ok (modbusOk, smb', w', out)) ∧
      ((∀ smb' w' out, (WriteOp.bit addr writeStatus).run host fuel smb w = .ok (modbusOk, smb', w', out) →
        CoilWritten core coils w w' addr writeStatus) ↔ writeStatus = 0) := by
  obtain ⟨smb₁, w₁, request, hrun, hcoils, htx, hhi, hlo⟩ := writeBit_step hj hfuel host haddr hcb writeStatus
  have hcleared : coils w₁.app addr = false := by rw [hcoils, if_pos rfl]
  refine ⟨⟨_, _, _, hrun⟩, ?_, ?_⟩
  · intro hall
    have hcoil := (hall _ _ _ hrun).coil
    rw [hcleared] at hcoil
    by_contra hne
    exact absurd (hcoil.mpr hne) (by decide)
  · rintro rfl smb' w' out hrun'
    rw [hrun] at hrun'
    cases hrun'
    refine ⟨?_, ⟨request, htx, hhi, hlo⟩, ?_⟩
    · rw [hcleared]
      simp
    · intro a ha
      rw [hcoils, if_neg ha]

end WriteBit

/-- A coil that is set, cleared over RTU. -/
theorem write_bit_iff_clear :
    ∃ smb' w' out, (WriteOp.bit 3 0).run .bigEndian 600 (newContext .rtu (World.port bankCallback) 17)
        ⟨⟨[], [2, 0, 1], []⟩, newContext .rtu Wire.port 17, ⟨[], [0, 3], []⟩,
          ⟨fun _ => true, fun _ => false, fun _ => 9, fun _ => 0⟩⟩ = .ok (modbusOk, smb', w', out) ∧
      CoilWritten .rtu Bank.coils ⟨⟨[], [2, 0, 1], []⟩, newContext .rtu Wire.port 17, ⟨[], [0, 3], []⟩,
        ⟨fun _ => true, fun _ => false, fun _ => 9, fun _ => 0⟩⟩ w' 3 0 := by
  have hj : Joined .rtu bankCallback (newContext .rtu (World.port bankCallback) 17)
      ⟨⟨[], [2, 0, 1], []⟩, newContext .rtu Wire.port 17, ⟨[], [0, 3], []⟩,
        ⟨fun _ => true, fun _ => false, fun _ => 9, fun _ => 0⟩⟩ :=
    ⟨newContext_ready .rtu _ 17, newContext_ready .rtu _ 17, rfl, rfl, rfl, rfl⟩
  obtain ⟨⟨smb', w', out, hrun⟩, hiff⟩ := write_bit_iff hj (show 3 + 2 * 260 + 1 < 600 by decide) .bigEndian
    (show 3 < 65536 by decide) (bankCallback_backed.storesBit (show 3 < 65536 by decide)) 0
  exact ⟨smb', w', out, hrun, hiff.mpr rfl _ _ _ hrun⟩

/-- A coil to be set over TCP: the request carries 0x0000 and the coil, set before, is cleared. -/
theorem write_bit_cleared :
    ∃ smb' w' out, (WriteOp.bit 3 1).run .littleEndian 600 (newContext .tcp (World.port bankCallback) 17)
        ⟨⟨[], [], []⟩, newContext .tcp Wire.port 17, ⟨[], [], []⟩,
          ⟨fun _ => true, fun _ => false, fun _ => 9, fun _ => 0⟩⟩ = .ok (modbusOk, smb', w', out) ∧
      w'.line.tx = [[0, 1, 0, 0, 0, 6, 17, 5, 0, 3, 0, 0]] ∧ w'.app.coils 3 = false ∧
      ¬ CoilWritten .tcp Bank.coils ⟨⟨[], [], []⟩, newContext .tcp Wire.port 17, ⟨[], [], []⟩,
        ⟨fun _ => true, fun _ => false, fun _ => 9, fun _ => 0⟩⟩ w' 3 1 := by
  obtain ⟨⟨ret, smb', w', out⟩, hrun, hret⟩ := map_eq_ok.mp (show ((WriteOp.bit 3 1).run .littleEndian 600
    (newContext .tcp (World.port bankCallback) 17) ⟨⟨[], [], []⟩, newContext .tcp Wire.port 17, ⟨[], [], []⟩,
      ⟨fun _ => true, fun _ => false, fun _ => 9, fun _ => 0⟩⟩).map
    (fun x => (x.1, x.2.2.1.line.tx, x.2.2.1.app.coils 3)) =
      .ok (modbusOk, [[0, 1, 0, 0, 0, 6, 17, 5, 0, 3, 0, 0]], false) by decide +kernel)
  obtain ⟨rfl, htx, hcoil⟩ : ret = modbusOk ∧ w'.line.tx = _ ∧ w'.app.coils 3 = false := by
    simpa only [Prod.mk.injEq] using hret
  refine ⟨smb', w', out, hrun, htx, hcoil, fun hwritten => ?_⟩
  have hset : w'.app.coils 3 = true := hwritten.coil.mpr (by decide)
  rw [hcoil] at hset
  cases hset

end SmallModbus
