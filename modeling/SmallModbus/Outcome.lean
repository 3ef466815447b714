/-
# `SmallModbus.Outcome` — what an operation comes to, whatever the callback serves.

`Exchanged` is a request with its reply and with what the master makes of it, whatever the two ports are. Joined by a
channel, master and slave do just that (`Exchanged.joined`).

The callback of a slave may serve fewer items than it is asked for. `read_exchanged` and `write_exchanged` say
what the master's operation returns then: an exception when no item is served, `MODBUS_OK` otherwise. A read
copies the data of the reply when they have the size of the request, which for coils fewer items may have.
-/
import SmallModbus.Remote
import SmallModbus.Exceptions

namespace SmallModbus

open SmallModbus.Lib

variable {σ τ κ : Type} {n : Nat}

/-- The result of an operation of which `served` items were served. -/
def servedResult (function : UInt8) (served : Nat) : Int :=
  if served = 0 then -(0x80 + function.toNat) else modbusOk

/-! ## §1 — a request, its reply, and what the master makes of it. -/

/-- The arguments of a master operation. -/
structure Operation where
  function : Int
  addr : Int
  num : Int
  writeData : List UInt8
  n : Nat
  readData : Buffer UInt8 n

/-- The operation. -/
def Operation.run (o : Operation) (fuel : Nat) (smb : Smb σ) (w : σ) : Exec (Int × Smb σ × σ × Buffer UInt8 o.n) :=
  masterOperation fuel smb w o.function o.addr o.num o.writeData o.readData

/-- What the request of `smb` comes to at a slave, on whatever ports the two are: the slave has the application in
`app'` and replies with `reply`, and the master that gets the reply returns `ret` and has `out` in its object. -/
def Exchanged (core : Core) (port : Port σ) (cb : SlaveCallback κ) (smb : Smb σ) (slave : Smb τ) (app : κ)
    (o : Operation) (reply : List UInt8) (ret : Int) (out : Buffer UInt8 o.n) (app' : κ) : Prop :=
  ∃ (q : Query) (tail : List UInt8) (r : Int) (data : List UInt8),
    requestPdu o.function o.addr o.num o.writeData = q.echoReply ++ tail ∧
    q.call core (core.adopt slave (core.requestContext smb).transferId)
      (slave.readBuff.fill (requestFrame core smb o.function o.addr o.num o.writeData)) (some cb) app =
        (r, data, app') ∧
    q.Fits r ∧
    reply = core.adu (core.requestContext smb).transferId smb.slaveAddr (q.reply smb.slaveAddr r data) ∧
    ∀ smb₁ requestLen, Ready smb₁ core port →
      modbusHandleConfirm smb₁ (smb.writeBuff.fill (requestFrame core smb o.function o.addr o.num o.writeData))
        requestLen (smb.readBuff.fill reply) (toU16 (reply.length : Nat)) o.readData = .ok (ret, out)

namespace Exchanged

variable {core : Core} {port : Port σ} {port₂ : Port τ} {cb : SlaveCallback κ} {smb : Smb σ} {slave : Smb τ} {app app' : κ}
  {o : Operation} {reply : List UInt8} {ret : Int} {out : Buffer UInt8 o.n}
  (h : Exchanged core port cb smb slave app o reply ret out app') (hs : Sendable o.function o.addr o.num o.writeData)
  (haddr : slave.slaveAddr = smb.slaveAddr)

include h hs haddr

/-- The reply is a frame of this transaction, of the length the master's table gives it. -/
theorem reply_adu : ∃ pdu, reply = core.adu (core.requestContext smb).transferId smb.slaveAddr pdu ∧
    confirmFormat.Sized pdu ∧ reply.length ≤ modbusMaxAduLength := by
  obtain ⟨q, tail, r, data, hpdu, hcall, hfits, rfl, -⟩ := h
  have hserv := serviceOf_request hs.function_mem
  rw [← q.function_of_request hpdu] at hserv
  have hsized := reply_sized hcall hfits hserv
  rw [adopt_slaveAddr, haddr] at hsized
  exact ⟨_, rfl, hsized, length_replyAdu_le hfits core _ smb.slaveAddr data⟩

/-- The slave that has received the request sends the reply. -/
theorem handled (hslave : Ready slave core port₂) {fuel : Nat} {w w₁ : τ} {t : Int} {frame : List UInt8}
    (hframe : frame = requestFrame core smb o.function o.addr o.num o.writeData)
    (hwait : modbusSlaveWait fuel slave w slave.readBuff t = .ok ((frame.length : Nat),
      core.adopt slave (core.requestContext smb).transferId, w₁, slave.readBuff.fill frame)) :
    ∃ readBuff' writeBuff', modbusSlaveWaitHandle fuel slave w (some cb) app t =
      .ok ((modbusWrite slave w₁ reply).1,
        { core.adopt slave (core.requestContext smb).transferId with readBuff := readBuff', writeBuff := writeBuff' },
        (modbusWrite slave w₁ reply).2, app') := by
  subst hframe
  obtain ⟨q, tail, r, data, hpdu, hcall, hfits, rfl, -⟩ := h
  have hin : q.In core (slave.readBuff.fill (requestFrame core smb o.function o.addr o.num o.writeData)) :=
    Query.in_adu slave.readBuff (by rw [requestFrame, hpdu]) (hs.length_adu_le core _ _)
  exact modbusSlaveWaitHandle_handled hslave hwait hin (some cb) app hcall hfits (by rw [haddr])

end Exchanged

/-- Joined by a channel, this is what the operation does. -/
theorem Exchanged.joined {core : Core} {cb : SlaveCallback κ} {smb : Smb (World κ)} {w : World κ} {o : Operation}
    {reply : List UInt8} {ret : Int} {out : Buffer UInt8 o.n} {app' : κ}
    (h : Exchanged core (World.port cb) cb smb w.slave w.app o reply ret out app')
    (hs : Sendable o.function o.addr o.num o.writeData) (hj : Joined core cb smb w) {fuel : Nat}
    (hfuel : w.line.grants.length + 2 * modbusMaxAduLength + 1 < fuel) :
    ∃ smb' w', o.run fuel smb w = .ok (ret, smb', w', out) ∧ Joined core cb smb' w' ∧ w'.app = app' ∧
      w'.line.grants.length ≤ w.line.grants.length := by
  obtain ⟨q, tail, r, data, hpdu, hcall, hfits, hreply, hconfirm⟩ := h
  obtain ⟨smb', w', hrun, hj', happ, -, hgrants⟩ := exchange hj hs hpdu rfl hcall hfits hreply hconfirm hfuel
  exact ⟨smb', w', hrun, hj', happ, hgrants⟩

section Outcome

variable (core : Core) {cb : SlaveCallback κ} (port : Port σ) (smb : Smb σ) (slave : Smb τ) {app : κ}

/-- Whatever the slave raises, the master returns the function byte of the reply, negated. -/
theorem refused_exchanged {o : Operation} (hs : Sendable o.function o.addr o.num o.writeData) {q : Query}
    {tail : List UInt8} (hpdu : requestPdu o.function o.addr o.num o.writeData = q.echoReply ++ tail) {r e : Int}
    {data : List UInt8} {app' : κ}
    (hcall : q.call core (core.adopt slave (core.requestContext smb).transferId)
      (slave.readBuff.fill (requestFrame core smb o.function o.addr o.num o.writeData)) (some cb) app =
        (r, data, app'))
    (he : q.exception r = some e) :
    ∃ reply, Exchanged core port cb smb slave app o reply (-(0x80 + o.function)) o.readData app' := by
  obtain ⟨hqf, -⟩ := Query.exception_of_request hs hpdu he
  have hlt := request_function_lt hs.function_mem
  have hfits := Query.fits_of_exception hcall he
  have hlen := length_replyAdu_le hfits core (core.requestContext smb).transferId smb.slaveAddr data
  refine ⟨_, q, tail, r, data, hpdu, hcall, hfits, rfl, ?_⟩
  intro smb₁ requestLen hready
  have hbyte : ((toU8 ((q.function.toNat : Int) + 0x80)).toNat : Int) = 0x80 + o.function := by
    have hf := toNat_toU8_of_mem hs.function_mem
    rw [hqf, toNat_toU8, hf]
    omega
  have hin : q.In core (smb.writeBuff.fill (requestFrame core smb o.function o.addr o.num o.writeData)) :=
    Query.in_adu smb.writeBuff (by rw [requestFrame, hpdu]) (hs.length_adu_le core _ _)
  have hload : (smb.readBuff.fill (core.adu (core.requestContext smb).transferId smb.slaveAddr
      (q.reply smb.slaveAddr r data))).load core.lenHeader = .ok (toU8 ((q.function.toNat : Int) + 0x80)) :=
    load_adu (i := 0) smb.readBuff hlen (by rw [Query.reply_of_exception he]; rfl)
  rw [modbusHandleConfirm_function hready hin hload, if_pos (by omega), hbyte, zero_sub]

/-! ### Reads -/

/-- **A read** of `num` items of which `served` are served. -/
theorem read_exchanged (op : ReadOp) {addr num : Nat} (hnum : 0 < num ∧ num ≤ op.kind.maxRead)
    (haddr : addr < 65536) (readData : Buffer UInt8 n) (hn : op.kind.bytes num ≤ n) {served : Nat}
    (hserved : served ≤ num) {data : List UInt8} {app' : κ}
    (hcall : cb.call app op.function.toNat addr num (slave.writeBuff.toList.drop (core.lenHeader + 2)) =
      ((served : Int), data, app')) :
    ∃ reply, Exchanged core port cb smb slave app ⟨op.function.toNat, addr, num, [], n, readData⟩ reply
      (servedResult op.function served)
      (if 0 < served ∧ op.kind.bytes served = op.kind.bytes num then
        readData.fill (data.take (op.kind.bytes num)) else readData) app' := by
  have hmax : modbusMaxAduLength = 260 := rfl
  have hh := core.lenHeader_le
  have hlimit := op.kind.maxRead_le
  have hbytes : op.kind.bytes num ≤ 250 := op.kind.bytes_maxRead ▸ op.kind.bytes_mono hnum.2
  have hsize := op.kind.bytes_mono hserved
  obtain ⟨q, hq⟩ : ∃ q : Query, q = ⟨op.function, toU16 addr, toU16 num⟩ := ⟨_, rfl⟩
  have hqf : q.function = op.function := by rw [hq]
  have hread : serviceOf q.function = .read op.kind := by rw [hqf, op.serviceOf_function]
  have hqaddr : q.address.toNat = addr := by rw [hq, toNat_toU16_natCast haddr]
  have hqnum : q.num.toNat = num := by rw [hq, toNat_toU16_natCast (by omega)]
  have hqnum' : 0 < q.num.toNat ∧ q.num.toNat ≤ op.kind.maxRead := by rwa [hqnum]
  have hs := op.sendable (op.check_of_num hnum addr)
  have hpdu : requestPdu op.function.toNat addr num [] = q.echoReply ++ [] := by rw [op.requestPdu_eq, ← hq]
  obtain ⟨tid, htid⟩ : ∃ tid, tid = (core.requestContext smb).transferId := ⟨_, rfl⟩
  have hwriteBuff : (core.adopt slave tid).writeBuff = slave.writeBuff := by cases core <;> rfl
  have hlen : data.length = modbusMaxAduLength - (core.lenHeader + 2) := by
    have h := cb.size_eq app op.function.toNat addr num (slave.writeBuff.toList.drop (core.lenHeader + 2))
    rw [hcall, List.length_drop, Buffer.length_toList] at h
    exact h
  have hqcall : q.call core (core.adopt slave tid)
      (slave.readBuff.fill (requestFrame core smb op.function.toNat addr num [])) (some cb) app =
        ((served : Int), data, app') := by
    unfold Query.call Query.items Query.cells
    rw [hread]
    dsimp only
    rw [if_pos hqnum', hwriteBuff, hqf, hqaddr, hqnum]
    exact hcall
  rw [htid] at hqcall
  unfold servedResult
  by_cases hzero : served = 0
  · -- nothing served is an exception
    subst hzero
    have he : q.exception ((0 : Nat) : Int) = some modbusException := by
      unfold Query.exception
      rw [hread]
      dsimp only
      rw [if_pos hqnum', if_neg (by omega)]
      rfl
    rw [if_pos rfl, if_neg (by omega)]
    exact refused_exchanged core port smb slave (o := ⟨op.function.toNat, addr, num, [], n, readData⟩) hs hpdu
      hqcall he
  · have hreplyPdu : q.reply smb.slaveAddr served data = q.function :: toU8 (op.kind.bytes served) ::
        op.kind.conv (data.take (op.kind.bytes served)) := by
      unfold Query.reply
      rw [hread]
      dsimp only
      rw [if_pos hqnum', if_pos (by rw [toNat_toU16_natCast (by omega)]; omega), Int.toNat_natCast]
    have htaken : (op.kind.conv (data.take (op.kind.bytes served))).length = op.kind.bytes served := by
      rw [Kind.length_conv, List.length_take_of_le (by omega)]
    have hfits : q.Fits (served : Int) := Query.fits_of_lt (by omega)
    have hreplyLen := length_replyAdu_le hfits core (core.requestContext smb).transferId smb.slaveAddr data
    rw [if_neg hzero]
    refine ⟨_, q, [], served, data, hpdu, hqcall, hfits, rfl, ?_⟩
    intro smb₁ requestLen h₁
    have hin : q.In core (smb.writeBuff.fill (requestFrame core smb op.function.toNat addr num [])) := by
      rw [hq]
      exact op.query_in (op.check_of_num hnum addr) smb _
    rw [hreplyPdu] at hreplyLen ⊢
    refine (modbusHandleConfirm_read h₁ _ hin hread hqnum' ?_ hreplyLen le_rfl requestLen readData).mpr ⟨rfl, ?_⟩
    · rw [htaken, toNat_toU8_of_lt (by omega)]
    · simp only [Nat.pos_of_ne_zero hzero, true_and]
      rw [hqnum, htaken]
      split_ifs with hsame
      · rw [Kind.conv_conv, hsame]
        exact ⟨hn, rfl⟩
      · rfl

/-! ### Writes -/

/-- **A write** of `items` items of which `served` are served: the reply does not tell how many. -/
theorem write_exchanged (k : Kind) {function addr num : Int} {writeData : List UInt8}
    (hs : Sendable function addr num writeData) {q : Query} {tail : List UInt8}
    (hpdu : requestPdu function addr num writeData = q.echoReply ++ tail) {items : Nat}
    (hserv : serviceOf q.function = .writeSingle k ∧ items = 1 ∨
      serviceOf q.function = .writeMultiple k ∧ items = q.num.toNat)
    (hitems : 0 < items ∧ items ≤ k.maxWrite) {served : Nat} (hserved : served ≤ items) {data : List UInt8}
    {app' : κ} (hcall : cb.call app q.function.toNat q.address.toNat items
      (q.cells core (core.adopt slave (core.requestContext smb).transferId)
        (slave.readBuff.fill (requestFrame core smb function addr num writeData))) =
      ((served : Int), data, app')) :
    ∃ reply, Exchanged core port cb smb slave app ⟨function, addr, num, writeData, 0, noData⟩ reply
      (servedResult q.function served) noData app' := by
  have hmax := k.maxWrite_le
  have hqf : (q.function.toNat : Int) = function := by
    rw [q.function_of_request hpdu, toNat_toU8_of_mem hs.function_mem]
  have hqcall : q.call core (core.adopt slave (core.requestContext smb).transferId)
      (slave.readBuff.fill (requestFrame core smb function addr num writeData)) (some cb) app =
        ((served : Int), data, app') := by
    unfold Query.call Query.items
    rcases hserv with ⟨hserv', rfl⟩ | ⟨hserv', rfl⟩
    · rw [hserv']
      exact hcall
    · rw [hserv']
      dsimp only
      rw [if_pos hitems]
      exact hcall
  unfold servedResult
  by_cases hzero : served = 0
  · subst hzero
    obtain ⟨e, he⟩ : ∃ e, q.exception ((0 : Nat) : Int) = some e := by
      unfold Query.exception
      rcases hserv with ⟨hserv', rfl⟩ | ⟨hserv', rfl⟩
      · rw [hserv']
        exact ⟨_, rfl⟩
      · rw [hserv']
        dsimp only
        rw [if_pos hitems, if_neg (by omega)]
        exact ⟨_, rfl⟩
    rw [if_pos rfl, hqf]
    exact refused_exchanged core port smb slave (o := ⟨function, addr, num, writeData, 0, noData⟩) hs hpdu hqcall
      he
  · have hreply : q.reply smb.slaveAddr served data = q.echoReply := by
      unfold Query.reply
      rcases hserv with ⟨hserv', rfl⟩ | ⟨hserv', hnum⟩
      · rw [hserv']
        exact if_pos (by omega)
      · rw [hserv']
        dsimp only
        rw [if_pos (hnum ▸ hitems), if_pos (by rw [toNat_toU16_natCast (by omega)]; omega)]
    rw [if_neg hzero]
    refine ⟨_, q, tail, served, data, hpdu, hqcall, Query.fits_of_lt (by omega), rfl, ?_⟩
    intro smb₁ requestLen h₁
    have hin : q.In core (smb.writeBuff.fill (requestFrame core smb function addr num writeData)) :=
      Query.in_adu smb.writeBuff (by rw [requestFrame, hpdu]) (hs.length_adu_le core _ _)
    rw [hreply]
    exact modbusHandleConfirm_write h₁ _ hin
      (hserv.imp (fun h => ⟨k, h.1⟩) (fun h => ⟨k, h.1⟩)) rfl le_rfl requestLen noData

end Outcome

/-! ## §2 — what the callback is handed. -/

section Cells

variable (core : Core) (smb : Smb σ) (slave slave' : Smb τ)

/-- A single write hands over the bytes of its value. -/
theorem cells_writeSingle (k : Kind) {addr : Int} {v : UInt16} {writeData : List UInt8}
    (hs : Sendable k.fcSingle.toNat addr 1 writeData)
    (hpdu : requestPdu k.fcSingle.toNat addr 1 writeData =
      (⟨k.fcSingle, toU16 addr, v⟩ : Query).echoReply ++ []) :
    ∃ rest, (⟨k.fcSingle, toU16 addr, v⟩ : Query).cells core slave
        (slave'.readBuff.fill (requestFrame core smb k.fcSingle.toNat addr 1 writeData)) =
      k.conv ([highByte v.toNat, lowByte v.toNat].take (k.bytes 1)) ++ rest := by
  have hlen := hs.length_adu_le core (core.requestContext smb).transferId smb.slaveAddr
  rw [hpdu] at hlen
  obtain ⟨rest, hrest⟩ := hostCells_adu k (core.requestContext smb).transferId smb.slaveAddr slave'.readBuff
    (l := [k.fcSingle, highByte (toU16 addr).toNat, lowByte (toU16 addr).toNat])
    (x := [highByte v.toNat, lowByte v.toNat]) hlen k.bytes_one_le
  refine ⟨rest, ?_⟩
  rw [requestFrame, hpdu]
  unfold Query.cells
  rw [serviceOf_fcSingle k]
  exact hrest

/-- A multiple write hands over the bytes of the caller's items. -/
theorem cells_writeMultiple (k : Kind) {addr : Int} {num : Nat} (hnum : 0 < num ∧ num ≤ k.maxWrite)
    {writeData : List UInt8} (hdata : k.bytes num ≤ writeData.length) :
    ∃ rest, (⟨k.fcMultiple, toU16 addr, toU16 num⟩ : Query).cells core slave
        (slave'.readBuff.fill (requestFrame core smb k.fcMultiple.toNat addr num writeData)) =
      writeData.take (k.bytes num) ++ rest := by
  have hlimit := k.maxWrite_le
  have hlen := (sendable_writeMultiple k addr hnum hdata).length_adu_le core
    (core.requestContext smb).transferId smb.slaveAddr
  have hpdu := requestPdu_writeMultiple k addr num writeData
  rw [hpdu, ← List.append_assoc] at hlen
  have hwire : k.bytes num ≤ (k.conv (writeData.take (k.bytes num))).length := by
    rw [Kind.length_conv, List.length_take_of_le hdata]
  obtain ⟨rest, hrest⟩ := hostCells_adu k (core.requestContext smb).transferId smb.slaveAddr slave'.readBuff
    (l := (⟨k.fcMultiple, toU16 addr, toU16 num⟩ : Query).echoReply ++ [toU8 (k.bytes num)])
    (x := k.conv (writeData.take (k.bytes num))) hlen hwire
  have htaken : k.conv ((k.conv (writeData.take (k.bytes num))).take (k.bytes num)) =
      writeData.take (k.bytes num) := by
    rw [Kind.take_conv, Kind.conv_conv, List.take_take, Nat.min_self]
  have hqnum : (⟨k.fcMultiple, toU16 addr, toU16 num⟩ : Query).num.toNat = num :=
    toNat_toU16_natCast (by omega)
  rw [List.append_assoc, htaken] at hrest
  refine ⟨rest, ?_⟩
  rw [requestFrame, hpdu]
  unfold Query.cells
  rw [serviceOf_fcMultiple k]
  dsimp only
  rw [hqnum]
  exact hrest

end Cells

end SmallModbus
