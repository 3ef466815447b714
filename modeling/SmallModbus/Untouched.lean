/-
# `SmallModbus.Untouched` — what a master read leaves as it was.

A read of the master can end in the check of the request, in the write, anywhere in the wait for the
confirmation or at any exit of `modbus_handle_confirm`. Whichever exit it takes, on any port, a negative
result comes with the caller's object as it was, no byte behind those of the quantity in the request is
written, and of the context only the buffers and the transaction id change (`ReadKeeps`).
-/
import SmallModbus.Confirm

namespace SmallModbus

open SmallModbus.Lib

variable {σ : Type} {n m j : Nat}

/-- What a read of so many bytes may do to the caller's object and to its context. -/
structure ReadKeeps (smb : Smb σ) (bytes : Nat) (readData : Buffer UInt8 n) (ret : Int) (smb' : Smb σ)
    (out : Buffer UInt8 n) : Prop where
  /-- a read that fails leaves the object -/
  failed : ret < 0 → out = readData
  /-- no byte behind those asked for is written -/
  behind : ∀ i, bytes ≤ i → out.toList[i]? = readData.toList[i]?
  /-- the context changes in its buffers and its transaction id only -/
  context : smb' = { smb with
    transferId := smb'.transferId, readBuff := smb'.readBuff, writeBuff := smb'.writeBuff }
  /-- which is counted on by one at most -/
  transferId : smb'.transferId = smb.transferId ∨ smb'.transferId = smb.transferId + 1

/-- Every exit but the last one leaves the object. -/
theorem ReadKeeps.of_same {smb smb' : Smb σ} {bytes : Nat} (readData : Buffer UInt8 n) (ret : Int)
    (hctx : smb' = { smb with
      transferId := smb'.transferId, readBuff := smb'.readBuff, writeBuff := smb'.writeBuff })
    (htid : smb'.transferId = smb.transferId ∨ smb'.transferId = smb.transferId + 1) :
    ReadKeeps smb bytes readData ret smb' readData :=
  ⟨fun _ => rfl, fun _ _ => rfl, hctx, htid⟩

/-! ## §1 — `modbus_handle_confirm`. -/

section Handle

variable {core : Core} {q : Query} {request : Buffer UInt8 n} (hin : q.In core request) {k : Kind}
  (hread : serviceOf q.function = .read k) (hnum : 0 < q.num.toNat ∧ q.num.toNat ≤ k.maxRead)
  (response : Buffer UInt8 m) (hm : modbusMaxAduLength ≤ m) (readData : Buffer UInt8 j)

include hin hread hnum hm

/-- **`modbus_handle_confirm` on whatever is in the response buffer**: it leaves the object, or it is OK and
copies as many bytes as were asked for. -/
theorem modbusHandleConfirm_cases {smb : Smb σ} {port : Port σ} (h : Ready smb core port)
    (requestLen responseLen : UInt16) :
    (∃ ret, modbusHandleConfirm smb request requestLen response responseLen readData = .ok (ret, readData)) ∨
      modbusHandleConfirm smb request requestLen response responseLen readData = do
        let readData ← k.m2h readData 0 (.other (response.tailFrom (core.lenHeader + 2))) q.num.toNat
        return (modbusOk, readData) := by
  have hmax : modbusMaxAduLength = 260 := rfl
  have hh := core.lenHeader_le
  obtain ⟨g, -, hg⟩ := response.load_of_lt (show core.lenHeader < m by omega)
  obtain ⟨b, -, hb⟩ := response.load_of_lt (show core.lenHeader + 1 < m by omega)
  rw [modbusHandleConfirm_function h hin hg]
  split_ifs with hexc hfun
  · exact Or.inl ⟨_, rfl⟩
  · rw [confirmCalcLength_read hin hread, exec_ok_bind]
    split_ifs
    · rw [← hfun, confirmReadData_read hin hread hnum.2 hb]
      split_ifs
      · exact Or.inr rfl
      · exact Or.inl ⟨_, rfl⟩
    · exact Or.inl ⟨_, rfl⟩
  · exact Or.inl ⟨_, rfl⟩

section Ready

variable {smb : Smb σ} {port : Port σ} (h : Ready smb core port) {requestLen responseLen : UInt16}

include h

theorem modbusHandleConfirm_keeps {readData : Buffer UInt8 j} {ret : Int} {out : Buffer UInt8 j}
    (hrun : modbusHandleConfirm smb request requestLen response responseLen readData = .ok (ret, out)) :
    (ret < 0 → out = readData) ∧ ∀ i, k.bytes q.num.toNat ≤ i → out.toList[i]? = readData.toList[i]? := by
  rcases modbusHandleConfirm_cases hin hread hnum response hm readData h requestLen responseLen with
    ⟨ret', hsame⟩ | hcopy
  · rw [hsame] at hrun
    cases hrun
    exact ⟨fun _ => rfl, fun _ _ => rfl⟩
  · rw [hcopy] at hrun
    obtain ⟨out', hm2h, hrun⟩ := bind_eq_ok.mp hrun
    cases hrun
    obtain ⟨hj, rfl⟩ := (k.m2h_other_iff hnum.1 (confirm_cells core hnum.2 response hm)).mp hm2h
    refine ⟨fun hneg => absurd hneg (by decide), fun i hi => ?_⟩
    have hlen : (k.conv ((response.tailFrom (core.lenHeader + 2)).take (k.bytes q.num.toNat))).length =
        k.bytes q.num.toNat := by
      rw [Kind.length_conv, List.length_take_of_le (confirm_cells core hnum.2 response hm)]
    exact readData.getElem?_fill_behind (hlen.trans_le hj) (hlen.trans_le hi)

/-- An object that is large enough is never left. -/
theorem modbusHandleConfirm_returns (hj : k.bytes q.num.toNat ≤ j) :
    ∃ x, modbusHandleConfirm smb request requestLen response responseLen readData = .ok x := by
  rcases modbusHandleConfirm_cases hin hread hnum response hm readData h requestLen responseLen with
    ⟨ret', hsame⟩ | hcopy
  · exact ⟨_, hsame⟩
  · rw [hcopy, (k.m2h_other_iff hnum.1 (confirm_cells core hnum.2 response hm)).mpr ⟨hj, rfl⟩]
    exact ⟨_, rfl⟩

end Ready

end Handle

/-! ## §2 — the read operations. -/

namespace ReadOp

variable (op : ReadOp) {smb : Smb σ} {core : Core} {port : Port σ} (addr num : Int)

/-- The query of a read. -/
def query : Query := ⟨op.function, toU16 addr, toU16 num⟩

variable {addr num} (hcheck : modbusCheckAddrNum op.function (toU16 addr) (toU16 num) = true)

include hcheck

theorem query_range : 0 < (op.query addr num).num.toNat ∧ (op.query addr num).num.toNat ≤ op.kind.maxRead :=
  (checkAddrNum_read op.serviceOf_function _ _).mp hcheck

variable (h : Ready smb core port)

include h

/-- **A read whose quantity passes the check** keeps what it has to keep. -/
theorem run_keeps {fuel : Nat} {w w' : σ} {readData out : Buffer UInt8 n} {ret : Int} {smb' : Smb σ}
    (hrun : op.run fuel smb w addr num readData = .ok (ret, smb', w', out)) :
    ReadKeeps smb (op.kind.bytes (toU16 num).toNat) readData ret smb' out := by
  have htid : (core.requestContext smb).transferId = smb.transferId ∨
      (core.requestContext smb).transferId = smb.transferId + 1 := by
    rw [requestContext_transferId]
    cases core with
    | rtu => exact Or.inl rfl
    | tcp => exact Or.inr rfl
  have hctx : ∀ request response, ({ core.requestContext smb with writeBuff := request, readBuff := response } : Smb σ) =
      { smb with transferId := (core.requestContext smb).transferId, readBuff := response, writeBuff := request } := by
    intro request response
    cases core <;> rfl
  rw [op.run_eq, masterOperation_eq h (op.sendable hcheck) fuel w readData rfl] at hrun
  split at hrun
  · -- the write failed
    cases hrun
    exact .of_same readData _ (hctx _ _) htid
  obtain ⟨⟨ret₁, w₁, response⟩, -, hrun⟩ := bind_eq_ok.mp hrun
  dsimp only at hrun
  split at hrun
  · -- no confirmation was received
    cases hrun
    exact .of_same readData _ (hctx _ _) htid
  have h₁ := waitingContext_ready h (requestFrame core smb op.function.toNat addr num [])
  have h₂ : Ready { waitingContext core smb (requestFrame core smb op.function.toNat addr num []) with
      readBuff := response } core port := h₁.congr rfl rfl rfl
  obtain ⟨⟨ret₂, out₂⟩, hconfirm, hrun⟩ := bind_eq_ok.mp hrun
  cases hrun
  obtain ⟨hfailed, hbehind⟩ := modbusHandleConfirm_keeps (q := op.query addr num) (op.query_in hcheck smb smb.writeBuff)
    op.serviceOf_function (op.query_range hcheck) response le_rfl h₂ hconfirm
  exact ⟨hfailed, hbehind, hctx _ _, htid⟩

/-- On a port that fails no read, an object that is large enough is never left. -/
theorem run_returns {F : Feed port} (hF : F.Clean) (hn : op.kind.bytes (toU16 num).toNat ≤ n) (fuel : Nat) (w : σ)
    (readData : Buffer UInt8 n) :
    (op.run fuel smb w addr num readData = .error .fuel ∧ ∀ bound,
      F.Patient bound (modbusWrite smb w (requestFrame core smb op.function.toNat addr num [])).2 →
        fuel ≤ bound + 2 * modbusMaxAduLength + 1) ∨
      ∃ x, op.run fuel smb w addr num readData = .ok x := by
  rw [op.run_eq, masterOperation_eq h (op.sendable hcheck) fuel w readData rfl]
  split
  · exact Or.inr ⟨_, rfl⟩
  have h₁ := waitingContext_ready h (requestFrame core smb op.function.toNat addr num [])
  rcases modbusWaitConfirm_feed hF h₁ smb.readBuff le_rfl fuel (modbusWrite smb w _).2 with
    hout | ⟨o, ret, w', hok, -⟩
  · left
    refine ⟨by rw [hout]; rfl, fun bound hpat => ?_⟩
    by_contra hfuel
    exact modbusWaitConfirm_patient hF h₁ smb.readBuff le_rfl hpat (by omega) hout
  · right
    rw [hok, exec_ok_bind]
    dsimp only
    split
    · exact ⟨_, rfl⟩
    obtain ⟨⟨ret₂, out⟩, hconfirm⟩ := modbusHandleConfirm_returns (q := op.query addr num) (op.query_in hcheck smb smb.writeBuff)
      op.serviceOf_function (op.query_range hcheck) (smb.readBuff.fill o.taken) le_rfl readData
      (show Ready { waitingContext core smb (requestFrame core smb op.function.toNat addr num []) with
        readBuff := smb.readBuff.fill o.taken } core port from h₁.congr rfl rfl rfl) hn
    rw [hconfirm]
    exact ⟨_, rfl⟩

end ReadOp

/-- A context that passes the check is bound to a port. -/
theorem exists_port_of_contextCheck {smb : Smb σ} (hctx : modbusContextCheck smb = modbusOk) :
    ∃ port, smb.port = some port := by
  cases hport : smb.port with
  | none => simp [modbusContextCheck, hport, modbusErrorContext, modbusOk] at hctx
  | some port => exact ⟨port, rfl⟩

namespace ReadOp

variable (op : ReadOp) (smb : Smb σ) (fuel : Nat) (w : σ) (addr num : Int) (readData : Buffer UInt8 n)

/-- A read on a bad context, or of a quantity that does not pass the check, does nothing. -/
theorem run_refused (hbad : modbusContextCheck smb ≠ modbusOk ∨
      ¬ modbusCheckAddrNum op.function (toU16 addr) (toU16 num) = true) :
    ∃ ret, op.run fuel smb w addr num readData = .ok (ret, smb, w, readData) := by
  rw [op.run_eq]
  unfold masterOperation
  by_cases hctx : modbusContextCheck smb = modbusOk
  · have hcheck : ¬ modbusCheckAddrNum (toU8 (op.function.toNat : Int)) (toU16 addr) (toU16 num) = true := by
      rw [toU8_toNat]
      exact hbad.resolve_left (not_not.mpr hctx)
    rw [modbusStartRequest_refused hctx hcheck]
    simp only [hctx, ne_eq, not_true, if_false, exec_ok_bind]
    exact ⟨_, rfl⟩
  · simp only [ne_eq, hctx, not_false_eq_true, if_true]
    exact ⟨_, rfl⟩

/-- The context of any other read that returns can be used. -/
theorem ready_of_run (hctx : modbusContextCheck smb = modbusOk)
    (hcheck : modbusCheckAddrNum op.function (toU16 addr) (toU16 num) = true)
    {x : Int × Smb σ × σ × Buffer UInt8 n} (hrun : op.run fuel smb w addr num readData = .ok x) :
    ∃ core port, Ready smb core port := by
  obtain ⟨port, hport⟩ := exists_port_of_contextCheck hctx
  have hmagic : smb.modbusMagic = modbusMagicWord := by
    rcases modbusContextCheck_cases smb with hbad | ⟨-, hmagic⟩
    · rw [hbad] at hctx
      exact absurd hctx (by decide)
    · exact hmagic
  cases hcore : smb.core with
  | some core => exact ⟨core, port, hmagic, hcore, hport⟩
  | none =>
    -- the request cannot be built
    have hno : coreOf smb = .error .fault := by rw [coreOf, hcore]
    rw [op.run_eq] at hrun
    unfold masterOperation modbusStartRequest at hrun
    simp only [hctx, ne_eq, not_true, if_false, toU8_toNat, if_pos hcheck, hno, exec_error_bind] at hrun
    cases hrun

end ReadOp

/-- **Failures of the master leave the caller's data alone.** Any context, any arguments, any port. On a port
that fails no read, an object with room for the quantity is never left, and the read returns if the port is
patient. -/
theorem read_keeps (op : ReadOp) (smb : Smb σ) (w : σ) (addr num : Int) (readData : Buffer UInt8 n) :
    (∀ (fuel : Nat) (ret : Int) (smb' : Smb σ) (w' : σ) (out : Buffer UInt8 n),
      op.run fuel smb w addr num readData = .ok (ret, smb', w', out) →
        ReadKeeps smb (op.kind.bytes (toU16 num).toNat) readData ret smb' out) ∧
      ∀ (core : Core) (port : Port σ) (F : Feed port), F.Clean → Ready smb core port →
        op.kind.bytes (toU16 num).toNat ≤ n → ∀ fuel,
          op.run fuel smb w addr num readData ≠ .error .fault ∧
            ∀ bound, F.Patient bound (modbusWrite smb w (requestFrame core smb op.function.toNat addr num [])).2 →
              bound + 2 * modbusMaxAduLength + 1 < fuel → ∃ x, op.run fuel smb w addr num readData = .ok x := by
  constructor
  · intro fuel ret smb' w' out hrun
    by_cases hgood : modbusContextCheck smb = modbusOk ∧
        modbusCheckAddrNum op.function (toU16 addr) (toU16 num) = true
    · obtain ⟨core, port, h⟩ := op.ready_of_run smb fuel w addr num readData hgood.1 hgood.2 hrun
      exact op.run_keeps hgood.2 h hrun
    · obtain ⟨ret', hsame⟩ := op.run_refused smb fuel w addr num readData (not_and_or.mp hgood)
      rw [hsame] at hrun
      cases hrun
      exact .of_same readData _ rfl (Or.inl rfl)
  · intro core port F hF h hn fuel
    by_cases hcheck : modbusCheckAddrNum op.function (toU16 addr) (toU16 num) = true
    · rcases op.run_returns hcheck h hF hn fuel w readData with ⟨hout, hfuel⟩ | hok
      · refine ⟨by rw [hout]; simp, fun bound hpat hlt => ?_⟩
        have := hfuel bound hpat
        omega
      · refine ⟨?_, fun _ _ _ => hok⟩
        obtain ⟨x, hok⟩ := hok
        rw [hok]
        simp
    · obtain ⟨ret, hsame⟩ := op.run_refused smb fuel w addr num readData (Or.inr hcheck)
      rw [hsame]
      exact ⟨by simp, fun _ _ _ => ⟨_, rfl⟩⟩

/-- Two registers, refused by the slave with exception 2: the object keeps its four bytes. -/
theorem read_keeps_refusal :
    ∃ ret smb' w' out, ReadOp.registers.run 600 (newContext .rtu Wire.port 1)
        ⟨[1, 0x83, 2, 0xC0, 0xF1], [], []⟩ 0 2 (Buffer.replicate 4 7) = .ok (ret, smb', w', out) ∧ ret = -131 ∧
      out = Buffer.replicate 4 7 := by
  obtain ⟨⟨ret, smb', w', out⟩, hrun, hret⟩ := map_eq_ok.mp (show (ReadOp.registers.run 600
    (newContext .rtu Wire.port 1) ⟨[1, 0x83, 2, 0xC0, 0xF1], [], []⟩ 0 2 (Buffer.replicate 4 7)).map
    (fun x => x.1) = .ok (-131) by decide +kernel)
  obtain rfl : ret = -131 := hret
  exact ⟨_, smb', w', out, hrun, rfl,
    ((read_keeps .registers (newContext .rtu Wire.port 1) _ 0 2 (Buffer.replicate 4 7)).1 _ _ _ _ _ hrun).failed
      (by decide)⟩

end SmallModbus
