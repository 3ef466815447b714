/-
# `SmallModbus.AddressRange` — items beyond address 65535.

`modbus_check_addr_num` gets the address and does not look at it. A master refuses a request that runs over
the end of the address space, and a slave answers one with an exception and without a call, exactly when
the quantity alone is refused (`address_range_iff`). In between the callback is asked for items that have no
address.
-/
import SmallModbus.Validation

namespace SmallModbus

open SmallModbus.Lib

variable {σ κ : Type} {n : Nat}

/-- The functions that carry a quantity. -/
def MultiItem (f : UInt8) : Prop := f = 0x01 ∨ f = 0x02 ∨ f = 0x03 ∨ f = 0x04 ∨ f = 0x0F ∨ f = 0x10

/-- A quantity is refused when it is 0 or above the limit of its function. -/
def QuantityRefused (f : UInt8) (num : UInt16) : Prop := num.toNat = 0 ∨ maxNum f < num.toNat

theorem quantityRefused_iff {f : UInt8} (hf : MultiItem f) (address num : UInt16) :
    QuantityRefused f num ↔ ¬ modbusCheckAddrNum f address num = true := by
  have h56 : (f.toNat : Int) ≠ modbusFcWriteSingleCoil ∧ (f.toNat : Int) ≠ modbusFcWriteSingleRegister := by
    rcases hf with rfl | rfl | rfl | rfl | rfl | rfl <;> exact ⟨by decide, by decide⟩
  rw [modbusCheckAddrNum_iff h56.1 h56.2, QuantityRefused]
  omega

/-- They read or write with the limit of the check. -/
theorem MultiItem.service {f : UInt8} (hf : MultiItem f) :
    (∃ k, serviceOf f = .read k ∧ maxNum f = k.maxRead) ∨
      ∃ k, serviceOf f = .writeMultiple k ∧ maxNum f = k.maxWrite := by
  rcases hf with rfl | rfl | rfl | rfl | rfl | rfl
  · exact Or.inl ⟨.coil, rfl, rfl⟩
  · exact Or.inl ⟨.coil, rfl, rfl⟩
  · exact Or.inl ⟨.register, rfl, rfl⟩
  · exact Or.inl ⟨.register, rfl, rfl⟩
  · exact Or.inr ⟨.coil, rfl, rfl⟩
  · exact Or.inr ⟨.register, rfl, rfl⟩

/-- What the callback is asked for. -/
theorem MultiItem.items_eq {q : Query} (hf : MultiItem q.function) :
    q.items = if 0 < q.num.toNat ∧ q.num.toNat ≤ maxNum q.function then some q.num.toNat else none := by
  unfold Query.items
  rcases hf.service with ⟨k, hserv, hmax⟩ | ⟨k, hserv, hmax⟩ <;> rw [hserv, hmax]

/-- A quantity that is refused is answered with an exception. -/
theorem MultiItem.reply_refused {q : Query} (hf : MultiItem q.function) (href : QuantityRefused q.function q.num)
    (slaveAddr : UInt8) (r : Int) (data : List UInt8) :
    q.reply slaveAddr r data = q.exceptionReply r modbusExceptionIllegalDataValue := by
  unfold QuantityRefused at href
  unfold Query.reply
  rcases hf.service with ⟨k, hserv, hmax⟩ | ⟨k, hserv, hmax⟩
  · rw [hserv]
    exact if_neg (by omega)
  · rw [hserv]
    exact if_neg (by omega)

/-! ## §1 — the master. -/

/-- Beyond the address space the request is refused, and nothing is sent. -/
def MasterInRange {port : Port σ} (T : Tap port) (smb : Smb σ) (w : σ) (old : Buffer UInt8 n) (f : UInt8)
    (addr num : Int) (writeData : List UInt8) : Prop :=
  65536 < addr + num → ∃ smb' w', modbusStartRequest smb w old f.toNat addr num writeData =
    .ok (modbusFailRequest, smb', w', old) ∧ T.sent w' = T.sent w

theorem masterInRange_iff {smb : Smb σ} {core : Core} {port : Port σ} (h : Ready smb core port) (T : Tap port)
    (w : σ) (old : Buffer UInt8 n) (hn : modbusMaxAduLength ≤ n) {f : UInt8} (hf : MultiItem f) (addr num : Int)
    (writeData : List UInt8) :
    MasterInRange T smb w old f addr num writeData ↔ addr + num ≤ 65536 ∨ QuantityRefused f (toU16 num) := by
  rw [quantityRefused_iff hf (toU16 addr)]
  constructor
  · intro hrange
    by_contra hno
    obtain ⟨hbeyond, hcheck⟩ := not_or.mp hno
    obtain ⟨smb', w', hrun, hsent⟩ := hrange (by omega)
    -- what passes the check and returns has sent a frame or returned no negative code
    rcases modbusStartRequest_sent h T hn (by rw [toU8_toNat]; exact not_not.mp hcheck) hrun with h0 | ⟨frame, hframe⟩
    · exact absurd h0 (by decide)
    · rw [hsent] at hframe
      simpa using congrArg List.length hframe
  · rintro (hin | hcheck) hbeyond
    · omega
    · exact ⟨smb, w, modbusStartRequest_refused h.contextCheck (by rwa [toU8_toNat]) w old writeData, rfl⟩

/-! ## §2 — the slave. -/

/-- Beyond the address space an accepted request is answered with an exception and without a call. -/
def SlaveInRange {port : Port σ} (T : Tap port) (core : Core) (smb : Smb σ) (fuel : Nat) (w w₁ : σ) (t : Int)
    (q : Query) (cb : SlaveCallback κ) (app : κ) : Prop :=
  65536 < q.address.toNat + q.num.toNat → ∃ ret smb' w' app' reply,
    modbusSlaveWaitHandle fuel smb w (some cb.watched) (app, []) t = .ok (ret, smb', w', app', []) ∧
      T.sent w' = T.sent w₁ ++ [reply] ∧ ExceptionReply core q.function reply

section Accepted

variable {smb : Smb σ} {core : Core} {port : Port σ} (h : Ready smb core port) {fuel : Nat} {w w₁ : σ} {t : Int}
  {tid : UInt16} {frame : List UInt8}
  (hok : modbusSlaveWait fuel smb w smb.readBuff t =
    .ok ((frame.length : Nat), core.adopt smb tid, w₁, smb.readBuff.fill frame))
  {q : Query} (hin : q.In core (smb.readBuff.fill frame)) (hf : MultiItem q.function) (cb : SlaveCallback κ) (app : κ)

include h hok hin hf

/-- A quantity that is not refused is passed to the callback. -/
theorem modbusSlaveWaitHandle_calls (hquantity : ¬ QuantityRefused q.function q.num) {ret : Int} {smb' : Smb σ}
    {w' : σ} {app' : κ} {log : List Call}
    (hrun : modbusSlaveWaitHandle fuel smb w (some cb.watched) (app, []) t = .ok (ret, smb', w', app', log)) :
    log ≠ [] := by
  obtain ⟨⟨r, data, app₁, log₁⟩, hcall⟩ : ∃ x, q.call core (core.adopt smb tid) (smb.readBuff.fill frame)
    (some cb.watched) (app, []) = x := ⟨_, rfl⟩
  by_cases hfits : q.Fits r
  · obtain ⟨rb, wb, hrun'⟩ := modbusSlaveWaitHandle_handled h hok hin _ _ hcall hfits rfl
    rw [hrun'] at hrun
    cases hrun
    -- the watched callback has recorded its call
    have hlog := congrArg (fun x => x.2.2.2) hcall
    unfold QuantityRefused at hquantity
    unfold Query.call at hlog
    rw [hf.items_eq, if_pos (by omega)] at hlog
    rintro rfl
    simp [callResult, SlaveCallback.watched] at hlog
  · exact absurd hrun (modbusSlaveWaitHandle_overrun h hok hin _ _ hcall hfits _)

/-- One that is refused is answered with an exception, and there is no call. -/
theorem modbusSlaveWaitHandle_excepts (T : Tap port) (hquantity : QuantityRefused q.function q.num) :
    ∃ ret smb' w' reply,
      modbusSlaveWaitHandle fuel smb w (some cb.watched) (app, []) t = .ok (ret, smb', w', app, []) ∧
        T.sent w' = T.sent w₁ ++ [reply] ∧ ExceptionReply core q.function reply := by
  have hnone : q.items = none := by
    unfold QuantityRefused at hquantity
    rw [hf.items_eq, if_neg (by omega)]
  have hcall : q.call core (core.adopt smb tid) (smb.readBuff.fill frame) (some cb.watched) (app, []) =
      (0, [], app, []) := by
    unfold Query.call
    rw [hnone]
  have hfits : q.Fits 0 := Query.fits_of_lt (by decide)
  obtain ⟨rb, wb, hrun⟩ := modbusSlaveWaitHandle_handled h hok hin _ _ hcall hfits rfl
  refine ⟨_, _, _, core.adu tid smb.slaveAddr (q.reply smb.slaveAddr 0 []), hrun, ?_, ?_⟩
  · rw [h.write T.writeFn]
    exact T.sent_write _ _
  · rw [hf.reply_refused hquantity]
    exact exceptionReply_adu.mpr rfl

end Accepted

theorem slaveInRange_iff {smb : Smb σ} {core : Core} {port : Port σ} (h : Ready smb core port) {F : Feed port}
    (hF : F.Clean) (T : Tap port) {fuel : Nat} {w w₁ : σ} {t len : Int} {smb₁ : Smb σ}
    {request : Buffer UInt8 modbusMaxAduLength}
    (hwait : modbusSlaveWait fuel smb w smb.readBuff t = .ok (len, smb₁, w₁, request)) (hlen : 0 ≤ len) {q : Query}
    (hin : q.In core request) (hf : MultiItem q.function) (cb : SlaveCallback κ) (app : κ) :
    SlaveInRange T core smb fuel w w₁ t q cb app ↔
      q.address.toNat + q.num.toNat ≤ 65536 ∨ QuantityRefused q.function q.num := by
  rcases slaveStep_cases hF h (some cb.watched) (app, []) fuel w t with
    ⟨hout, -⟩ | ⟨ret, w₂, taken, hneg, -, hok, -⟩ | ⟨tid, a, pdu, w₂, q', ha, hsize, hadu, hs, hok, hin'⟩
  · rw [hout] at hwait
    cases hwait
  · rw [hok] at hwait
    cases hwait
    omega
  rw [hok] at hwait
  cases hwait
  obtain rfl := hin.unique hin'
  constructor
  · intro hrange
    by_contra hno
    obtain ⟨hbeyond, hquantity⟩ := not_or.mp hno
    obtain ⟨ret, smb', w', app', reply, hrun, -⟩ := hrange (by omega)
    exact modbusSlaveWaitHandle_calls h hok hin hf cb app hquantity hrun rfl
  · rintro (hrange | hquantity) hbeyond
    · omega
    · obtain ⟨ret, smb', w', reply, hrun, hsent, hreply⟩ :=
        modbusSlaveWaitHandle_excepts h hok hin hf cb app T hquantity
      exact ⟨ret, smb', w', app, reply, hrun, hsent, hreply⟩

/-! ## §3 — both of them. -/

/-- **Address ranges stay in the 16-bit space exactly when the quantity alone decides**: a request of the
master, and the answer of a slave to whatever frame it accepts, are as they should be if and only if the
items end at address 65535 or the quantity is refused anyway. -/
theorem address_range_iff {smb : Smb σ} {core : Core} {port : Port σ} (h : Ready smb core port) (T : Tap port)
    (w : σ) :
    (∀ (n : Nat) (old : Buffer UInt8 n), modbusMaxAduLength ≤ n → ∀ f, MultiItem f →
      ∀ (addr num : Int) (writeData : List UInt8),
        (MasterInRange T smb w old f addr num writeData ↔
          addr + num ≤ 65536 ∨ QuantityRefused f (toU16 num))) ∧
      ∀ (F : Feed port), F.Clean → ∀ (fuel : Nat) (t len : Int) (smb₁ : Smb σ) (w₁ : σ)
        (request : Buffer UInt8 modbusMaxAduLength) (q : Query),
        modbusSlaveWait fuel smb w smb.readBuff t = .ok (len, smb₁, w₁, request) → 0 ≤ len → q.In core request →
        MultiItem q.function → ∀ (cb : SlaveCallback κ) (app : κ),
          (SlaveInRange T core smb fuel w w₁ t q cb app ↔
            q.address.toNat + q.num.toNat ≤ 65536 ∨ QuantityRefused q.function q.num) := by
  constructor
  · intro n old hn f hf addr num writeData
    exact masterInRange_iff h T w old hn hf addr num writeData
  · intro F hF fuel t len smb₁ w₁ request q hwait hlen hin hf cb app
    exact slaveInRange_iff h hF T hwait hlen hin hf cb app

/-- The last two registers can be asked for. -/
theorem address_range_iff_last :
    MasterInRange Wire.tap (newContext .rtu Wire.port 1) ⟨[], [], []⟩ (Buffer.replicate 260 0) 3 65534 2 [] :=
  ((@address_range_iff Wire Unit _ _ _ (newContext_ready .rtu Wire.port 1) Wire.tap ⟨[], [], []⟩).1 260
    (Buffer.replicate 260 0) le_rfl 3 (Or.inr (Or.inr (Or.inl rfl))) 65534 2 []).mpr (Or.inl (by decide))

/-- Two registers at address 65535: the master sends the request, and the slave calls its callback for them. -/
theorem address_range_beyond :
    ¬ MasterInRange Wire.tap (newContext .tcp Wire.port 1) ⟨[], [], []⟩ (Buffer.replicate 260 0) 3 65535 2 [] ∧
      (modbusSlaveWaitHandle 600 (newContext .tcp Wire.port 1) ⟨[0, 1, 0, 0, 0, 6, 1, 3, 0xFF, 0xFF, 0, 2], [], []⟩
        (some (returning 2).watched) ((), []) (-1)).map (fun x => x.2.2.2.2) =
          .ok [⟨3, 65535, 2, [0, 0, 0, 0]⟩] := by
  refine ⟨fun hrange => ?_, by decide +kernel⟩
  obtain ⟨smb', w', hrun, -⟩ := hrange (by decide)
  have hsent : (modbusStartRequest (newContext .tcp Wire.port 1) ⟨[], [], []⟩ (Buffer.replicate 260 0)
      (3 : UInt8).toNat 65535 2 []).map (fun x => x.1) = .ok 12 := by decide +kernel
  rw [hrun] at hsent
  cases hsent

end SmallModbus
