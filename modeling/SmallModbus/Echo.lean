/-
# `SmallModbus.Echo` — the MBAP header of a reply against the header of its request.

The header of a reply is rebuilt from fields of the context: the transaction id that the check of the
request left in `transfer_id`, and the slave's own address. `SlaveRun` is any sequence of accepted and
rejected frames, whatever the callback does, with changes of the context in between. In every state of such
a run the reply to a frame that is accepted next has its transaction id and protocol id, and its unit id
exactly if this is the slave's address, which for a broadcast it is not (`mbap_echo_iff`).

No assumption is made about the port: what it hands over, and whether its reads fail, does not matter here.
-/
import Mathlib.Logic.Relation
import SmallModbus.Gating

namespace SmallModbus

open SmallModbus.Lib

variable {σ κ : Type} {n : Nat} {port : Port σ}

/-! ## §1 — the wait never reports a failure as a success. -/

/-- The only failure of the step table is `MODBUS_FAIL`. -/
theorem slaveNextWant_error {core : Core} {b : Buffer UInt8 n} {position readLength position' code : Int}
    (h : slaveNextWant core b position readLength = .ok (position', .error code)) : code < 0 := by
  have hdata : ∀ {position' code : Int}, slaveDataWant core b readLength = .ok (position', .error code) →
      code < 0 := by
    intro position' code h
    unfold slaveDataWant at h
    obtain ⟨f, -, h⟩ := bind_eq_ok.mp h
    dsimp only at h
    -- the three ways the byte count is read differ in nothing else
    split_ifs at h
    all_goals
      obtain ⟨want, -, h⟩ := bind_eq_ok.mp h
      split_ifs at h <;> cases h
      decide
  unfold slaveNextWant at h
  split at h
  · obtain ⟨f, -, h⟩ := bind_eq_ok.mp h
    dsimp only at h
    split at h
    · cases h
    · exact hdata h
  · split at h
    · exact hdata h
    · cases h

/-- A reception loop that fails, fails with a negative code. -/
theorem receiveLoop_error {next : NextWant n} {smb : Smb σ}
    (hnext : ∀ {b : Buffer UInt8 n} {position readLength position' code : Int},
      next b position readLength = .ok (position', .error code) → code < 0) :
    ∀ (fuel : Nat) {w w' : σ} {b b' : Buffer UInt8 n} {position readWant readLength t code : Int},
      receiveLoop next smb fuel w b position readWant readLength t = .ok (.error code, w', b') → code < 0 := by
  intro fuel
  induction fuel with
  | zero => intro w w' b b' position readWant readLength t code h; cases h
  | succ fuel ih =>
    intro w w' b b' position readWant readLength t code h
    rw [receiveLoop] at h
    split at h
    · obtain ⟨⟨ret, w₁, b₁⟩, -, h⟩ := bind_eq_ok.mp h
      dsimp only at h
      split at h
      · rename_i hneg
        cases h
        exact hneg
      · split_ifs at h
        · obtain ⟨⟨position₁, verdict⟩, hverdict, h⟩ := bind_eq_ok.mp h
          cases verdict with
          | error code₁ =>
            cases h
            exact hnext hverdict
          | ok want => exact ih h
        · exact ih h
    · cases h

/-- An accepted TCP request has protocol id 0, and the context its transaction id. -/
theorem modbusSlaveWait_header {smb smb' : Smb σ} (h : Ready smb .tcp port) {fuel : Nat} {w w' : σ}
    {old request : Buffer UInt8 n} {t ret : Int}
    (hrun : modbusSlaveWait fuel smb w old t = .ok (ret, smb', w', request)) (hret : 0 < ret) :
    smb'.slaveAddr = smb.slaveAddr ∧
      request.toList.take 4 = [highByte smb'.transferId.toNat, lowByte smb'.transferId.toNat, 0, 0] := by
  rcases modbusSlaveWait_context h hrun with ⟨code, hloop, rfl, -⟩ | ⟨length, hcheck⟩
  · have := receiveLoop_error slaveNextWant_error fuel hloop
    omega
  · rcases tcpCheckWaitRequest_cases hcheck with ⟨hneg, -⟩ | ⟨b0, b1, h0, h1, h2, h3, rfl⟩
    · omega
    · obtain ⟨hhi, hlo⟩ := toU16_word_eq_iff.mp (rfl : toU16 (word b0 b1) = toU16 (word b0 b1))
      refine ⟨rfl, ?_⟩
      show request.toList.take 4 = [highByte (toU16 (word b0 b1)).toNat, lowByte (toU16 (word b0 b1)).toNat, 0, 0]
      rw [← hhi, ← hlo]
      rw [Buffer.load_eq_ok_iff] at h0 h1 h2 h3
      match hl : request.toList with
      | [] => rw [hl] at h0; cases h0
      | [_] => rw [hl] at h1; cases h1
      | [_, _] => rw [hl] at h2; cases h2
      | [_, _, _] => rw [hl] at h3; cases h3
      | c0 :: c1 :: c2 :: c3 :: rest =>
        rw [hl] at h0 h1 h2 h3
        cases h0; cases h1; cases h2; cases h3
        rfl

/-! ## §2 — runs of the slave. -/

/-- A slave: its context, the device of its port, the state of the application behind the callback. -/
structure SlaveState (σ κ : Type) where
  smb : Smb σ
  device : σ
  app : κ

/-- A step of a slave. The frames come from the device, accepted or not, and the callback may be another one
each time. Between two calls the application may change its own state and every field of the context but
the three that bind it. -/
inductive SlaveStep : SlaveState σ κ → SlaveState σ κ → Prop
  /-- `modbus_slave_wait` -/
  | wait {s : SlaveState σ κ} {fuel n : Nat} {old request : Buffer UInt8 n} {t ret : Int} {smb' : Smb σ} {w' : σ} :
      modbusSlaveWait fuel s.smb s.device old t = .ok (ret, smb', w', request) →
      SlaveStep s ⟨smb', w', s.app⟩
  /-- `modbus_slave_handle` -/
  | handle {s : SlaveState σ κ} {n : Nat} {request request' : Buffer UInt8 n} {len : UInt16}
      {cb : Option (SlaveCallback κ)} {ret : Int} {smb' : Smb σ} {w' : σ} {app' : κ} :
      modbusSlaveHandle s.smb s.device request len cb s.app = .ok (ret, smb', w', request', app') →
      SlaveStep s ⟨smb', w', app'⟩
  /-- `modbus_slave_wait_handle` -/
  | waitHandle {s : SlaveState σ κ} {fuel : Nat} {cb : Option (SlaveCallback κ)} {t ret : Int} {smb' : Smb σ}
      {w' : σ} {app' : κ} :
      modbusSlaveWaitHandle fuel s.smb s.device cb s.app t = .ok (ret, smb', w', app') →
      SlaveStep s ⟨smb', w', app'⟩
  /-- the application, and whatever happens to the device -/
  | other (s : SlaveState σ κ) (smb' : Smb σ) (w' : σ) (app' : κ) :
      smb'.modbusMagic = s.smb.modbusMagic → smb'.core = s.smb.core → smb'.port = s.smb.port →
      SlaveStep s ⟨smb', w', app'⟩

/-- A run of a slave. -/
abbrev SlaveRun : SlaveState σ κ → SlaveState σ κ → Prop := Relation.ReflTransGen SlaveStep

theorem SlaveStep.ready {s s' : SlaveState σ κ} {core : Core} (h : Ready s.smb core port)
    (hstep : SlaveStep s s') : Ready s'.smb core port := by
  cases hstep with
  | wait hrun => exact modbusSlaveWait_ready h hrun
  | handle hrun => exact modbusSlaveHandle_ready h hrun
  | waitHandle hrun => exact modbusSlaveWaitHandle_ready h hrun
  | other smb' w' app' hmagic hcore hport =>
    exact h.congr hmagic hcore hport

/-- A run keeps the context bound to its core and its port. -/
theorem SlaveRun.ready {s s' : SlaveState σ κ} {core : Core} (hrun : SlaveRun s s')
    (h : Ready s.smb core port) : Ready s'.smb core port := by
  induction hrun with
  | refl => exact h
  | tail _ hstep ih => exact hstep.ready ih

/-! ## §3 — the header of the reply. -/

/-- The reply has the transaction id, the protocol id and the unit id of the request. -/
def MbapEchoed (request reply : List UInt8) : Prop :=
  reply.take 4 = request.take 4 ∧ reply[6]? = request[6]?

instance (request reply : List UInt8) : Decidable (MbapEchoed request reply) :=
  inferInstanceAs (Decidable (_ ∧ _))

/-- The header of a TCP frame. -/
theorem tcp_adu_header (tid : UInt16) (a : UInt8) (pdu : List UInt8) :
    (Core.tcp.adu tid a pdu).take 4 = [highByte tid.toNat, lowByte tid.toNat, 0, 0] ∧
      (Core.tcp.adu tid a pdu)[6]? = some a := ⟨rfl, rfl⟩

/-- What `modbus_slave_handle` does with the port, when it returns: it writes the frame of a PDU under the
transaction id of the context and the address of the slave, and returns what the port returned. -/
theorem modbusSlaveHandle_writes {smb smb' : Smb σ} {core : Core} (h : Ready smb core port)
    {write : σ → List UInt8 → Int × σ} (hwrite : port.writeFn = some write) (hn : modbusMaxAduLength ≤ n) {w w' : σ}
    {request request' : Buffer UInt8 n} {len : UInt16} {cb : Option (SlaveCallback κ)} {app app' : κ} {ret : Int}
    (hrun : modbusSlaveHandle smb w request len cb app = .ok (ret, smb', w', request', app')) :
    ∃ pdu, (ret, w') = write w (core.adu smb.transferId smb.slaveAddr pdu) := by
  obtain ⟨q, hin⟩ := Query.exists_in core request hn
  obtain ⟨⟨r, data, app₁⟩, hcall⟩ : ∃ x, q.call core smb request cb app = x := ⟨_, rfl⟩
  by_cases hfits : q.Fits r
  · obtain ⟨writeBuff', request₁, hok⟩ := modbusSlaveHandle_eq hin hn cb app h hwrite w len hcall hfits
    rw [hok] at hrun
    cases hrun
    exact ⟨_, rfl⟩
  · exact absurd hrun (modbusSlaveHandle_overrun hin cb app h w len hcall hfits _)

theorem modbusSlaveHandle_sent {smb smb' : Smb σ} {core : Core} (h : Ready smb core port) (T : Tap port)
    (hn : modbusMaxAduLength ≤ n) {w w' : σ} {request request' : Buffer UInt8 n} {len : UInt16}
    {cb : Option (SlaveCallback κ)} {app app' : κ} {ret : Int}
    (hrun : modbusSlaveHandle smb w request len cb app = .ok (ret, smb', w', request', app')) :
    ∃ pdu, T.sent w' = T.sent w ++ [core.adu smb.transferId smb.slaveAddr pdu] := by
  obtain ⟨pdu, hwritten⟩ := modbusSlaveHandle_writes h T.writeFn hn hrun
  exact ⟨pdu, by rw [← T.sent_write, ← hwritten]⟩

/-- `modbus_slave_wait_handle` returns the error of the wait, or answers what the wait accepted. -/
theorem modbusSlaveWaitHandle_cases {smb smb' : Smb σ} {core : Core} (h : Ready smb core port)
    {write : σ → List UInt8 → Int × σ} (hwrite : port.writeFn = some write) {fuel : Nat} {w w' : σ}
    {cb : Option (SlaveCallback κ)} {app app' : κ} {t rc : Int}
    (hrun : modbusSlaveWaitHandle fuel smb w cb app t = .ok (rc, smb', w', app')) :
    ∃ ret smb₁ w₁ request, modbusSlaveWait fuel smb w smb.readBuff t = .ok (ret, smb₁, w₁, request) ∧
      (ret < 0 ∧ rc = ret ∧ w' = w₁ ∨
        0 ≤ ret ∧ ∃ pdu, (rc, w') = write w₁ (core.adu smb₁.transferId smb₁.slaveAddr pdu)) := by
  unfold modbusSlaveWaitHandle at hrun
  simp only [h.contextCheck, ne_eq, not_true, if_false] at hrun
  obtain ⟨⟨ret, smb₁, w₁, request⟩, hwait, hrun⟩ := bind_eq_ok.mp hrun
  refine ⟨ret, smb₁, w₁, request, hwait, ?_⟩
  dsimp only at hrun
  split at hrun
  · rename_i hneg
    cases hrun
    exact Or.inl ⟨hneg, rfl, rfl⟩
  · rename_i hpos
    obtain ⟨⟨ret₂, smb₂, w₂, request₂, app₂⟩, hhandle, hrun⟩ := bind_eq_ok.mp hrun
    cases hrun
    have h₁ := modbusSlaveWait_ready h hwait
    have h₂ : Ready { smb₁ with readBuff := request } core port := h₁.congr rfl rfl rfl
    obtain ⟨pdu, hwritten⟩ := modbusSlaveHandle_writes h₂ hwrite le_rfl hhandle
    exact Or.inr ⟨by omega, pdu, hwritten⟩

/-- **The header of the reply**, after any run of the slave and whatever the callback does: a frame that
`modbus_slave_wait` accepts and `modbus_slave_handle` answers gets its transaction id and its protocol id
back, and its unit id exactly if this is the address of the slave. -/
theorem mbap_echo_iff (T : Tap port) {s₀ s : SlaveState σ κ} (h : Ready s₀.smb .tcp port)
    (hrun : SlaveRun s₀ s) (hn : modbusMaxAduLength ≤ n) {fuel : Nat} {t ret ret₂ : Int} {smb₁ smb₂ : Smb σ}
    {w₁ w₂ : σ} {old request request₂ : Buffer UInt8 n} {cb : Option (SlaveCallback κ)} {app₂ : κ}
    (hwait : modbusSlaveWait fuel s.smb s.device old t = .ok (ret, smb₁, w₁, request)) (hret : 0 < ret)
    (hhandle : modbusSlaveHandle smb₁ w₁ request (toU16 ret) cb s.app =
      .ok (ret₂, smb₂, w₂, request₂, app₂)) :
    ∃ reply, T.sent w₂ = T.sent w₁ ++ [reply] ∧ reply.take 4 = request.toList.take 4 ∧
      (MbapEchoed request.toList reply ↔ request.toList[6]? = some s.smb.slaveAddr) := by
  have hready := hrun.ready h
  obtain ⟨haddr, hrequest⟩ := modbusSlaveWait_header hready hwait hret
  obtain ⟨pdu, hsent⟩ := modbusSlaveHandle_sent (modbusSlaveWait_ready hready hwait) T hn hhandle
  obtain ⟨hhead, haddress⟩ := tcp_adu_header smb₁.transferId smb₁.slaveAddr pdu
  have htake : (Core.tcp.adu smb₁.transferId smb₁.slaveAddr pdu).take 4 = request.toList.take 4 := by
    rw [hhead, hrequest]
  refine ⟨_, hsent, htake, ?_⟩
  unfold MbapEchoed
  rw [haddress, haddr]
  exact ⟨fun hechoed => hechoed.2.symm, fun hown => ⟨htake, hown.symm⟩⟩

/-- A request for the report of slave 17, after one for another slave. -/
theorem mbap_echo_iff_second :
    ∃ s w₁ w₂ reply, ∃ request : Buffer UInt8 modbusMaxAduLength,
      SlaveRun ⟨newContext .tcp Wire.port 17, ⟨[0, 1, 0, 0, 0, 2, 5, 0x11, 0, 2, 0, 0, 0, 2, 17, 0x11], [], []⟩, ()⟩
          s ∧
        request.toList.take 8 = [0, 2, 0, 0, 0, 2, 17, 0x11] ∧
        Wire.tap.sent w₂ = Wire.tap.sent w₁ ++ [reply] ∧ MbapEchoed request.toList reply := by
  have hall : (do
      let x ← modbusSlaveWait 9 (newContext .tcp Wire.port 17)
        ⟨[0, 1, 0, 0, 0, 2, 5, 0x11, 0, 2, 0, 0, 0, 2, 17, 0x11], [], []⟩ (Buffer.replicate 260 0) 5
      let y ← modbusSlaveWait 9 x.2.1 x.2.2.1 (Buffer.replicate 260 0) 5
      let z ← modbusSlaveHandle y.2.1 y.2.2.1 y.2.2.2 (toU16 y.1) (none : Option (SlaveCallback Unit)) ()
      return (x.1, y.1, y.2.2.2.toList.take 8, x.2.1.slaveAddr, z.1)) =
      Except.ok (modbusFailAdrr, 8, [0, 2, 0, 0, 0, 2, 17, 0x11], 17, 18) := by decide +kernel
  simp only [bind_eq_ok] at hall
  obtain ⟨⟨ret, smb, w, rejected⟩, hx, ⟨ret₁, smb₁, w₁, request⟩, hy, ⟨ret₂, smb₂, w₂, request₂, ⟨⟩⟩, hz, hall⟩ :=
    hall
  simp only [exec_pure, Except.ok.injEq, Prod.mk.injEq] at hall
  obtain ⟨-, hret, hrequest, haddr, -⟩ := hall
  have hrun : SlaveRun (⟨newContext .tcp Wire.port 17, _, ()⟩ : SlaveState Wire Unit) ⟨smb, w, ()⟩ :=
    .single (.wait hx)
  obtain ⟨reply, hsent, -, hiff⟩ := mbap_echo_iff Wire.tap (newContext_ready .tcp Wire.port 17) hrun le_rfl hy
    (by omega) hz
  refine ⟨_, _, _, reply, request, hrun, hrequest, hsent, hiff.mpr ?_⟩
  have hunit : request.toList[6]? = (request.toList.take 8)[6]? := (List.getElem?_take_of_lt (by decide)).symm
  rw [hunit, hrequest, haddr]
  rfl

/-- The same request, broadcast: the reply comes from unit 17. -/
theorem mbap_broadcast_not_echoed :
    (modbusSlaveWaitHandle 9 (newContext .tcp Wire.port 17) ⟨[0, 1, 0, 0, 0, 2, 0, 0x11], [], []⟩
      (none : Option (SlaveCallback Unit)) () 5).toOption.map (fun x => x.2.2.1.tx) =
        some [[0, 1, 0, 0, 0, 12, 17, 0x11, 9, 17, 0xFF, 0x53, 0x4D, 0x4F, 0x44, 0x42, 0x55, 0x53]] ∧
      ¬ MbapEchoed [0, 1, 0, 0, 0, 2, 0, 0x11]
        [0, 1, 0, 0, 0, 12, 17, 0x11, 9, 17, 0xFF, 0x53, 0x4D, 0x4F, 0x44, 0x42, 0x55, 0x53] := by
  decide +kernel

end SmallModbus
