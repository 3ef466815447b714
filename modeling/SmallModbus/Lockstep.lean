/-
# `SmallModbus.Lockstep` — two ports that cannot be told apart by the two waits.

`modbus_want_read` waits only after a read that returned less than it was asked for. So two ports need to
agree on their waits only where such a read leaves them: `Lockstep F G rel dry` says that reads agree in
states related by `rel`, that a short read leaves states related by `dry`, and that waits agree there. Then
`modbus_slave_wait`, `modbus_wait_confirm` and a master operation return the same on both, and leave the
states related (`Lockstep.slaveWait`, `Lockstep.waitConfirm`, `Lockstep.operation`).

With one port on both sides it is an invariant that the waits need to keep only after a short read
(`Kept`), and it holds in every state of every run of calls (`Kept.run`).
-/
import Mathlib.Logic.Relation
import SmallModbus.Lib.Refine
import SmallModbus.Request
import SmallModbus.Receive

namespace SmallModbus

open SmallModbus.Lib

variable {σ τ : Type} {n : Nat}

/-! ## §1 — a context on another port. -/

/-- The same context, bound to another port. -/
def Smb.onPort (smb : Smb σ) (port : Port τ) : Smb τ where
  modbusMagic := smb.modbusMagic
  deviceMode := smb.deviceMode
  slaveAddr := smb.slaveAddr
  debugLevel := smb.debugLevel
  transferId := smb.transferId
  protocolId := smb.protocolId
  status := smb.status
  errorCode := smb.errorCode
  timeoutFrame := smb.timeoutFrame
  timeoutByte := smb.timeoutByte
  readBuff := smb.readBuff
  writeBuff := smb.writeBuff
  core := smb.core
  port := some port

theorem Ready.onPort {smb : Smb σ} {core : Core} {port : Port σ} (h : Ready smb core port) (port₂ : Port τ) :
    Ready (smb.onPort port₂) core port₂ := ⟨h.magic, h.core_eq, rfl⟩

/-- On its own port the context is what it was. -/
theorem Ready.onPort_self {smb : Smb σ} {core : Core} {port : Port σ} (h : Ready smb core port) :
    smb.onPort port = smb := by
  cases smb
  rw [Smb.onPort, ← h.port_eq]

/-! ## §2 — ports in lockstep. -/

/-- Reads agree, and so do the waits that follow a read of less than was asked for. -/
structure Lockstep {port₁ : Port σ} {port₂ : Port τ} (F : Feed port₁) (G : Feed port₂)
    (rel dry : σ → τ → Prop) : Prop where
  count_eq : ∀ {w v}, rel w v → ∀ len, (G.read v len).1 = (F.read w len).1
  bytes_eq : ∀ {w v}, rel w v → ∀ len, (G.read v len).2.1 = (F.read w len).2.1
  rel_read : ∀ {w v}, rel w v → ∀ len, rel (F.read w len).2.2 (G.read v len).2.2
  dry_read : ∀ {w v}, rel w v → ∀ len : UInt16, (F.read w len).1 < len.toNat →
    dry (F.read w len).2.2 (G.read v len).2.2
  code_eq : ∀ {w v}, dry w v → ∀ t, (G.wait v t).1 = (F.wait w t).1
  rel_wait : ∀ {w v}, dry w v → ∀ t, rel (F.wait w t).2 (G.wait v t).2

/-- Equal values, related devices, equal buffers. -/
def SameOn {α β : Type} (rel : σ → τ → Prop) (x : α × σ × β) (y : α × τ × β) : Prop :=
  x.1 = y.1 ∧ rel x.2.1 y.2.1 ∧ x.2.2 = y.2.2

/-- Equal values, the same context on the other port, related devices, equal buffers. -/
def SameWith {β : Type} (port₂ : Port τ) (rel : σ → τ → Prop) (x : Int × Smb σ × σ × β) (y : Int × Smb τ × τ × β) :
    Prop :=
  x.1 = y.1 ∧ y.2.1 = x.2.1.onPort port₂ ∧ rel x.2.2.1 y.2.2.1 ∧ x.2.2.2 = y.2.2.2

/-! ### What does not look at the port -/

theorem checkWaitRequest_onPort (core : Core) (smb : Smb σ) (port₂ : Port τ) (b : Buffer UInt8 n) (length : Int) :
    Exec.Rel (fun x y => x.1 = y.1 ∧ y.2 = x.2.onPort port₂) (core.checkWaitRequest smb b length)
      (core.checkWaitRequest (smb.onPort port₂) b length) := by
  cases core with
  | rtu =>
    apply Exec.Rel.bind_same
    intro ret
    exact .ok ⟨rfl, rfl⟩
  | tcp =>
    apply Exec.Rel.bind_same
    intro b4
    apply Exec.Rel.bind_same
    intro b5
    apply Exec.Rel.bind_same
    intro addr
    apply Exec.Rel.bind_same
    intro b2
    apply Exec.Rel.bind_same
    intro b3
    show Exec.Rel _ _ (if b2 = 0x00 ∧ b3 = 0x00 then
      if length - (word b4 b5 : Nat) = 6 then
        if addr = smb.slaveAddr ∨ addr = modbusBroadcastAddress then _ else _
      else _
    else _)
    split_ifs
    · apply Exec.Rel.bind_same
      intro b0
      apply Exec.Rel.bind_same
      intro b1
      exact .ok ⟨rfl, rfl⟩
    all_goals exact .ok ⟨rfl, rfl⟩

theorem checkWaitResponse_onPort (core : Core) (smb : Smb σ) (port₂ : Port τ) (b : Buffer UInt8 n) (length : Int) :
    core.checkWaitResponse (smb.onPort port₂) b length = core.checkWaitResponse smb b length := by
  cases core <;> rfl

theorem buildRequestHeader_onPort {smb : Smb σ} {core : Core} {port₁ : Port σ} (h : Ready smb core port₁)
    (port₂ : Port τ) (b : Buffer UInt8 n) (slave function reg num : Int) :
    Exec.Rel (fun x y => x.1 = y.1 ∧ y.2.1 = x.2.1.onPort port₂ ∧ x.2.2 = y.2.2 ∧ Ready x.2.1 core port₁)
      (core.buildRequestHeader smb b slave function reg num)
      (core.buildRequestHeader (smb.onPort port₂) b slave function reg num) := by
  have h' : Ready { smb with transferId := smb.transferId + 1 } core port₁ := h.congr rfl rfl rfl
  cases core with
  | rtu =>
    repeat' (refine Exec.Rel.bind_same _ fun _ => ?_)
    exact .ok ⟨rfl, rfl, rfl, h⟩
  | tcp =>
    repeat' (refine Exec.Rel.bind_same _ fun _ => ?_)
    exact .ok ⟨rfl, rfl, rfl, h'⟩

theorem checkSendPre_onPort (core : Core) (smb : Smb σ) (port₂ : Port τ) (b : Buffer UInt8 n) (length : Nat) :
    core.checkSendPre (smb.onPort port₂) b length = core.checkSendPre smb b length := by
  cases core <;> rfl

section Waits

variable {port₁ : Port σ} {port₂ : Port τ} {F : Feed port₁} {G : Feed port₂} {rel dry : σ → τ → Prop}
  (hS : Lockstep F G rel dry) (hF : F.Clean) {smb : Smb σ} {core : Core} (h : Ready smb core port₁)

include hS hF h

/-- `modbus_want_read` in lockstep. The induction is on the rounds; a round that goes on had a short read. -/
theorem Lockstep.wantReadLoop (off : Nat) (len : UInt16) (t : Int) :
    ∀ (fuel : Nat) {w : σ} {v : τ} (b : Buffer UInt8 n) {readLen : UInt16}, rel w v →
      readLen.toNat ≤ len.toNat →
      Exec.Rel (SameOn rel) (SmallModbus.wantReadLoop smb off len t fuel w b readLen)
        (SmallModbus.wantReadLoop (smb.onPort port₂) off len t fuel v b readLen) := by
  have h₂ := h.onPort port₂
  intro fuel
  induction fuel with
  | zero =>
    intro w v b readLen _ _
    exact .error .fuel
  | succ fuel ih =>
    intro w v b readLen hrel hle
    obtain ⟨ask, hask⟩ : ∃ ask, ask = toU16 ((len.toNat : Int) - readLen.toNat) := ⟨_, rfl⟩
    have hlt := len.toNat_lt
    have hasklen : ask.toNat = len.toNat - readLen.toNat := by
      rw [hask, toNat_toU16_of_lt (by omega) (by omega)]
      omega
    have hnn := hF w ask
    have hcount := F.read_le w ask
    have hsum : (toU16 ((readLen.toNat : Int) + (F.read w ask).1)).toNat =
        readLen.toNat + (F.read w ask).1.toNat := by
      rw [toNat_toU16_of_lt (by omega) (by omega)]
      omega
    have hrel' := hS.rel_read hrel ask
    rw [SmallModbus.wantReadLoop, SmallModbus.wantReadLoop, h.read F.readFn, h₂.read G.readFn, ← hask]
    dsimp only
    rw [hS.count_eq hrel, hS.bytes_eq hrel]
    apply Exec.Rel.bind_same
    intro b'
    rw [hsum]
    split
    · exact .ok ⟨rfl, hrel', rfl⟩
    · rename_i hshort
      -- less than asked for: this is where the waits agree
      have hdry := hS.dry_read hrel ask (by omega)
      have hwait := hS.rel_wait hdry t
      rw [h.wait F.waitFn, h₂.wait G.waitFn, hS.code_eq hdry]
      split
      · exact ih b' hwait (by rw [hsum]; omega)
      · exact .ok ⟨rfl, hwait, rfl⟩

/-- The reception loop in lockstep, whatever its step table does. -/
theorem Lockstep.receiveLoop (next : NextWant n) :
    ∀ (fuel : Nat) {w : σ} {v : τ} (b : Buffer UInt8 n) (position readWant readLength t : Int), rel w v →
      Exec.Rel (SameOn rel) (SmallModbus.receiveLoop next smb fuel w b position readWant readLength t)
        (SmallModbus.receiveLoop next (smb.onPort port₂) fuel v b position readWant readLength t) := by
  intro fuel
  induction fuel with
  | zero =>
    intro w v b position readWant readLength t _
    exact .error .fuel
  | succ fuel ih =>
    intro w v b position readWant readLength t hrel
    rw [SmallModbus.receiveLoop, SmallModbus.receiveLoop]
    split
    · refine (hS.wantReadLoop hF h _ _ t fuel b hrel (Nat.zero_le _)).bind ?_
      rintro ⟨ret, w', b'⟩ ⟨ret₂, v', b₂'⟩ ⟨hret, hrel', hb⟩
      obtain rfl : ret = ret₂ := hret
      obtain rfl : b' = b₂' := hb
      dsimp only
      split
      · exact .ok ⟨rfl, hrel', rfl⟩
      · split
        all_goals
          apply Exec.Rel.bind_same
          rintro ⟨position', verdict⟩
          cases verdict with
          | error code => exact .ok ⟨rfl, hrel', rfl⟩
          | ok want => exact ih b' position' want _ _ hrel'
    · exact .ok ⟨rfl, hrel, rfl⟩

/-- **`modbus_slave_wait` in lockstep.** -/
theorem Lockstep.slaveWait (fuel : Nat) {w : σ} {v : τ} (old : Buffer UInt8 n) (t : Int) (hrel : rel w v) :
    Exec.Rel (SameWith port₂ rel) (modbusSlaveWait fuel smb w old t)
      (modbusSlaveWait fuel (smb.onPort port₂) v old t) := by
  have h₂ := h.onPort port₂
  unfold modbusSlaveWait
  simp only [h.contextCheck, h₂.contextCheck, ne_eq, not_true, if_false, h.coreOf, h₂.coreOf, exec_ok_bind]
  refine (hS.receiveLoop hF h _ fuel old _ _ _ t hrel).bind ?_
  rintro ⟨exit, w', b⟩ ⟨exit₂, v', b₂⟩ ⟨hexit, hrel', hb⟩
  obtain rfl : exit = exit₂ := hexit
  obtain rfl : b = b₂ := hb
  cases exit with
  | error code => exact .ok ⟨rfl, rfl, hrel', rfl⟩
  | ok readLength =>
    refine (checkWaitRequest_onPort core smb port₂ b readLength).bind ?_
    rintro ⟨ret, smb'⟩ ⟨ret₂, smb₂'⟩ ⟨hret, hsmb⟩
    exact .ok ⟨hret, hsmb, hrel', rfl⟩

/-- **`modbus_wait_confirm` in lockstep.** -/
theorem Lockstep.waitConfirm (fuel : Nat) {w : σ} {v : τ} (old : Buffer UInt8 n) (hrel : rel w v) :
    Exec.Rel (SameOn rel) (modbusWaitConfirm fuel smb w old)
      (modbusWaitConfirm fuel (smb.onPort port₂) v old) := by
  have h₂ := h.onPort port₂
  unfold modbusWaitConfirm
  simp only [h.contextCheck, h₂.contextCheck, ne_eq, not_true, if_false, h.coreOf, h₂.coreOf, exec_ok_bind]
  refine (hS.receiveLoop hF h _ fuel old _ _ _ _ hrel).bind ?_
  rintro ⟨exit, w', b⟩ ⟨exit₂, v', b₂⟩ ⟨hexit, hrel', hb⟩
  obtain rfl : exit = exit₂ := hexit
  obtain rfl : b = b₂ := hb
  cases exit with
  | error code => exact .ok ⟨rfl, hrel', rfl⟩
  | ok readLength =>
    dsimp only
    rw [checkWaitResponse_onPort]
    apply Exec.Rel.bind_same
    intro ret
    exact .ok ⟨rfl, hrel', rfl⟩

end Waits

/-! ## §3 — a master operation in lockstep. -/

section Operation

variable {port₁ : Port σ} {port₂ : Port τ} {F : Feed port₁} {G : Feed port₂} {rel dry : σ → τ → Prop}
  (hS : Lockstep F G rel dry) (hF : F.Clean) {smb : Smb σ} {core : Core} (h : Ready smb core port₁)
  {write : σ → List UInt8 → Int × σ} {write₂ : τ → List UInt8 → Int × τ} (hw : port₁.writeFn = some write)
  (hw₂ : port₂.writeFn = some write₂)
  (hwrite : ∀ {w v} frame, rel w v →
    (write₂ v frame).1 = (write w frame).1 ∧ rel (write w frame).2 (write₂ v frame).2)

include h hw hw₂ hwrite

theorem startRequest_lockstep {w : σ} {v : τ} (request : Buffer UInt8 n) (function addr num : Int)
    (writeData : List UInt8) (hrel : rel w v) :
    Exec.Rel (fun x y => SameWith port₂ rel x y ∧ Ready x.2.1 core port₁)
      (modbusStartRequest smb w request function addr num writeData)
      (modbusStartRequest (smb.onPort port₂) v request function addr num writeData) := by
  have h₂ := h.onPort port₂
  unfold modbusStartRequest
  simp only [h.contextCheck, h₂.contextCheck, ne_eq, not_true, if_false, h.coreOf, h₂.coreOf, exec_ok_bind]
  split
  · refine (buildRequestHeader_onPort h port₂ request _ function addr num).bind ?_
    rintro ⟨len, smb', b⟩ ⟨len₂, _, b₂⟩ ⟨hlen, rfl, hb, h'⟩
    obtain rfl : len = len₂ := hlen
    obtain rfl : b = b₂ := hb
    have h₂' := h'.onPort port₂
    apply Exec.Rel.bind_same
    rintro ⟨len', b'⟩
    dsimp only
    rw [checkSendPre_onPort]
    apply Exec.Rel.bind_same
    rintro ⟨ret, b''⟩
    dsimp only
    split
    · apply Exec.Rel.bind_same
      intro frame
      obtain ⟨hret, hrel'⟩ := hwrite frame hrel
      rw [h'.write hw, h₂'.write hw₂]
      exact .ok ⟨⟨hret.symm, rfl, hrel', rfl⟩, h'⟩
    · exact .ok ⟨⟨rfl, rfl, hrel, rfl⟩, h'⟩
  · exact .ok ⟨⟨rfl, rfl, hrel, rfl⟩, h⟩

omit h hw hw₂ hwrite in
/-- The last step of an operation does not look at the device. -/
theorem modbusHandleConfirm_onPort (h : Ready smb core port₁) (port₂ : Port τ) {k m : Nat} (request : Buffer UInt8 n)
    (requestLen : UInt16) (response : Buffer UInt8 m) (responseLen : UInt16) (readData : Buffer UInt8 k) :
    modbusHandleConfirm (smb.onPort port₂) request requestLen response responseLen readData =
      modbusHandleConfirm smb request requestLen response responseLen readData := by
  have h₂ := h.onPort port₂
  unfold modbusHandleConfirm
  simp only [h.contextCheck, h₂.contextCheck, ne_eq, not_true, if_false, h.coreOf, h₂.coreOf, exec_ok_bind]

include hS hF

/-- **A master operation in lockstep.** -/
theorem Lockstep.operation (fuel : Nat) {w : σ} {v : τ} (function addr num : Int) (writeData : List UInt8)
    (readData : Buffer UInt8 n) (hrel : rel w v) :
    Exec.Rel (SameWith port₂ rel) (masterOperation fuel smb w function addr num writeData readData)
      (masterOperation fuel (smb.onPort port₂) v function addr num writeData readData) := by
  have h₂ := h.onPort port₂
  unfold masterOperation
  simp only [h.contextCheck, h₂.contextCheck, ne_eq, not_true, if_false]
  refine (startRequest_lockstep h hw hw₂ hwrite smb.writeBuff function addr num writeData hrel).bind ?_
  rintro ⟨ret, smb', w', request⟩ ⟨ret₂, _, v', request₂⟩ ⟨⟨hret, rfl, hrel', hreq⟩, h'⟩
  obtain rfl : ret = ret₂ := hret
  obtain rfl : request = request₂ := hreq
  dsimp only
  have h₁ : Ready { smb' with writeBuff := request } core port₁ := h'.congr rfl rfl rfl
  split
  · exact .ok ⟨rfl, rfl, hrel', rfl⟩
  · refine (hS.waitConfirm hF h₁ fuel smb'.readBuff hrel').bind ?_
    rintro ⟨ret₁, w'', response⟩ ⟨ret₂, v'', response₂⟩ ⟨hret₁, hrel'', hresp⟩
    obtain rfl : ret₁ = ret₂ := hret₁
    obtain rfl : response = response₂ := hresp
    have h₂ : Ready { smb' with writeBuff := request, readBuff := response } core port₁ :=
      h'.congr rfl rfl rfl
    dsimp only
    split
    · exact .ok ⟨rfl, rfl, hrel'', rfl⟩
    · have hsame : modbusHandleConfirm { smb'.onPort port₂ with writeBuff := request, readBuff := response } request
          (toU16 ret) response (toU16 ret₁) readData = _ :=
        modbusHandleConfirm_onPort h₂ port₂ request (toU16 ret) response (toU16 ret₁) readData
      rw [hsame]
      apply Exec.Rel.bind_same
      rintro ⟨ret₂, readData'⟩
      exact .ok ⟨rfl, rfl, hrel'', rfl⟩

end Operation

/-! ## §4 — an invariant of one port. -/

/-- An invariant of a port: reads keep it, and leave `dry` behind when they return less than they were asked
for, and waits keep it there. -/
structure Kept {port : Port σ} (F : Feed port) (inv dry : σ → Prop) : Prop where
  read : ∀ {w}, inv w → ∀ len, inv (F.read w len).2.2
  short : ∀ {w}, inv w → ∀ len : UInt16, (F.read w len).1 < len.toNat → dry (F.read w len).2.2
  wait : ∀ {w}, inv w → dry w → ∀ t, inv (F.wait w t).2

section Keeps

variable {port : Port σ} {F : Feed port} {inv dry : σ → Prop} (hK : Kept F inv dry) (hF : F.Clean)
  {smb : Smb σ} {core : Core} (h : Ready smb core port)

/-- A port is in lockstep with itself. -/
theorem Kept.lockstep (hK : Kept F inv dry) :
    Lockstep F F (fun w v => w = v ∧ inv w) (fun w v => w = v ∧ inv w ∧ dry w) where
  count_eq := by
    rintro w _ ⟨rfl, -⟩ len
    rfl
  bytes_eq := by
    rintro w _ ⟨rfl, -⟩ len
    rfl
  rel_read := by
    rintro w _ ⟨rfl, hw⟩ len
    exact ⟨rfl, hK.read hw len⟩
  dry_read := by
    rintro w _ ⟨rfl, hw⟩ len hshort
    exact ⟨rfl, hK.read hw len, hK.short hw len hshort⟩
  code_eq := by
    rintro w _ ⟨rfl, -⟩ t
    rfl
  rel_wait := by
    rintro w _ ⟨rfl, hw, hdry⟩ t
    exact ⟨rfl, hK.wait hw hdry t⟩

include hK hF h

/-- `modbus_slave_wait` keeps it. -/
theorem Kept.slaveWait {fuel : Nat} {w w' : σ} {old request : Buffer UInt8 n} {t ret : Int} {smb' : Smb σ}
    (hw : inv w) (hrun : modbusSlaveWait fuel smb w old t = .ok (ret, smb', w', request)) : inv w' := by
  have hrel := hK.lockstep.slaveWait hF h fuel old t ⟨rfl, hw⟩
  rw [hrun] at hrel
  obtain ⟨y, -, -, -, ⟨-, hw'⟩, -⟩ := hrel.of_ok
  exact hw'

/-- `modbus_wait_confirm` keeps it. -/
theorem Kept.waitConfirm {fuel : Nat} {w w' : σ} {old response : Buffer UInt8 n} {ret : Int} (hw : inv w)
    (hrun : modbusWaitConfirm fuel smb w old = .ok (ret, w', response)) : inv w' := by
  have hrel := hK.lockstep.waitConfirm hF h fuel old ⟨rfl, hw⟩
  rw [hrun] at hrel
  obtain ⟨y, -, -, ⟨-, hw'⟩, -⟩ := hrel.of_ok
  exact hw'

end Keeps

/-! ### What the caller gets -/

section Log

variable {port : Port σ} {F : Feed port} (G : F.Log) (hF : F.Clean) {smb : Smb σ} {core : Core}
  (h : Ready smb core port) {old : Buffer UInt8 n} (hn : modbusMaxAduLength ≤ n)

include hF h hn

/-- The buffer of the caller gets what the port handed over. -/
theorem Feed.Log.slaveWait {fuel : Nat} {w w' : σ} {request : Buffer UInt8 n} {t ret : Int} {smb' : Smb σ}
    (hrun : modbusSlaveWait fuel smb w old t = .ok (ret, smb', w', request)) :
    ∃ taken, request = old.fill taken ∧ G.seen w' = G.seen w ++ taken := by
  rcases modbusSlaveWait_feed hF h old hn fuel w t with hout | ⟨o, ret₁, smb₁, w₁, hok, hrec, -⟩
  · rw [hrun] at hout
    cases hout
  · rw [hrun] at hok
    cases hok
    exact ⟨o.taken, rfl, hrec.session.seen G⟩

theorem Feed.Log.waitConfirm {fuel : Nat} {w w' : σ} {response : Buffer UInt8 n} {ret : Int}
    (hrun : modbusWaitConfirm fuel smb w old = .ok (ret, w', response)) :
    ∃ taken, response = old.fill taken ∧ G.seen w' = G.seen w ++ taken := by
  rcases modbusWaitConfirm_feed hF h old hn fuel w with hout | ⟨o, ret₁, w₁, hok, hrec, -⟩
  · rw [hrun] at hout
    cases hout
  · rw [hrun] at hok
    cases hok
    exact ⟨o.taken, rfl, hrec.session.seen G⟩

end Log

/-! ### Runs of a port -/

/-- A call on a context with its device, as a master or a slave makes them: a wait for a request or for a
confirmation, into a buffer of any size, a write or a flush. In between the application may change every
field of the context but the three that bind it. -/
inductive PortStep : Smb σ × σ → Smb σ × σ → Prop
  | slaveWait {smb smb' : Smb σ} {w w' : σ} {fuel n : Nat} {old request : Buffer UInt8 n} {t ret : Int} :
      modbusSlaveWait fuel smb w old t = .ok (ret, smb', w', request) → PortStep (smb, w) (smb', w')
  | waitConfirm {smb : Smb σ} {w w' : σ} {fuel n : Nat} {old response : Buffer UInt8 n} {ret : Int} :
      modbusWaitConfirm fuel smb w old = .ok (ret, w', response) → PortStep (smb, w) (smb, w')
  | flush (smb : Smb σ) (w : σ) : PortStep (smb, w) (smb, (modbusFlush smb w).2)
  | write (smb : Smb σ) (w : σ) (frame : List UInt8) : PortStep (smb, w) (smb, (modbusWrite smb w frame).2)
  | context (smb smb' : Smb σ) (w : σ) : smb'.modbusMagic = smb.modbusMagic → smb'.core = smb.core →
      smb'.port = smb.port → PortStep (smb, w) (smb', w)

/-- A run of such calls. -/
abbrev PortRun : Smb σ × σ → Smb σ × σ → Prop := Relation.ReflTransGen PortStep

section Run

variable {port : Port σ} {F : Feed port} {inv dry : σ → Prop} (hK : Kept F inv dry) (hF : F.Clean) {core : Core}
  {flush : σ → Int × σ} {write : σ → List UInt8 → Int × σ} (hflush : port.flushFn = some flush)
  (hwrite : port.writeFn = some write) (hinvF : ∀ w, inv w → inv (flush w).2)
  (hinvW : ∀ w frame, inv w → inv (write w frame).2)

include hK hF hflush hwrite hinvF hinvW

/-- A call keeps the invariant, and the context bound. -/
theorem Kept.step {x y : Smb σ × σ} (hstep : PortStep x y) (h : Ready x.1 core port) (hx : inv x.2) :
    Ready y.1 core port ∧ inv y.2 := by
  cases hstep with
  | slaveWait hrun => exact ⟨modbusSlaveWait_ready h hrun, hK.slaveWait hF h hx hrun⟩
  | waitConfirm hrun => exact ⟨h, hK.waitConfirm hF h hx hrun⟩
  | flush smb w =>
    refine ⟨h, ?_⟩
    rw [h.flush hflush]
    exact hinvF w hx
  | write smb w frame =>
    refine ⟨h, ?_⟩
    rw [h.write hwrite]
    exact hinvW w frame hx
  | context smb smb' w hmagic hcore hport =>
    exact ⟨h.congr hmagic hcore hport, hx⟩

/-- **A run keeps the invariant**, and the context bound. -/
theorem Kept.run {x y : Smb σ × σ} (hrun : PortRun x y) (h : Ready x.1 core port) (hx : inv x.2) :
    Ready y.1 core port ∧ inv y.2 := by
  induction hrun with
  | refl => exact ⟨h, hx⟩
  | tail _ hstep ih => exact hK.step hF hflush hwrite hinvF hinvW hstep ih.1 ih.2

end Run

end SmallModbus
