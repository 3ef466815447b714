/-
# `SmallModbus.MultiDrop` — several slaves on one serial line.

`broadcast_silent_iff`: when a broadcast is not answered. `unicast_iff`: when the station that was given
an address, and no other, answers what is sent to it.
-/
import SmallModbus.Station

namespace SmallModbus

open SmallModbus.Lib

/-! ## §1 — calls and answers. -/

namespace Station

/-- The step makes the call of the query in this frame, and writes one frame. -/
def Answers (s : Station .rtu) (frame reply : List UInt8) : Prop :=
  ∃ q ret smb' w' r data app', Query.In .rtu (s.smb.readBuff.fill frame) q ∧
    q.call .rtu s.smb (s.smb.readBuff.fill frame) s.cb s.app = (r, data, app') ∧
    s.step = .ok (ret, smb', w', app') ∧ s.tap.sent w' = s.tap.sent s.device ++ [reply]

/-- The result of the callback stays inside the reply. -/
def CallFits (s : Station .rtu) (frame : List UInt8) : Prop :=
  ∀ q, Query.In .rtu (s.smb.readBuff.fill frame) q →
    q.Fits (q.call .rtu s.smb (s.smb.readBuff.fill frame) s.cb s.app).1

theorem Answers.sends {s : Station .rtu} {frame reply : List UInt8} (h : s.Answers frame reply) :
    s.Sends reply := by
  obtain ⟨-, ret, smb', w', -, -, app', -, -, hstep, hsent⟩ := h
  exact ⟨_, hstep, hsent⟩

/-- A frame for the station is answered when the result of the callback fits. -/
theorem answers_of_fits (s : Station .rtu) {a : UInt8} {pdu rest : List UInt8} (ha : s.smb.Admits a)
    (hsize : slaveFormat.Sized pdu) (hlen : (Core.rtu.adu 0 a pdu).length ≤ modbusMaxAduLength)
    (hstream : s.stream = Core.rtu.adu 0 a pdu ++ rest) {q : Query}
    (hin : Query.In .rtu (s.smb.readBuff.fill (Core.rtu.adu 0 a pdu)) q) {r : Int} {data : List UInt8}
    {app' : s.κ}
    (hcall : q.call .rtu s.smb (s.smb.readBuff.fill (Core.rtu.adu 0 a pdu)) s.cb s.app = (r, data, app'))
    (hfits : q.Fits r) : s.Answers (Core.rtu.adu 0 a pdu)
      (Core.rtu.adu 0 s.smb.slaveAddr (q.reply s.smb.slaveAddr r data)) := by
  obtain ⟨ret, smb', w', hstep, hsent⟩ := (s.handles ha hsize hlen hstream hin hcall).1 hfits
  exact ⟨q, ret, smb', w', r, data, app', hin, hcall, hstep, hsent⟩

end Station

/-! ## §2 — broadcasts. -/

/-- Frames to two addresses begin with different bytes. -/
theorem Delivers.addr_eq {a b : UInt8} {l : List UInt8} (h : Delivers .rtu a (b :: l)) : a = b := by
  obtain ⟨tid, pdu, rest, -, -, hstream⟩ := h
  exact (List.cons.inj hstream).1.symm

/-- One station is silent on a broadcast exactly when it cannot read it. -/
theorem Station.silent_iff (s : Station .rtu) {l : List UInt8}
    (hstream : s.stream = modbusBroadcastAddress :: l) :
    s.Silent ↔ ¬ Delivers .rtu modbusBroadcastAddress s.stream := by
  constructor
  · intro hsilent hdel
    exact s.not_silent (Or.inr rfl) hdel hsilent
  · intro hno
    rcases s.step_cases with hrej | ⟨a, -, hdel⟩
    · exact hrej.silent
    · rw [hstream] at hdel hno
      obtain rfl := hdel.addr_eq
      exact absurd hdel hno

/-- **A broadcast is silent on a serial line** exactly when there is no slave on it, or the slaves cannot
read the frame: a slave that can answers it, with its own address, and so does every other. -/
theorem broadcast_silent_iff {ι : Type} (s : ι → Station .rtu) {pdu : List UInt8}
    (hstream : ∀ i, (s i).stream = Core.rtu.adu 0 modbusBroadcastAddress pdu) :
    (∀ i, (s i).Silent) ↔
      IsEmpty ι ∨ ¬ Delivers .rtu modbusBroadcastAddress (Core.rtu.adu 0 modbusBroadcastAddress pdu) := by
  have hone : ∀ i, (s i).Silent ↔
      ¬ Delivers .rtu modbusBroadcastAddress (Core.rtu.adu 0 modbusBroadcastAddress pdu) := by
    intro i
    have h := (s i).silent_iff (hstream i)
    rwa [hstream i] at h
  constructor
  · intro hall
    rcases isEmpty_or_nonempty ι with hempty | ⟨⟨i⟩⟩
    · exact Or.inl hempty
    · exact Or.inr ((hone i).mp (hall i))
  · rintro (hempty | hno) i
    · exact hempty.elim i
    · exact (hone i).mpr hno

/-- Two slaves get a read request that ends before its quantity. -/
theorem broadcast_silent_iff_short :
    (Station.onWire .rtu 1 1 (Core.rtu.adu 0 0 [3, 0, 0])).Silent ∧
      (Station.onWire .rtu 2 1 (Core.rtu.adu 0 0 [3, 0, 0])).Silent := by
  have hall := (broadcast_silent_iff (fun first : Bool => Station.onWire .rtu (if first then 1 else 2) 1
    (Core.rtu.adu 0 0 [3, 0, 0])) (fun _ => rfl)).mpr ?_
  · exact ⟨hall true, hall false⟩
  · right
    rintro ⟨tid, pdu, rest, hsize, -, hstream⟩
    obtain ⟨f, l, rfl, hfixed⟩ := hsize.exists_cons
    obtain rfl : 3 = f := (List.cons.inj (List.cons.inj hstream).2).1
    have hlen := congrArg List.length hstream
    rw [List.length_append, Core.length_adu, Core.length_adu, List.length_cons] at hlen
    have hfour : 4 ≤ l.length := hfixed
    have hthree : Core.rtu.lenHeader + 3 + Core.rtu.lenChecksum = Core.rtu.lenHeader + (l.length + 1) +
        Core.rtu.lenChecksum + rest.length := hlen
    omega

/-- A coil to be set at every slave: slaves 1 and 2 both answer. -/
theorem broadcast_answered :
    (modbusSlaveWaitHandle 600 (newContext .rtu Wire.port 1) ⟨[0, 5, 0, 3, 255, 0, 125, 235], [], []⟩
        (some (returning 1)) () (-1)).map (fun x => x.2.2.1.tx) = .ok [[1, 5, 0, 3, 255, 0, 124, 58]] ∧
      (modbusSlaveWaitHandle 600 (newContext .rtu Wire.port 2) ⟨[0, 5, 0, 3, 255, 0, 125, 235], [], []⟩
        (some (returning 1)) () (-1)).map (fun x => x.2.2.1.tx) = .ok [[2, 5, 0, 3, 255, 0, 124, 9]] :=
  ⟨by decide +kernel, by decide +kernel⟩

/-! ## §3 — addresses. -/

section SetSlave

variable {σ : Type} {smb : Smb σ} {core : Core} {port : Port σ} (h : Ready smb core port) (slave : Int)

include h

/-- **`modbus_set_slave`** takes the addresses from 1 to 246, and leaves the context alone on all others. -/
theorem modbusSetSlave_eq : (modbusSetSlave smb slave).2 =
    { smb with slaveAddr := if 0 < slave ∧ slave < 247 then toU8 slave else smb.slaveAddr } := by
  unfold modbusSetSlave
  rw [h.contextCheck, if_pos rfl]
  by_cases hrange : 0 < slave ∧ 247 > slave
  · rw [if_pos hrange, if_pos hrange]
  · rw [if_neg hrange, if_neg hrange]

theorem modbusSetSlave_ready : Ready (modbusSetSlave smb slave).2 core port := by
  rw [modbusSetSlave_eq h]
  exact h.congr rfl rfl rfl

/-- A context told an address of the documented range has this address, unless it is 247 and the context
had another one. -/
theorem modbusSetSlave_addr_iff (hslave : 1 ≤ slave ∧ slave ≤ 247) {a : Int} (ha : 1 ≤ a ∧ a ≤ 247) :
    (modbusSetSlave smb slave).2.slaveAddr = toU8 a ↔
      if slave = 247 then smb.slaveAddr = toU8 a else slave = a := by
  have hbyte : toU8 slave = toU8 a ↔ slave = a := by
    constructor
    · intro heq
      have h1 := toNat_toU8 slave
      have h2 := toNat_toU8 a
      rw [heq] at h1
      omega
    · rintro rfl
      rfl
  rw [modbusSetSlave_eq h]
  dsimp only
  by_cases h247 : slave = 247
  · rw [if_neg (by omega), if_pos h247]
  · rw [if_pos (by omega), if_neg h247, hbyte]

end SetSlave

/-- The documented addresses are none of them the broadcast address. -/
theorem toU8_ne_broadcast {a : Int} (ha : 1 ≤ a ∧ a ≤ 247) : toU8 a ≠ modbusBroadcastAddress := by
  intro h0
  have hbyte := toNat_toU8 a
  rw [h0] at hbyte
  have hzero : ((0 : Nat) : Int) = a % 256 := hbyte
  omega

/-- The station after `modbus_set_slave`. -/
def Station.assign (s : Station .rtu) (slave : Int) : Station .rtu :=
  { s with
    smb := (modbusSetSlave s.smb slave).2
    ready := modbusSetSlave_ready s.ready slave }

/-- The callback gets the same call, whatever the address. -/
theorem Station.callFits_assign (s : Station .rtu) (slave : Int) (frame : List UInt8) :
    (s.assign slave).CallFits frame ↔ s.CallFits frame := by
  have hsmb := modbusSetSlave_eq s.ready slave
  unfold CallFits assign
  dsimp only
  rw [hsmb]
  exact Iff.rfl

/-- A master on the line, about to wait for a response. -/
structure Listener where
  σ : Type
  port : Port σ
  line : Line port
  prompt : line.Prompt
  rank : σ → Nat
  fair : line.Fair rank
  smb : Smb σ
  ready : Ready smb .rtu port
  n : Nat
  response : Buffer UInt8 n
  size_le : modbusMaxAduLength ≤ n
  /-- the device when these bytes arrive -/
  hearing : List UInt8 → σ
  rem_hearing : ∀ l, line.rem (hearing l) = l
  fuel : Nat
  fuel_lt : ∀ l, rank (hearing l) + 2 * n + 1 < fuel

namespace Listener

/-- The master takes this frame as the response. -/
def Accepts (m : Listener) (reply : List UInt8) : Prop :=
  ∃ w', modbusWaitConfirm m.fuel m.smb (m.hearing reply) m.response =
    .ok ((reply.length : Nat), w', m.response.fill reply)

/-- The master after `modbus_set_slave`. -/
def assign (m : Listener) (slave : Int) : Listener :=
  { m with
    smb := (modbusSetSlave m.smb slave).2
    ready := modbusSetSlave_ready m.ready slave }

/-- A new master on a wire. -/
def onWire (slaveAddr : UInt8) : Listener where
  σ := Wire
  port := Wire.port
  line := Wire.line
  prompt := Wire.steady.prompt
  rank w := w.grants.length
  fair := Wire.fair
  smb := newContext .rtu Wire.port slaveAddr
  ready := newContext_ready .rtu Wire.port slaveAddr
  n := modbusMaxAduLength
  response := Buffer.replicate _ 0
  size_le := le_rfl
  hearing l := ⟨l, [], []⟩
  rem_hearing _ := rfl
  fuel := 600
  fuel_lt _ := show 0 + 2 * 260 + 1 < 600 by decide

/-- A master that selected an address admits it, unless it is 247 and the master had another one. -/
theorem admits_assign (m : Listener) {a : Int} (ha : 1 ≤ a ∧ a ≤ 247) :
    (m.assign a).smb.Admits (toU8 a) ↔ (a = 247 → m.smb.slaveAddr = toU8 a) := by
  have hb := toU8_ne_broadcast ha
  have haddr := modbusSetSlave_addr_iff m.ready a ha ha
  have hadmits : (m.assign a).smb.Admits (toU8 a) ↔ (m.assign a).smb.slaveAddr = toU8 a :=
    ⟨fun h => h.elim Eq.symm fun h0 => absurd h0 hb, fun h => Or.inl h.symm⟩
  rw [hadmits]
  apply haddr.trans
  by_cases h247 : a = 247
  · rw [if_pos h247]
    exact ⟨fun h _ => h, fun h => h h247⟩
  · rw [if_neg h247]
    exact ⟨fun _ h => absurd h h247, fun _ => rfl⟩

/-- **A response is accepted** from an address that the master admits. -/
theorem accepts_iff (m : Listener) {a : UInt8} {pdu : List UInt8} (hsize : confirmFormat.Sized pdu)
    (hlen : (Core.rtu.adu 0 a pdu).length ≤ modbusMaxAduLength) :
    m.Accepts (Core.rtu.adu 0 a pdu) ↔ m.smb.Admits a := by
  have hadu : Core.rtu.adu 0 a pdu = Core.rtu.adu m.smb.transferId a pdu := rfl
  have hrem : m.line.rem (m.hearing (Core.rtu.adu 0 a pdu)) = Core.rtu.adu m.smb.transferId a pdu ++ [] := by
    rw [m.rem_hearing, List.append_nil, hadu]
  constructor
  · rintro ⟨w', hrun⟩
    rcases modbusWaitConfirm_feed m.line.clean m.ready m.response m.size_le m.fuel
      (m.hearing (Core.rtu.adu 0 a pdu)) with hfuel | ⟨o, ret, w₁, hok, hrec, hends, -⟩
    · rw [hfuel] at hrun
      cases hrun
    rw [hok] at hrun
    have hret := congrArg Prod.fst (Except.ok.inj hrun)
    rcases hends with ⟨e, -, hneg, he⟩ | ⟨-, ⟨-, a', pdu', ha', -, htaken⟩ | ⟨hneg, -⟩⟩
    · dsimp only at hret
      omega
    · -- what was taken begins with the address byte of the frame
      have hstream := m.line.rem_session hrec.session
      rw [htaken, hrem, List.append_nil] at hstream
      obtain rfl : a = a' := (List.cons.inj hstream).1
      exact ha'
    · dsimp only at hret
      omega
  · intro ha
    obtain ⟨⟨ret, w', buff⟩, hrun⟩ := modbusWaitConfirm_returns m.line m.ready m.response m.size_le m.fair
      (m.fuel_lt (Core.rtu.adu 0 a pdu))
    obtain ⟨rfl, rfl, -⟩ := modbusWaitConfirm_adu m.line m.ready m.response m.size_le m.prompt ha hsize hlen
      hrem hrun
    exact ⟨w', hrun⟩

end Listener

/-! ## §4 — one slave answers. -/

namespace Station

section Frame

variable (s : Station .rtu) {b : UInt8} (hb : b ≠ modbusBroadcastAddress) {pdu frame : List UInt8}
  (hframe : frame = Core.rtu.adu 0 b pdu) (hsize : slaveFormat.Sized pdu)
  (hlen : frame.length ≤ modbusMaxAduLength) (hstream : s.stream = frame)

include hb hframe hsize hlen hstream

/-- A frame to one address is rejected by the stations that have another. -/
theorem rejects_iff : s.Rejects ↔ s.smb.slaveAddr ≠ b := by
  constructor
  · rintro hrej rfl
    apply s.not_silent (Or.inl rfl) _ hrej.silent
    exact ⟨0, pdu, [], hsize, hframe ▸ hlen, by rw [hstream, hframe, List.append_nil]⟩
  · intro hne
    rcases s.step_cases with hrej | ⟨a, ha, hdel⟩
    · exact hrej
    · have hhead : s.stream = b :: _ := hstream.trans hframe
      rw [hhead] at hdel
      obtain rfl := hdel.addr_eq
      exact absurd ha (not_or.mpr ⟨hne.symm, hb⟩)

/-- It is answered by the stations that have this one. -/
theorem answers_iff : (∃ reply, s.Answers frame reply) ↔ s.smb.slaveAddr = b ∧ s.CallFits frame := by
  have hstream' : s.stream = Core.rtu.adu 0 b pdu ++ [] := by rw [hstream, hframe, List.append_nil]
  constructor
  · rintro ⟨reply, hans⟩
    have haddr : s.smb.slaveAddr = b := by
      by_contra hne
      exact hans.sends.not_silent ((s.rejects_iff hb hframe hsize hlen hstream).mpr hne).silent
    refine ⟨haddr, fun q hin => ?_⟩
    by_contra hfits
    subst hframe
    obtain ⟨-, ret, smb', w', -, -, app', -, -, hstep, -⟩ := hans
    exact (s.handles (Or.inl haddr.symm) hsize hlen hstream' hin rfl).2 hfits _ hstep
  · rintro ⟨haddr, hfits⟩
    subst hframe
    obtain ⟨q, hin⟩ := Query.exists_in .rtu (s.smb.readBuff.fill (Core.rtu.adu 0 b pdu)) le_rfl
    exact ⟨_, s.answers_of_fits (Or.inl haddr.symm) hsize hlen hstream' hin rfl (hfits q hin)⟩

/-- The answer to a request of a master is accepted by the masters that admit the address. -/
theorem Answers.accepts_iff {reply : List UInt8} (hans : s.Answers frame reply) {f : UInt8} {l : List UInt8}
    (hpdu : pdu = f :: l) (hf : ∃ function ∈ requestFunctions, toU8 function = f) (m : Listener) :
    m.Accepts reply ↔ m.smb.Admits b := by
  obtain ⟨haddr, hfits⟩ := (s.answers_iff hb hframe hsize hlen hstream).mp ⟨reply, hans⟩
  have hstream' : s.stream = Core.rtu.adu 0 b pdu ++ [] := by rw [hstream, hframe, List.append_nil]
  subst hframe
  obtain ⟨q, hin⟩ := Query.exists_in .rtu (s.smb.readBuff.fill (Core.rtu.adu 0 b pdu)) le_rfl
  have hq := hfits q hin
  have hreply := s.answers_of_fits (Or.inl haddr.symm) hsize hlen hstream' hin rfl hq
  obtain rfl := hans.sends.unique hreply.sends
  rw [haddr]
  -- the reply has the length the master's table gives it
  subst hpdu
  have hserv := hin.function_adu hlen
  obtain ⟨function, hmem, rfl⟩ := hf
  have hserved := serviceOf_request hmem
  rw [← hserv] at hserved
  have hsized := reply_sized rfl hq hserved
  rw [haddr] at hsized
  exact m.accepts_iff hsized (length_replyAdu_le hq .rtu 0 b _)

end Frame

end Station

/-- **A frame to one of the addresses given out is answered by its slave alone, for the master that
selected it**, exactly when the limit of `modbus_set_slave` does no harm: a slave that was told 247 keeps
the address it had, so it must have been 247 already for a frame to 247, and must not be the address of any
other frame; so must the master's. The slave's callback must return a result that fits the reply. -/
theorem unicast_iff {ι : Type} (s : ι → Station .rtu) (told : ι → Int) (htold : ∀ i, 1 ≤ told i ∧ told i ≤ 247)
    (m : Listener) {a : Int} (ha : 1 ≤ a ∧ a ≤ 247) {f : UInt8} {l frame : List UInt8}
    (hframe : frame = Core.rtu.adu 0 (toU8 a) (f :: l)) (hsize : slaveFormat.Sized (f :: l))
    (hlen : frame.length ≤ modbusMaxAduLength) (hstream : ∀ i, (s i).stream = frame) :
    ((∀ i, told i = a → ∃ reply, ((s i).assign (told i)).Answers frame reply ∧
        ((∃ function ∈ requestFunctions, toU8 function = f) → (m.assign a).Accepts reply)) ∧
      ∀ i, told i ≠ a → ((s i).assign (told i)).Rejects) ↔
    (∀ i, told i = 247 → ((s i).smb.slaveAddr = toU8 a ↔ a = 247)) ∧
      (∀ i, told i = a → (s i).CallFits frame) ∧
      (a = 247 → (∃ i, told i = a) → (∃ function ∈ requestFunctions, toU8 function = f) →
        m.smb.slaveAddr = toU8 a) := by
  have hb := toU8_ne_broadcast ha
  have hmaster := m.admits_assign ha
  have hans := fun i => ((s i).assign (told i)).answers_iff hb hframe hsize hlen (hstream i)
  have hrej := fun i => ((s i).assign (told i)).rejects_iff hb hframe hsize hlen (hstream i)
  have haddr : ∀ i, ((s i).assign (told i)).smb.slaveAddr = toU8 a ↔
      if told i = 247 then (s i).smb.slaveAddr = toU8 a else told i = a :=
    fun i => modbusSetSlave_addr_iff (s i).ready (told i) (htold i) ha
  constructor
  · rintro ⟨hone, hothers⟩
    refine ⟨fun i h247 => ?_, fun i hi => ?_, fun h247 ⟨i, hi⟩ hf => ?_⟩
    · have hi := haddr i
      rw [if_pos h247] at hi
      rw [← hi]
      constructor
      · intro hsame
        by_contra hne
        exact (hrej i).mp (hothers i (by omega)) hsame
      · intro h
        obtain ⟨reply, hreply, -⟩ := hone i (by omega)
        exact ((hans i).mp ⟨reply, hreply⟩).1
    · obtain ⟨reply, hreply, -⟩ := hone i hi
      exact ((s i).callFits_assign (told i) frame).mp ((hans i).mp ⟨reply, hreply⟩).2
    · obtain ⟨reply, hreply, hmast⟩ := hone i hi
      have haccepts := hreply.accepts_iff ((s i).assign (told i)) hb hframe hsize hlen (hstream i) rfl hf
        (m.assign a)
      exact hmaster.mp (haccepts.mp (hmast hf)) h247
  · rintro ⟨h247, hfits, hmast⟩
    refine ⟨fun i hi => ?_, fun i hi => ?_⟩
    · have hsame : ((s i).assign (told i)).smb.slaveAddr = toU8 a := by
        rw [haddr i]
        split_ifs with hlast
        · exact (h247 i hlast).mpr (by omega)
        · exact hi
      obtain ⟨reply, hreply⟩ := (hans i).mpr ⟨hsame, ((s i).callFits_assign (told i) frame).mpr (hfits i hi)⟩
      refine ⟨reply, hreply, fun hf => ?_⟩
      have haccepts := hreply.accepts_iff ((s i).assign (told i)) hb hframe hsize hlen (hstream i) rfl hf
        (m.assign a)
      exact haccepts.mpr (hmaster.mpr fun hlast => hmast hlast ⟨i, hi⟩ hf)
    · apply (hrej i).mpr
      intro hsame
      rw [haddr i] at hsame
      split_ifs at hsame with hlast
      · have := (h247 i hlast).mp hsame
        omega
      · exact hi hsame

/-- Slaves told 5 and 9, a read of one register of slave 5. -/
theorem unicast_iff_five :
    (∃ reply, ((Station.onWire .rtu 1 1 (Core.rtu.adu 0 5 [3, 0, 0, 0, 1])).assign 5).Answers
        (Core.rtu.adu 0 5 [3, 0, 0, 0, 1]) reply ∧ ((Listener.onWire 1).assign 5).Accepts reply) ∧
      ((Station.onWire .rtu 2 1 (Core.rtu.adu 0 5 [3, 0, 0, 0, 1])).assign 9).Rejects := by
  have hboth := (unicast_iff
    (fun i : Bool => Station.onWire .rtu (if i then 1 else 2) 1 (Core.rtu.adu 0 5 [3, 0, 0, 0, 1]))
    (fun i => if i then 5 else 9) (by decide) (Listener.onWire 1) (show 1 ≤ (5 : Int) ∧ (5 : Int) ≤ 247 by decide)
    (f := 3) (l := [0, 0, 0, 1]) rfl rfl (by decide) (fun _ => rfl)).mpr
    ⟨by decide, ?_, fun h => absurd h (by decide)⟩
  · obtain ⟨reply, hans, hacc⟩ := hboth.1 true rfl
    exact ⟨⟨reply, hans, hacc ⟨3, by decide, rfl⟩⟩, hboth.2 false (by decide)⟩
  · intro i _ q _
    apply Query.fits_of_lt
    apply call_lt
    rintro c hc
    obtain rfl := Option.some.inj hc
    exact fun _ _ _ _ _ => show (1 : Int) < 65536 by decide

/-- A slave at address 1 that is told 247: it stays at 1, passes over the frames to 247 and answers those to
the slave at 1. -/
theorem unicast_last :
    (modbusSetSlave (newContext .rtu Wire.port 1) 247).1 = modbusFail ∧
      (modbusSlaveWaitHandle 600 (modbusSetSlave (newContext .rtu Wire.port 1) 247).2
        ⟨[247, 6, 0, 0, 0, 1, 92, 156], [], []⟩ (some (returning 1)) () (-1)).map (fun x => (x.1, x.2.2.1.tx)) =
          .ok (-6, []) ∧
      (modbusSlaveWaitHandle 600 (modbusSetSlave (newContext .rtu Wire.port 1) 247).2
        ⟨[1, 6, 0, 0, 0, 1, 72, 10], [], []⟩ (some (returning 1)) () (-1)).map (fun x => x.2.2.1.tx) =
          .ok [[1, 6, 0, 0, 0, 1, 72, 10]] :=
  ⟨by decide +kernel, by decide +kernel, by decide +kernel⟩

end SmallModbus
