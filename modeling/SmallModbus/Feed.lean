/-
# `SmallModbus.Feed` — ports that hand over bytes, and reception on them.

A `Feed port` says that a read returns at most the number asked for and stores as many bytes as it
returns, none when it returns a negative code. Which bytes these are is open: the port may make them up
as it goes. A `Session` is what a port handed over between two states of the device.

On a feed that never fails a read (`Feed.Clean`) the reception loop never leaves its buffer, and what it
does is what the reader `p` it follows (`Follows`) does: either it ends on the bytes of the session, or it
asks for more and a wait fails (`receiveLoop_feed`). It returns when the port is patient, that is, takes
no more rounds for a demand than the bytes asked for and some constant (`receiveLoop_returns`).
-/
import SmallModbus.Lib.Pull
import SmallModbus.Slave
import SmallModbus.Master

namespace SmallModbus

open SmallModbus.Lib

variable {σ : Type} {n : Nat}

/-! ## §1 — usable contexts. -/

/-- The context passes the context check and is bound to this core and this port. -/
structure Ready (smb : Smb σ) (core : Core) (port : Port σ) : Prop where
  magic : smb.modbusMagic = modbusMagicWord
  core_eq : smb.core = some core
  port_eq : smb.port = some port

/-- The check returns the code for a bad context or `MODBUS_OK`. -/
theorem modbusContextCheck_cases (smb : Smb σ) : modbusContextCheck smb = modbusErrorContext ∨
    modbusContextCheck smb = modbusOk ∧ smb.modbusMagic = modbusMagicWord := by
  unfold modbusContextCheck
  dsimp only
  by_cases hport : smb.port.isNone
  · exact Or.inl (if_pos hport)
  rw [if_neg hport]
  by_cases hmagic : modbusMagicWord ≠ smb.modbusMagic
  · exact Or.inl (if_pos hmagic)
  · exact Or.inr ⟨if_neg hmagic, (not_not.mp hmagic).symm⟩

namespace Ready

variable {smb : Smb σ} {core : Core} {port : Port σ}

/-- The other fields of the context do not matter. -/
theorem congr {smb' : Smb σ} (h : Ready smb core port) (hmagic : smb'.modbusMagic = smb.modbusMagic)
    (hcore : smb'.core = smb.core) (hport : smb'.port = smb.port) : Ready smb' core port :=
  ⟨hmagic.trans h.magic, hcore.trans h.core_eq, hport.trans h.port_eq⟩

theorem contextCheck (h : Ready smb core port) : modbusContextCheck smb = modbusOk := by
  simp [modbusContextCheck, h.magic, h.port_eq]

theorem coreOf (h : Ready smb core port) : coreOf smb = .ok core := by
  rw [SmallModbus.coreOf, h.core_eq]

theorem read (h : Ready smb core port) {f : σ → UInt16 → Int × List UInt8 × σ}
    (hf : port.readFn = some f) (w : σ) (len : UInt16) : modbusRead smb w len = f w len := by
  simp [modbusRead, h.contextCheck, h.port_eq, hf]

theorem write (h : Ready smb core port) {f : σ → List UInt8 → Int × σ}
    (hf : port.writeFn = some f) (w : σ) (data : List UInt8) : modbusWrite smb w data = f w data := by
  simp [modbusWrite, h.contextCheck, h.port_eq, hf]

theorem wait (h : Ready smb core port) {f : σ → Int → Int × σ}
    (hf : port.waitFn = some f) (w : σ) (t : Int) : modbusWait smb w t = f w t := by
  simp [modbusWait, h.contextCheck, h.port_eq, hf]

theorem flush (h : Ready smb core port) {f : σ → Int × σ} (hf : port.flushFn = some f) (w : σ) :
    modbusFlush smb w = f w := by
  simp [modbusFlush, h.contextCheck, h.port_eq, hf]

theorem errorRecovery (h : Ready smb core port) {f : σ → Int × σ} (hf : port.flushFn = some f) (w : σ) :
    modbusErrorRecovery smb w = f w := by
  simp [modbusErrorRecovery, h.contextCheck, h.port_eq, hf]

end Ready

/-! ### What the slave does to its context -/

section Keeps

variable {κ : Type} {smb smb' : Smb σ} {core : Core} {port : Port σ}

/-- The check of a TCP request: it rejects, or the header is as it should be and its transaction id is in
the context. -/
theorem tcpCheckWaitRequest_cases {b : Buffer UInt8 n} {length ret : Int}
    (hcheck : tcpCheckWaitRequest smb b length = .ok (ret, smb')) :
    ret < 0 ∧ smb' = smb ∨
      ∃ b0 b1, b.load 0 = .ok b0 ∧ b.load 1 = .ok b1 ∧ b.load 2 = .ok 0 ∧ b.load 3 = .ok 0 ∧
        smb' = { smb with transferId := toU16 (word b0 b1) } := by
  unfold tcpCheckWaitRequest at hcheck
  simp only [bind_eq_ok] at hcheck
  obtain ⟨b4, -, b5, -, b6, -, b2, h2, b3, h3, hcheck⟩ := hcheck
  split at hcheck
  · rename_i hzero
    obtain ⟨rfl, rfl⟩ := hzero
    split at hcheck
    · split at hcheck
      · obtain ⟨b0, h0, hcheck⟩ := bind_eq_ok.mp hcheck
        obtain ⟨b1, h1, hcheck⟩ := bind_eq_ok.mp hcheck
        cases hcheck
        exact Or.inr ⟨b0, b1, h0, h1, h2, h3, rfl⟩
      · cases hcheck
        exact Or.inl ⟨by decide, rfl⟩
    · cases hcheck
      exact Or.inl ⟨by decide, rfl⟩
  · cases hcheck
    exact Or.inl ⟨by decide, rfl⟩

theorem checkWaitRequest_ready (h : Ready smb core port) {core' : Core} {b : Buffer UInt8 n} {length ret : Int}
    (hrun : core'.checkWaitRequest smb b length = .ok (ret, smb')) : Ready smb' core port := by
  cases core' with
  | rtu =>
    obtain ⟨ret', -, hrun⟩ := bind_eq_ok.mp hrun
    cases hrun
    exact h
  | tcp =>
    rcases tcpCheckWaitRequest_cases hrun with ⟨-, rfl⟩ | ⟨b0, b1, -, -, -, -, rfl⟩
    · exact h
    · exact h.congr rfl rfl rfl

/-- A wait that returns left the context to the check of its core, or as it was. -/
theorem modbusSlaveWait_context (h : Ready smb core port) {fuel : Nat} {w w' : σ} {old request : Buffer UInt8 n}
    {t ret : Int} (hrun : modbusSlaveWait fuel smb w old t = .ok (ret, smb', w', request)) :
    (∃ code, receiveLoop (slaveNextWant core) smb fuel w old 0 (core.lenHeader + 1) 0 t =
        .ok (.error code, w', request) ∧ ret = code ∧ smb' = smb) ∨
      ∃ length, core.checkWaitRequest smb request length = .ok (ret, smb') := by
  unfold modbusSlaveWait at hrun
  simp only [h.contextCheck, ne_eq, not_true, if_false, h.coreOf, exec_ok_bind] at hrun
  obtain ⟨⟨exit, w₁, request₁⟩, hloop, hrun⟩ := bind_eq_ok.mp hrun
  cases exit with
  | error code =>
    cases hrun
    exact Or.inl ⟨_, hloop, rfl, rfl⟩
  | ok readLength =>
    obtain ⟨⟨ret₁, smb₁⟩, hcheck, hrun⟩ := bind_eq_ok.mp hrun
    cases hrun
    exact Or.inr ⟨readLength, hcheck⟩

theorem modbusSlaveWait_ready (h : Ready smb core port) {fuel : Nat} {w w' : σ} {old request : Buffer UInt8 n}
    {t ret : Int} (hrun : modbusSlaveWait fuel smb w old t = .ok (ret, smb', w', request)) :
    Ready smb' core port := by
  rcases modbusSlaveWait_context h hrun with ⟨code, -, -, rfl⟩ | ⟨length, hcheck⟩
  · exact h
  · exact checkWaitRequest_ready h hcheck

/-- `modbus_slave_handle` changes its reply buffer only. -/
theorem modbusSlaveHandle_ready (h : Ready smb core port) {w w' : σ} {request request' : Buffer UInt8 n}
    {len : UInt16} {cb : Option (SlaveCallback κ)} {app app' : κ} {ret : Int}
    (hrun : modbusSlaveHandle smb w request len cb app = .ok (ret, smb', w', request', app')) :
    Ready smb' core port := by
  unfold modbusSlaveHandle at hrun
  simp only [h.coreOf, exec_ok_bind, h.contextCheck, ne_eq, not_true, if_false] at hrun
  obtain ⟨f, -, hrun⟩ := bind_eq_ok.mp hrun
  obtain ⟨d, -, hrun⟩ := bind_eq_ok.mp hrun
  obtain ⟨⟨len, response⟩, -, hrun⟩ := bind_eq_ok.mp hrun
  dsimp only at hrun
  split at hrun
  · obtain ⟨⟨total, response'⟩, -, hrun⟩ := bind_eq_ok.mp hrun
    dsimp only at hrun
    split at hrun
    · obtain ⟨frame, -, hrun⟩ := bind_eq_ok.mp hrun
      cases hrun
      exact h.congr rfl rfl rfl
    · cases hrun
      exact h.congr rfl rfl rfl
  · cases hrun
    exact h.congr rfl rfl rfl

theorem modbusSlaveWaitHandle_ready (h : Ready smb core port) {fuel : Nat} {w w' : σ}
    {cb : Option (SlaveCallback κ)} {app app' : κ} {t ret : Int}
    (hrun : modbusSlaveWaitHandle fuel smb w cb app t = .ok (ret, smb', w', app')) : Ready smb' core port := by
  unfold modbusSlaveWaitHandle at hrun
  simp only [h.contextCheck, ne_eq, not_true, if_false] at hrun
  obtain ⟨⟨ret₁, smb₁, w₁, request⟩, hwait, hrun⟩ := bind_eq_ok.mp hrun
  have h₁ := modbusSlaveWait_ready h hwait
  have h₂ : Ready { smb₁ with readBuff := request } core port := h₁.congr rfl rfl rfl
  dsimp only at hrun
  split at hrun
  · cases hrun
    exact h₂
  · obtain ⟨⟨ret₃, smb₃, w₃, request₃, app₃⟩, hhandle, hrun⟩ := bind_eq_ok.mp hrun
    have h₃ := modbusSlaveHandle_ready h₂ hhandle
    cases hrun
    exact h₃.congr rfl rfl rfl

end Keeps

/-! ## §2 — ports that hand over bytes. -/

/-- A port whose reads return a negative code, or 0 to the requested number of bytes and these bytes. -/
structure Feed (port : Port σ) where
  read : σ → UInt16 → Int × List UInt8 × σ
  wait : σ → Int → Int × σ
  readFn : port.readFn = some read
  waitFn : port.waitFn = some wait
  read_le : ∀ w len, (read w len).1 ≤ len.toNat
  length_bytes : ∀ w len, (read w len).2.1.length = (read w len).1.toNat

namespace Feed

variable {port : Port σ}

/-- No read fails. -/
def Clean (F : Feed port) : Prop := ∀ w len, 0 ≤ (F.read w len).1

/-- The port went from one state to another by reads and waits, and handed over these bytes. -/
inductive Session (F : Feed port) : σ → List UInt8 → σ → Prop
  | refl (w : σ) : Session F w [] w
  | read (w : σ) (len : UInt16) {log : List UInt8} {w' : σ} :
      Session F (F.read w len).2.2 log w' → Session F w ((F.read w len).2.1 ++ log) w'
  | wait (w : σ) (t : Int) {log : List UInt8} {w' : σ} :
      Session F (F.wait w t).2 log w' → Session F w log w'

theorem Session.trans {F : Feed port} {w w₁ w₂ : σ} {log log₁ : List UInt8}
    (h : F.Session w log w₁) (h₁ : F.Session w₁ log₁ w₂) : F.Session w (log ++ log₁) w₂ := by
  induction h with
  | refl w => exact h₁
  | read w len _ ih =>
    rw [List.append_assoc]
    exact .read w len (ih h₁)
  | wait w t _ ih => exact .wait w t (ih h₁)

/-- One read. -/
theorem Session.of_read (F : Feed port) (w : σ) (len : UInt16) :
    F.Session w (F.read w len).2.1 (F.read w len).2.2 := by
  have h := Session.read w len (Session.refl (F := F) (F.read w len).2.2)
  rwa [List.append_nil] at h

/-- Reads and waits keep this property of the device state. -/
structure Preserves (F : Feed port) (P : σ → Prop) : Prop where
  preserves_read : ∀ w len, P w → P (F.read w len).2.2
  preserves_wait : ∀ w t, P w → P (F.wait w t).2

theorem Session.preserves {F : Feed port} {P : σ → Prop} (hP : F.Preserves P) {w w' : σ}
    {log : List UInt8} (h : F.Session w log w') (hw : P w) : P w' := by
  induction h with
  | refl w => exact hw
  | read w len _ ih => exact ih (hP.preserves_read w len hw)
  | wait w t _ ih => exact ih (hP.preserves_wait w t hw)

/-- A record of the bytes the port handed over. -/
structure Log (F : Feed port) where
  seen : σ → List UInt8
  seen_read : ∀ w len, seen (F.read w len).2.2 = seen w ++ (F.read w len).2.1
  seen_wait : ∀ w t, seen (F.wait w t).2 = seen w

theorem Session.seen {F : Feed port} (G : F.Log) {w w' : σ} {log : List UInt8}
    (h : F.Session w log w') : G.seen w' = G.seen w ++ log := by
  induction h with
  | refl w => rw [List.append_nil]
  | read w len _ ih => rw [ih, G.seen_read, List.append_assoc]
  | wait w t _ ih => rw [ih, G.seen_wait]

/-! ### Rounds -/

/-- Asked for `ask` bytes from `w` on, the port hands them over or fails a wait within this many rounds
of a read and a wait. -/
def Rounds (F : Feed port) (t : Int) : Nat → σ → UInt16 → Prop
  | 0, _, _ => False
  | k + 1, w, ask =>
      (F.read w ask).1 = ask.toNat ∨ (F.wait (F.read w ask).2.2 t).1 < 0 ∨
        ∀ ask' : UInt16, ask'.toNat = ask.toNat - (F.read w ask).1.toNat →
          Rounds F t k (F.wait (F.read w ask).2.2 t).2 ask'

/-- From `w` on the port never takes more rounds for a demand than `bound` and the bytes asked for. -/
def Patient (F : Feed port) (bound : Nat) (w : σ) : Prop :=
  ∀ log w', F.Session w log w' → ∀ (t : Int) (ask : UInt16), 0 < ask.toNat →
    F.Rounds t (bound + ask.toNat) w' ask

theorem Patient.session {F : Feed port} {bound : Nat} {w w' : σ} {log : List UInt8}
    (h : F.Patient bound w) (hs : F.Session w log w') : F.Patient bound w' :=
  fun _ _ hs' => h _ _ (hs.trans hs')

/-- `rank` bounds the number of rounds that hand over nothing and are followed by a successful wait. -/
structure Fair (F : Feed port) (rank : σ → Nat) : Prop where
  rank_read : ∀ w len, rank (F.read w len).2.2 ≤ rank w
  rank_wait : ∀ w t, rank (F.wait w t).2 ≤ rank w
  rank_stall : ∀ w len t, 0 < len.toNat → (F.read w len).1 = 0 →
    0 ≤ (F.wait (F.read w len).2.2 t).1 → rank (F.wait (F.read w len).2.2 t).2 < rank w

/-- A successful wait is followed by a read that hands over something. -/
def Responsive (F : Feed port) : Prop :=
  ∀ w t (len : UInt16), 0 ≤ (F.wait w t).1 → 0 < len.toNat → 0 < (F.read (F.wait w t).2 len).1

section Patience

variable {F : Feed port} (hF : F.Clean)

include hF

theorem Fair.rounds {rank : σ → Nat} (hf : F.Fair rank) (t : Int) :
    ∀ (k : Nat) (w : σ) (ask : UInt16), 0 < ask.toNat → rank w + ask.toNat ≤ k → F.Rounds t k w ask := by
  intro k
  induction k with
  | zero => intro w ask hask hk; omega
  | succ k ih =>
    intro w ask hask hk
    have hle := F.read_le w ask
    have hnn := hF w ask
    by_cases hall : (F.read w ask).1 = ask.toNat
    · exact Or.inl hall
    by_cases hwait : (F.wait (F.read w ask).2.2 t).1 < 0
    · exact Or.inr (Or.inl hwait)
    refine Or.inr (Or.inr fun ask' hask' => ih _ _ (by omega) ?_)
    have hrank := (hf.rank_wait (F.read w ask).2.2 t).trans (hf.rank_read w ask)
    by_cases h0 : (F.read w ask).1 = 0
    · -- nothing was handed over: the rank went down
      have := hf.rank_stall w ask t hask h0 (by omega)
      omega
    · omega

/-- A fair port is patient. -/
theorem Fair.patient {rank : σ → Nat} (hf : F.Fair rank) (w : σ) : F.Patient (rank w) w := by
  intro log w' hs t ask hask
  have hrank : rank w' ≤ rank w := by
    apply hs.preserves (P := fun v => rank v ≤ rank w) _ le_rfl
    exact ⟨fun v len hv => (hf.rank_read v len).trans hv, fun v t hv => (hf.rank_wait v t).trans hv⟩
  exact hf.rounds hF t _ w' ask hask (by omega)

omit hF in
theorem Responsive.rounds (hr : F.Responsive) (t : Int) :
    ∀ (k : Nat) (w : σ) (ask : UInt16), 0 < ask.toNat → ask.toNat ≤ k → 0 < (F.read w ask).1 →
      F.Rounds t k w ask := by
  intro k
  induction k with
  | zero => intro w ask hask hk; omega
  | succ k ih =>
    intro w ask hask hk hpos
    have hle := F.read_le w ask
    by_cases hall : (F.read w ask).1 = ask.toNat
    · exact Or.inl hall
    by_cases hwait : (F.wait (F.read w ask).2.2 t).1 < 0
    · exact Or.inr (Or.inl hwait)
    refine Or.inr (Or.inr fun ask' hask' => ih _ _ (by omega) (by omega) ?_)
    exact hr _ t ask' (by omega) (by omega)

/-- A responsive port is patient: only the first read of a demand may hand over nothing. -/
theorem Responsive.patient (hr : F.Responsive) (w : σ) : F.Patient 1 w := by
  intro log w' _ t ask hask
  have hle := F.read_le w' ask
  have hnn := hF w' ask
  rw [Nat.add_comm]
  by_cases hall : (F.read w' ask).1 = ask.toNat
  · exact Or.inl hall
  by_cases hwait : (F.wait (F.read w' ask).2.2 t).1 < 0
  · exact Or.inr (Or.inl hwait)
  refine Or.inr (Or.inr fun ask' hask' => hr.rounds t _ _ ask' (by omega) (by omega) ?_)
  exact hr _ t ask' (by omega) (by omega)

end Patience

end Feed

/-! ## §3 — `modbus_want_read`. -/

section WantRead

variable {smb : Smb σ} {core : Core} {port : Port σ} {F : Feed port} (hF : F.Clean)
  (h : Ready smb core port) (old : Buffer UInt8 n) (pre : List UInt8) (len : UInt16) (t : Int)

include hF h

/-- One round of `modbus_want_read`, `got` being the bytes it has so far. -/
theorem wantReadLoop_succ (fuel : Nat) (w : σ) {got : List UInt8} {readLen : UInt16}
    (hgot : readLen.toNat = got.length) (hle : got.length ≤ len.toNat)
    (hn : pre.length + len.toNat ≤ n) :
    ∃ ask readLen' : UInt16, ask.toNat = len.toNat - got.length ∧
      readLen'.toNat = (got ++ (F.read w ask).2.1).length ∧ readLen'.toNat ≤ len.toNat ∧
      wantReadLoop smb pre.length len t (fuel + 1) w (old.fill (pre ++ got)) readLen =
        if len.toNat ≤ readLen'.toNat then
          .ok ((readLen'.toNat : Int), (F.read w ask).2.2, old.fill (pre ++ (got ++ (F.read w ask).2.1)))
        else if 0 ≤ (F.wait (F.read w ask).2.2 t).1 then
          wantReadLoop smb pre.length len t fuel (F.wait (F.read w ask).2.2 t).2
            (old.fill (pre ++ (got ++ (F.read w ask).2.1))) readLen'
        else
          .ok ((F.wait (F.read w ask).2.2 t).1, (F.wait (F.read w ask).2.2 t).2,
            old.fill (pre ++ (got ++ (F.read w ask).2.1))) := by
  have hlen := len.toNat_lt
  set ask := toU16 ((len.toNat : Int) - readLen.toNat) with hask
  have hasklen : ask.toNat = len.toNat - got.length := by
    rw [hask, toNat_toU16_of_lt (by omega) (by omega), hgot]
    omega
  have hc := F.read_le w ask
  have hnn := hF w ask
  have hbytes := F.length_bytes w ask
  have hsum : (toU16 ((readLen.toNat : Int) + (F.read w ask).1)).toNat =
      (got ++ (F.read w ask).2.1).length := by
    rw [toNat_toU16_of_lt (by omega) (by omega), List.length_append, hbytes, hgot]
    omega
  refine ⟨ask, toU16 ((readLen.toNat : Int) + (F.read w ask).1), hasklen, hsum, ?_, ?_⟩
  · rw [hsum, List.length_append, hbytes]
    omega
  · rw [wantReadLoop, h.read F.readFn, ← hask]
    dsimp only
    rw [Buffer.storeBlock_fill_end old (by rw [List.length_append]; omega)
      (by rw [List.length_append, hbytes]; omega), exec_ok_bind, List.append_assoc]
    simp only [h.wait F.waitFn, ge_iff_le, modbusOk, exec_pure]

/-- What `modbus_want_read` does: it never leaves its buffer, and when it returns, it has stored what the
port handed over behind its pointer, and either that was all it wanted, or a wait failed. -/
theorem wantReadLoop_feed :
    ∀ (fuel : Nat) (w : σ) (got : List UInt8) (readLen : UInt16), readLen.toNat = got.length →
      got.length ≤ len.toNat → pre.length + len.toNat ≤ n →
      wantReadLoop smb pre.length len t fuel w (old.fill (pre ++ got)) readLen = .error .fuel ∨
      ∃ ret w' more, wantReadLoop smb pre.length len t fuel w (old.fill (pre ++ got)) readLen =
          .ok (ret, w', old.fill (pre ++ (got ++ more))) ∧ F.Session w more w' ∧
        (ret = len.toNat ∧ got.length + more.length = len.toNat ∨
          ret < 0 ∧ got.length + more.length < len.toNat ∧ ∃ w₁, F.wait w₁ t = (ret, w')) := by
  intro fuel
  induction fuel with
  | zero => exact fun w got readLen _ _ _ => Or.inl rfl
  | succ fuel ih =>
    intro w got readLen hgot hle hn
    obtain ⟨ask, readLen', hask, hread', hle', hstep⟩ := wantReadLoop_succ hF h old pre len t fuel w hgot hle hn
    have hone := Feed.Session.of_read F w ask
    rw [List.length_append] at hread'
    rw [hstep]
    split
    · -- all that was wanted has arrived
      right
      exact ⟨_, _, _, rfl, hone, Or.inl ⟨by omega, by omega⟩⟩
    · rename_i hge
      split
      · -- the wait succeeded: one more round
        rcases ih (F.wait (F.read w ask).2.2 t).2 (got ++ (F.read w ask).2.1) readLen'
          (by rw [List.length_append]; omega) (by rw [List.length_append]; omega) hn with
          hfuel | ⟨ret, w', more, hrun, hs, hcase⟩
        · exact Or.inl hfuel
        · right
          rw [List.length_append] at hcase
          rw [hrun, List.append_assoc]
          refine ⟨ret, w', _, rfl, hone.trans (.wait _ t hs), ?_⟩
          rw [List.length_append]
          exact hcase.imp (fun hok => ⟨hok.1, by omega⟩) (fun hbad => ⟨hbad.1, by omega, hbad.2.2⟩)
      · -- the wait failed
        rename_i hwait
        right
        have hw : F.Session w (F.read w ask).2.1 (F.wait (F.read w ask).2.2 t).2 := by
          have h2 := hone.trans (.wait (F.read w ask).2.2 t (.refl _))
          rwa [List.append_nil] at h2
        exact ⟨_, _, _, rfl, hw, Or.inr ⟨by omega, by omega, _, rfl⟩⟩

/-- On a port that answers a demand in so many rounds `modbus_want_read` returns. -/
theorem wantReadLoop_returns :
    ∀ (k fuel : Nat) (w : σ) (got : List UInt8) (readLen ask : UInt16), readLen.toNat = got.length →
      got.length ≤ len.toNat → pre.length + len.toNat ≤ n → ask.toNat = len.toNat - got.length →
      F.Rounds t k w ask → k ≤ fuel →
      wantReadLoop smb pre.length len t fuel w (old.fill (pre ++ got)) readLen ≠ .error .fuel := by
  intro k
  induction k with
  | zero => intro fuel w got readLen ask _ _ _ _ hrounds; exact hrounds.elim
  | succ k ih =>
    intro fuel w got readLen ask hgot hle hn hask hrounds hfuel
    obtain ⟨fuel, rfl⟩ : ∃ f, fuel = f + 1 := ⟨fuel - 1, by omega⟩
    obtain ⟨ask', readLen', hask', hread', hle', hstep⟩ := wantReadLoop_succ hF h old pre len t fuel w hgot hle hn
    obtain rfl : ask = ask' := by
      rw [← UInt16.toNat_inj]
      omega
    have hbytes := F.length_bytes w ask
    have hnn := hF w ask
    rw [List.length_append] at hread'
    rw [hstep]
    split
    · simp
    · rename_i hge
      split
      · rename_i hwait
        rcases hrounds with hall | hfail | hrest
        · omega
        · omega
        · have hlt : len.toNat - readLen'.toNat < 65536 := by
            have := len.toNat_lt
            omega
          have hleft : (UInt16.ofNat (len.toNat - readLen'.toNat)).toNat = len.toNat - readLen'.toNat :=
            UInt16.toNat_ofNat_of_lt' hlt
          apply ih fuel _ _ readLen' (UInt16.ofNat (len.toNat - readLen'.toNat))
            (by rw [List.length_append]; omega) (by rw [List.length_append]; omega) hn
            (by rw [List.length_append]; omega) _ (by omega)
          exact hrest _ (by omega)
      · simp

end WantRead

section Demand

variable {smb : Smb σ} {core : Core} {port : Port σ} {F : Feed port} (hF : F.Clean)
  (h : Ready smb core port) (old : Buffer UInt8 n)

include hF h

/-- A demand for `k` bytes behind `r`: the budget runs out inside it, a wait fails inside it, or it is
met. -/
theorem modbusWantRead_feed (fuel : Nat) {k : Nat} (w : σ) {r : List UInt8} (t : Int) (hk : k < 65536)
    (hroom : r.length + k ≤ n) :
    modbusWantRead fuel smb w (old.fill r) r.length (toU16 k) t = .error .fuel ∨
    (∃ ret w' c w₁, F.Session w c w' ∧ c.length < k ∧ ret < 0 ∧ F.wait w₁ t = (ret, w') ∧
      modbusWantRead fuel smb w (old.fill r) r.length (toU16 k) t = .ok (ret, w', old.fill (r ++ c))) ∨
    ∃ w' c, F.Session w c w' ∧ c.length = k ∧
      modbusWantRead fuel smb w (old.fill r) r.length (toU16 k) t =
        .ok ((k : Int), w', old.fill (r ++ c)) := by
  have hku : (toU16 (k : Int)).toNat = k := toNat_toU16_natCast (by omega)
  have hwant := wantReadLoop_feed hF h old r (toU16 (k : Int)) t fuel w [] 0 rfl (Nat.zero_le _)
    (by rw [hku]; exact hroom)
  simp only [List.append_nil, List.nil_append, List.length_nil, Nat.zero_add, hku] at hwant
  rcases hwant with hfuel | ⟨ret, w', c, hrun, hs, ⟨hret, hlen⟩ | ⟨hret, hlen, w₁, hwait⟩⟩
  · exact Or.inl hfuel
  · right
    right
    rw [hret] at hrun
    exact ⟨w', c, hs, hlen, hrun⟩
  · right
    left
    exact ⟨ret, w', c, w₁, hs, hlen, hret, hwait, hrun⟩

/-- On a patient port every demand is met or fails. -/
theorem modbusWantRead_patient {bound fuel k : Nat} {w : σ} (hpat : F.Patient bound w) {r : List UInt8}
    (t : Int) (hk : 0 < k) (hk' : k < 65536) (hroom : r.length + k ≤ n) (hfuel : bound + k ≤ fuel) :
    modbusWantRead fuel smb w (old.fill r) r.length (toU16 k) t ≠ .error .fuel := by
  have hku : (toU16 (k : Int)).toNat = k := toNat_toU16_natCast (by omega)
  have hinner := wantReadLoop_returns hF h old r (toU16 (k : Int)) t _ fuel w [] 0 (toU16 k) rfl
    (Nat.zero_le _) (by rw [hku]; exact hroom) rfl (hpat [] w (.refl w) t _ (by omega)) (by omega)
  rwa [List.append_nil] at hinner

end Demand

/-! ## §4 — the reception loop follows a reader. -/

/-- The loop at `position`, wanting `want` bytes behind the bytes `r` it has, does what the reader `p`
says: it wants what `p` wants, and its switch goes on as `p` does. -/
def Follows (next : NextWant n) (old : Buffer UInt8 n) :
    Pull UInt8 Int → (position want : Int) → List UInt8 → Prop
  | .finish, _, want, _ => want = 0
  | .reject _, _, _, _ => False
  | .read k cont, position, want, r =>
      want = k ∧ 0 < k ∧ k < 65536 ∧ r.length + k ≤ n ∧
        ∀ c : List UInt8, c.length = k →
          (∃ position' e,
            next (old.fill (r ++ c)) position ((r ++ c).length : Nat) = .ok (position', .error e) ∧
              cont c = .reject e) ∨
          (∃ position' want',
            next (old.fill (r ++ c)) position ((r ++ c).length : Nat) = .ok (position', .ok want') ∧
              Follows next old (cont c) position' want' (r ++ c))

/-- A reader wants one thing at a time. -/
theorem Follows.want_unique {next next₂ : NextWant n} {old : Buffer UInt8 n} {p : Pull UInt8 Int}
    {position position₂ want want₂ : Int} {r : List UInt8} (h : Follows next old p position want r)
    (h₂ : Follows next₂ old p position₂ want₂ r) : want = want₂ := by
  cases p with
  | finish =>
    rw [Follows] at h h₂
    rw [h, h₂]
  | reject e => exact h.elim
  | read k cont =>
    obtain ⟨rfl, -⟩ := h
    obtain ⟨rfl, -⟩ := h₂
    rfl

/-- The loop never takes more than its buffer holds. -/
theorem Follows.taken_le {next : NextWant n} {old : Buffer UInt8 n} :
    ∀ (p : Pull UInt8 Int) (position want : Int) (r t : List UInt8), Follows next old p position want r →
      r.length ≤ n → (p.Starves t ∨ ∃ e, p.Ends t e) → r.length + t.length ≤ n := by
  intro p
  induction p with
  | finish =>
    rintro position want r t - hr (hst | ⟨e, rfl, -⟩)
    · exact hst.elim
    · exact hr
  | reject e =>
    intro position want r t hfol
    exact hfol.elim
  | read k cont ih =>
    intro position want r t hfol hr hend
    obtain ⟨rfl, hk, hk', hroom, hcont⟩ := hfol
    by_cases hlt : t.length < k
    · omega
    have htake : (t.take k).length = k := List.length_take_of_le (by omega)
    have hrest : ((cont (t.take k)).Starves (t.drop k) ∨ ∃ e, (cont (t.take k)).Ends (t.drop k) e) := by
      rcases hend with (hst | ⟨-, hst⟩) | ⟨e, -, he⟩
      · exact absurd hst hlt
      · exact Or.inl hst
      · exact Or.inr ⟨e, he⟩
    have hdrop : (t.drop k).length = t.length - k := List.length_drop
    rcases hcont (t.take k) htake with ⟨-, e, -, hrej⟩ | ⟨position', want', -, hfol'⟩
    · -- rejected after these `k` bytes
      rw [hrej] at hrest
      rcases hrest with hst | ⟨e', hnil, -⟩
      · exact hst.elim
      · rw [hnil, List.length_nil] at hdrop
        omega
    · have hle := ih (t.take k) position' want' (r ++ t.take k) (t.drop k) hfol'
        (by rw [List.length_append]; omega) hrest
      rw [List.length_append] at hle
      omega

/-- How the reception loop leaves when its reader leaves `o` behind `r`. -/
def exitOf (r : List UInt8) (o : Outcome UInt8 Int) : Except Int Int :=
  match o.error with
  | none => .ok ((r.length + o.taken.length : Nat) : Int)
  | some e => .error e

/-- How a reception ends that follows the reader `p`: the port handed over what was taken, and either the
reader ended on it, or it asked for more and a wait failed. -/
structure Feed.Received {port : Port σ} (F : Feed port) (p : Pull UInt8 Int) (w w' : σ)
    (o : Outcome UInt8 Int) : Prop where
  session : F.Session w o.taken w'
  ends : p.Ends o.taken o.error ∨
    p.Starves o.taken ∧ ∃ code w₁ t, o.error = some code ∧ code < 0 ∧ F.wait w₁ t = (code, w')

section Receive

variable {smb : Smb σ} {core : Core} {port : Port σ} {F : Feed port} (hF : F.Clean)
  (h : Ready smb core port) (next : NextWant n) (old : Buffer UInt8 n)

/-- One round of the reception loop whose demand fails. -/
theorem receiveLoop_failed {fuel k : Nat} {w w' : σ} {r : List UInt8} (position : Int) {t ret : Int}
    {buff : Buffer UInt8 n} (hk : 0 < k) (hret : ret < 0)
    (hwant : modbusWantRead fuel smb w (old.fill r) r.length (toU16 k) t = .ok (ret, w', buff)) :
    receiveLoop next smb (fuel + 1) w (old.fill r) position k r.length t =
      .ok (.error ret, w', buff) := by
  rw [receiveLoop, if_pos (by omega), Int.toNat_natCast, hwant, exec_ok_bind]
  exact if_pos hret

/-- One round of the reception loop whose demand is met: the switch decides. -/
theorem receiveLoop_met {fuel k : Nat} {w w' : σ} {r c : List UInt8} (position : Int) {t : Int}
    (hk : 0 < k) (hc : c.length = k)
    (hwant : modbusWantRead fuel smb w (old.fill r) r.length (toU16 k) t =
      .ok ((k : Int), w', old.fill (r ++ c))) :
    receiveLoop next smb (fuel + 1) w (old.fill r) position k r.length t = (do
      let (position, verdict) ← next (old.fill (r ++ c)) position ((r ++ c).length : Nat)
      match verdict with
      | .error code => .ok (.error code, w', old.fill (r ++ c))
      | .ok readWant =>
          receiveLoop next smb fuel w' (old.fill (r ++ c)) position readWant ((r ++ c).length : Nat)
            (if readWant ≠ 0 then toI32 (smb.timeoutByte * toU32 readWant) else t)) := by
  have hsum : (r.length : Int) + (k : Int) = ((r ++ c).length : Nat) := by
    rw [List.length_append, hc]
    push_cast
    rfl
  rw [receiveLoop, if_pos (by omega), Int.toNat_natCast, hwant, exec_ok_bind]
  dsimp only
  rw [if_neg (by simp), hsum, if_pos (by omega)]
  rfl

include hF h

/-- **Reception on a feed.** The loop never leaves its buffer, and when it returns, it has stored what the
port handed over, and its reader ended on that or starved on it. -/
theorem receiveLoop_feed :
    ∀ (p : Pull UInt8 Int) (fuel : Nat) (w : σ) (position want : Int) (r : List UInt8) (t : Int),
      Follows next old p position want r →
      receiveLoop next smb fuel w (old.fill r) position want r.length t = .error .fuel ∨
      ∃ o w', receiveLoop next smb fuel w (old.fill r) position want r.length t =
        .ok (exitOf r o, w', old.fill (r ++ o.taken)) ∧ F.Received p w w' o := by
  intro p
  induction p with
  | finish =>
    intro fuel w position want r t hfol
    rw [Follows] at hfol
    subst hfol
    cases fuel with
    | zero => exact Or.inl rfl
    | succ fuel =>
      right
      refine ⟨⟨none, [], []⟩, w, ?_, ⟨.refl w, Or.inl ⟨rfl, rfl⟩⟩⟩
      rw [receiveLoop, if_neg (by omega), List.append_nil]
      rfl
  | reject e =>
    intro fuel w position want r t hfol
    exact hfol.elim
  | read k cont ih =>
    intro fuel w position want r t hfol
    obtain ⟨rfl, hk, hk', hroom, hcont⟩ := hfol
    cases fuel with
    | zero => exact Or.inl rfl
    | succ fuel =>
      rcases modbusWantRead_feed hF h old fuel w t hk' hroom with
        hfuel | ⟨ret, w', c, w₁, hs, hlen, hret, hwait, hwant⟩ | ⟨w', c, hs, hlen, hwant⟩
      · left
        rw [receiveLoop, if_pos (by omega), Int.toNat_natCast, hfuel, exec_error_bind]
      · -- a wait failed: the reader starves
        right
        have hrun := receiveLoop_failed next old position hk hret hwant
        exact ⟨⟨some ret, c, []⟩, w', hrun, hs, Or.inr ⟨Or.inl hlen, ret, w₁, t, rfl, hret, hwait⟩⟩
      · have hrun := receiveLoop_met next old position hk hlen hwant
        have htake : ∀ x, (c ++ x).take k = c := fun x => List.take_left' hlen
        have hdrop : ∀ x, (c ++ x).drop k = x := fun x => List.drop_left' hlen
        have hle : ∀ x : List UInt8, k ≤ (c ++ x).length := by
          intro x
          rw [List.length_append]
          omega
        rcases hcont c hlen with ⟨position', e, hnext, hrej⟩ | ⟨position', want', hnext, hfol'⟩
        · -- the switch rejects what has arrived
          right
          rw [hnext] at hrun
          refine ⟨⟨some e, c, []⟩, w', hrun, hs, Or.inl ⟨hlen.ge, ?_⟩⟩
          rw [List.take_of_length_le hlen.le, List.drop_eq_nil_of_le hlen.le, hrej]
          exact ⟨rfl, rfl⟩
        · -- the switch goes on as the reader does
          rw [hnext] at hrun
          rcases ih c fuel w' position' want' (r ++ c) _ hfol' with hfuel | ⟨o, w'', hrest, hrec⟩
          · exact Or.inl (hrun.trans hfuel)
          · right
            refine ⟨⟨o.error, c ++ o.taken, o.rest⟩, w'', ?_, hs.trans hrec.session, ?_⟩
            · refine hrun.trans (hrest.trans ?_)
              simp only [exitOf, List.length_append, List.append_assoc, Nat.add_assoc]
            · rcases hrec.ends with hends | ⟨hstarves, hfail⟩
              · left
                refine ⟨hle _, ?_⟩
                rw [htake, hdrop]
                exact hends
              · right
                refine ⟨Or.inr ⟨hle _, ?_⟩, hfail⟩
                rw [htake, hdrop]
                exact hstarves

/-- On a patient port the reception loop returns. -/
theorem receiveLoop_returns {bound : Nat} :
    ∀ (p : Pull UInt8 Int) (fuel : Nat) (w : σ) (position want : Int) (r : List UInt8) (t : Int),
      F.Patient bound w → Follows next old p position want r → bound + 2 * (n - r.length) + 1 < fuel →
      receiveLoop next smb fuel w (old.fill r) position want r.length t ≠ .error .fuel := by
  intro p
  induction p with
  | finish =>
    intro fuel w position want r t hpat hfol hfuel
    rw [Follows] at hfol
    subst hfol
    cases fuel with
    | zero => omega
    | succ fuel => simp [receiveLoop]
  | reject e =>
    intro fuel w position want r t hpat hfol
    exact hfol.elim
  | read k cont ih =>
    intro fuel w position want r t hpat hfol hfuel
    obtain ⟨rfl, hk, hk', hroom, hcont⟩ := hfol
    cases fuel with
    | zero => omega
    | succ fuel =>
      rcases modbusWantRead_feed hF h old fuel w t hk' hroom with
        hout | ⟨ret, w', c, w₁, -, -, hret, -, hwant⟩ | ⟨w', c, hs, hlen, hwant⟩
      · exact absurd hout (modbusWantRead_patient hF h old hpat t hk hk' hroom (by omega))
      · rw [receiveLoop_failed next old position hk hret hwant]
        simp
      · rw [receiveLoop_met next old position hk hlen hwant]
        rcases hcont c hlen with ⟨position', e, hnext, -⟩ | ⟨position', want', hnext, hfol'⟩
        · rw [hnext]
          simp
        · rw [hnext]
          apply ih c fuel w' position' want' (r ++ c) _ (hpat.session hs) hfol'
          rw [List.length_append]
          omega

end Receive

end SmallModbus
