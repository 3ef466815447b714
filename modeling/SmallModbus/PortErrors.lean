/-
# `SmallModbus.PortErrors` — what a failed read of the port does.

`modbus_want_read` adds the signed result of a read to a `uint16_t`. `ErrorsReported` says what its callers
rely on: a demand is met with bytes of the port or fails with a negative code, and a reception in which a
read failed fails. It holds on the ports that never fail a read and, for every negative code, not on some
port that fails with it (`errorsReported_iff`).
-/
import SmallModbus.Receive

namespace SmallModbus

open SmallModbus.Lib

/-! ## §1 — errors reported. -/

section Reported

variable {σ : Type} {port : Port σ}

/-- A record of the bytes a port handed over and of how many of its reads failed. -/
structure Feed.Audit (F : Feed port) extends F.Log where
  failures : σ → Nat
  failures_read : ∀ w len,
    failures (F.read w len).2.2 = failures w + if (F.read w len).1 < 0 then 1 else 0
  failures_wait : ∀ w t, failures (F.wait w t).2 = failures w

/-- The port fails a read with these codes only. -/
def Feed.FailsWith (F : Feed port) (codes : Set Int) : Prop :=
  ∀ w len, (F.read w len).1 < 0 → (F.read w len).1 ∈ codes

/-- A failed read of the port is not taken for data. -/
structure ErrorsReported {F : Feed port} (G : F.Audit) : Prop where
  /-- `modbus_want_read` fails with a negative code, or has stored as many bytes as it was to, the next
  ones the port handed over -/
  want_read : ∀ {smb : Smb σ} {core : Core}, Ready smb core port → ∀ {n : Nat} (buff : Buffer UInt8 n)
    (off : Nat) (len : UInt16), off + len.toNat ≤ n → ∀ fuel w t,
    modbusWantRead fuel smb w buff off len t ≠ .error .fault ∧
    ∀ ret w' buff', modbusWantRead fuel smb w buff off len t = .ok (ret, w', buff') → ret < 0 ∨
      ret = len.toNat ∧ ∃ bytes : List UInt8, bytes.length = len.toNat ∧
        G.seen w' = G.seen w ++ bytes ∧ buff.storeBlock off bytes = .ok buff'
  /-- `modbus_slave_wait` stays inside its buffer and fails when a read failed -/
  slave_wait : ∀ {smb : Smb σ} {core : Core}, Ready smb core port → ∀ {n : Nat} (request : Buffer UInt8 n),
    modbusMaxAduLength ≤ n → ∀ fuel w t,
    modbusSlaveWait fuel smb w request t ≠ .error .fault ∧
    ∀ ret smb' w' request', modbusSlaveWait fuel smb w request t = .ok (ret, smb', w', request') →
      G.failures w < G.failures w' → ret < 0
  /-- so does `modbus_wait_confirm` -/
  wait_confirm : ∀ {smb : Smb σ} {core : Core}, Ready smb core port → ∀ {n : Nat}
    (response : Buffer UInt8 n), modbusMaxAduLength ≤ n → ∀ fuel w,
    modbusWaitConfirm fuel smb w response ≠ .error .fault ∧
    ∀ ret w' response', modbusWaitConfirm fuel smb w response = .ok (ret, w', response') →
      G.failures w < G.failures w' → ret < 0

/-- A port that never fails a read has nothing to report. -/
theorem Feed.Clean.failures {F : Feed port} (hF : F.Clean) (G : F.Audit) {w w' : σ} {log : List UInt8}
    (h : F.Session w log w') : G.failures w' = G.failures w := by
  induction h with
  | refl w => rfl
  | read w len _ ih =>
    have hnn := hF w len
    rw [ih, G.failures_read, if_neg (by omega), Nat.add_zero]
  | wait w t _ ih => rw [ih, G.failures_wait]

theorem Feed.Clean.want_read {F : Feed port} (hF : F.Clean) (G : F.Audit) {smb : Smb σ} {core : Core}
    (h : Ready smb core port) {n : Nat} (buff : Buffer UInt8 n) (off : Nat) (len : UInt16)
    (hn : off + len.toNat ≤ n) (fuel : Nat) (w : σ) (t : Int) :
    modbusWantRead fuel smb w buff off len t ≠ .error .fault ∧
    ∀ ret w' buff', modbusWantRead fuel smb w buff off len t = .ok (ret, w', buff') → ret < 0 ∨
      ret = len.toNat ∧ ∃ bytes : List UInt8, bytes.length = len.toNat ∧
        G.seen w' = G.seen w ++ bytes ∧ buff.storeBlock off bytes = .ok buff' := by
  -- the cells in front of the pointer are known: they are what they are
  have hpre : (buff.toList.take off).length = off := List.length_take_of_le (by simp; omega)
  have hself : buff.fill (buff.toList.take off) = buff :=
    Buffer.fill_take_self buff (List.take_append_drop off buff.toList).symm
  have hrun := wantReadLoop_feed hF h buff (buff.toList.take off) len t fuel w [] 0 rfl (Nat.zero_le _)
    (by rw [hpre]; exact hn)
  rw [List.append_nil, hself, hpre] at hrun
  unfold modbusWantRead
  rcases hrun with hout | ⟨ret, w', more, hok, hs, hcase⟩
  · rw [hout]
    exact ⟨by simp, fun _ _ _ h => by cases h⟩
  · rw [hok]
    refine ⟨by simp, ?_⟩
    intro ret₁ w₁ buff₁ heq
    cases heq
    rcases hcase with ⟨hret, hlen⟩ | ⟨hneg, -⟩
    · right
      rw [List.length_nil, Nat.zero_add] at hlen
      refine ⟨hret, more, hlen, hs.seen G.toLog, ?_⟩
      have hroom : (buff.toList.take off).length + more.length ≤ n := by omega
      have hstore := Buffer.storeBlock_fill_end buff hpre.symm hroom
      rwa [hself] at hstore
    · exact Or.inl hneg

/-- Without failed reads there is nothing to report. -/
theorem Feed.Clean.errorsReported {F : Feed port} (hF : F.Clean) (G : F.Audit) : ErrorsReported G where
  want_read h _ buff off len hn fuel w t := hF.want_read G h buff off len hn fuel w t
  slave_wait h _ request hn fuel w t := by
    rcases modbusSlaveWait_feed hF h request hn fuel w t with hout | ⟨o, ret, smb', w', hok, hrec, -⟩
    · rw [hout]
      exact ⟨by simp, fun _ _ _ _ h => by cases h⟩
    · rw [hok]
      refine ⟨by simp, fun _ _ _ _ heq hlt => ?_⟩
      cases heq
      rw [hF.failures G hrec.session] at hlt
      exact absurd hlt (lt_irrefl _)
  wait_confirm h _ response hn fuel w := by
    rcases modbusWaitConfirm_feed hF h response hn fuel w with hout | ⟨o, ret, w', hok, hrec, -⟩
    · rw [hout]
      exact ⟨by simp, fun _ _ _ h => by cases h⟩
    · rw [hok]
      refine ⟨by simp, fun _ _ _ heq hlt => ?_⟩
      cases heq
      rw [hF.failures G hrec.session] at hlt
      exact absurd hlt (lt_irrefl _)

end Reported

/-! ## §2 — a port that fails reads. -/

/-- A device that fails its next `failing` reads and then hands over what it has. -/
structure Faulty where
  failing : Nat
  rx : List UInt8
  seen : List UInt8
  failures : Nat

namespace Faulty

/-- A read, failing with `code`. -/
def read (code : Int) (w : Faulty) (len : UInt16) : Int × List UInt8 × Faulty :=
  match w.failing with
  | k + 1 => (code, [], { w with failing := k, failures := w.failures + 1 })
  | 0 =>
      (min len.toNat w.rx.length, w.rx.take len.toNat,
        { w with rx := w.rx.drop len.toNat, seen := w.seen ++ w.rx.take len.toNat })

def wait (w : Faulty) (_timeout : Int) : Int × Faulty :=
  (if w.rx = [] then modbusTimeout else modbusOk, w)

def port (code : Int) : Port Faulty where
  openFn := none
  closeFn := none
  readFn := some (read code)
  writeFn := none
  flushFn := none
  waitFn := some wait

variable {code : Int} (hcode : code < 0)

def feed : Feed (port code) where
  read := read code
  wait := wait
  readFn := rfl
  waitFn := rfl
  read_le w len := by
    unfold read
    split
    · dsimp only
      omega
    · dsimp only
      omega
  length_bytes w len := by
    unfold read
    split
    · dsimp only
      rw [List.length_nil]
      omega
    · dsimp only
      rw [List.length_take]
      omega

def audit : (feed hcode).Audit where
  seen := seen
  failures := failures
  seen_read w len := by
    show (read code w len).2.2.seen = w.seen ++ (read code w len).2.1
    unfold read
    split
    · exact (List.append_nil _).symm
    · rfl
  seen_wait _ _ := rfl
  failures_read w len := by
    show (read code w len).2.2.failures = w.failures + if (read code w len).1 < 0 then 1 else 0
    unfold read
    split
    · dsimp only
      rw [if_pos hcode]
    · dsimp only
      rw [if_neg (by omega), Nat.add_zero]
  failures_wait _ _ := rfl

/-- A demand whose first read fails: the code is counted as bytes if it is large enough, and otherwise
the demand goes on as if that many bytes had arrived. -/
theorem wantReadLoop_failing {n : Nat} {smb : Smb Faulty} {core : Core} (h : Ready smb core (port code))
    (fuel : Nat) {w : Faulty} (hw : w.failing = 1) (b : Buffer UInt8 n) (off : Nat) (len : UInt16) (t : Int)
    (hoff : off ≤ n) (hrx : w.rx ≠ []) :
    wantReadLoop smb off len t (fuel + 1) w b 0 =
      if len.toNat ≤ (toU16 code).toNat then
        .ok ((toU16 code).toNat, { w with failing := 0, failures := w.failures + 1 }, b)
      else
        wantReadLoop smb off len t fuel { w with failing := 0, failures := w.failures + 1 } b
          (toU16 code) := by
  have hread : ∀ ask, read code w ask =
      (code, [], { w with failing := 0, failures := w.failures + 1 }) := by
    intro ask
    unfold read
    rw [hw]
  have hwait : ∀ k, wait { w with failing := 0, failures := k } t =
      (modbusOk, { w with failing := 0, failures := k }) := by
    intro k
    exact congrArg (·, _) (if_neg hrx)
  have hsum : toU16 ((0 : UInt16).toNat + code) = toU16 code := by
    rw [show ((0 : UInt16).toNat : Int) + code = code by simp]
  have hstore : b.storeBlock (off + (0 : UInt16).toNat) [] = .ok b := Buffer.storeBlock_nil b hoff
  rw [wantReadLoop, h.read (f := read code) rfl, hread]
  dsimp only
  rw [hstore, exec_ok_bind, hsum, h.wait (f := wait) rfl, hwait]
  rfl

/-- A device that fails one read and then hands over a request. -/
def beforeRequest : Faulty := ⟨1, [0, 0, 0, 0, 0, 6, 1, 3, 0, 0, 0, 1], [], 0⟩

/-- A code that is a multiple of 65536 is not noticed: the request behind it is accepted. -/
theorem modbusSlaveWait_unnoticed (h0 : toU16 code = 0) :
    ∃ smb' w' request', modbusSlaveWait 6 (newContext .tcp (port code) 1) beforeRequest
      (Buffer.replicate 260 0) 0 = .ok (12, smb', w', request') ∧ w'.failures = 1 := by
  have h := newContext_ready .tcp (port code) 1
  have hfirst := wantReadLoop_failing h 4 (w := beforeRequest) rfl (Buffer.replicate 260 0) 0 8 0
    (Nat.zero_le _) (List.cons_ne_nil _ _)
  rw [h0, if_neg (show ¬ (8 : UInt16).toNat ≤ (0 : UInt16).toNat by decide)] at hfirst
  have hwant : toU16 ((Core.tcp.lenHeader : Nat) + 1 : Int) = 8 := rfl
  unfold modbusSlaveWait
  rw [h.contextCheck, h.coreOf, if_neg (not_not.mpr rfl), exec_ok_bind, receiveLoop, if_pos (by decide),
    modbusWantRead, hwant, Int.toNat_zero, hfirst]
  exact ⟨_, _, _, rfl, rfl⟩

theorem feed_failsWith (codes : Set Int) (hmem : code ∈ codes) : (feed hcode).FailsWith codes := by
  intro w len
  show (read code w len).1 < 0 → (read code w len).1 ∈ codes
  unfold read
  split
  · exact fun _ => hmem
  · intro hneg
    exact absurd hneg (by dsimp only; omega)

/-- **No negative code is reported**, on the port that fails with it. -/
theorem not_errorsReported : ¬ ErrorsReported (audit hcode) := by
  intro hrep
  have hready := newContext_ready .tcp (port code) 1
  by_cases h0 : toU16 code = 0
  · -- the code vanishes in the sum: a request is accepted after the failed read
    obtain ⟨smb', w', request', hrun, hfail⟩ := modbusSlaveWait_unnoticed h0
    have hneg := (hrep.slave_wait hready _ le_rfl 6 beforeRequest 0).2 _ _ _ _ hrun
      (by show (0 : Nat) < w'.failures; omega)
    exact absurd hneg (by decide)
  · -- the code is counted as at least one byte
    have hone : (1 : UInt16).toNat ≤ (toU16 code).toNat := by
      have : (toU16 code).toNat ≠ 0 := fun hz => h0 (UInt16.toNat_inj.mp hz)
      show 1 ≤ (toU16 code).toNat
      omega
    have hrun := wantReadLoop_failing hready 0 (w := beforeRequest) rfl (Buffer.replicate 1 0) 0 1 0
      (Nat.zero_le _) (List.cons_ne_nil _ _)
    rw [if_pos hone] at hrun
    rcases (hrep.want_read hready _ 0 1 le_rfl 1 beforeRequest 0).2 _ _ _ hrun with
      hneg | ⟨-, bytes, hlen, hseen, -⟩
    · omega
    · have hnil : [] = [] ++ bytes := hseen
      rw [List.nil_append] at hnil
      rw [← hnil] at hlen
      exact absurd hlen (by decide)

end Faulty

/-- **Errors are reported exactly on the ports that have none**: the ports that fail with these codes only
report their failed reads if and only if no such code is negative. -/
theorem errorsReported_iff (codes : Set Int) :
    (∀ (σ : Type) (port : Port σ) (F : Feed port) (G : F.Audit), F.FailsWith codes → ErrorsReported G) ↔
      ∀ code ∈ codes, 0 ≤ code := by
  constructor
  · intro hall code hmem
    by_contra hneg
    have hcode : code < 0 := by omega
    apply Faulty.not_errorsReported hcode
    exact hall Faulty (Faulty.port code) (Faulty.feed hcode) (Faulty.audit hcode)
      (Faulty.feed_failsWith hcode codes hmem)
  · intro hall σ port F G hfails
    apply Feed.Clean.errorsReported
    intro w len
    by_contra hneg
    exact hneg (hall _ (hfails w len (by omega)))

/-- `MODBUS_ERROR_READ` in front of a demand for two bytes is returned as 65528 bytes, and in front of a
request it makes `modbus_slave_wait` store outside its buffer. -/
theorem errorsReported_errorRead :
    (modbusWantRead 1 (newContext .tcp (Faulty.port modbusErrorRead) 1) Faulty.beforeRequest
      (Buffer.replicate 2 0) 0 2 0).map (fun x => (x.1, x.2.1.seen)) = .ok (65528, []) ∧
    (modbusSlaveWait 3 (newContext .tcp (Faulty.port modbusErrorRead) 1) Faulty.beforeRequest
      (Buffer.replicate 260 0) 0).map (fun x => x.1) = .error .fault ∧
    ¬ ErrorsReported (Faulty.audit (show modbusErrorRead < 0 by decide)) := by
  refine ⟨by decide, by decide, Faulty.not_errorsReported _⟩

end SmallModbus
