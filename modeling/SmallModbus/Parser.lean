/-
# `SmallModbus.Parser` — what the two wait functions touch.

`receiveWatched` is the reception loop with two things added: it counts the demands that were met, and its
switch is given the bytes received so far as an object of their own, so that a look at any other byte
stops the execution. The two wait functions built on it hand their check such an object too. They do
exactly what the wait functions do (`modbusSlaveWaitWatched_eq`, `modbusWaitConfirmWatched_eq`), so the
wait functions look at nothing else. `wait_parserSafe` puts this together with what they store, how much
they take and when they return, for any port that does not fail a read.
-/
import SmallModbus.Receive

namespace SmallModbus

open SmallModbus.Lib

variable {σ : Type} {n : Nat}

/-! ## §1 — the wait functions watched. -/

/-- `receiveLoop` with a switch that sees the bytes received only; the last result is the number of
demands met. -/
def receiveWatched (next : ∀ m, NextWant m) (smb : Smb σ) :
    Nat → σ → Buffer UInt8 n → (position readWant readLength waitTime : Int) → (phases : Nat) →
      Exec ((Except Int Int × σ × Buffer UInt8 n) × Nat)
  | 0, _, _, _, _, _, _, _ => .error .fuel
  | fuel + 1, w, buff, position, readWant, readLength, waitTime, phases =>
      if readWant ≠ 0 then do
        let (ret, w, buff) ←
          modbusWantRead fuel smb w buff readLength.toNat (toU16 readWant) waitTime
        if modbusOk > ret then
          return ((.error ret, w, buff), phases)
        else
          let readLength := readLength + ret
          let readWant := readWant - ret
          let (position, verdict) ←
            if readWant = 0 then cutNext next n buff position readLength
            else .ok (position, .ok readWant)
          match verdict with
          | .error code => return ((.error code, w, buff), phases + 1)
          | .ok readWant =>
              let waitTime :=
                if readWant ≠ 0 then toI32 (smb.timeoutByte * toU32 readWant) else waitTime
              receiveWatched next smb fuel w buff position readWant readLength waitTime (phases + 1)
      else
        return ((.ok readLength, w, buff), phases)

/-- `modbus_slave_wait`, watched. -/
def modbusSlaveWaitWatched (fuel : Nat) (smb : Smb σ) (w : σ) (request : Buffer UInt8 n) (waitTime : Int) :
    Exec ((Int × Smb σ × σ × Buffer UInt8 n) × Nat) :=
  let ret := modbusContextCheck smb
  if ret ≠ modbusOk then
    return ((ret, smb, w, request), 0)
  else do
    let core ← coreOf smb
    let ((exit, w, request), phases) ←
      receiveWatched (fun _ => slaveNextWant core) smb fuel w request 0 (core.lenHeader + 1) 0 waitTime 0
    match exit with
    | .error ret => return ((ret, smb, w, request), phases)
    | .ok readLength =>
        let (ret, smb) ← core.checkWaitRequest smb (request.cut readLength.toNat) readLength
        return ((ret, smb, w, request), phases)

/-- `modbus_wait_confirm`, watched. -/
def modbusWaitConfirmWatched (fuel : Nat) (smb : Smb σ) (w : σ) (response : Buffer UInt8 n) :
    Exec ((Int × σ × Buffer UInt8 n) × Nat) :=
  let ret := modbusContextCheck smb
  if ret ≠ modbusOk then
    return ((ret, w, response), 0)
  else do
    let core ← coreOf smb
    let ((exit, w, response), phases) ←
      receiveWatched (fun _ => confirmNextWant core) smb fuel w response 0 (core.lenHeader + 1) 0
        (toI32 smb.timeoutFrame) 0
    match exit with
    | .error ret => return ((ret, w, response), phases)
    | .ok readLength =>
        let ret ← core.checkWaitResponse smb (response.cut readLength.toNat) readLength
        return ((ret, w, response), phases)

/-! ## §2 — watching changes nothing. -/

/-- The reader of a frame makes at most three demands. -/
theorem framePull_atMost (core : Core) (fmt : Format) : (framePull core fmt).AtMost 3 := by
  intro head
  apply Pull.atMost_want
  intro fixed
  unfold tailPull
  split_ifs
  · trivial
  · exact Pull.atMost_want fun _ => trivial

section Watched

variable {smb : Smb σ} {core : Core} {port : Port σ} {F : Feed port} (hF : F.Clean)
  (h : Ready smb core port)

include hF h

/-- The watched loop and the loop do the same, and meet as many demands as their reader makes at most. -/
theorem receiveWatched_eq (next : ∀ m, NextWant m) (old : Buffer UInt8 n) :
    ∀ (p : Pull UInt8 Int) (d fuel : Nat) (w : σ) (position position₂ want want₂ : Int) (r : List UInt8)
      (t : Int) (phases : Nat), Follows (next n) old p position want r →
      Follows (cutNext next n) old p position₂ want₂ r → p.AtMost d →
      (receiveWatched next smb fuel w (old.fill r) position₂ want₂ r.length t phases = .error .fuel ∧
        receiveLoop (next n) smb fuel w (old.fill r) position want r.length t = .error .fuel) ∨
      ∃ x k, k ≤ d ∧ receiveLoop (next n) smb fuel w (old.fill r) position want r.length t = .ok x ∧
        receiveWatched next smb fuel w (old.fill r) position₂ want₂ r.length t phases =
          .ok (x, phases + k) := by
  intro p
  induction p with
  | finish =>
    intro d fuel w position position₂ want want₂ r t phases hfol hcut hd
    rw [Follows] at hfol hcut
    subst hfol
    subst hcut
    cases fuel with
    | zero => exact Or.inl ⟨rfl, rfl⟩
    | succ fuel => exact Or.inr ⟨_, 0, Nat.zero_le _, rfl, rfl⟩
  | reject e =>
    intro d fuel w position position₂ want want₂ r t phases hfol
    exact hfol.elim
  | read k cont ih =>
    intro d fuel w position position₂ want want₂ r t phases hfol hcut hd
    obtain ⟨rfl, hk, hk', hroom, hcont⟩ := hfol
    obtain ⟨rfl, -, -, -, hcont₂⟩ := hcut
    cases fuel with
    | zero => exact Or.inl ⟨rfl, rfl⟩
    | succ fuel =>
      rw [receiveWatched, if_pos (by omega), Int.toNat_natCast]
      rcases modbusWantRead_feed hF h old fuel w t hk' hroom with
        hfuel | ⟨ret, w', c, w₁, -, -, hret, -, hwant⟩ | ⟨w', c, -, hlen, hwant⟩
      · -- the budget runs out in both
        left
        rw [receiveLoop, if_pos (by omega), Int.toNat_natCast, hfuel]
        exact ⟨rfl, rfl⟩
      · -- a wait fails in both
        right
        refine ⟨_, 0, Nat.zero_le _, receiveLoop_failed (next n) old position hk hret hwant, ?_⟩
        rw [hwant, exec_ok_bind]
        exact if_pos hret
      · -- the demand is met: both switches see the same bytes
        have hsum : (r.length : Int) + (k : Int) = ((r ++ c).length : Nat) := by
          rw [List.length_append, hlen]
          push_cast
          rfl
        rw [receiveLoop_met (next n) old position hk hlen hwant, hwant, exec_ok_bind]
        dsimp only
        rw [if_neg (by simp), hsum, if_pos (by omega)]
        cases d with
        | zero => exact hd.elim
        | succ d =>
          rcases hcont c hlen with ⟨position', e, hnext, hrej⟩ | ⟨position', want', hnext, hfol'⟩
          · rcases hcont₂ c hlen with ⟨position₂', e₂, hnext₂, hrej₂⟩ | ⟨position₂', want₂', -, hfol₂⟩
            · right
              rw [hrej] at hrej₂
              cases hrej₂
              rw [hnext, hnext₂]
              exact ⟨_, 1, by omega, rfl, rfl⟩
            · rw [hrej] at hfol₂
              exact hfol₂.elim
          · rcases hcont₂ c hlen with ⟨position₂', e₂, -, hrej₂⟩ | ⟨position₂', want₂', hnext₂, hfol₂⟩
            · rw [hrej₂] at hfol'
              exact hfol'.elim
            · obtain rfl : want' = want₂' := hfol'.want_unique hfol₂
              rw [hnext, hnext₂]
              rcases ih c d fuel w' position' position₂' want' want' (r ++ c) _ (phases + 1) hfol' hfol₂
                (hd c) with hout | ⟨x, k', hk₂, hrun, hrun₂⟩
              · exact Or.inl ⟨hout.1, hout.2⟩
              · right
                refine ⟨x, k' + 1, by omega, hrun, ?_⟩
                rw [show phases + (k' + 1) = phases + 1 + k' by omega]
                exact hrun₂

variable (old : Buffer UInt8 n) (hn : modbusMaxAduLength ≤ n)

include hn

theorem receiveWatched_frame {next : ∀ m, NextWant m} {fmt : Format} (hnext : Tabled next core fmt)
    (fuel : Nat) (w : σ) (t : Int) :
    (receiveWatched next smb fuel w old 0 (core.lenHeader + 1) 0 t 0 = .error .fuel ∧
      receiveLoop (next n) smb fuel w old 0 (core.lenHeader + 1) 0 t = .error .fuel) ∨
    ∃ x k, k ≤ 3 ∧ receiveLoop (next n) smb fuel w old 0 (core.lenHeader + 1) 0 t = .ok x ∧
      receiveWatched next smb fuel w old 0 (core.lenHeader + 1) 0 t 0 = .ok (x, k) := by
  have hcast : ((core.lenHeader + 1 : Nat) : Int) = core.lenHeader + 1 := by push_cast; rfl
  have heq := receiveWatched_eq hF h next old _ 3 fuel w 0 0 _ _ [] t 0
    (follows_framePull hnext old hn) (follows_framePull hnext.cut old hn) (framePull_atMost core fmt)
  simp only [Buffer.fill_nil, hcast, List.length_nil, Nat.zero_add] at heq
  exact heq

/-- What the check of a wait function is then given: a code, or bytes with the parts of a frame. -/
theorem receiveWatched_cases {next : ∀ m, NextWant m} {fmt : Format} (hnext : Tabled next core fmt)
    (fuel : Nat) (w : σ) (t : Int) :
    (receiveWatched next smb fuel w old 0 (core.lenHeader + 1) 0 t 0 = .error .fuel ∧
      receiveLoop (next n) smb fuel w old 0 (core.lenHeader + 1) 0 t = .error .fuel) ∨
    ∃ exit w' taken k, k ≤ 3 ∧
      receiveLoop (next n) smb fuel w old 0 (core.lenHeader + 1) 0 t = .ok (exit, w', old.fill taken) ∧
      receiveWatched next smb fuel w old 0 (core.lenHeader + 1) 0 t 0 = .ok ((exit, w', old.fill taken), k) ∧
      ((∃ e, exit = .error e) ∨ exit = .ok (taken.length : Nat) ∧
        ∃ hd pdu ck, taken = hd ++ pdu ++ ck ∧ hd.length = core.lenHeader ∧ ck.length = core.lenChecksum ∧
          taken.length ≤ modbusMaxAduLength) := by
  rcases receiveWatched_frame hF h old hn hnext fuel w t with hout | ⟨x, k, hk, hr, hw⟩
  · exact Or.inl hout
  right
  have hfol := follows_framePull hnext old hn
  rcases receive_feed hF h old hfol fuel w t with
    hfuel | ⟨o, w', hrun, -, ⟨e, -, -, hexit⟩ | ⟨-, hexit, hd, pdu, ck, ht, hhd, hck, -, hlen⟩⟩
  · rw [hfuel] at hr
    cases hr
  · obtain rfl := Except.ok.inj (hrun.symm.trans hr)
    exact ⟨_, w', o.taken, k, hk, hr, hw, Or.inl ⟨e, hexit⟩⟩
  · obtain rfl := Except.ok.inj (hrun.symm.trans hr)
    exact ⟨_, w', o.taken, k, hk, hr, hw, Or.inr ⟨hexit, hd, pdu, ck, ht, hhd, hck, hlen⟩⟩

/-- **`modbus_slave_wait` reads received bytes only**, and meets at most three demands. -/
theorem modbusSlaveWaitWatched_eq (fuel : Nat) (w : σ) (t : Int) :
    (modbusSlaveWaitWatched fuel smb w old t = .error .fuel ∧
      modbusSlaveWait fuel smb w old t = .error .fuel) ∨
    ∃ x k, k ≤ 3 ∧ modbusSlaveWait fuel smb w old t = .ok x ∧
      modbusSlaveWaitWatched fuel smb w old t = .ok (x, k) := by
  unfold modbusSlaveWaitWatched modbusSlaveWait
  simp only [h.contextCheck, ne_eq, not_true, if_false, h.coreOf, exec_ok_bind]
  rcases receiveWatched_cases hF h old hn (slave_tabled core) fuel w t with
    ⟨hw, hr⟩ | ⟨exit, w', taken, k, hk, hr, hw, ⟨e, rfl⟩ | ⟨rfl, hd, pdu, ck, ht, hhd, hck, hlen⟩⟩
  · left
    rw [hw, hr]
    exact ⟨rfl, rfl⟩
  · right
    rw [hr, hw]
    exact ⟨_, k, hk, rfl, rfl⟩
  · -- a frame: the check sees it and nothing behind it
    right
    obtain ⟨ret, smb', hcheck, -⟩ := checkWaitRequest_eq core smb old ht hhd hck hn hlen
    have hcut := checkWaitRequest_cut core smb old ht hhd hck (hlen.trans hn) hlen
    rw [hr, hw, exec_ok_bind, exec_ok_bind]
    dsimp only
    rw [Int.toNat_natCast, hcut, hcheck]
    exact ⟨_, k, hk, rfl, rfl⟩

/-- **`modbus_wait_confirm` reads received bytes only**, and meets at most three demands. -/
theorem modbusWaitConfirmWatched_eq (fuel : Nat) (w : σ) :
    (modbusWaitConfirmWatched fuel smb w old = .error .fuel ∧
      modbusWaitConfirm fuel smb w old = .error .fuel) ∨
    ∃ x k, k ≤ 3 ∧ modbusWaitConfirm fuel smb w old = .ok x ∧
      modbusWaitConfirmWatched fuel smb w old = .ok (x, k) := by
  unfold modbusWaitConfirmWatched modbusWaitConfirm
  simp only [h.contextCheck, ne_eq, not_true, if_false, h.coreOf, exec_ok_bind]
  rcases receiveWatched_cases hF h old hn (confirm_tabled core) fuel w (toI32 smb.timeoutFrame) with
    ⟨hw, hr⟩ | ⟨exit, w', taken, k, hk, hr, hw, ⟨e, rfl⟩ | ⟨rfl, hd, pdu, ck, ht, hhd, hck, hlen⟩⟩
  · left
    rw [hw, hr]
    exact ⟨rfl, rfl⟩
  · right
    rw [hr, hw]
    exact ⟨_, k, hk, rfl, rfl⟩
  · -- a frame: the check sees it and nothing behind it
    right
    obtain ⟨ret, hcheck, -⟩ := checkWaitResponse_eq core smb old ht hhd hck hn hlen
    have hcut := checkWaitResponse_cut core smb old ht hhd hck (hlen.trans hn) hlen
    rw [hr, hw, exec_ok_bind, exec_ok_bind]
    dsimp only
    rw [Int.toNat_natCast, hcut, hcheck]
    exact ⟨_, k, hk, rfl, rfl⟩

end Watched

/-! ## §3 — the two parsers are safe. -/

/-- The shortest frame of a core: header, function code and checksum. -/
def Core.lenAduMin : Core → Nat
  | .rtu => 4
  | .tcp => 8

/-- What a wait function may do with the buffer `old` on a device in state `w`. `run` is the function by
step budget, `watched` the same function watched, `view` picks from a result what it returned, the
device and the buffer. -/
structure ParserSafe {ρ : Type} {port : Port σ} {F : Feed port} (G : F.Log) (core : Core)
    (view : ρ → Int × σ × Buffer UInt8 n) (run : Nat → Exec ρ) (watched : Nat → Exec (ρ × Nat)) (w : σ)
    (old : Buffer UInt8 n) : Prop where
  /-- no access leaves the buffer -/
  no_fault : ∀ fuel, run fuel ≠ .error .fault
  /-- no byte is looked at that was not received in this call -/
  received_only : ∀ fuel, (watched fuel).map Prod.fst = run fuel
  /-- at most three demands are met -/
  phases_le : ∀ fuel x phases, watched fuel = .ok (x, phases) → phases ≤ 3
  /-- what was taken off the port, at most 260 bytes, is what is stored, and nothing else changes; the
  value is negative or the number of bytes taken -/
  result : ∀ fuel x, run fuel = .ok x → ∃ taken : List UInt8,
    G.seen (view x).2.1 = G.seen w ++ taken ∧ taken.length ≤ modbusMaxAduLength ∧
      (view x).2.2 = old.fill taken ∧
      ((view x).1 < 0 ∨ (view x).1 = (taken.length : Nat) ∧ core.lenAduMin ≤ taken.length)
  /-- it returns when a successful wait is followed by a byte -/
  returns : F.Responsive → ∀ fuel, 2 * n + 2 < fuel → ∃ x, run fuel = .ok x

section Safe

variable {smb : Smb σ} {core : Core} {port : Port σ} {F : Feed port} (hF : F.Clean)
  (h : Ready smb core port)

/-- A frame is no shorter than its header, function code and checksum. -/
theorem lenAduMin_le {tid : UInt16} {a : UInt8} {pdu : List UInt8} {fmt : Format} (hsize : fmt.Sized pdu) :
    core.lenAduMin ≤ (core.adu tid a pdu).length := by
  have hpdu : pdu.length = 1 + fmt.fixed (pdu.getD 0 0) + fmt.dataLength pdu := hsize
  rw [Core.length_adu]
  cases core with
  | rtu =>
    simp only [Core.lenAduMin, Core.lenHeader, Core.lenChecksum]
    omega
  | tcp =>
    simp only [Core.lenAduMin, Core.lenHeader, Core.lenChecksum]
    omega

/-- A wait function is safe when it ends like its reader, its watched form agrees with it, and it does not
run out on a port that responds. -/
theorem ParserSafe.of_feed {ρ : Type} {G : F.Log} {view : ρ → Int × σ × Buffer UInt8 n} {run : Nat → Exec ρ}
    {watched : Nat → Exec (ρ × Nat)} {w : σ} {old : Buffer UInt8 n} {next : ∀ m, NextWant m} {fmt : Format}
    (hnext : Tabled next core fmt)
    (hfeed : ∀ fuel, run fuel = .error .fuel ∨ ∃ x o, run fuel = .ok x ∧
      F.Received (framePull core fmt) w (view x).2.1 o ∧ (view x).2.2 = old.fill o.taken ∧
      ((view x).1 < 0 ∨ (view x).1 = (o.taken.length : Nat) ∧ core.lenAduMin ≤ o.taken.length))
    (hwatched : ∀ fuel, (watched fuel = .error .fuel ∧ run fuel = .error .fuel) ∨
      ∃ x k, k ≤ 3 ∧ run fuel = .ok x ∧ watched fuel = .ok (x, k))
    (hreturns : F.Responsive → ∀ fuel, 2 * n + 2 < fuel → run fuel ≠ .error .fuel) :
    ParserSafe G core view run watched w old where
  no_fault fuel hrun := by
    rcases hfeed fuel with hout | ⟨x, o, hok, -⟩
    · rw [hout] at hrun
      cases hrun
    · rw [hok] at hrun
      cases hrun
  received_only fuel := by
    rcases hwatched fuel with ⟨hw, hr⟩ | ⟨x, k, -, hr, hw⟩
    · rw [hw, hr]
      rfl
    · rw [hw, hr]
      rfl
  phases_le fuel x phases hrun := by
    rcases hwatched fuel with ⟨hw, -⟩ | ⟨x, k, hk, -, hw⟩
    · rw [hw] at hrun
      cases hrun
    · rw [hw] at hrun
      cases hrun
      exact hk
  result fuel x hrun := by
    rcases hfeed fuel with hout | ⟨y, o, hok, hrec, hfill, hends⟩
    · rw [hout] at hrun
      cases hrun
    · rw [hok] at hrun
      cases hrun
      exact ⟨o.taken, hrec.session.seen G, hrec.taken_le hnext, hfill, hends⟩
  returns hr fuel hfuel := by
    rcases hfeed fuel with hout | ⟨x, o, hok, -⟩
    · exact absurd hout (hreturns hr fuel hfuel)
    · exact ⟨x, hok⟩

include hF h

variable (G : F.Log) (old : Buffer UInt8 n) (hn : modbusMaxAduLength ≤ n) (w : σ)

include hn

theorem modbusSlaveWait_parserSafe (t : Int) :
    ParserSafe G core (fun x => (x.1, x.2.2)) (fun fuel => modbusSlaveWait fuel smb w old t)
      (fun fuel => modbusSlaveWaitWatched fuel smb w old t) w old := by
  apply ParserSafe.of_feed (slave_tabled core)
  · intro fuel
    rcases modbusSlaveWait_feed hF h old hn fuel w t with hout | ⟨o, ret, smb', w', hok, hrec, hends, -⟩
    · exact Or.inl hout
    right
    refine ⟨_, o, hok, hrec, rfl, ?_⟩
    rcases hends with ⟨e, -, hneg, rfl, -⟩ | ⟨-, ⟨hret, a, tid, pdu, -, hsize, hadu, -⟩ | ⟨hneg, -⟩⟩
    · exact Or.inl hneg
    · exact Or.inr ⟨hret, hadu ▸ lenAduMin_le hsize⟩
    · exact Or.inl hneg
  · exact fun fuel => modbusSlaveWaitWatched_eq hF h old hn fuel w t
  · intro hr fuel hfuel
    exact modbusSlaveWait_patient hF h old hn (hr.patient hF w) t (show _ < fuel by omega)

theorem modbusWaitConfirm_parserSafe :
    ParserSafe G core id (fun fuel => modbusWaitConfirm fuel smb w old)
      (fun fuel => modbusWaitConfirmWatched fuel smb w old) w old := by
  apply ParserSafe.of_feed (confirm_tabled core)
  · intro fuel
    rcases modbusWaitConfirm_feed hF h old hn fuel w with hout | ⟨o, ret, w', hok, hrec, hends, -⟩
    · exact Or.inl hout
    right
    refine ⟨_, o, hok, hrec, rfl, ?_⟩
    rcases hends with ⟨e, -, hneg, rfl⟩ | ⟨-, ⟨hret, a, pdu, -, hsize, hadu⟩ | ⟨hneg, -⟩⟩
    · exact Or.inl hneg
    · exact Or.inr ⟨hret, hadu ▸ lenAduMin_le hsize⟩
    · exact Or.inl hneg
  · exact fun fuel => modbusWaitConfirmWatched_eq hF h old hn fuel w
  · intro hr fuel hfuel
    exact modbusWaitConfirm_patient hF h old hn (hr.patient hF w) (show _ < fuel by omega)

/-- **The parsers are safe on any input**: for each core, each port that does not fail a read, whatever
bytes it hands over and however it cuts them, and each buffer of at least 260 bytes. -/
theorem wait_parserSafe (t : Int) :
    ParserSafe G core (fun x => (x.1, x.2.2)) (fun fuel => modbusSlaveWait fuel smb w old t)
      (fun fuel => modbusSlaveWaitWatched fuel smb w old t) w old ∧
    ParserSafe G core id (fun fuel => modbusWaitConfirm fuel smb w old)
      (fun fuel => modbusWaitConfirmWatched fuel smb w old) w old :=
  ⟨modbusSlaveWait_parserSafe hF h G old hn w t, modbusWaitConfirm_parserSafe hF h G old hn w⟩

end Safe

/-! ### A port that makes its bytes up -/

/-- A device that knows the bytes it handed over and never runs out: it counts them. -/
def Tally : Type := List UInt8

namespace Tally

def read (w : Tally) (len : UInt16) : Int × List UInt8 × Tally :=
  if len = 0 then (0, [], w)
  else (1, [UInt8.ofNat (List.length w)], List.append w [UInt8.ofNat (List.length w)])

def port : Port Tally where
  openFn := none
  closeFn := none
  readFn := some read
  writeFn := none
  flushFn := none
  waitFn := some fun w _ => (modbusOk, w)

/-- One byte a read. -/
def feed : Feed port where
  read := read
  wait w _ := (modbusOk, w)
  readFn := rfl
  waitFn := rfl
  read_le w len := by
    unfold read
    split_ifs with h
    · simp
    · have hpos : 0 < len.toNat := by
        rw [Nat.pos_iff_ne_zero]
        exact fun h0 => h (UInt16.toNat_inj.mp h0)
      show (1 : Int) ≤ len.toNat
      omega
  length_bytes w len := by
    unfold read
    split_ifs <;> rfl

theorem clean : feed.Clean := by
  intro w len
  show 0 ≤ (read w len).1
  unfold read
  split_ifs
  · exact le_rfl
  · exact zero_le_one

def log : feed.Log where
  seen w := w
  seen_read w len := by
    show (read w len).2.2 = List.append w (read w len).2.1
    unfold read
    split_ifs
    · exact (List.append_nil _).symm
    · rfl
  seen_wait _ _ := rfl

theorem responsive : feed.Responsive := by
  intro w t len _ hlen
  show 0 < (read w len).1
  unfold read
  rw [if_neg]
  · exact zero_lt_one
  · rintro rfl
    exact absurd hlen (by decide)

end Tally

/-- The bytes 0, 1, 2, … are no request and no response: both parsers return, with a code. -/
theorem wait_parserSafe_tally :
    (∃ x, modbusSlaveWait 600 (newContext .tcp Tally.port 1) ([] : List UInt8) (Buffer.replicate 260 0) 0 =
      .ok x) ∧
    ∃ x, modbusWaitConfirm 600 (newContext .tcp Tally.port 1) ([] : List UInt8) (Buffer.replicate 260 0) =
      .ok x := by
  obtain ⟨hslave, hconfirm⟩ := wait_parserSafe Tally.clean (newContext_ready .tcp Tally.port 1) Tally.log
    (Buffer.replicate 260 0) (by decide) ([] : List UInt8) 0
  exact ⟨hslave.returns Tally.responsive 600 (by decide), hconfirm.returns Tally.responsive 600 (by decide)⟩

end SmallModbus
