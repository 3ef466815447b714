/-
# `SmallModbus.Timeouts` — the timeouts that the two wait functions pass to `modbus_wait`.

From the second phase on a wait gets `timeout_byte * read_want`, a product of a `uint32_t` and an `int` that is
stored in an `int`. The setter takes any `int`, so the product can go round: the wait gets a shorter time, none
at all, or a negative one, which is `MODBUS_WAIT_FOREVER`. `byte_timeout_iff` says of every wait of every run
when that happens.

A port does not show what it was asked, so the runs are watched: `Port.watched` is a port with a record of its
waits, each with the bytes handed over before it, from which the reader of the frame tells the phase
(`Pull.demand`). The record changes nothing (`watched_lockstep`).
-/
import SmallModbus.Lockstep
import SmallModbus.Wire

namespace SmallModbus

open SmallModbus.Lib

variable {σ : Type} {n : Nat}

/-! ## §1 — a port with a record of its waits. -/

/-- A wait: the bytes handed over before it, and the timeout it was given. -/
structure Wait where
  seen : List UInt8
  timeout : Int

/-- A device with the bytes it has handed over and the waits so far. -/
structure Watched (σ : Type) where
  dev : σ
  seen : List UInt8
  waits : List Wait

/-- The record at the start of a call. -/
def Watched.start (w : σ) : Watched σ := ⟨w, [], []⟩

/-- The port with the record. -/
def Port.watched (port : Port σ) : Port (Watched σ) where
  openFn := port.openFn.map fun f v => ((f v.dev).1, { v with dev := (f v.dev).2 })
  closeFn := port.closeFn.map fun f v => ((f v.dev).1, { v with dev := (f v.dev).2 })
  readFn := port.readFn.map fun f v len =>
    ((f v.dev len).1, (f v.dev len).2.1, ⟨(f v.dev len).2.2, v.seen ++ (f v.dev len).2.1, v.waits⟩)
  writeFn := port.writeFn.map fun f v data => ((f v.dev data).1, { v with dev := (f v.dev data).2 })
  flushFn := port.flushFn.map fun f v => ((f v.dev).1, { v with dev := (f v.dev).2 })
  waitFn := port.waitFn.map fun f v t => ((f v.dev t).1, ⟨(f v.dev t).2, v.seen, v.waits ++ [⟨v.seen, t⟩]⟩)

namespace Feed

variable {port : Port σ}

/-- It hands over the same bytes. -/
def watched (F : Feed port) : Feed port.watched where
  read v len := ((F.read v.dev len).1, (F.read v.dev len).2.1,
    ⟨(F.read v.dev len).2.2, v.seen ++ (F.read v.dev len).2.1, v.waits⟩)
  wait v t := ((F.wait v.dev t).1, ⟨(F.wait v.dev t).2, v.seen, v.waits ++ [⟨v.seen, t⟩]⟩)
  readFn := by rw [Port.watched, F.readFn]; rfl
  waitFn := by rw [Port.watched, F.waitFn]; rfl
  read_le v := F.read_le v.dev
  length_bytes v := F.length_bytes v.dev

theorem watched_clean {F : Feed port} (hF : F.Clean) : F.watched.Clean := fun v => hF v.dev

/-- The record of the bytes is a log of the port. -/
def watchedLog (F : Feed port) : F.watched.Log where
  seen := Watched.seen
  seen_read _ _ := rfl
  seen_wait _ _ := rfl

/-- **The record changes nothing**: the two ports are in lockstep. -/
theorem watched_lockstep (F : Feed port) :
    Lockstep F F.watched (fun w v => v.dev = w) (fun w v => v.dev = w) where
  count_eq := by rintro w v rfl len; rfl
  bytes_eq := by rintro w v rfl len; rfl
  rel_read := by rintro w v rfl len; rfl
  dry_read := by rintro w v rfl len -; rfl
  code_eq := by rintro w v rfl t; rfl
  rel_wait := by rintro w v rfl t; rfl

end Feed

/-! ## §2 — the product. -/

theorem toI32_toU32 (x : Int) : toI32 (toU32 x) = x.bmod (2 ^ 32) := by
  have hmod : ((toU32 x).toNat : Int) = x % (2 ^ 32 : Nat) := by
    unfold toU32 UInt32.ofInt
    rw [UInt32.toNat_ofNat']
    omega
  unfold toI32
  rw [hmod]
  exact Int.emod_bmod x (2 ^ 32)

/-- `smb->timeout_byte * read_want` in an `int` is the product exactly when the product is an `int`. -/
theorem toI32_mul_iff {T k : Int} (hT : 0 ≤ T) (hk : 0 ≤ k) : toI32 (toU32 T * toU32 k) = T * k ↔ T * k < 2 ^ 31 := by
  have hnn : 0 ≤ T * k := mul_nonneg hT hk
  have hprod : toI32 (toU32 T * toU32 k) = (T * k).bmod (2 ^ 32) := by
    rw [← toI32_toU32]
    exact congrArg toI32 (UInt32.ofInt_mul T k).symm
  rw [hprod]
  constructor
  · intro h
    have := Int.bmod_lt (x := T * k) (show 0 < 2 ^ 32 by decide)
    omega
  · intro h
    exact Int.bmod_eq_of_le (by omega) (by omega)

/-! ## §3 — the waits of a reception. -/

/-- In the first phase of a reader the loop wants what the reader asks for. -/
theorem Follows.want_eq {next : NextWant n} {old : Buffer UInt8 n} {p : Pull UInt8 Int} {position want : Int}
    {r x : List UInt8} (h : Follows next old p position want r) (hstarves : p.Starves x)
    (hfirst : (p.demand x).1 = 0) : want = (p.demand x).2 ∧ want ≠ 0 := by
  cases p with
  | finish => exact hstarves.elim
  | reject e => exact hstarves.elim
  | read k cont =>
    obtain ⟨rfl, hk, -⟩ := h
    have hlt : x.length < k := by
      by_contra hle
      rw [Pull.demand, if_neg hle] at hfirst
      cases hfirst
    rw [Pull.demand_of_lt hlt]
    exact ⟨rfl, by omega⟩

/-- The timeout a phase is given: its own for the first, the product for one behind it. -/
def phaseTimeout (smb : Smb σ) (t : Int) (phase : Nat × Nat) : Int :=
  if phase.1 = 0 then t else toI32 (smb.timeoutByte * toU32 phase.2)

section Phases

variable (smb : Smb (Watched σ)) (t : Int) {k : Nat} {cont : List UInt8 → Pull UInt8 Int}

/-- The first phase. -/
theorem phaseTimeout_first {x : List UInt8} (h : x.length < k) :
    phaseTimeout smb t ((Pull.read k cont).demand x) = t := by
  rw [Pull.demand_of_lt h]
  exact if_pos rfl

/-- The phases behind it, as the loop sees them that goes on with the rest of the reader. -/
theorem phaseTimeout_append {next : NextWant n} {old : Buffer UInt8 n} {c x r : List UInt8} (hc : c.length = k)
    {position want : Int} (hfol : Follows next old (cont c) position want r) (hstarves : (cont c).Starves x) :
    phaseTimeout smb (if want ≠ 0 then toI32 (smb.timeoutByte * toU32 want) else t) ((cont c).demand x) =
      phaseTimeout smb t ((Pull.read k cont).demand (c ++ x)) := by
  rw [Pull.demand_append hc]
  unfold phaseTimeout
  rw [if_neg (Nat.succ_ne_zero _)]
  by_cases hphase : ((cont c).demand x).1 = 0
  · -- the phase that has just begun
    obtain ⟨hwant, hne⟩ := hfol.want_eq hstarves hphase
    rw [if_pos hphase, if_pos hne, hwant]
  · rw [if_neg hphase]

end Phases

section Loop

variable {smb : Smb (Watched σ)} {core : Core} {port : Port σ} {F : Feed port} (hF : F.Clean)
  (h : Ready smb core port.watched) (old : Buffer UInt8 n)

include hF h

/-- **The waits of one phase** get the timeout of the phase, and come before its last byte. The induction is on
the rounds. -/
theorem wantReadLoop_waits (pre : List UInt8) (len : UInt16) (t : Int) :
    ∀ (fuel : Nat) (v : Watched σ) (got : List UInt8) (readLen : UInt16), readLen.toNat = got.length →
      got.length ≤ len.toNat → pre.length + len.toNat ≤ n → ∀ {ret : Int} {v' : Watched σ} {b : Buffer UInt8 n},
      wantReadLoop smb pre.length len t fuel v (old.fill (pre ++ got)) readLen = .ok (ret, v', b) →
      ∃ waits, v'.waits = v.waits ++ waits ∧
        ∀ e ∈ waits, e.timeout = t ∧ ∃ x, e.seen = v.seen ++ x ∧ got.length + x.length < len.toNat := by
  intro fuel
  induction fuel with
  | zero =>
    intro v got readLen _ _ _ ret v' b hrun
    cases hrun
  | succ fuel ih =>
    intro v got readLen hgot hle hn ret v' b hrun
    obtain ⟨ask, readLen', hask, hread', hle', hstep⟩ :=
      wantReadLoop_succ (F.watched_clean hF) h old pre len t fuel v hgot hle hn
    rw [List.length_append] at hread'
    rw [hstep] at hrun
    split at hrun
    · -- all that was wanted has arrived, without a wait
      cases hrun
      exact ⟨[], (List.append_nil _).symm, fun e he => absurd he List.not_mem_nil⟩
    · rename_i hge
      have hfirst : got.length + (F.watched.read v ask).2.1.length < len.toNat := by omega
      split at hrun
      · -- the wait succeeded: one more round
        obtain ⟨waits, hwaits, hall⟩ := ih _ (got ++ (F.watched.read v ask).2.1) readLen'
          (by rw [List.length_append]; omega) (by rw [List.length_append]; omega) hn hrun
        refine ⟨⟨v.seen ++ (F.watched.read v ask).2.1, t⟩ :: waits, hwaits.trans (List.append_assoc _ _ _), ?_⟩
        intro e he
        rcases List.mem_cons.mp he with rfl | he
        · exact ⟨rfl, _, rfl, hfirst⟩
        · obtain ⟨ht, x, hx, hlt⟩ := hall e he
          rw [List.length_append, Nat.add_assoc, ← List.length_append] at hlt
          exact ⟨ht, _, hx.trans (List.append_assoc _ _ _), hlt⟩
      · -- the wait failed
        cases hrun
        refine ⟨[⟨v.seen ++ (F.watched.read v ask).2.1, t⟩], rfl, ?_⟩
        intro e he
        obtain rfl := List.mem_singleton.mp he
        exact ⟨rfl, _, rfl, hfirst⟩

/-- The same of a whole demand for `k` bytes. -/
theorem modbusWantRead_waits {fuel k : Nat} {v v' : Watched σ} {r : List UInt8} {t ret : Int} {b : Buffer UInt8 n}
    (hk : k < 65536) (hroom : r.length + k ≤ n)
    (hrun : modbusWantRead fuel smb v (old.fill r) r.length (toU16 k) t = .ok (ret, v', b)) :
    ∃ waits, v'.waits = v.waits ++ waits ∧ ∀ e ∈ waits, e.timeout = t ∧ ∃ x, e.seen = v.seen ++ x ∧ x.length < k := by
  have hku : (toU16 (k : Int)).toNat = k := toNat_toU16_natCast (by omega)
  rw [← List.append_nil r] at hrun
  obtain ⟨waits, hwaits, hall⟩ := wantReadLoop_waits hF h old r (toU16 k) t fuel v [] 0 rfl (Nat.zero_le _)
    (by rw [hku]; exact hroom) (by simpa [modbusWantRead] using hrun)
  refine ⟨waits, hwaits, fun e he => ?_⟩
  obtain ⟨ht, x, hx, hlt⟩ := hall e he
  rw [hku, List.length_nil, Nat.zero_add] at hlt
  exact ⟨ht, x, hx, hlt⟩

/-- **The waits of a reception** get the timeout of the phase that its reader is in. The induction is on the
reader. -/
theorem receiveLoop_waits {next : NextWant n} :
    ∀ (p : Pull UInt8 Int) (fuel : Nat) (v : Watched σ) (position want : Int) (r : List UInt8) (t : Int),
      Follows next old p position want r → ∀ {exit : Except Int Int} {v' : Watched σ} {b : Buffer UInt8 n},
      receiveLoop next smb fuel v (old.fill r) position want r.length t = .ok (exit, v', b) →
      ∃ waits, v'.waits = v.waits ++ waits ∧
        ∀ e ∈ waits, ∃ x, e.seen = v.seen ++ x ∧ p.Starves x ∧ e.timeout = phaseTimeout smb t (p.demand x) := by
  intro p
  induction p with
  | finish =>
    intro fuel v position want r t hfol exit v' b hrun
    rw [Follows] at hfol
    subst hfol
    cases fuel with
    | zero => cases hrun
    | succ fuel =>
      rw [receiveLoop, if_neg (by omega)] at hrun
      cases hrun
      exact ⟨[], (List.append_nil _).symm, fun e he => absurd he List.not_mem_nil⟩
  | reject e =>
    intro fuel v position want r t hfol
    exact hfol.elim
  | read k cont ih =>
    intro fuel v position want r t hfol exit v' b hrun
    obtain ⟨rfl, hk, hk', hroom, hcont⟩ := hfol
    cases fuel with
    | zero => cases hrun
    | succ fuel =>
      -- the waits of a met or failed demand are inside the first demand of the reader
      have hfirst : ∀ e : Wait, (e.timeout = t ∧ ∃ x, e.seen = v.seen ++ x ∧ x.length < k) →
          ∃ x, e.seen = v.seen ++ x ∧ (Pull.read k cont).Starves x ∧
            e.timeout = phaseTimeout smb t ((Pull.read k cont).demand x) := by
        rintro e ⟨ht, x, hx, hlt⟩
        exact ⟨x, hx, Or.inl hlt, ht.trans (phaseTimeout_first smb t hlt).symm⟩
      rcases modbusWantRead_feed (F.watched_clean hF) h old fuel v t hk' hroom with
        hfuel | ⟨ret, w', c, w₁, -, -, hret, -, hwant⟩ | ⟨w', c, hs, hlen, hwant⟩
      · rw [receiveLoop, if_pos (by omega), Int.toNat_natCast, hfuel] at hrun
        cases hrun
      · -- a wait failed
        rw [receiveLoop_failed next old position hk hret hwant] at hrun
        cases hrun
        obtain ⟨waits, hwaits, hall⟩ := modbusWantRead_waits hF h old hk' hroom hwant
        exact ⟨waits, hwaits, fun e he => hfirst e (hall e he)⟩
      · obtain ⟨waits, hwaits, hall⟩ := modbusWantRead_waits hF h old hk' hroom hwant
        have hseen : w'.seen = v.seen ++ c := hs.seen F.watchedLog
        rw [receiveLoop_met next old position hk hlen hwant] at hrun
        rcases hcont c hlen with ⟨position', e, hnext, hrej⟩ | ⟨position', want', hnext, hfol'⟩
        · -- the switch rejects what has arrived
          rw [hnext] at hrun
          cases hrun
          exact ⟨waits, hwaits, fun e he => hfirst e (hall e he)⟩
        · -- the switch goes on as the reader does
          rw [hnext] at hrun
          obtain ⟨more, hmore, hrest⟩ := ih c fuel w' position' want' (r ++ c) _ hfol' hrun
          refine ⟨waits ++ more, by rw [hmore, hwaits, List.append_assoc], ?_⟩
          intro e he
          rcases List.mem_append.mp he with he | he
          · exact hfirst e (hall e he)
          · obtain ⟨x, hx, hstarves, htime⟩ := hrest e he
            refine ⟨c ++ x, ?_, Pull.starves_append hlen hstarves,
              htime.trans (phaseTimeout_append smb t hlen hfol' hstarves)⟩
            rw [hx, hseen, List.append_assoc]

end Loop

/-! ## §4 — the two wait functions. -/

namespace Wait

/-- The phase of a reception that a wait is in, from 0 on. -/
def phase (core : Core) (fmt : Format) (e : Wait) : Nat := ((framePull core fmt).demand e.seen).1

/-- The bytes wanted at the start of the phase. -/
def wanted (core : Core) (fmt : Format) (e : Wait) : Nat := ((framePull core fmt).demand e.seen).2

end Wait

section Watching

variable {smb : Smb (Watched σ)} {core : Core} {port : Port σ} {F : Feed port} (hF : F.Clean)
  (h : Ready smb core port.watched) (old : Buffer UInt8 n)

include hF h

theorem receive_waits {next : NextWant n} {fmt : Format} {fuel : Nat} {w : σ} {t : Int} {exit : Except Int Int}
    {v : Watched σ} {b : Buffer UInt8 n}
    (hfol : Follows next old (framePull core fmt) 0 ((core.lenHeader + 1 : Nat) : Int) [])
    (hrun : receiveLoop next smb fuel (.start w) old 0 (core.lenHeader + 1) 0 t = .ok (exit, v, b)) :
    ∀ e ∈ v.waits, e.timeout = phaseTimeout smb t (e.phase core fmt, e.wanted core fmt) := by
  have hcast : ((core.lenHeader + 1 : Nat) : Int) = core.lenHeader + 1 := by push_cast; rfl
  rw [← hcast, ← Buffer.fill_nil old] at hrun
  obtain ⟨waits, hwaits, hall⟩ := receiveLoop_waits hF h old _ fuel (.start w) 0 _ [] t hfol hrun
  intro e he
  rw [hwaits] at he
  obtain ⟨x, hx, -, htime⟩ := hall e he
  obtain rfl : e.seen = x := hx
  exact htime

variable (hn : modbusMaxAduLength ≤ n)

include hn

/-- **The waits of `modbus_slave_wait`.** -/
theorem modbusSlaveWait_waits {fuel : Nat} {w : σ} {t ret : Int} {smb' : Smb (Watched σ)} {v : Watched σ}
    {b : Buffer UInt8 n} (hrun : modbusSlaveWait fuel smb (.start w) old t = .ok (ret, smb', v, b)) :
    ∀ e ∈ v.waits, e.timeout = phaseTimeout smb t (e.phase core slaveFormat, e.wanted core slaveFormat) := by
  unfold modbusSlaveWait at hrun
  simp only [h.contextCheck, ne_eq, not_true, if_false, h.coreOf, exec_ok_bind] at hrun
  obtain ⟨⟨exit, v', b'⟩, hloop, hrun⟩ := bind_eq_ok.mp hrun
  have hwaits := receive_waits hF h old (follows_slave core old hn) hloop
  cases exit with
  | error code =>
    cases hrun
    exact hwaits
  | ok readLength =>
    obtain ⟨⟨ret', smb₁⟩, -, hrun⟩ := bind_eq_ok.mp hrun
    cases hrun
    exact hwaits

/-- **The waits of `modbus_wait_confirm`.** -/
theorem modbusWaitConfirm_waits {fuel : Nat} {w : σ} {ret : Int} {v : Watched σ} {b : Buffer UInt8 n}
    (hrun : modbusWaitConfirm fuel smb (.start w) old = .ok (ret, v, b)) :
    ∀ e ∈ v.waits, e.timeout =
      phaseTimeout smb (toI32 smb.timeoutFrame) (e.phase core confirmFormat, e.wanted core confirmFormat) := by
  unfold modbusWaitConfirm at hrun
  simp only [h.contextCheck, ne_eq, not_true, if_false, h.coreOf, exec_ok_bind] at hrun
  obtain ⟨⟨exit, v', b'⟩, hloop, hrun⟩ := bind_eq_ok.mp hrun
  have hwaits := receive_waits hF h old (follows_confirm core old hn) hloop
  cases exit with
  | error code =>
    cases hrun
    exact hwaits
  | ok readLength =>
    obtain ⟨ret', -, hrun⟩ := bind_eq_ok.mp hrun
    cases hrun
    exact hwaits

end Watching

/-- A wait behind the first phase gets the product exactly when the product is an `int`. -/
theorem phaseTimeout_iff {smb : Smb (Watched σ)} {T t : Int} (hT : 0 ≤ T) (hbyte : smb.timeoutByte = toU32 T)
    {phase : Nat × Nat} (hphase : 0 < phase.1) :
    phaseTimeout smb t phase = T * phase.2 ↔ T * phase.2 < 2 ^ 31 := by
  unfold phaseTimeout
  rw [if_neg hphase.ne', hbyte]
  exact toI32_mul_iff hT (Int.natCast_nonneg _)

section Calls

variable {smb : Smb σ} {core : Core} {port : Port σ} {F : Feed port} (hF : F.Clean) (h : Ready smb core port)

include h

theorem modbusSetByteTimeout_eq (timeoutMs : Int) :
    modbusSetByteTimeout smb timeoutMs = (modbusOk, { smb with timeoutByte := toU32 timeoutMs }) := by
  unfold modbusSetByteTimeout
  rw [h.contextCheck]
  exact if_pos rfl

theorem modbusSetByteTimeout_ready (timeoutMs : Int) : Ready (modbusSetByteTimeout smb timeoutMs).2 core port := by
  rw [modbusSetByteTimeout_eq h]
  exact h.congr rfl rfl rfl

include hF

/-- **The byte timeouts.** With a timeout of `T` milliseconds set, every wait behind the first phase of a run of
`modbus_slave_wait` or `modbus_wait_confirm` gets `T` times the bytes wanted at the start of its phase exactly
when that is less than `2 ^ 31`. -/
theorem byte_timeout_iff {T : Int} (hT : 0 ≤ T ∧ T < 2 ^ 31) (old : Buffer UInt8 n) (hn : modbusMaxAduLength ≤ n)
    (fuel : Nat) (w : σ) :
    ∃ smbT, modbusSetByteTimeout smb T = (modbusOk, smbT) ∧
      (∀ t {ret : Int} {smb' : Smb σ} {w' : σ} {request : Buffer UInt8 n},
        modbusSlaveWait fuel smbT w old t = .ok (ret, smb', w', request) →
        ∃ v, modbusSlaveWait fuel (smbT.onPort port.watched) (.start w) old t =
            .ok (ret, smb'.onPort port.watched, v, request) ∧ v.dev = w' ∧
          ∀ e ∈ v.waits, 0 < e.phase core slaveFormat →
            (e.timeout = T * e.wanted core slaveFormat ↔ T * e.wanted core slaveFormat < 2 ^ 31)) ∧
      ∀ {ret : Int} {w' : σ} {response : Buffer UInt8 n},
        modbusWaitConfirm fuel smbT w old = .ok (ret, w', response) →
        ∃ v, modbusWaitConfirm fuel (smbT.onPort port.watched) (.start w) old = .ok (ret, v, response) ∧
          v.dev = w' ∧
          ∀ e ∈ v.waits, 0 < e.phase core confirmFormat →
            (e.timeout = T * e.wanted core confirmFormat ↔ T * e.wanted core confirmFormat < 2 ^ 31) := by
  have hT' := modbusSetByteTimeout_eq h T
  have hready := modbusSetByteTimeout_ready h T
  have hbyte : ((modbusSetByteTimeout smb T).2.onPort port.watched).timeoutByte = toU32 T := by
    rw [hT']
    rfl
  refine ⟨(modbusSetByteTimeout smb T).2, by rw [hT'], ?_, ?_⟩
  · intro t ret smb' w' request hrun
    obtain ⟨⟨ret₂, smb₂, v, request₂⟩, hrun₂, hret, hsmb, hdev, hreq⟩ :=
      (hrun ▸ F.watched_lockstep.slaveWait hF hready fuel old t (v := .start w) rfl).of_ok
    obtain rfl : ret = ret₂ := hret
    obtain rfl : smb₂ = smb'.onPort port.watched := hsmb
    obtain rfl : request = request₂ := hreq
    refine ⟨v, hrun₂, hdev, ?_⟩
    intro e he hphase
    rw [modbusSlaveWait_waits hF (hready.onPort port.watched) old hn hrun₂ e he]
    exact phaseTimeout_iff hT.1 hbyte hphase
  · intro ret w' response hrun
    obtain ⟨⟨ret₂, v, response₂⟩, hrun₂, hret, hdev, hresp⟩ :=
      (hrun ▸ F.watched_lockstep.waitConfirm hF hready fuel old (v := .start w) rfl).of_ok
    obtain rfl : ret = ret₂ := hret
    obtain rfl : response = response₂ := hresp
    refine ⟨v, hrun₂, hdev, ?_⟩
    intro e he hphase
    rw [modbusWaitConfirm_waits hF (hready.onPort port.watched) old hn hrun₂ e he]
    exact phaseTimeout_iff hT.1 hbyte hphase

end Calls

/-- Ten milliseconds a byte, an RTU slave, and a line that stops behind the function code. -/
theorem byte_timeout_iff_ten :
    ∃ smbT ret smb' v request,
      modbusSetByteTimeout (newContext .rtu Wire.port 1) 10 = (modbusOk, smbT) ∧
      modbusSlaveWait 9 (smbT.onPort Wire.port.watched) (.start ⟨[1, 3], [], []⟩) (Buffer.replicate 260 0) 5 =
        .ok (ret, smb', v, request) ∧
      ∀ e ∈ v.waits, 0 < e.phase .rtu slaveFormat →
        (e.timeout = 10 * e.wanted .rtu slaveFormat ↔ (10 : Int) * e.wanted .rtu slaveFormat < 2 ^ 31) := by
  have hret : (modbusSlaveWait 9 (modbusSetByteTimeout (newContext .rtu Wire.port 1) 10).2 ⟨[1, 3], [], []⟩
      (Buffer.replicate 260 0) 5).map Prod.fst = .ok modbusTimeout := by
    decide +kernel
  obtain ⟨⟨ret, smb', w', request⟩, hrun, -⟩ := map_eq_ok.mp hret
  obtain ⟨smbT, hset, hslave, -⟩ := byte_timeout_iff (T := 10) Wire.line.clean
    (newContext_ready .rtu Wire.port 1) (by decide) (Buffer.replicate 260 0) le_rfl 9 ⟨[1, 3], [], []⟩
  rw [hset] at hrun
  obtain ⟨v, hv, -, hall⟩ := hslave 5 hrun
  exact ⟨smbT, ret, _, v, request, hset, hv, hall⟩

/-- A slave behind the function code waits for four bytes with a negative timeout, and a master that knows the
byte count waits for six with one of 2 ms. -/
theorem byte_timeout_wraps :
    (modbusSlaveWait 9 ((modbusSetByteTimeout (newContext .rtu Wire.port 1) 600000000).2.onPort Wire.port.watched)
      (.start ⟨[1, 3], [], []⟩) (Buffer.replicate 260 0) 5).map (fun x => x.2.2.1.waits.map fun e =>
        (e.phase .rtu slaveFormat, e.wanted .rtu slaveFormat, e.timeout)) = .ok [(1, 4, -1894967296)] ∧
    (modbusWaitConfirm 9 ((modbusSetByteTimeout (newContext .rtu Wire.port 1) 715827883).2.onPort Wire.port.watched)
      (.start ⟨[1, 3, 4], [], []⟩) (Buffer.replicate 260 0)).map (fun x => x.2.1.waits.map fun e =>
        (e.phase .rtu confirmFormat, e.wanted .rtu confirmFormat, e.timeout)) = .ok [(2, 6, 2)] ∧
    (-1894967296 : Int) ≠ 600000000 * (4 : Nat) ∧ (2 : Int) ≠ 715827883 * (6 : Nat) := by
  refine ⟨?_, ?_, ?_, ?_⟩
  · decide +kernel
  · decide +kernel
  · decide
  · decide

end SmallModbus
