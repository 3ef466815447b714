/-
# `SmallModbus.SerialSlave` — the thread of the RTU slave on a serial line with bursts.

The thread waits for a request without a time limit, answers it and counts it; when the wait or the answer
fails it throws away what has come in. On an RTU line only silence parts one frame from the next, and the
library does not look for it: the first wait of a reception has no time limit, the later ones have one, so a
silence ends a reception only behind the function code. `Heard` is this as a machine on bursts of bytes: how a
reception gathers bytes, what the reader makes of them, and what a flush leaves.

`rtu_slave_thread` says that the thread does what the machine does, round by round: the frames that the machine
takes are answered, each once and in order, and nothing else is written or counted. `rtu_slave_bus` says what
this means for a slave on a bus: of any traffic whose bursts are requests for it, or are refused and fit into
one flush, it answers exactly its requests.
-/
import SmallModbus.Echo
import SmallModbus.Plant
import SmallModbus.Rtdevice
import SmallModbus.Timeouts
import SmallModbus.Wire

namespace SmallModbus

open SmallModbus.Lib

variable {σ κ η : Type} {n : Nat}

/-! ## §1 — bursts. -/

/-- What is on a serial line for a slave. -/
structure Heard where
  /-- the bytes that have come in -/
  rx : List UInt8
  /-- the bursts to come, each behind a silence that is longer than any time limit of a wait -/
  later : List (List UInt8)
  /-- how many of the bytes a flush finds; every byte when the list is over -/
  discards : List Nat
  deriving DecidableEq, Repr

/-- What a reception has before it when its first wait has no time limit: bursts until there are more bytes
than a header. -/
def gather (header : Nat) : List UInt8 → List (List UInt8) → List UInt8 × List (List UInt8)
  | rx, [] => (rx, [])
  | rx, burst :: later => if rx.length ≤ header then gather header (rx ++ burst) later else (rx, burst :: later)

theorem gather_of_lt {header : Nat} {rx : List UInt8} (h : header < rx.length) (later : List (List UInt8)) :
    gather header rx later = (rx, later) := by
  cases later with
  | nil => rfl
  | cons burst later => exact if_neg (by omega)

theorem gather_of_le {header : Nat} {rx : List UInt8} (h : rx.length ≤ header) (burst : List UInt8)
    (later : List (List UInt8)) : gather header rx (burst :: later) = gather header (rx ++ burst) later := if_pos h

namespace Heard

/-- A flush: one read of the size of a frame. -/
def flush (h : Heard) : Heard where
  rx := h.rx.drop (min (h.discards.headD h.rx.length) modbusMaxAduLength)
  later := h.later
  discards := h.discards.tail

/-- The frame is framed for the slave at this address, or for all slaves. -/
def Addressed (addr : UInt8) (frame : List UInt8) : Prop :=
  ∃ a ∈ [addr, modbusBroadcastAddress], frame = Core.rtu.adu 0 a ((frame.drop 1).take (frame.length - 3))

instance (addr : UInt8) (frame : List UInt8) : Decidable (Addressed addr frame) :=
  inferInstanceAs (Decidable (∃ a ∈ _, _))

/-- **One round**: the frame that is taken, or none. -/
def turn (addr : UInt8) (h : Heard) : Option (List UInt8) × Heard :=
  let (burst, later) := gather Core.rtu.lenHeader h.rx h.later
  let o := (framePull .rtu slaveFormat).run modbusTimeout burst
  if o.error = none ∧ Addressed addr o.taken then (some o.taken, ⟨o.rest, later, h.discards⟩)
  else (none, flush ⟨o.rest, later, h.discards⟩)

/-- Rounds, with the frames they take. -/
def turns (addr : UInt8) : Nat → Heard → List (List UInt8) × Heard
  | 0, h => ([], h)
  | k + 1, h =>
      let (frame, h₁) := h.turn addr
      let (frames, h₂) := turns addr k h₁
      (frame.toList ++ frames, h₂)

/-- What the check of a request asks of a frame. -/
theorem addressed_iff {addr : UInt8} {frame : List UInt8} :
    Addressed addr frame ↔ ∃ a pdu, (a = addr ∨ a = modbusBroadcastAddress) ∧ frame = Core.rtu.adu 0 a pdu := by
  constructor
  · rintro ⟨a, ha, hframe⟩
    exact ⟨a, _, by simpa using ha, hframe⟩
  · rintro ⟨a, pdu, ha, rfl⟩
    refine ⟨a, by simpa using ha, ?_⟩
    have hcut : ((Core.rtu.adu 0 a pdu).drop 1).take ((Core.rtu.adu 0 a pdu).length - 3) = pdu := by
      rw [Core.length_adu]
      show (pdu ++ Core.rtu.checksum _).take (1 + pdu.length + 2 - 3) = pdu
      exact List.take_left' (by omega)
    rw [hcut]

end Heard

/-! ## §2 — the line. -/

/-- A serial line: what is heard, how many bytes the next reads hand over, and the frames written. -/
structure SerialLine extends Heard where
  grants : List Nat
  tx : List (List UInt8)
  deriving DecidableEq, Repr

namespace SerialLine

/-- How many bytes the next read hands over. -/
def count (w : SerialLine) (len : UInt16) : Nat := min (min (w.grants.headD len.toNat) len.toNat) w.rx.length

def read (w : SerialLine) (len : UInt16) : Int × List UInt8 × SerialLine :=
  (w.count len, w.rx.take (w.count len), { w with rx := w.rx.drop (w.count len), grants := w.grants.tail })

/-- A wait with a time limit ends in the silence, one without ends with the next burst. A line on which nothing
more comes ends it as well. -/
def wait (w : SerialLine) (timeout : Int) : Int × SerialLine :=
  if w.rx ≠ [] then (modbusOk, w)
  else if timeout = modbusWaitForever then
    match w.later with
    | burst :: later => (modbusOk, { w with rx := burst, later := later })
    | [] => (modbusTimeout, w)
  else (modbusTimeout, w)

def write (w : SerialLine) (frame : List UInt8) : Int × SerialLine :=
  (frame.length, { w with tx := w.tx ++ [frame] })

def flush (w : SerialLine) : Int × SerialLine :=
  ((w.rx.length - w.toHeard.flush.rx.length : Nat), { w with toHeard := w.toHeard.flush })

/-- The port of the line. -/
def port : Port SerialLine where
  openFn := some fun w => (0, w)
  closeFn := some fun w => (0, w)
  readFn := some read
  writeFn := some write
  flushFn := some flush
  waitFn := some wait

/-- The line as a feed. -/
def feed : Feed port where
  read := read
  wait := wait
  readFn := rfl
  waitFn := rfl
  read_le w len := by
    show ((w.count len : Nat) : Int) ≤ len.toNat
    unfold count
    omega
  length_bytes w len := by
    show (w.rx.take (w.count len)).length = ((w.count len : Nat) : Int).toNat
    rw [Int.toNat_natCast]
    exact List.length_take_of_le (min_le_right _ _)

theorem feed_clean : feed.Clean := fun _ _ => Int.natCast_nonneg _

/-- What a wait does. -/
theorem wait_cases (w : SerialLine) (t : Int) :
    (w.wait t = (modbusOk, w) ∧ w.rx ≠ []) ∨
    (w.wait t = (modbusTimeout, w) ∧ w.rx = [] ∧ (t = modbusWaitForever → w.later = [])) ∨
    ∃ burst later, w.wait t = (modbusOk, { w with rx := burst, later := later }) ∧ w.rx = [] ∧
      t = modbusWaitForever ∧ w.later = burst :: later := by
  unfold wait
  by_cases hrx : w.rx = []
  · rw [if_neg (not_not.mpr hrx)]
    by_cases ht : t = modbusWaitForever
    · rw [if_pos ht]
      cases hl : w.later with
      | nil => exact Or.inr (Or.inl ⟨rfl, hrx, fun _ => rfl⟩)
      | cons burst later => exact Or.inr (Or.inr ⟨burst, later, rfl, hrx, ht, rfl⟩)
    · rw [if_neg ht]
      exact Or.inr (Or.inl ⟨rfl, hrx, fun h => absurd h ht⟩)
  · rw [if_pos hrx]
    exact Or.inl ⟨rfl, hrx⟩

/-- A round that hands over nothing uses up a part of the schedule or a burst. -/
theorem feed_fair : feed.Fair fun w => w.grants.length + w.later.length where
  rank_read w len := by
    show w.grants.tail.length + w.later.length ≤ _
    rw [List.length_tail]
    omega
  rank_wait w t := by
    show (w.wait t).2.grants.length + (w.wait t).2.later.length ≤ _
    rcases wait_cases w t with ⟨hw, -⟩ | ⟨hw, -⟩ | ⟨burst, later, hw, -, -, hl⟩
    · rw [hw]
    · rw [hw]
    · rw [hw, hl]
      exact Nat.add_le_add_left (Nat.le_succ _) _
  rank_stall w len t hlen h0 hwait := by
    have hcount : w.count len = 0 := Int.ofNat_eq_zero.mp h0
    have hread : feed.read w len = w.read len := rfl
    rw [hread] at hwait ⊢
    show (((w.read len).2.2).wait t).2.grants.length + (((w.read len).2.2).wait t).2.later.length < _
    rcases wait_cases (w.read len).2.2 t with ⟨hw, hrx⟩ | ⟨hw, -⟩ | ⟨burst, later, hw, -, -, hl⟩
    · -- something is there, so the schedule held it back
      rw [hw]
      show w.grants.tail.length + w.later.length < _
      have hrx' : w.rx ≠ [] := fun h => hrx (by show w.rx.drop _ = []; rw [h, List.drop_nil])
      have hpos := List.length_pos_of_ne_nil hrx'
      cases hg : w.grants with
      | nil =>
        unfold count at hcount
        rw [hg, List.headD_nil] at hcount
        omega
      | cons g gs => simp
    · have hneg : (feed.wait (w.read len).2.2 t).1 = modbusTimeout := congrArg Prod.fst hw
      rw [hneg] at hwait
      exact absurd hwait (by decide)
    · rw [hw]
      have hl' : w.later = burst :: later := hl
      show w.grants.tail.length + later.length < _
      rw [hl', List.length_tail, List.length_cons]
      omega

/-- What is left of the schedule and of the bursts does not grow. -/
theorem rank_preserved (bound : Nat) : feed.Preserves fun w => w.grants.length + w.later.length ≤ bound where
  preserves_read w len h := (feed_fair.rank_read w len).trans h
  preserves_wait w t h := (feed_fair.rank_wait w t).trans h

end SerialLine

/-! ## §3 — a reception. -/

/-- No demand is for more than the buffer holds. -/
theorem Follows.demand_le {next : NextWant n} {old : Buffer UInt8 n} (p : Pull UInt8 Int) :
    ∀ (position want : Int) (r : List UInt8), Follows next old p position want r →
      ∀ x, (p.demand x).2 ≤ n := by
  induction p with
  | finish => exact fun _ _ _ _ _ => Nat.zero_le n
  | reject e => exact fun _ _ _ hfol => hfol.elim
  | read k cont ih =>
    intro position want r hfol x
    obtain ⟨-, -, -, hroom, hcont⟩ := hfol
    by_cases hlt : x.length < k
    · rw [Pull.demand_of_lt hlt]
      exact (Nat.le_add_left k r.length).trans hroom
    · -- behind the first demand the rest of the reader follows the loop, or has rejected
      have hlen : (x.take k).length = k := List.length_take_of_le (by omega)
      rw [← List.take_append_drop k x, Pull.demand_append hlen]
      rcases hcont _ hlen with ⟨position', e, -, hrej⟩ | ⟨position', want', -, hfol'⟩
      · rw [hrej]
        exact Nat.zero_le n
      · exact ih _ position' want' _ hfol' _

section Reception

variable {core : Core}

/-- A product with the byte timeout that cannot go round. -/
def Smb.BytesTimed (smb : Smb σ) : Prop := smb.timeoutByte.toNat * modbusMaxAduLength < 2 ^ 31

theorem Smb.BytesTimed.onPort {τ : Type} {smb : Smb σ} (h : smb.BytesTimed) (port : Port τ) :
    (smb.onPort port).BytesTimed := h

/-- **Which waits have no time limit**: those for the header and the function code. -/
theorem wait_forever_iff {smb : Smb (Watched σ)} (hT : smb.BytesTimed) {e : Wait}
    (he : e.timeout = phaseTimeout smb modbusWaitForever (e.phase core slaveFormat, e.wanted core slaveFormat)) :
    e.timeout = modbusWaitForever ↔ e.seen.length ≤ core.lenHeader := by
  by_cases hlen : e.seen.length ≤ core.lenHeader
  · have hfirst : e.timeout = modbusWaitForever := by
      rw [he]
      exact phaseTimeout_first smb modbusWaitForever (Nat.lt_succ_of_le hlen)
    exact iff_of_true hfirst hlen
  · -- behind the function code the wait gets a product, which is not negative
    have hphase : 0 < e.phase core slaveFormat := by
      have hhead : (e.seen.take (core.lenHeader + 1)).length = core.lenHeader + 1 :=
        List.length_take_of_le (by omega)
      have hdemand := Pull.demand_append (k := fun head : List UInt8 =>
        Pull.want (slaveFormat.fixed (head.getD core.lenHeader 0)) fun fixed => tailPull core slaveFormat (head ++ fixed))
        hhead (e.seen.drop (core.lenHeader + 1))
      rw [List.take_append_drop] at hdemand
      unfold Wait.phase framePull
      rw [hdemand]
      exact Nat.succ_pos _
    have hwanted : e.wanted core slaveFormat ≤ modbusMaxAduLength :=
      Follows.demand_le _ _ _ _ (follows_framePull (slave_tabled core) (Buffer.replicate _ 0) le_rfl) _
    have hbyte : smb.timeoutByte = toU32 (smb.timeoutByte.toNat : Int) := by
      have hlt := smb.timeoutByte.toNat_lt
      apply UInt32.toNat.inj
      unfold toU32 UInt32.ofInt
      rw [UInt32.toNat_ofNat']
      omega
    have hlt : (smb.timeoutByte.toNat : Int) * (e.wanted core slaveFormat : Nat) < 2 ^ 31 := by
      have hle := Nat.mul_le_mul_left smb.timeoutByte.toNat hwanted
      unfold Smb.BytesTimed at hT
      exact_mod_cast hle.trans_lt hT
    have hprod : phaseTimeout smb modbusWaitForever (e.phase core slaveFormat, e.wanted core slaveFormat) =
        (smb.timeoutByte.toNat : Int) * (e.wanted core slaveFormat : Nat) :=
      (phaseTimeout_iff (Int.natCast_nonneg _) hbyte hphase).mpr hlt
    rw [← he] at hprod
    refine iff_of_false (fun hforever => ?_) hlen
    have hneg : (modbusWaitForever : Int) = _ := hforever.symm.trans hprod
    have hnn : (0 : Int) ≤ smb.timeoutByte.toNat * (e.wanted core slaveFormat : Nat) := by positivity
    rw [← hneg] at hnn
    exact absurd hnn (by decide)

end Reception

namespace SerialLine

/-- What a reception will have gathered, while its first waits are those without a time limit. -/
structure Gathers (header : Nat) (gathered : List UInt8 × List (List UInt8)) (w : SerialLine)
    (v : Watched SerialLine) : Prop where
  gather_eq : (∀ e ∈ v.waits, e.timeout = modbusWaitForever ↔ e.seen.length ≤ header) →
    gather header (v.seen ++ v.dev.rx) v.dev.later = gathered
  discards_eq : v.dev.discards = w.discards
  tx_eq : v.dev.tx = w.tx

/-- A read moves bytes to those that were seen, and a wait without a time limit fetches the next burst. -/
theorem gathers_preserved (header : Nat) (gathered : List UInt8 × List (List UInt8)) (w : SerialLine) :
    feed.watched.Preserves (Gathers header gathered w) where
  preserves_read v len hv := by
    refine ⟨fun hwaits => ?_, hv.discards_eq, hv.tx_eq⟩
    rw [← hv.gather_eq hwaits]
    show gather header ((v.seen ++ v.dev.rx.take _) ++ v.dev.rx.drop _) v.dev.later = _
    rw [List.append_assoc, List.take_append_drop]
  preserves_wait v t hv := by
    have hwait : feed.watched.wait v t = ((v.dev.wait t).1, ⟨(v.dev.wait t).2, v.seen, v.waits ++ [⟨v.seen, t⟩]⟩) :=
      rfl
    have hold : (∀ e ∈ v.waits ++ [⟨v.seen, t⟩], e.timeout = modbusWaitForever ↔ e.seen.length ≤ header) →
        gather header (v.seen ++ v.dev.rx) v.dev.later = gathered :=
      fun hwaits => hv.gather_eq fun e he => hwaits e (List.mem_append_left _ he)
    rw [hwait]
    rcases v.dev.wait_cases t with ⟨hw, -⟩ | ⟨hw, -⟩ | ⟨burst, later, hw, hrx, ht, hl⟩
    · rw [hw]
      exact ⟨hold, hv.discards_eq, hv.tx_eq⟩
    · rw [hw]
      exact ⟨hold, hv.discards_eq, hv.tx_eq⟩
    · rw [hw]
      refine ⟨fun hwaits => ?_, hv.discards_eq, hv.tx_eq⟩
      have hle : v.seen.length ≤ header := (hwaits _ List.mem_concat_self).mp ht
      rw [← hold hwaits, hrx, hl, List.append_nil]
      exact (gather_of_le hle burst later).symm

/-- **A reception on a serial line.** Its reader runs on the bytes gathered, and what it leaves of them is left on
the line. -/
theorem received_gather {core : Core} {w : SerialLine} {v : Watched SerialLine} {o : Outcome UInt8 Int}
    (hrec : feed.watched.Received (framePull core slaveFormat) (.start w) v o)
    (hforever : ∀ e ∈ v.waits, e.timeout = modbusWaitForever ↔ e.seen.length ≤ core.lenHeader) :
    (framePull core slaveFormat).run modbusTimeout (gather core.lenHeader w.rx w.later).1 =
        ⟨o.error, o.taken, v.dev.rx⟩ ∧
      v.dev.toHeard = ⟨v.dev.rx, (gather core.lenHeader w.rx w.later).2, w.discards⟩ ∧ v.dev.tx = w.tx := by
  have hseen : v.seen = o.taken := hrec.session.seen feed.watchedLog
  have hkept := hrec.session.preserves (gathers_preserved core.lenHeader (gather core.lenHeader w.rx w.later) w)
    ⟨fun _ => rfl, rfl, rfl⟩
  have hgather := hkept.gather_eq hforever
  rw [hseen] at hgather
  -- the bytes gathered are those that the reader took and those on the line
  have hdone : gather core.lenHeader (o.taken ++ v.dev.rx) v.dev.later = (o.taken ++ v.dev.rx, v.dev.later) ∧
      (framePull core slaveFormat).run modbusTimeout (o.taken ++ v.dev.rx) = ⟨o.error, o.taken, v.dev.rx⟩ := by
    rcases hrec.ends with hended | ⟨hstarves, code, v₁, t, herr, hcode, hwait⟩
    · -- the reader ended, which it does not before the function code
      have hlen : core.lenHeader < o.taken.length := hended.1
      refine ⟨gather_of_lt ?_ _, Pull.run_of_ends modbusTimeout hended v.dev.rx⟩
      rw [List.length_append]
      omega
    · -- the last wait failed: nothing had come in
      have hlast : feed.watched.wait v₁ t =
          ((v₁.dev.wait t).1, ⟨(v₁.dev.wait t).2, v₁.seen, v₁.waits ++ [⟨v₁.seen, t⟩]⟩) := rfl
      rw [hlast] at hwait
      obtain ⟨rfl, rfl⟩ := Prod.mk.inj hwait
      have hok : ¬ (modbusOk : Int) < 0 := by decide
      rcases v₁.dev.wait_cases t with ⟨hw, -⟩ | ⟨hw, hrx, hover⟩ | ⟨burst, later, hw, -⟩
      · rw [hw] at hcode
        exact absurd hcode hok
      · rw [hw] at herr hforever ⊢
        dsimp only at hseen hforever ⊢
        rw [hrx, List.append_nil, Pull.run_of_starves modbusTimeout hstarves, herr]
        refine ⟨?_, rfl⟩
        by_cases hlen : core.lenHeader < o.taken.length
        · exact gather_of_lt hlen _
        · -- it had no time limit, so the line is over
          have hle : v₁.seen.length ≤ core.lenHeader := by
            rw [hseen]
            omega
          rw [hover ((hforever _ List.mem_concat_self).mpr hle)]
          rfl
      · rw [hw] at hcode
        exact absurd hcode hok
  rw [hdone.1] at hgather
  rw [← hgather, ← hkept.discards_eq]
  exact ⟨hdone.2, rfl, hkept.tx_eq⟩

section Wait

variable {core : Core} {smb : Smb SerialLine} (h : Ready smb core port) (hT : smb.BytesTimed) {old : Buffer UInt8 n}
  (hn : modbusMaxAduLength ≤ n)

include h hT hn

/-- **`modbus_slave_wait` without a time limit on a serial line.** -/
theorem slaveWait {fuel : Nat} {w w' : SerialLine} {ret : Int} {smb' : Smb SerialLine} {request : Buffer UInt8 n}
    (hrun : modbusSlaveWait fuel smb w old modbusWaitForever = .ok (ret, smb', w', request)) :
    ∃ o, o = (framePull core slaveFormat).run modbusTimeout (gather core.lenHeader w.rx w.later).1 ∧
      request = old.fill o.taken ∧ w'.toHeard = ⟨o.rest, (gather core.lenHeader w.rx w.later).2, w.discards⟩ ∧
      w'.tx = w.tx ∧ SlaveEnds core smb o ret smb' := by
  -- the same run, watched
  have hlock := feed.watched_lockstep.slaveWait feed_clean h fuel old modbusWaitForever (w := w) (v := .start w) rfl
  rw [hrun] at hlock
  obtain ⟨⟨ret₂, smb₂, v, request₂⟩, hrun₂, hret, hsmb, hdev, hrequest⟩ := hlock.of_ok
  obtain rfl : ret = ret₂ := hret
  obtain rfl : smb₂ = smb'.onPort port.watched := hsmb
  obtain rfl : v.dev = w' := hdev
  have h₂ := h.onPort port.watched
  have hwaits := modbusSlaveWait_waits feed_clean h₂ old hn hrun₂
  rcases modbusSlaveWait_feed (Feed.watched_clean feed_clean) h₂ old hn fuel (.start w) modbusWaitForever with
    hout | ⟨o, ret₁, smb₁, v₁, hok, hrec, hends, -⟩
  · rw [hrun₂] at hout
    cases hout
  rw [hrun₂] at hok
  cases hok
  obtain rfl : request = old.fill o.taken := hrequest
  obtain ⟨hreader, hheard, htx⟩ :=
    received_gather hrec fun e he => wait_forever_iff (hT.onPort port.watched) (hwaits e he)
  refine ⟨_, rfl, ?_, ?_, htx, ?_⟩
  · rw [hreader]
  · rw [hreader]
    exact hheard
  · rw [hreader]
    exact SlaveEnds.onPort h (modbusSlaveWait_ready h hrun) hends

end Wait

end SerialLine

/-! ## §4 — the thread. -/

/-- The thread of the slave, with its `count`. -/
structure RtuSlave (σ κ : Type) extends SlaveState σ κ where
  count : Nat

namespace RtuSlave

/-- The body of the loop in `test_modbus_rtu_slave_thread`. -/
def round (fuel : Nat) (cb : SlaveCallback κ) (s : RtuSlave σ κ) : Exec (RtuSlave σ κ) := do
  let (rc, smb, device, app) ← modbusSlaveWaitHandle fuel s.smb s.device (some cb) s.app modbusWaitForever
  if rc > 0 then
    return ⟨⟨smb, device, app⟩, s.count + 1⟩
  else
    return ⟨⟨smb, (modbusErrorRecovery smb device).2, app⟩, s.count⟩

/-- Rounds of the loop. -/
def rounds (fuel : Nat) (cb : SlaveCallback κ) : Nat → RtuSlave σ κ → Exec (RtuSlave σ κ)
  | 0, s => .ok s
  | k + 1, s => do
      let s ← s.round fuel cb
      rounds fuel cb k s

/-- **The answer to a frame**: what the slave makes of the call for the frame, with whatever is in the buffers
behind it. -/
def Answered (cb : SlaveCallback κ) (addr : UInt8) (app : κ) (frame reply : List UInt8) (app' : κ) : Prop :=
  ∃ (smb : Smb SerialLine) (buffer : Buffer UInt8 modbusMaxAduLength) (q : Query) (r : Int) (data : List UInt8),
    q.In .rtu (buffer.fill frame) ∧ q.call .rtu smb (buffer.fill frame) (some cb) app = (r, data, app') ∧
      reply = Core.rtu.adu 0 addr (q.reply addr r data)

/-- The answers to these frames, in order. -/
inductive AnsweredAll (cb : SlaveCallback κ) (addr : UInt8) : κ → List (List UInt8) → List (List UInt8) → κ → Prop
  | nil (app : κ) : AnsweredAll cb addr app [] [] app
  | cons {app app₁ app₂ : κ} {frame reply : List UInt8} {frames replies : List (List UInt8)} :
      Answered cb addr app frame reply app₁ → AnsweredAll cb addr app₁ frames replies app₂ →
        AnsweredAll cb addr app (frame :: frames) (reply :: replies) app₂

theorem AnsweredAll.append {cb : SlaveCallback κ} {addr : UInt8} {app app₁ app₂ : κ}
    {frames frames₁ replies replies₁ : List (List UInt8)} (h : AnsweredAll cb addr app frames replies app₁)
    (h₁ : AnsweredAll cb addr app₁ frames₁ replies₁ app₂) :
    AnsweredAll cb addr app (frames ++ frames₁) (replies ++ replies₁) app₂ := by
  induction h with
  | nil app => exact h₁
  | cons hanswered _ ih => exact .cons hanswered (ih h₁)

theorem AnsweredAll.length_eq {cb : SlaveCallback κ} {addr : UInt8} {app app' : κ}
    {frames replies : List (List UInt8)} (h : AnsweredAll cb addr app frames replies app') :
    replies.length = frames.length := by
  induction h with
  | nil app => rfl
  | cons _ _ ih => simp [ih]

/-- Between the two states the thread answered and counted these frames, and wrote nothing else. -/
def Serves (cb : SlaveCallback κ) (addr : UInt8) (s : RtuSlave SerialLine κ) (frames : List (List UInt8))
    (s' : RtuSlave SerialLine κ) : Prop :=
  ∃ replies, AnsweredAll cb addr s.app frames replies s'.app ∧ s'.device.tx = s.device.tx ++ replies ∧
    s'.count = s.count + frames.length

theorem Serves.append {cb : SlaveCallback κ} {addr : UInt8} {s s₁ s₂ : RtuSlave SerialLine κ}
    {frames frames₁ : List (List UInt8)} (h : Serves cb addr s frames s₁) (h₁ : Serves cb addr s₁ frames₁ s₂) :
    Serves cb addr s (frames ++ frames₁) s₂ := by
  obtain ⟨replies, hall, htx, hcount⟩ := h
  obtain ⟨replies₁, hall₁, htx₁, hcount₁⟩ := h₁
  refine ⟨replies ++ replies₁, hall.append hall₁, ?_, ?_⟩
  · rw [htx₁, htx, List.append_assoc]
  · rw [hcount₁, hcount, List.length_append, Nat.add_assoc]

/-- A thread on its line, with an address and timeouts whose products stay in an `int`. -/
structure Sound (addr : UInt8) (bound : Nat) (s : RtuSlave SerialLine κ) : Prop where
  ready : Ready s.smb .rtu SerialLine.port
  slaveAddr : s.smb.slaveAddr = addr
  timed : s.smb.BytesTimed
  rank_le : s.device.grants.length + s.device.later.length ≤ bound

section Round

variable {cb : SlaveCallback κ} (hcb : cb.FitsWord) {addr : UInt8} {bound fuel : Nat}
  (hfuel : bound + 2 * modbusMaxAduLength + 1 < fuel)

/-- A round whose wait rejects what has come in throws away what a flush finds. -/
theorem round_rejected {s : RtuSlave SerialLine κ} (hs : s.Sound addr bound) {ret : Int} (hret : ret < 0)
    {w : SerialLine} {request : Buffer UInt8 modbusMaxAduLength}
    (hwait : modbusSlaveWait fuel s.smb s.device s.smb.readBuff modbusWaitForever = .ok (ret, s.smb, w, request)) :
    s.round fuel cb = .ok ⟨⟨{ s.smb with readBuff := request }, w.flush.2, s.app⟩, s.count⟩ := by
  have hctx : modbusContextCheck { s.smb with readBuff := request } = modbusOk :=
    (hs.ready.congr rfl rfl rfl : Ready { s.smb with readBuff := request } .rtu SerialLine.port).contextCheck
  unfold round
  rw [modbusSlaveWaitHandle_rejected hret hwait (some cb) s.app hs.ready.contextCheck, exec_ok_bind]
  dsimp only
  rw [if_neg (by omega), modbusErrorRecovery, hctx, if_neg (not_not.mpr rfl)]
  dsimp only
  rw [hs.ready.port_eq]
  rfl

include hcb

/-- A round whose wait accepts a frame answers and counts it. -/
theorem round_accepted {s : RtuSlave SerialLine κ} (hs : s.Sound addr bound) {tid : UInt16} {frame : List UInt8}
    {w : SerialLine} (hwait : modbusSlaveWait fuel s.smb s.device s.smb.readBuff modbusWaitForever =
      .ok ((frame.length : Nat), Core.rtu.adopt s.smb tid, w, s.smb.readBuff.fill frame)) :
    ∃ smb' reply app', s.round fuel cb = .ok ⟨⟨smb', (w.write reply).2, app'⟩, s.count + 1⟩ ∧
      Answered cb addr s.app frame reply app' ∧ Ready smb' .rtu SerialLine.port ∧ smb'.slaveAddr = addr ∧
      smb'.BytesTimed := by
  obtain ⟨q, hq⟩ := Query.exists_in .rtu (s.smb.readBuff.fill frame) le_rfl
  obtain ⟨⟨r, data, app'⟩, hcall⟩ : ∃ x, q.call .rtu (Core.rtu.adopt s.smb tid) (s.smb.readBuff.fill frame)
    (some cb) s.app = x := ⟨_, rfl⟩
  have hcb' : ∀ c, some cb = some c → c.FitsWord := by
    rintro c ⟨⟩
    exact hcb
  have hlt : (q.call .rtu (Core.rtu.adopt s.smb tid) (s.smb.readBuff.fill frame) (some cb) s.app).1 < 65536 :=
    call_lt hcb' s.app
  rw [hcall] at hlt
  obtain ⟨reply, hreply⟩ : ∃ reply, reply = Core.rtu.adu tid s.smb.slaveAddr (q.reply s.smb.slaveAddr r data) :=
    ⟨_, rfl⟩
  obtain ⟨readBuff', writeBuff', hhandle⟩ :=
    modbusSlaveWaitHandle_handled hs.ready hwait hq (some cb) s.app hcall (Query.fits_of_lt hlt) hreply
  have hwrite : modbusWrite s.smb w reply = w.write reply := by
    unfold modbusWrite
    rw [hs.ready.contextCheck, hs.ready.port_eq]
    rfl
  rw [hwrite] at hhandle
  refine ⟨{ s.smb with readBuff := readBuff', writeBuff := writeBuff' }, reply, app', ?_,
    ⟨s.smb, s.smb.readBuff, q, r, data, hq, hcall, by rw [hreply, hs.slaveAddr]; rfl⟩,
    hs.ready.congr rfl rfl rfl, hs.slaveAddr, hs.timed⟩
  unfold round
  rw [hhandle, exec_ok_bind]
  refine if_pos (Int.natCast_pos.mpr ?_)
  rw [hreply, Core.length_adu]
  exact Nat.lt_of_lt_of_le Nat.zero_lt_two (Nat.le_add_left _ _)

include hfuel

/-- **A round of the thread** is a round of the machine. -/
theorem round_turn {s : RtuSlave SerialLine κ} (hs : s.Sound addr bound) :
    ∃ s', s.round fuel cb = .ok s' ∧ s'.Sound addr bound ∧
      s'.device.toHeard = (s.device.toHeard.turn addr).2 ∧
      Serves cb addr s (s.device.toHeard.turn addr).1.toList s' := by
  have hF := SerialLine.feed_clean
  -- the wait returns
  have hpat := SerialLine.feed_fair.patient hF s.device
  have hne : modbusSlaveWait fuel s.smb s.device s.smb.readBuff modbusWaitForever ≠ .error .fuel := by
    have hle := hs.rank_le
    exact modbusSlaveWait_patient hF hs.ready s.smb.readBuff le_rfl hpat modbusWaitForever (by omega)
  rcases modbusSlaveWait_feed hF hs.ready s.smb.readBuff le_rfl fuel s.device modbusWaitForever with
    hout | ⟨o₀, ret, smb', w', hwait, hrec, -⟩
  · exact absurd hout hne
  have hrank := hrec.session.preserves (SerialLine.rank_preserved bound) hs.rank_le
  obtain ⟨o, ho, hrequest, hheard, htx, hends⟩ := SerialLine.slaveWait hs.ready hs.timed le_rfl hwait
  rw [hrequest] at hwait
  have hturn : s.device.toHeard.turn addr =
      if o.error = none ∧ Heard.Addressed addr o.taken then (some o.taken, w'.toHeard)
      else (none, w'.toHeard.flush) := by
    rw [hheard, ho]
    rfl
  by_cases hret : ret < 0
  · -- the wait rejects what has come in, and so does the machine
    have hrej : smb' = s.smb ∧ ¬ (o.error = none ∧ Heard.Addressed addr o.taken) := by
      rcases hends with ⟨e, herr, -, -, rfl⟩ | ⟨-, ⟨rfl, -⟩ | ⟨-, rfl, hnot⟩⟩
      · exact ⟨rfl, fun h => absurd (herr.symm.trans h.1) (by simp)⟩
      · exact absurd hret (by omega)
      · refine ⟨rfl, fun h => ?_⟩
        obtain ⟨a, pdu, ha, htaken⟩ := Heard.addressed_iff.mp h.2
        exact hnot a 0 pdu (by rw [Smb.Admits, hs.slaveAddr]; exact ha) htaken
    obtain ⟨rfl, hnot⟩ := hrej
    rw [if_neg hnot] at hturn
    rw [hturn]
    exact ⟨_, round_rejected hs hret hwait, ⟨hs.ready.congr rfl rfl rfl, hs.slaveAddr, hs.timed, hrank⟩, rfl,
      [], .nil _, by rw [List.append_nil]; exact htx, rfl⟩
  · rcases hends with ⟨e, -, hneg, rfl, -⟩ | ⟨hnone, ⟨rfl, a, tid, pdu, ha, -, htaken, rfl⟩ | ⟨hneg, -⟩⟩
    · exact absurd hneg hret
    · -- a request for the slave: it is answered
      have haddressed : Heard.Addressed addr o.taken :=
        Heard.addressed_iff.mpr ⟨a, pdu, by rw [Smb.Admits, hs.slaveAddr] at ha; exact ha, htaken⟩
      rw [if_pos ⟨hnone, haddressed⟩] at hturn
      rw [hturn]
      obtain ⟨smb', reply, app', hround, hanswered, hready, haddr, htimed⟩ := round_accepted hcb hs hwait
      exact ⟨_, hround, ⟨hready, haddr, htimed, hrank⟩, rfl, [reply], .cons hanswered (.nil app'), by rw [← htx]; rfl,
        rfl⟩
    · exact absurd hneg hret

/-- Rounds of the thread are rounds of the machine. The induction is on the rounds, the invariant carries it. -/
theorem rounds_turns : ∀ (k : Nat) {s : RtuSlave SerialLine κ}, s.Sound addr bound →
    ∃ s', rounds fuel cb k s = .ok s' ∧ s'.Sound addr bound ∧
      s'.device.toHeard = (s.device.toHeard.turns addr k).2 ∧ Serves cb addr s (s.device.toHeard.turns addr k).1 s' := by
  intro k
  induction k with
  | zero =>
    intro s hs
    exact ⟨s, rfl, hs, rfl, [], .nil _, (List.append_nil _).symm, rfl⟩
  | succ k ih =>
    intro s hs
    obtain ⟨s₁, hround, hs₁, hheard₁, hserves₁⟩ := round_turn hcb hfuel hs
    obtain ⟨s₂, hrounds, hs₂, hheard₂, hserves₂⟩ := ih hs₁
    rw [hheard₁] at hheard₂ hserves₂
    refine ⟨s₂, ?_, hs₂, hheard₂, hserves₁.append hserves₂⟩
    rw [rounds, hround, exec_ok_bind]
    exact hrounds

end Round

/-- **The thread is the machine.** Over any number of rounds, on any bursts, cut up in any way, with whatever
the flushes find: the thread of the shipped slave runs on, leaves on its line what the machine leaves, answers
the frames that the machine takes, each once and in order, counts them, and writes nothing else. -/
theorem rtu_slave_thread (vioLowlevelUpdate : Vio η → Vio η) {addr : UInt8} {bound fuel : Nat}
    (hfuel : bound + 2 * modbusMaxAduLength + 1 < fuel) {s : RtuSlave SerialLine (Vio η)} (hs : s.Sound addr bound)
    (k : Nat) :
    ∃ s', rounds fuel (testModbusSlaveCallback vioLowlevelUpdate) k s = .ok s' ∧ s'.Sound addr bound ∧
      s'.device.toHeard = (s.device.toHeard.turns addr k).2 ∧
      Serves (testModbusSlaveCallback vioLowlevelUpdate) addr s (s.device.toHeard.turns addr k).1 s' :=
  rounds_turns (testModbusSlaveCallback_fitsWord vioLowlevelUpdate) hfuel k hs

/-- A slave with address 1 on a board that does nothing, and a line on which these bursts come in. -/
def idle (later : List (List UInt8)) (discards : List Nat) : RtuSlave SerialLine (Vio Nat) where
  smb := newContext .rtu SerialLine.port 1
  device := ⟨⟨[], later, discards⟩, [], []⟩
  app := ⟨Board.zeroed, 0⟩
  count := 0

theorem idle_sound (later : List (List UInt8)) (discards : List Nat) :
    (idle later discards).Sound 1 later.length where
  ready := newContext_ready .rtu SerialLine.port 1
  slaveAddr := rfl
  timed := by
    show (10 : UInt32).toNat * modbusMaxAduLength < 2 ^ 31
    decide
  rank_le := by simp [idle]

/-- The reply of another slave, nine bytes of which the reader takes eight, and a flush that comes before the
ninth: the byte is taken for the start of the next burst, and the request in it is lost. -/
theorem rtu_slave_thread_strayed :
    ∃ s', rounds 600 (testModbusSlaveCallback id) 2
        (idle [[2, 3, 4, 0, 0, 0, 0, 201, 51], Core.rtu.adu 0 1 [1, 0, 0, 0, 8]] [0]) = .ok s' ∧
      s'.device.toHeard = ⟨[], [], []⟩ ∧ s'.device.tx = [] ∧ s'.count = 0 := by
  have hturns : Heard.turns 1 2 ⟨[], [[2, 3, 4, 0, 0, 0, 0, 201, 51], Core.rtu.adu 0 1 [1, 0, 0, 0, 8]], [0]⟩ =
      ([], ⟨[], [], []⟩) := by
    decide +kernel
  obtain ⟨s', hrounds, -, hheard, hserves⟩ := rtu_slave_thread id
    (show 2 + 2 * modbusMaxAduLength + 1 < 600 by decide)
    (idle_sound [[2, 3, 4, 0, 0, 0, 0, 201, 51], Core.rtu.adu 0 1 [1, 0, 0, 0, 8]] [0]) 2
  have hidle : (idle [[2, 3, 4, 0, 0, 0, 0, 201, 51], Core.rtu.adu 0 1 [1, 0, 0, 0, 8]] [0]).device.toHeard =
      ⟨[], [[2, 3, 4, 0, 0, 0, 0, 201, 51], Core.rtu.adu 0 1 [1, 0, 0, 0, 8]], [0]⟩ := rfl
  rw [hidle, hturns] at hheard hserves
  obtain ⟨replies, hall, htx, hcount⟩ := hserves
  obtain rfl : replies = [] := List.eq_nil_of_length_eq_zero hall.length_eq
  exact ⟨s', hrounds, hheard, htx, hcount⟩

end RtuSlave

/-! ## §5 — a slave on a bus. -/

namespace Heard

/-- The burst is a request for the slave at this address. -/
def IsRequest (addr : UInt8) (burst : List UInt8) : Prop :=
  ∃ a pdu, (a = addr ∨ a = modbusBroadcastAddress) ∧ slaveFormat.Sized pdu ∧
    burst = Core.rtu.adu 0 a pdu ∧ burst.length ≤ modbusMaxAduLength

/-- The burst does not begin with one, is longer than a header and fits into one flush. -/
structure Foreign (addr : UInt8) (burst : List UInt8) : Prop where
  lt_length : Core.rtu.lenHeader < burst.length
  length_le : burst.length ≤ modbusMaxAduLength
  not_request : ∀ frame, frame <+: burst → ¬ IsRequest addr frame

/-- Bursts on a bus, with the requests among them. -/
inductive Traffic (addr : UInt8) : List (List UInt8) → List (List UInt8) → Prop
  | nil : Traffic addr [] []
  | request {burst : List UInt8} {bursts requests : List (List UInt8)} : IsRequest addr burst →
      Traffic addr bursts requests → Traffic addr (burst :: bursts) (burst :: requests)
  | foreign {burst : List UInt8} {bursts requests : List (List UInt8)} : Foreign addr burst →
      Traffic addr bursts requests → Traffic addr (burst :: bursts) requests

/-- Requests are the words that the reader takes and the check lets through. -/
theorem isRequest_iff {addr : UInt8} {burst : List UInt8} :
    IsRequest addr burst ↔ (framePull .rtu slaveFormat).Accepts burst ∧ Addressed addr burst := by
  constructor
  · rintro ⟨a, pdu, ha, hsize, rfl, hlen⟩
    exact ⟨framePull_accepts_adu hsize hlen, addressed_iff.mpr ⟨a, pdu, ha, rfl⟩⟩
  · rintro ⟨hacc, haddr⟩
    obtain ⟨a, pdu, ha, hadu⟩ := addressed_iff.mp haddr
    obtain ⟨hd, pdu', ck, hsplit, hhd, hck, hsize, hlen⟩ := framePull_accepts_iff.mp hacc
    refine ⟨a, pdu, ha, ?_, hadu, hlen⟩
    -- the reader and the check find the same PDU
    have hsame : hd ++ pdu' ++ ck = [a] ++ pdu ++ Core.rtu.checksum ([a] ++ pdu) := hsplit.symm.trans hadu
    rw [List.append_assoc, List.append_assoc] at hsame
    obtain ⟨-, hbody⟩ := List.append_inj hsame hhd
    obtain ⟨rfl, -⟩ := List.append_inj' hbody hck
    exact hsize

/-- What goes between the master and another slave is no request for this one. -/
theorem foreign_of_address {addr a : UInt8} {burst : List UInt8} (ha : a ≠ addr) (hall : a ≠ modbusBroadcastAddress)
    (hlt : Core.rtu.lenHeader < (a :: burst).length) (hle : (a :: burst).length ≤ modbusMaxAduLength) :
    Foreign addr (a :: burst) where
  lt_length := hlt
  length_le := hle
  not_request := by
    rintro _ ⟨rest, hrest⟩ ⟨a', pdu, ha', -, rfl, -⟩
    obtain rfl : a' = a := (List.cons.inj hrest).1
    exact ha'.elim ha hall

section Turn

variable {addr : UInt8} {burst : List UInt8} (later : List (List UInt8))

/-- A silent line hears the next burst whole. -/
theorem gather_burst (h : Core.rtu.lenHeader < burst.length) :
    gather Core.rtu.lenHeader [] (burst :: later) = (burst, later) :=
  (gather_of_le (Nat.zero_le _) burst later).trans (gather_of_lt h later)

/-- A request is taken. -/
theorem turn_request (h : IsRequest addr burst) (discards : List Nat) :
    turn addr ⟨[], burst :: later, discards⟩ = (some burst, ⟨[], later, discards⟩) := by
  obtain ⟨hacc, haddr⟩ := isRequest_iff.mp h
  have hrun := Pull.run_of_accepts modbusTimeout hacc []
  rw [List.append_nil] at hrun
  unfold turn
  rw [gather_burst later hacc.1]
  dsimp only
  rw [hrun]
  exact if_pos ⟨rfl, haddr⟩

/-- Any other burst is thrown away. -/
theorem turn_foreign (h : Foreign addr burst) : turn addr ⟨[], burst :: later, []⟩ = (none, ⟨[], later, []⟩) := by
  obtain ⟨o, ho⟩ : ∃ o, o = (framePull .rtu slaveFormat).run modbusTimeout burst := ⟨_, rfl⟩
  have hsplit : o.taken ++ o.rest = burst := by
    rw [ho]
    exact Pull.taken_append_rest modbusTimeout _ burst
  have hnot : ¬ (o.error = none ∧ Addressed addr o.taken) := by
    rintro ⟨hnone, haddr⟩
    refine h.not_request o.taken ⟨o.rest, hsplit⟩ (isRequest_iff.mpr ⟨?_, haddr⟩)
    rw [ho] at hnone ⊢
    exact Pull.accepts_of_run modbusTimeout hnone
  have hrest : o.rest.drop (min o.rest.length modbusMaxAduLength) = [] := by
    have hle := h.length_le
    rw [← hsplit, List.length_append] at hle
    exact List.drop_eq_nil_of_le (by omega)
  unfold turn
  rw [gather_burst later h.lt_length]
  dsimp only
  rw [← ho, if_neg hnot, flush]
  exact congrArg (fun rx => (none, (⟨rx, later, []⟩ : Heard))) hrest

end Turn

/-- **On a bus the machine takes exactly the requests**, and is ready for the next burst behind them. The
induction is on the traffic. -/
theorem turns_traffic {addr : UInt8} {bursts requests : List (List UInt8)} (h : Traffic addr bursts requests)
    (more : List (List UInt8)) : turns addr bursts.length ⟨[], bursts ++ more, []⟩ = (requests, ⟨[], more, []⟩) := by
  induction h with
  | nil => rfl
  | request hrequest _ ih =>
    rw [List.length_cons, turns, List.cons_append, turn_request _ hrequest]
    dsimp only
    rw [ih]
    rfl
  | foreign hforeign _ ih =>
    rw [List.length_cons, turns, List.cons_append, turn_foreign _ hforeign]
    dsimp only
    rw [ih]
    rfl

end Heard

namespace RtuSlave

/-- **A slave on a bus.** Its line is silent, and then bursts come in: requests for the slave, and others that
do not begin with one, are longer than a header and fit into one flush. When each flush finds the whole rest of its
burst, the thread answers and counts the requests, each once and in order, and writes nothing for the others. -/
theorem rtu_slave_bus (vioLowlevelUpdate : Vio η → Vio η) {addr : UInt8} {bound fuel : Nat}
    (hfuel : bound + 2 * modbusMaxAduLength + 1 < fuel) {s : RtuSlave SerialLine (Vio η)} (hs : s.Sound addr bound)
    {bursts requests more : List (List UInt8)} (htraffic : Heard.Traffic addr bursts requests)
    (hheard : s.device.toHeard = ⟨[], bursts ++ more, []⟩) :
    ∃ s', rounds fuel (testModbusSlaveCallback vioLowlevelUpdate) bursts.length s = .ok s' ∧
      s'.device.toHeard = ⟨[], more, []⟩ ∧
      Serves (testModbusSlaveCallback vioLowlevelUpdate) addr s requests s' := by
  obtain ⟨s', hrounds, -, hheard', hserves⟩ :=
    rounds_turns (testModbusSlaveCallback_fitsWord vioLowlevelUpdate) hfuel bursts.length hs
  rw [hheard, Heard.turns_traffic htraffic more] at hheard' hserves
  exact ⟨s', hrounds, hheard', hserves⟩

/-- The same reply, heard to its end, and then the request: one answer. -/
theorem rtu_slave_bus_two :
    ∃ s', rounds 600 (testModbusSlaveCallback id) 2
        (idle [[2, 3, 4, 0, 0, 0, 0, 201, 51], Core.rtu.adu 0 1 [1, 0, 0, 0, 8]] []) = .ok s' ∧
      s'.device.toHeard = ⟨[], [], []⟩ ∧ s'.device.tx.length = 1 ∧ s'.count = 1 := by
  have hforeign : Heard.Foreign 1 [2, 3, 4, 0, 0, 0, 0, 201, 51] :=
    Heard.foreign_of_address (by decide) (by decide) (by decide) (by decide)
  have hrequest : Heard.IsRequest 1 (Core.rtu.adu 0 1 [1, 0, 0, 0, 8]) :=
    ⟨1, [1, 0, 0, 0, 8], Or.inl rfl, by decide, rfl, by decide⟩
  obtain ⟨s', hrounds, hheard, replies, hall, htx, hcount⟩ := rtu_slave_bus id
    (show 2 + 2 * modbusMaxAduLength + 1 < 600 by decide)
    (idle_sound [[2, 3, 4, 0, 0, 0, 0, 201, 51], Core.rtu.adu 0 1 [1, 0, 0, 0, 8]] [])
    (.foreign hforeign (.request hrequest .nil)) rfl
  refine ⟨s', hrounds, hheard, ?_, hcount⟩
  rw [htx]
  exact hall.length_eq

end RtuSlave

end SmallModbus
