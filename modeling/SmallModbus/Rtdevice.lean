/-
# `SmallModbus.Rtdevice` — the serial port of `small_modbus_port_rtthread.c`, with its interrupts.

The driver stores what comes in and calls `rx_indicate`, which notes a size and releases a semaphore; the
waits of the port take the semaphore. Interrupts come at any moment: between two calls of the thread, or
while it sleeps. One release may announce many bytes and one read may take the bytes of many releases, so
the count of the semaphore says little about the queue of the driver. Still no wake-up is lost, because the
library waits only after a read that emptied the queue (`rtdevice_waits`), and a request that comes in is
answered, or the deadline came before its last byte (`rtdevice_serves`).

The driver and the kernel are not part of the library. `RtSerial` and `RtSem` say of the device and of the semaphore
what their documentation does. A thread that sleeps without a time limit, with nothing more to come, sleeps for good;
its call never returns, and `neverReturns` stands for that.
-/
import SmallModbus.Handover
import SmallModbus.Timeouts

namespace SmallModbus

open SmallModbus.Lib

variable {δ ς κ : Type} {n : Nat}

/-! ## §1 — the device. -/

/-- What comes next at the device while the thread runs or sleeps. -/
inductive Moment
  /-- a receive interrupt, with the bytes that have come in -/
  | interrupt (first : UInt8) (more : List UInt8)
  /-- the thread makes its next call -/
  | call
  /-- the time limit of a sleeping thread is over -/
  | deadline
  deriving DecidableEq, Repr

/-- The bytes that come in with it. -/
def Moment.data : Moment → List UInt8
  | .interrupt first more => first :: more
  | .call => []
  | .deadline => []

/-- The calls of RT-Thread on the state `δ` of a serial device and of the pin that turns its transmitter on.
The driver is a queue that may throw away its oldest bytes when it overruns. -/
structure RtSerial (δ : Type) where
  /-- `rt_device_read`: the bytes it stored -/
  deviceRead : δ → (size : Nat) → List UInt8 × δ
  deviceWrite : δ → List UInt8 → δ
  deviceOpen : δ → (oflag : Int) → δ
  deviceClose : δ → δ
  /-- the receive interrupt, with the size it gives to `rx_indicate` -/
  receive : δ → List UInt8 → Nat × δ
  /-- the callback `rts_set`, if there is one -/
  rtsSet : Option (δ → (on : Int) → δ)
  /-- the bytes the driver holds -/
  queue : δ → List UInt8
  /-- how many bytes it has thrown away -/
  overrun : δ → Nat
  read_data : ∀ d size, (deviceRead d size).1 = (queue d).take size
  queue_read : ∀ d size, queue (deviceRead d size).2 = (queue d).drop size
  overrun_read : ∀ d size, overrun (deviceRead d size).2 = overrun d
  receive_pos : ∀ d first more, 0 < (receive d (first :: more)).1
  overrun_receive : ∀ d data, overrun d ≤ overrun (receive d data).2
  queue_receive : ∀ d data,
    queue (receive d data).2 = (queue d ++ data).drop (overrun (receive d data).2 - overrun d)

/-- The calls of RT-Thread on the state `ς` of a semaphore that one thread takes. -/
structure RtSem (ς : Type) where
  /-- `rt_sem_release`, when no thread sleeps -/
  release : ς → ς
  /-- `rt_sem_control` with `RT_IPC_CMD_RESET` -/
  reset : ς → ς
  /-- `rt_sem_take` that does not sleep: there is a release to take, or the time limit is 0 -/
  take : ς → (timeout : Int) → Int × ς
  /-- `rt_sem_take` whose sleep a release has ended -/
  wake : ς → Int × ς
  /-- `rt_sem_take` whose time is over -/
  expire : ς → Int × ς
  /-- the releases that it holds -/
  value : ς → Nat
  value_release : ∀ s, 0 < value (release s) ∧ value (release s) ≤ value s + 1
  value_reset : ∀ s, value (reset s) = 0
  take_pos : ∀ s t, 0 < value s → (take s t).1 = 0 ∧ value (take s t).2 + 1 = value s
  take_zero : ∀ s, value s = 0 → (take s 0).1 < 0 ∧ value (take s 0).2 = 0
  wake_zero : ∀ s, value s = 0 → (wake s).1 = 0 ∧ value (wake s).2 = 0
  expire_zero : ∀ s, value s = 0 → (expire s).1 < 0 ∧ value (expire s).2 = 0

/-- Both. -/
structure RtThread (δ ς : Type) extends RtSerial δ, RtSem ς

/-- Stands for the result of a wait that never returns. It is no code of the library. -/
def neverReturns : Int := -1000

/-- `struct small_modbus_port_rtdevice` with the device behind it, and what is to come. -/
structure Rtdevice (δ ς : Type) where
  device : δ
  rxSem : ς
  rxSize : Nat
  ahead : List Moment

section Port

variable (S : RtThread δ ς)

/-- `_modbus_rtdevice_rx_indicate`, when no thread sleeps on the semaphore. -/
def modbusRtdeviceRxIndicate (w : Rtdevice δ ς) (size : Nat) : Rtdevice δ ς :=
  { w with rxSize := size, rxSem := S.release w.rxSem }

/-- What happens before the thread makes its next call. -/
def untilCall : List Moment → Rtdevice δ ς → Rtdevice δ ς
  | [], w => { w with ahead := [] }
  | .interrupt first more :: ahead, w =>
      let (size, device) := S.receive w.device (first :: more)
      untilCall ahead (modbusRtdeviceRxIndicate S { w with device := device, ahead := ahead } size)
  | .call :: ahead, w => { w with ahead := ahead }
  | .deadline :: ahead, w => untilCall ahead { w with ahead := ahead }

/-- The sleep of `rt_sem_take`. A release wakes the thread. With a time limit the sleep ends at the deadline, or when
nothing more is to come; without one the thread sleeps over the deadline, and for good when nothing more is to come. -/
def rtSleep (timeout : Int) : List Moment → Rtdevice δ ς → Option Int × Rtdevice δ ς
  | [], w =>
      if timeout < 0 then (none, { w with ahead := [] })
      else
        let (rc, sem) := S.expire w.rxSem
        (some rc, { w with rxSem := sem, ahead := [] })
  | .interrupt first more :: ahead, w =>
      let (size, device) := S.receive w.device (first :: more)
      let (rc, sem) := S.wake w.rxSem
      (some rc, ⟨device, sem, size, ahead⟩)
  | .call :: ahead, w => rtSleep timeout ahead { w with ahead := ahead }
  | .deadline :: ahead, w =>
      if timeout < 0 then rtSleep timeout ahead { w with ahead := ahead }
      else
        let (rc, sem) := S.expire w.rxSem
        (some rc, { w with rxSem := sem, ahead := ahead })

/-- `rt_sem_take` on the semaphore of the port. -/
def rtSemTake (w : Rtdevice δ ς) (timeout : Int) : Option Int × Rtdevice δ ς :=
  if 0 < S.value w.rxSem ∨ timeout = 0 then
    let (rc, sem) := S.take w.rxSem timeout
    (some rc, { w with rxSem := sem })
  else rtSleep S timeout w.ahead w

/-- `_modbus_rtdevice_open`. -/
def modbusRtdeviceOpen (oflag : Int) (w : Rtdevice δ ς) : Int × Rtdevice δ ς :=
  let rts (on : Int) (device : δ) : δ := S.rtsSet.elim device fun f => f device on
  (0, { w with device := rts 0 (S.deviceOpen w.device oflag) })

/-- `_modbus_rtdevice_close`. -/
def modbusRtdeviceClose (w : Rtdevice δ ς) : Int × Rtdevice δ ς :=
  (0, { w with device := S.deviceClose w.device })

/-- `_modbus_rtdevice_write`. -/
def modbusRtdeviceWrite (w : Rtdevice δ ς) (data : List UInt8) : Int × Rtdevice δ ς :=
  let rts (on : Int) (device : δ) : δ := S.rtsSet.elim device fun f => f device on
  (data.length, { w with device := rts 0 (S.deviceWrite (rts 1 w.device) data) })

/-- `_modbus_rtdevice_read`. -/
def modbusRtdeviceRead (w : Rtdevice δ ς) (length : UInt16) : Int × List UInt8 × Rtdevice δ ς :=
  let w := untilCall S w.ahead w
  let (data, device) := S.deviceRead w.device length.toNat
  (data.length, data, { w with device := device })

/-- `_modbus_rtdevice_flush`, with the bytes that it leaves in `read_buff`. The two calls of the kernel are
two steps: an interrupt between them stores bytes and its release is forgotten. -/
def modbusRtdeviceFlush (w : Rtdevice δ ς) : Int × List UInt8 × Rtdevice δ ς :=
  let w := untilCall S w.ahead w
  let (data, device) := S.deviceRead w.device modbusMaxAduLength
  let w := { w with device := device }
  let w := untilCall S w.ahead w
  (data.length, data, { w with rxSem := S.reset w.rxSem })

/-- `_modbus_rtdevice_wait`. -/
def modbusRtdeviceWait (w : Rtdevice δ ς) (timeout : Int) : Int × Rtdevice δ ς :=
  let w := untilCall S w.ahead w
  match rtSemTake S w timeout with
  | (none, w) => (neverReturns, w)
  | (some rc, w) =>
      if rc < 0 then (modbusTimeout, w)
      else if w.rxSize = 0 then (modbusErrorRead, w)
      else (rc, w)

/-- The port that `modbus_port_rtdevice_init` sets up. What a flush puts into `read_buff` is left out: every
wait stores into the buffer before it reads from it. -/
def rtdevicePort (oflag : Int) : Port (Rtdevice δ ς) where
  openFn := some (modbusRtdeviceOpen S oflag)
  closeFn := some (modbusRtdeviceClose S)
  readFn := some (modbusRtdeviceRead S)
  writeFn := some (modbusRtdeviceWrite S)
  flushFn := some fun w => ((modbusRtdeviceFlush S w).1, (modbusRtdeviceFlush S w).2.2)
  waitFn := some (modbusRtdeviceWait S)

end Port

/-! ## §2 — what may happen in the meantime. -/

namespace Rtdevice

variable (S : RtThread δ ς)

/-- A release has noted its size. -/
def Indicated (w : Rtdevice δ ς) : Prop := 0 < S.value w.rxSem → w.rxSize ≠ 0

/-- How much can still wake the thread. -/
def rank (w : Rtdevice δ ς) : Nat := S.value w.rxSem + w.ahead.length

/-- The bytes that are there and those that are to come. -/
def toCome (w : Rtdevice δ ς) : List UInt8 := S.queue w.device ++ w.ahead.flatMap Moment.data

/-- The queue is empty, or the next wait does not sleep. -/
def Awake (w : Rtdevice δ ς) : Prop := S.queue w.device = [] ∨ 0 < S.value w.rxSem

/-- What a thread and the device do between two states, `log` being the bytes that were taken. -/
structure Passed (log : List UInt8) (w w' : Rtdevice δ ς) : Prop where
  rank_le : w'.rank S ≤ w.rank S
  indicated : w.Indicated S → w'.Indicated S
  overrun_le : S.overrun w.device ≤ S.overrun w'.device
  toCome_eq : S.overrun w'.device = S.overrun w.device → w.toCome S = log ++ w'.toCome S

variable {S}

theorem Passed.refl (w : Rtdevice δ ς) : Passed S [] w w := ⟨le_rfl, id, le_rfl, fun _ => rfl⟩

theorem Passed.trans {log log₁ : List UInt8} {w w₁ w₂ : Rtdevice δ ς} (h : Passed S log w w₁)
    (h₁ : Passed S log₁ w₁ w₂) : Passed S (log ++ log₁) w w₂ where
  rank_le := h₁.rank_le.trans h.rank_le
  indicated hw := h₁.indicated (h.indicated hw)
  overrun_le := h.overrun_le.trans h₁.overrun_le
  toCome_eq heq := by
    have hle := h.overrun_le
    have hle₁ := h₁.overrun_le
    rw [h.toCome_eq (by omega), h₁.toCome_eq (by omega), List.append_assoc]

/-- A moment without bytes passes. -/
theorem passed_moment {w : Rtdevice δ ς} {m : Moment} {ahead : List Moment} (hw : w.ahead = m :: ahead)
    (hm : m.data = []) : Passed S [] w { w with ahead := ahead } where
  rank_le := by simp [rank, hw]
  indicated := id
  overrun_le := le_rfl
  toCome_eq _ := by simp [toCome, hw, hm]

/-- Releases are taken. -/
theorem passed_sem {w : Rtdevice δ ς} {sem : ς} (hsem : S.value sem ≤ S.value w.rxSem) :
    Passed S [] w { w with rxSem := sem } where
  rank_le := Nat.add_le_add_right hsem w.ahead.length
  indicated hw hpos := hw (hpos.trans_le hsem)
  overrun_le := le_rfl
  toCome_eq _ := rfl

/-- What an interrupt stores. -/
theorem toCome_receive {w : Rtdevice δ ς} {first : UInt8} {more : List UInt8} {ahead : List Moment}
    (hw : w.ahead = .interrupt first more :: ahead)
    (heq : S.overrun (S.receive w.device (first :: more)).2 = S.overrun w.device) :
    S.queue (S.receive w.device (first :: more)).2 ++ ahead.flatMap Moment.data = w.toCome S := by
  rw [S.queue_receive, heq, Nat.sub_self, List.drop_zero, toCome, hw, List.flatMap_cons, List.append_assoc]
  rfl

/-- An interrupt, with a semaphore that holds no more than one release more. -/
theorem passed_interrupt {w : Rtdevice δ ς} {first : UInt8} {more : List UInt8} {ahead : List Moment}
    (hw : w.ahead = .interrupt first more :: ahead) {sem : ς} (hsem : S.value sem ≤ S.value w.rxSem + 1) :
    Passed S [] w
      ⟨(S.receive w.device (first :: more)).2, sem, (S.receive w.device (first :: more)).1, ahead⟩ where
  rank_le := by
    show S.value sem + ahead.length ≤ S.value w.rxSem + w.ahead.length
    rw [hw, List.length_cons]
    omega
  indicated _ _ := (S.receive_pos w.device first more).ne'
  overrun_le := S.overrun_receive w.device (first :: more)
  toCome_eq heq := (toCome_receive hw heq).symm

/-- **What happens before a call.** The induction is on what is to come. -/
theorem passed_untilCall {ahead : List Moment} {w : Rtdevice δ ς} (hw : w.ahead = ahead) :
    Passed S [] w (untilCall S ahead w) := by
  induction ahead generalizing w with
  | nil =>
    show Passed S [] w { w with ahead := [] }
    rw [← hw]
    exact .refl w
  | cons m ahead ih =>
    cases m with
    | interrupt first more => exact (passed_interrupt hw (S.value_release w.rxSem).2).trans (ih rfl)
    | call => exact passed_moment hw rfl
    | deadline => exact (passed_moment hw rfl).trans (ih rfl)

/-- Whatever comes in before a call releases the semaphore. -/
theorem awake_untilCall (ahead : List Moment) {w : Rtdevice δ ς} (h : w.Awake S) :
    (untilCall S ahead w).Awake S := by
  induction ahead generalizing w with
  | nil => exact h
  | cons m ahead ih =>
    cases m with
    | interrupt first more => exact ih (Or.inr (S.value_release w.rxSem).1)
    | call => exact h
    | deadline => exact ih h

/-- How a call of `rt_sem_take` ends that found no release to take. -/
inductive Slept (S : RtThread δ ς) (timeout : Int) (w : Rtdevice δ ς) : Option Int × Rtdevice δ ς → Prop
  /-- a release has ended the sleep -/
  | woken {w' : Rtdevice δ ς} : Passed S [] w w' → w'.rank S < w.rank S → w'.rxSize ≠ 0 → Slept S timeout w (some 0, w')
  /-- the time is over, and nothing has come in -/
  | expired {rc : Int} {sem : ς} {rest : List Moment} : rc < 0 → Passed S [] w { w with rxSem := sem, ahead := rest } →
      Slept S timeout w (some rc, { w with rxSem := sem, ahead := rest })
  /-- the thread sleeps for good, and nothing will come in -/
  | never : timeout < 0 → Passed S [] w { w with ahead := [] } → Slept S timeout w (none, { w with ahead := [] })

/-- A moment before it that wakes nobody. -/
theorem Slept.after {timeout : Int} {w : Rtdevice δ ς} {ahead : List Moment} {x : Option Int × Rtdevice δ ς}
    (h : Slept S timeout { w with ahead := ahead } x) (hpassed : Passed S [] w { w with ahead := ahead }) :
    Slept S timeout w x := by
  cases h with
  | woken hl hlt hsize => exact .woken (hpassed.trans hl) (hlt.trans_le hpassed.rank_le) hsize
  | expired hrc hl => exact .expired hrc (hpassed.trans hl)
  | never hneg hl => exact .never hneg (hpassed.trans hl)

/-- The time is over. -/
theorem Slept.of_expire {timeout : Int} {w : Rtdevice δ ς} (hsem : S.value w.rxSem = 0) {rest : List Moment}
    (hpassed : Passed S [] w { w with ahead := rest }) :
    Slept S timeout w (some (S.expire w.rxSem).1, { w with rxSem := (S.expire w.rxSem).2, ahead := rest }) := by
  obtain ⟨hrc, hvalue⟩ := S.expire_zero w.rxSem hsem
  exact .expired hrc (hpassed.trans (passed_sem (hvalue.trans hsem.symm).le))

/-- **A sleep** ends with a release, or with the deadline and nothing come in, or never. The induction is on what is
to come. -/
theorem rtSleep_cases (timeout : Int) {ahead : List Moment} {w : Rtdevice δ ς} (hw : w.ahead = ahead)
    (hsem : S.value w.rxSem = 0) : Slept S timeout w (rtSleep S timeout ahead w) := by
  induction ahead generalizing w with
  | nil =>
    have hpassed : Passed S [] w { w with ahead := [] } := by
      rw [← hw]
      exact .refl w
    unfold rtSleep
    split_ifs with hneg
    · exact .never hneg hpassed
    · exact .of_expire hsem hpassed
  | cons m ahead ih =>
    cases m with
    | interrupt first more =>
      obtain ⟨hrc, hvalue⟩ := S.wake_zero w.rxSem hsem
      have hrun : rtSleep S timeout (.interrupt first more :: ahead) w = (some (S.wake w.rxSem).1,
          ⟨(S.receive w.device (first :: more)).2, (S.wake w.rxSem).2,
            (S.receive w.device (first :: more)).1, ahead⟩) := rfl
      rw [hrun, hrc]
      refine .woken (passed_interrupt hw (by omega)) ?_ (S.receive_pos w.device first more).ne'
      simp [rank, hw, hvalue, hsem]
    | call => exact (ih (w := { w with ahead := ahead }) rfl hsem).after (passed_moment hw rfl)
    | deadline =>
      have hpassed := passed_moment (S := S) hw rfl
      unfold rtSleep
      split_ifs
      · exact (ih (w := { w with ahead := ahead }) rfl hsem).after hpassed
      · exact .of_expire hsem hpassed

/-- `rt_sem_take` takes a release, or the semaphore held none. -/
theorem rtSemTake_cases (w : Rtdevice δ ς) (timeout : Int) :
    (0 < S.value w.rxSem ∧ ∃ w', rtSemTake S w timeout = (some 0, w') ∧ Passed S [] w w' ∧ w'.rank S < w.rank S ∧
      w'.rxSize = w.rxSize) ∨
    S.value w.rxSem = 0 ∧ Slept S timeout w (rtSemTake S w timeout) := by
  unfold rtSemTake
  by_cases hpos : 0 < S.value w.rxSem
  · rw [if_pos (Or.inl hpos)]
    obtain ⟨hrc, hvalue⟩ := S.take_pos w.rxSem timeout hpos
    refine Or.inl ⟨hpos, { w with rxSem := (S.take w.rxSem timeout).2 }, ?_, passed_sem (by omega), ?_, rfl⟩
    · dsimp only
      rw [hrc]
    · show S.value (S.take w.rxSem timeout).2 + w.ahead.length < S.value w.rxSem + w.ahead.length
      omega
  · have hsem : S.value w.rxSem = 0 := by omega
    refine Or.inr ⟨hsem, ?_⟩
    by_cases htime : timeout = 0
    · rw [if_pos (Or.inr htime)]
      subst htime
      obtain ⟨hrc, hvalue⟩ := S.take_zero w.rxSem hsem
      exact .expired hrc (passed_sem (hvalue.trans hsem.symm).le)
    · rw [if_neg (by simp [hsem, htime])]
      exact rtSleep_cases timeout rfl hsem

/-- How a wait of the port ends. -/
inductive Waited (S : RtThread δ ς) (timeout : Int) (w : Rtdevice δ ς) : Int × Rtdevice δ ς → Prop
  /-- a release was taken or has ended the sleep -/
  | released {w' : Rtdevice δ ς} : Passed S [] w w' → w'.rank S < w.rank S → (w.Indicated S → w'.rxSize ≠ 0) →
      Waited S timeout w (if w'.rxSize = 0 then modbusErrorRead else 0, w')
  /-- the time is over -/
  | timeout {w' : Rtdevice δ ς} : Passed S [] w w' → (w.Awake S → S.queue w'.device = []) →
      Waited S timeout w (modbusTimeout, w')
  /-- the thread sleeps for good -/
  | never {w' : Rtdevice δ ς} : timeout < 0 → Passed S [] w w' → (w.Awake S → S.queue w'.device = []) →
      w'.ahead = [] → Waited S timeout w (neverReturns, w')

/-- **A wait** takes a release, or its time is over, or it never returns; when the queue was empty or the count was
not, the queue is empty in the last two cases. -/
theorem modbusRtdeviceWait_cases (w : Rtdevice δ ς) (timeout : Int) :
    Waited S timeout w (modbusRtdeviceWait S w timeout) := by
  have hpassed := passed_untilCall (S := S) (w := w) rfl
  have hawake := awake_untilCall (S := S) (w := w) w.ahead
  unfold modbusRtdeviceWait
  dsimp only
  rcases rtSemTake_cases (S := S) (untilCall S w.ahead w) timeout with ⟨hpos, w', hrun, hl, hlt, hsize⟩ | ⟨hsem, hslept⟩
  · rw [hrun]
    have hrc : (if (0 : Int) < 0 then (modbusTimeout, w')
        else if w'.rxSize = 0 then (modbusErrorRead, w') else (0, w')) =
        (if w'.rxSize = 0 then modbusErrorRead else 0, w') := by
      rw [if_neg (by decide)]
      split <;> rfl
    dsimp only
    rw [hrc]
    exact .released (hpassed.trans hl) (hlt.trans_le hpassed.rank_le) fun hw => hsize ▸ hpassed.indicated hw hpos
  · have hqueue : w.Awake S → S.queue (untilCall S w.ahead w).device = [] := fun hw =>
      (hawake hw).resolve_right (by omega)
    cases hrun : rtSemTake S (untilCall S w.ahead w) timeout with
    | mk rc w' =>
      rw [hrun] at hslept
      cases hslept with
      | woken hl hlt hsize =>
        dsimp only
        rw [if_neg (by decide), if_neg hsize]
        have hreleased : Waited S timeout w (if w'.rxSize = 0 then modbusErrorRead else 0, w') :=
          .released (hpassed.trans hl) (hlt.trans_le hpassed.rank_le) fun _ => hsize
        rwa [if_neg hsize] at hreleased
      | expired hrc hl =>
        dsimp only
        rw [if_pos hrc]
        exact .timeout (hpassed.trans hl) hqueue
      | never hneg hl => exact .never hneg (hpassed.trans hl) hqueue rfl

theorem Waited.passed {timeout : Int} {w : Rtdevice δ ς} {x : Int × Rtdevice δ ς} (h : Waited S timeout w x) :
    Passed S [] w x.2 := by
  cases h with
  | released hl => exact hl
  | timeout hl => exact hl
  | never _ hl => exact hl

/-- The driver hands over the next bytes of its queue. -/
theorem passed_deviceRead (w : Rtdevice δ ς) (size : Nat) :
    Passed S (S.deviceRead w.device size).1 w { w with device := (S.deviceRead w.device size).2 } where
  rank_le := le_rfl
  indicated := id
  overrun_le := (S.overrun_read w.device size).ge
  toCome_eq _ := by
    unfold toCome
    dsimp only
    rw [S.read_data, S.queue_read, ← List.append_assoc, List.take_append_drop]

/-- A read takes the next bytes of the queue, and all of them when there are less than it asked for. -/
theorem modbusRtdeviceRead_spec (w : Rtdevice δ ς) (length : UInt16) :
    ∃ data w', modbusRtdeviceRead S w length = ((data.length : Int), data, w') ∧ Passed S data w w' ∧
      data.length ≤ length.toNat ∧ (data.length < length.toNat → S.queue w'.device = []) := by
  have hpassed := passed_untilCall (S := S) (w := w) rfl
  refine ⟨_, _, rfl, hpassed.trans (passed_deviceRead _ length.toNat), ?_, ?_⟩
  · rw [S.read_data]
    exact List.length_take_le _ _
  · rw [S.read_data, S.queue_read, List.length_take, List.drop_eq_nil_iff]
    omega

end Rtdevice

/-! ## §3 — the port as a feed, and a wait that looks into the queue. -/

section Feed

variable (S : RtThread δ ς) (oflag : Int)

/-- The port as a feed. -/
def rtdeviceFeed : Feed (rtdevicePort S oflag) where
  read := modbusRtdeviceRead S
  wait := modbusRtdeviceWait S
  readFn := rfl
  waitFn := rfl
  read_le w len := by
    obtain ⟨data, w', hrun, -, hle, -⟩ := Rtdevice.modbusRtdeviceRead_spec (S := S) w len
    rw [hrun]
    show (data.length : Int) ≤ len.toNat
    exact_mod_cast hle
  length_bytes w len := by
    obtain ⟨data, w', hrun, -⟩ := Rtdevice.modbusRtdeviceRead_spec (S := S) w len
    rw [hrun]
    rfl

theorem rtdeviceFeed_clean : (rtdeviceFeed S oflag).Clean := fun _ _ => Int.natCast_nonneg _

/-- Each wait that succeeds uses up a release or an interrupt. -/
theorem rtdeviceFeed_fair : (rtdeviceFeed S oflag).Fair (Rtdevice.rank S) := by
  have hpassed : ∀ w t, Rtdevice.Passed S [] w (modbusRtdeviceWait S w t).2 := fun w t =>
    (Rtdevice.modbusRtdeviceWait_cases (S := S) w t).passed
  have hwait : ∀ w t, 0 ≤ (modbusRtdeviceWait S w t).1 → (modbusRtdeviceWait S w t).2.rank S < w.rank S := by
    intro w t h
    have hwaited := Rtdevice.modbusRtdeviceWait_cases (S := S) w t
    generalize modbusRtdeviceWait S w t = x at hwaited h ⊢
    cases hwaited with
    | released _ hlt => exact hlt
    | timeout => exact absurd (show (0 : Int) ≤ modbusTimeout from h) (by decide)
    | never => exact absurd (show (0 : Int) ≤ neverReturns from h) (by decide)
  have hread : ∀ w len, (modbusRtdeviceRead S w len).2.2.rank S ≤ w.rank S := by
    intro w len
    obtain ⟨data, w', hrun, hpassed, -⟩ := Rtdevice.modbusRtdeviceRead_spec (S := S) w len
    rw [hrun]
    exact hpassed.rank_le
  exact ⟨hread, fun w t => (hpassed w t).rank_le, fun w len t _ _ h => (hwait _ t h).trans_le (hread w len)⟩

/-- What a session hands over is what came in next. -/
theorem rtdeviceFeed_session {w w' : Rtdevice δ ς} {log : List UInt8} (h : (rtdeviceFeed S oflag).Session w log w') :
    Rtdevice.Passed S log w w' := by
  induction h with
  | refl w => exact .refl w
  | read w len _ ih =>
    obtain ⟨data, w₁, hrun, hpassed, -⟩ := Rtdevice.modbusRtdeviceRead_spec (S := S) w len
    change modbusRtdeviceRead S w len = _ at hrun
    have hfeed : (rtdeviceFeed S oflag).read w len = _ := hrun
    rw [hfeed] at ih ⊢
    exact hpassed.trans ih
  | wait w t _ ih => exact (Rtdevice.modbusRtdeviceWait_cases (S := S) w t).passed.trans ih

/-- A wait that looks into the queue. -/
def attentiveWait (w : Rtdevice δ ς) (timeout : Int) : Int × Rtdevice δ ς :=
  let w := untilCall S w.ahead w
  if S.queue w.device ≠ [] then
    (0, { w with rxSem := if 0 < S.value w.rxSem then (S.take w.rxSem timeout).2 else w.rxSem })
  else
    match rtSemTake S w timeout with
    | (none, w) => (neverReturns, w)
    | (some rc, w) => (if rc < 0 then modbusTimeout else 0, w)

/-- The port with such a wait. -/
def attentivePort : Port (Rtdevice δ ς) := { rtdevicePort S oflag with waitFn := some (attentiveWait S) }

/-- The same reads, and that wait. -/
def attentiveFeed : Feed (attentivePort S oflag) where
  read := modbusRtdeviceRead S
  wait := attentiveWait S
  readFn := rfl
  waitFn := rfl
  read_le := (rtdeviceFeed S oflag).read_le
  length_bytes := (rtdeviceFeed S oflag).length_bytes

theorem attentiveFeed_clean : (attentiveFeed S oflag).Clean := rtdeviceFeed_clean S oflag

/-- When it fails, the queue is empty, and when it never returns, nothing is to come. -/
theorem attentiveWait_failed {w w' : Rtdevice δ ς} {t code : Int} (hcode : code < 0)
    (hrun : attentiveWait S w t = (code, w')) :
    S.queue w'.device = [] ∧ (code = modbusTimeout ∨ code = neverReturns ∧ w'.ahead = [] ∧ t < 0) := by
  unfold attentiveWait at hrun
  dsimp only at hrun
  by_cases hqueue : S.queue (untilCall S w.ahead w).device ≠ []
  · rw [if_pos hqueue] at hrun
    cases hrun
    exact absurd hcode (by decide)
  · rw [if_neg hqueue] at hrun
    have hempty := not_not.mp hqueue
    rcases Rtdevice.rtSemTake_cases (S := S) (untilCall S w.ahead w) t with ⟨-, w₁, htake, -⟩ | ⟨-, hslept⟩
    · rw [htake] at hrun
      obtain ⟨rfl, -⟩ := Prod.mk.inj hrun
      exact absurd hcode (lt_irrefl 0)
    · generalize rtSemTake S (untilCall S w.ahead w) t = x at hslept hrun
      cases hslept with
      | woken =>
        obtain ⟨rfl, -⟩ := Prod.mk.inj hrun
        exact absurd hcode (lt_irrefl 0)
      | expired hrc =>
        dsimp only at hrun
        rw [if_pos hrc] at hrun
        cases hrun
        exact ⟨hempty, Or.inl rfl⟩
      | never hneg =>
        cases hrun
        exact ⟨hempty, Or.inr ⟨rfl, rfl, hneg⟩⟩

theorem passed_attentiveWait (w : Rtdevice δ ς) (t : Int) : Rtdevice.Passed S [] w (attentiveWait S w t).2 := by
  have hpassed := Rtdevice.passed_untilCall (S := S) (w := w) rfl
  unfold attentiveWait
  dsimp only
  by_cases hqueue : S.queue (untilCall S w.ahead w).device ≠ []
  · rw [if_pos hqueue]
    refine hpassed.trans (Rtdevice.passed_sem ?_)
    split_ifs with hsem
    · have := (S.take_pos _ t hsem).2
      omega
    · exact le_rfl
  · rw [if_neg hqueue]
    rcases Rtdevice.rtSemTake_cases (S := S) (untilCall S w.ahead w) t with ⟨-, w₁, htake, hl, -⟩ | ⟨-, hslept⟩
    · rw [htake]
      exact hpassed.trans hl
    · generalize rtSemTake S (untilCall S w.ahead w) t = x at hslept
      cases hslept with
      | woken hl => exact hpassed.trans hl
      | expired _ hl => exact hpassed.trans hl
      | never _ hl => exact hpassed.trans hl

/-- **The semaphore knows enough.** When the queue was empty or the count was not, a wait on the semaphore is a
wait that looks into the queue. -/
theorem attentiveWait_eq {w : Rtdevice δ ς} (hw : w.Indicated S) (hawake : w.Awake S) (t : Int) :
    attentiveWait S w t = modbusRtdeviceWait S w t := by
  have hpassed := Rtdevice.passed_untilCall (S := S) (w := w) rfl
  have hw₁ := hpassed.indicated hw
  have hawake₁ := Rtdevice.awake_untilCall w.ahead hawake
  unfold attentiveWait modbusRtdeviceWait
  dsimp only
  by_cases hqueue : S.queue (untilCall S w.ahead w).device ≠ []
  · -- something is in the queue, so there is a release to take
    have hsem : 0 < S.value (untilCall S w.ahead w).rxSem := hawake₁.resolve_left hqueue
    have htake : rtSemTake S (untilCall S w.ahead w) t = (some (S.take (untilCall S w.ahead w).rxSem t).1,
        { untilCall S w.ahead w with rxSem := (S.take (untilCall S w.ahead w).rxSem t).2 }) := if_pos (Or.inl hsem)
    rw [if_pos hqueue, if_pos hsem, htake, (S.take_pos _ t hsem).1]
    dsimp only
    rw [if_neg (by decide), if_neg (hw₁ hsem)]
  · rw [if_neg hqueue]
    rcases Rtdevice.rtSemTake_cases (S := S) (untilCall S w.ahead w) t with ⟨hsem, w₁, htake, -, -, hsize⟩ | ⟨-, hslept⟩
    · rw [htake]
      dsimp only
      rw [if_neg (by decide), if_neg (by decide), if_neg (hsize ▸ hw₁ hsem)]
    · generalize rtSemTake S (untilCall S w.ahead w) t = x at hslept
      cases hslept with
      | woken _ _ hsize =>
        dsimp only
        rw [if_neg (by decide), if_neg (by decide), if_neg hsize]
      | expired hrc =>
        dsimp only
        rw [if_pos hrc, if_pos hrc]
      | never => rfl

/-- A read that returned less than it was asked for emptied the queue. -/
theorem rtdevice_lockstep : Lockstep (rtdeviceFeed S oflag) (attentiveFeed S oflag).watched
    (fun w v => v.dev = w ∧ w.Indicated S) (fun w v => v.dev = w ∧ w.Indicated S ∧ w.Awake S) where
  count_eq := by
    rintro w v ⟨rfl, -⟩ len
    rfl
  bytes_eq := by
    rintro w v ⟨rfl, -⟩ len
    rfl
  rel_read := by
    rintro w v ⟨rfl, hw⟩ len
    exact ⟨rfl, (rtdeviceFeed_session S oflag (.of_read _ _ len)).indicated hw⟩
  dry_read := by
    rintro w v ⟨rfl, hw⟩ len hshort
    refine ⟨rfl, (rtdeviceFeed_session S oflag (.of_read _ _ len)).indicated hw, Or.inl ?_⟩
    obtain ⟨data, w', hrun, -, -, hdry⟩ := Rtdevice.modbusRtdeviceRead_spec (S := S) v.dev len
    have hfeed : (rtdeviceFeed S oflag).read v.dev len = _ := hrun
    rw [hfeed] at hshort ⊢
    exact hdry (Int.ofNat_lt.mp hshort)
  code_eq := by
    rintro w v ⟨rfl, hw, hawake⟩ t
    exact congrArg Prod.fst (attentiveWait_eq S hw hawake t)
  rel_wait := by
    rintro w v ⟨rfl, hw, hawake⟩ t
    refine ⟨congrArg Prod.snd (attentiveWait_eq S hw hawake t), ?_⟩
    exact (rtdeviceFeed_session S oflag (.wait _ t (.refl _))).indicated hw

end Feed

/-! ## §4 — the two waits on the port. -/

/-- How a reception ends on the port: its reader ended on what was taken; or it asked for more, the queue was empty,
and the time was over, or nothing more is to come and the wait had no time limit. -/
structure Rtdevice.Received (S : RtThread δ ς) (p : Pull UInt8 Int) (limit : Int) (w w' : Rtdevice δ ς)
    (o : Outcome UInt8 Int) : Prop where
  passed : Rtdevice.Passed S o.taken w w'
  ends : p.Ends o.taken o.error ∨
    p.Starves o.taken ∧ S.queue w'.device = [] ∧
      (o.error = some modbusTimeout ∨ o.error = some neverReturns ∧ w'.ahead = [] ∧ limit < 0)

theorem attentiveFeed_received {S : RtThread δ ς} {oflag : Int} {p : Pull UInt8 Int} {limit : Nat × Nat → Int}
    {w : Rtdevice δ ς} {v : Watched (Rtdevice δ ς)} {o : Outcome UInt8 Int}
    (h : (attentiveFeed S oflag).watched.Received p (.start w) v o)
    (hwaits : ∀ e ∈ v.waits, e.timeout = limit (p.demand e.seen)) :
    Rtdevice.Received S p (limit (p.demand o.taken)) w v.dev o where
  passed := by
    have hsession : ∀ {v v' : Watched (Rtdevice δ ς)} {log}, (attentiveFeed S oflag).watched.Session v log v' →
        Rtdevice.Passed S log v.dev v'.dev := by
      intro v v' log hs
      induction hs with
      | refl v => exact .refl v.dev
      | read v len _ ih => exact (rtdeviceFeed_session S oflag (.of_read _ v.dev len)).trans ih
      | wait v t _ ih => exact (passed_attentiveWait S v.dev t).trans ih
    exact hsession h.session
  ends := by
    refine h.ends.imp_right ?_
    rintro ⟨hstarves, code, v₁, t, herror, hneg, hwait⟩
    have hseen := h.session.seen (attentiveFeed S oflag).watchedLog
    obtain ⟨hcode, rfl⟩ := Prod.mk.inj hwait
    have hseen : v₁.seen = o.taken := hseen
    -- the last wait of the record is the one that failed
    have hlimit : t = limit (p.demand v₁.seen) := hwaits ⟨v₁.seen, t⟩ (List.mem_append_right _ List.mem_cons_self)
    rw [hseen] at hlimit
    obtain ⟨hqueue, hends⟩ := attentiveWait_failed S hneg (Prod.ext hcode rfl)
    refine ⟨hstarves, hqueue, ?_⟩
    rcases hends with rfl | ⟨rfl, hahead, ht⟩
    · exact Or.inl herror
    · exact Or.inr ⟨herror, hahead, hlimit ▸ ht⟩

/-- The check of a request says the length, or one of two codes. -/
theorem checkWaitRequest_code {σ : Type} {core : Core} {smb smb' : Smb σ} {b : Buffer UInt8 n} {length ret : Int}
    (h : core.checkWaitRequest smb b length = .ok (ret, smb')) :
    ret = length ∨ ret = modbusFailCheck ∨ ret = modbusFailAdrr := by
  cases core with
  | rtu =>
    change rtuCheckWaitRequest smb b length = _ at h
    unfold rtuCheckWaitRequest rtuCheckWait at h
    obtain ⟨ret', hcheck, h⟩ := bind_eq_ok.mp h
    cases h
    obtain ⟨lo, -, hcheck⟩ := bind_eq_ok.mp hcheck
    obtain ⟨hi, -, hcheck⟩ := bind_eq_ok.mp hcheck
    obtain ⟨crc, -, hcheck⟩ := bind_eq_ok.mp hcheck
    split at hcheck
    · cases hcheck
      exact Or.inr (Or.inl rfl)
    · obtain ⟨addr, -, hcheck⟩ := bind_eq_ok.mp hcheck
      split_ifs at hcheck
      · cases hcheck
        exact Or.inr (Or.inr rfl)
      · cases hcheck
        exact Or.inl rfl
  | tcp =>
    change tcpCheckWaitRequest smb b length = _ at h
    unfold tcpCheckWaitRequest at h
    repeat obtain ⟨_, -, h⟩ := bind_eq_ok.mp h
    split_ifs at h
    · repeat obtain ⟨_, -, h⟩ := bind_eq_ok.mp h
      cases h
      exact Or.inl rfl
    all_goals
      cases h
      simp

/-- How a wait ends does not depend on the port. -/
theorem SlaveEnds.onPort {σ τ : Type} {core : Core} {smb smb' : Smb σ} {port : Port σ} {port₂ : Port τ}
    {o : Outcome UInt8 Int} {ret : Int} (h : Ready smb core port) (h' : Ready smb' core port)
    (hends : SlaveEnds core (smb.onPort port₂) o ret (smb'.onPort port₂)) : SlaveEnds core smb o ret smb' := by
  have hback : ∀ x : Smb τ, smb'.onPort port₂ = x → smb' = x.onPort port := by
    rintro x rfl
    exact h'.onPort_self.symm
  have hsame : (smb.onPort port₂).onPort port = smb := h.onPort_self
  rcases hends with ⟨e, he, hneg, hret, hsmb⟩ | ⟨hnone, ⟨hret, a, tid, pdu, ha, hsize, hadu, hsmb⟩ | ⟨hneg, hsmb, hnot⟩⟩
  · exact Or.inl ⟨e, he, hneg, hret, (hback _ hsmb).trans hsame⟩
  · refine Or.inr ⟨hnone, Or.inl ⟨hret, a, tid, pdu, ha, hsize, hadu, (hback _ hsmb).trans ?_⟩⟩
    conv_rhs => rw [← hsame]
    cases core <;> rfl
  · exact Or.inr ⟨hnone, Or.inr ⟨hneg, (hback _ hsmb).trans hsame, hnot⟩⟩

section Waits

variable {S : RtThread δ ς} {oflag : Int} {smb : Smb (Rtdevice δ ς)} {core : Core}
  (h : Ready smb core (rtdevicePort S oflag)) {w : Rtdevice δ ς} (hw : w.Indicated S) (old : Buffer UInt8 n)
  (hn : modbusMaxAduLength ≤ n) {fuel : Nat} (hfuel : w.rank S + 2 * n + 1 < fuel)

include h hw hn hfuel

/-- **`modbus_slave_wait` on the port.** -/
theorem rtdevice_slaveWait (t : Int) :
    ∃ o ret smb' w', modbusSlaveWait fuel smb w old t = .ok (ret, smb', w', old.fill o.taken) ∧
      Rtdevice.Received S (framePull core slaveFormat)
        (phaseTimeout smb t ((framePull core slaveFormat).demand o.taken)) w w' o ∧
      SlaveEnds core smb o ret smb' ∧
      (o.error = none → ret = (o.taken.length : Nat) ∨ ret = modbusFailCheck ∨ ret = modbusFailAdrr) := by
  have hF := rtdeviceFeed_clean S oflag
  have hreturns := modbusSlaveWait_patient hF h old hn ((rtdeviceFeed_fair S oflag).patient hF w) t hfuel
  have h₂ := h.onPort (attentivePort S oflag).watched
  have hlockstep := (rtdevice_lockstep S oflag).slaveWait hF h fuel (w := w) (v := .start w) old t ⟨rfl, hw⟩
  cases hrun : modbusSlaveWait fuel smb w old t with
  | error e =>
    rcases modbusSlaveWait_feed hF h old hn fuel w t with hout | ⟨o, ret, smb', w', hok, -⟩
    · exact absurd hout hreturns
    · rw [hok] at hrun
      cases hrun
  | ok x =>
    obtain ⟨ret, smb', w', request⟩ := x
    rw [hrun] at hlockstep
    obtain ⟨⟨ret₂, smb₂, v, request₂⟩, hrun₂, hret, hsmb, ⟨rfl, -⟩, hrequest⟩ := hlockstep.of_ok
    rcases modbusSlaveWait_feed (Feed.watched_clean (attentiveFeed_clean S oflag)) h₂ old hn fuel (.start w) t with
      hout | ⟨o, ret₁, smb₁, v₁, hok, hrec, hends, hcheck⟩
    · rw [hrun₂] at hout
      cases hout
    · rw [hrun₂] at hok
      cases hok
      obtain rfl : ret = ret₂ := hret
      obtain rfl : request = old.fill o.taken := hrequest
      obtain rfl : smb₂ = smb'.onPort (attentivePort S oflag).watched := hsmb
      have hwaits := modbusSlaveWait_waits (attentiveFeed_clean S oflag) h₂ old hn hrun₂
      exact ⟨o, ret, smb', v.dev, rfl, attentiveFeed_received hrec hwaits,
        hends.onPort h (modbusSlaveWait_ready h hrun), fun hnone => checkWaitRequest_code (hcheck hnone)⟩

end Waits

/-! ## §5 — no wake-up is lost. -/

/-- What a wait comes to: its caller has the bytes that came in next, if the driver lost none; no read failed; when the
time was over nothing was left in the queue; and when it never returns it had no time limit, nothing is in the queue
and nothing is to come. -/
structure Rtdevice.Waits (S : RtThread δ ς) (limit : Int) (w w' : Rtdevice δ ς) (ret : Int) (taken : List UInt8) :
    Prop where
  bytes : S.overrun w'.device = S.overrun w.device → w.toCome S = taken ++ w'.toCome S
  code : ret ≠ modbusErrorRead
  timeout : ret = modbusTimeout → S.queue w'.device = []
  never : ret = neverReturns → limit < 0 ∧ S.queue w'.device = [] ∧ w'.ahead = []

theorem Rtdevice.Received.waits {S : RtThread δ ς} {core : Core} {fmt : Format} {limit : Int} {w w' : Rtdevice δ ς}
    {o : Outcome UInt8 Int} {ret : Int} (h : Rtdevice.Received S (framePull core fmt) limit w w' o)
    (hfmt : fmt.error = modbusFail ∨ fmt.error = modbusFailConfirm)
    (herror : ∀ e, o.error = some e → ret = e)
    (hcode : o.error = none → ret = (o.taken.length : Nat) ∨ ret = modbusFailCheck ∨ ret = modbusFailAdrr) :
    Rtdevice.Waits S limit w w' ret o.taken := by
  have hother : ∀ {P Q : Prop}, ret ≠ modbusErrorRead ∧ ret ≠ modbusTimeout ∧ ret ≠ neverReturns →
      ret ≠ modbusErrorRead ∧ (ret = modbusTimeout → P) ∧ (ret = neverReturns → Q) := fun h =>
    ⟨h.1, fun heq => absurd heq h.2.1, fun heq => absurd heq h.2.2⟩
  have hall : ret ≠ modbusErrorRead ∧ (ret = modbusTimeout → S.queue w'.device = []) ∧
      (ret = neverReturns → limit < 0 ∧ S.queue w'.device = [] ∧ w'.ahead = []) := by
    cases he : o.error with
    | none =>
      have hret := hcode he
      apply hother
      simp only [modbusFailCheck, modbusFailAdrr] at hret
      simp only [modbusErrorRead, modbusTimeout, neverReturns]
      omega
    | some e =>
      obtain rfl := herror e he
      rcases h.ends with hends | ⟨-, hqueue, htime | ⟨hnever, hahead, hneg⟩⟩
      · rw [he] at hends
        have hret := framePull_ends_error hends
        apply hother
        simp only [modbusFail, modbusFailConfirm] at hfmt
        simp only [modbusErrorRead, modbusTimeout, neverReturns]
        omega
      · rw [he] at htime
        obtain rfl := Option.some.inj htime
        exact ⟨by decide, fun _ => hqueue, fun heq => absurd heq (by decide)⟩
      · rw [he] at hnever
        obtain rfl := Option.some.inj hnever
        exact ⟨by decide, fun heq => absurd heq (by decide), fun _ => ⟨hneg, hqueue, hahead⟩⟩
  exact ⟨h.passed.toCome_eq, hall.1, hall.2.1, hall.2.2⟩

/-- The buffer of the driver, how many bytes it has lost, the pin, and the frames sent with the pin at the time. -/
structure SerialFifo where
  bytes : List UInt8
  lost : Nat
  pin : Int
  tx : List (Int × List UInt8)
  deriving DecidableEq, Repr

/-- The driver with a buffer of `bufsz` bytes and a transmitter that is switched. -/
def fifoSerial (bufsz : Nat) : RtSerial SerialFifo where
  deviceRead d size := (d.bytes.take size, { d with bytes := d.bytes.drop size })
  deviceWrite d data := { d with tx := d.tx ++ [(d.pin, data)] }
  deviceOpen d _ := d
  deviceClose d := d
  receive d data :=
    let excess := d.bytes.length + data.length - bufsz
    (data.length, { d with bytes := (d.bytes ++ data).drop excess, lost := d.lost + excess })
  rtsSet := some fun d on => { d with pin := on }
  queue d := d.bytes
  overrun d := d.lost
  read_data _ _ := rfl
  queue_read _ _ := rfl
  overrun_read _ _ := rfl
  receive_pos _ _ _ := Nat.succ_pos _
  overrun_receive d data := Nat.le_add_right d.lost _
  queue_receive d data := by
    dsimp only
    rw [Nat.add_sub_cancel_left]

/-- `RT_SEM_VALUE_MAX`. -/
def rtSemValueMax : Nat := 65535

/-- `RT_ETIMEOUT`. -/
def rtEtimeout : Int := 2

/-- A semaphore that counts. -/
def counterSem : RtSem Nat where
  release v := if v < rtSemValueMax then v + 1 else v
  reset _ := 0
  take v _ := if 0 < v then (0, v - 1) else (-rtEtimeout, v)
  wake v := (0, v)
  expire v := (-rtEtimeout, v)
  value v := v
  value_release v := by
    have hmax : 0 < rtSemValueMax := by decide
    split_ifs <;> omega
  value_reset _ := rfl
  take_pos v _ hv := by
    rw [if_pos hv]
    exact ⟨rfl, Nat.sub_add_cancel hv⟩
  take_zero v hv := by
    subst hv
    decide
  wake_zero _ hv := ⟨rfl, hv⟩
  expire_zero _ hv := ⟨show -rtEtimeout < 0 by decide, hv⟩

/-- The driver and the semaphore. -/
def fifoThread (bufsz : Nat) : RtThread SerialFifo Nat := ⟨fifoSerial bufsz, counterSem⟩

section Serve

variable {S : RtThread δ ς} {oflag : Int} {smb : Smb (Rtdevice δ ς)} {core : Core}
  (h : Ready smb core (rtdevicePort S oflag)) {w : Rtdevice δ ς} (hw : w.Indicated S) {fuel : Nat}
  (hfuel : w.rank S + 2 * modbusMaxAduLength + 1 < fuel) {tid : UInt16} {a : UInt8} {pdu rest : List UInt8}
  (ha : smb.Admits a) (hsize : slaveFormat.Sized pdu) (hlen : (core.adu tid a pdu).length ≤ modbusMaxAduLength)
  (hcome : w.toCome S = core.adu tid a pdu ++ rest)

include h hw hfuel ha hsize hlen hcome

/-- A request frame comes in whole, or the time is over before its last byte. -/
theorem rtdevice_request (old : Buffer UInt8 modbusMaxAduLength) (t : Int) :
    ∃ ret smb' w' taken, modbusSlaveWait fuel smb w old t = .ok (ret, smb', w', old.fill taken) ∧
      (S.overrun w'.device = S.overrun w.device →
        (ret = ((core.adu tid a pdu).length : Nat) ∧ smb' = core.adopt smb tid ∧ taken = core.adu tid a pdu ∧
          w'.toCome S = rest) ∨
        (ret = modbusTimeout ∧ smb' = smb ∧ S.queue w'.device = [] ∧ taken.length < (core.adu tid a pdu).length ∧
          core.adu tid a pdu ++ rest = taken ++ w'.toCome S)) := by
  obtain ⟨o, ret, smb', w', hok, hrec, hends, -⟩ := rtdevice_slaveWait h hw old le_rfl hfuel t
  refine ⟨ret, smb', w', o.taken, hok, fun hlost => ?_⟩
  have hstream : core.adu tid a pdu ++ rest = o.taken ++ w'.toCome S := by
    rw [← hcome, hrec.passed.toCome_eq hlost]
  have haccepts : (framePull core slaveFormat).Accepts (core.adu tid a pdu) := framePull_accepts_adu hsize hlen
  rcases hrec.ends with hdone | ⟨hstarves, hqueue, hcode⟩
  · -- the reader ended: on this stream it ends behind the frame
    have hrun := Pull.run_of_ends (-1 : Int) hdone (w'.toCome S)
    rw [← hstream, Pull.run_of_accepts (-1 : Int) haccepts rest] at hrun
    obtain ⟨hnone, htaken, hrest⟩ := Outcome.mk.inj hrun
    rcases hends with ⟨e, he, -⟩ | ⟨-, ⟨hret, a', tid', pdu', -, -, hadu, hsmb⟩ | ⟨-, -, hnot⟩⟩
    · rw [← hnone] at he
      cases he
    · obtain ⟨-, -, hadopt⟩ := Core.adu_inj (σ := Rtdevice δ ς) (htaken.trans hadu)
      exact Or.inl ⟨by rw [hret, htaken], hsmb.trans (hadopt smb).symm, htaken.symm, hrest.symm⟩
    · exact absurd htaken.symm (hnot a tid pdu ha)
  · -- it asks for more, so it has not got the frame
    right
    have hshort : o.taken.length < (core.adu tid a pdu).length := by
      by_contra hge
      obtain ⟨more, hmore⟩ : ∃ more, o.taken = core.adu tid a pdu ++ more :=
        (List.append_eq_append_iff.mp hstream).elim (fun ⟨x, hx, _⟩ => ⟨x, hx⟩) fun ⟨x, hx, _⟩ => by
          have hnil : x = [] := List.eq_nil_of_length_eq_zero (by rw [hx, List.length_append] at hge; omega)
          exact ⟨[], by rw [hx, hnil, List.append_nil, List.append_nil]⟩
      have hdry := Pull.run_of_starves (-1 : Int) hstarves
      rw [hmore, Pull.run_of_accepts (-1 : Int) haccepts more] at hdry
      cases (Outcome.mk.inj hdry).1
    -- and the rest of the frame is to come, so it does not sleep for good
    have htime : o.error = some modbusTimeout := by
      rcases hcode with htime | ⟨-, hahead, -⟩
      · exact htime
      · have hnone : w'.toCome S = [] := by
          unfold Rtdevice.toCome
          rw [hqueue, hahead]
          rfl
        have hlength := congrArg List.length hstream
        rw [hnone, List.append_nil, List.length_append] at hlength
        omega
    obtain ⟨hret, hsmb⟩ := hends.of_error htime
    exact ⟨hret, hsmb, hqueue, hshort, hstream⟩

/-- **A request is answered, or the deadline came before its last byte.** Whatever moments its bytes come in at,
in whatever portions, and whatever the semaphore counted before: when the driver lost nothing, the slave calls
its application with the request and puts exactly the reply on the line, or it gives up with an empty queue
and part of the request, without a call. -/
theorem rtdevice_serves {q : Query} (hin : q.In core (smb.readBuff.fill (core.adu tid a pdu)))
    (cb : Option (SlaveCallback κ)) (app : κ) {r : Int} {data : List UInt8} {app' : κ}
    (hcall : q.call core (core.adopt smb tid) (smb.readBuff.fill (core.adu tid a pdu)) cb app = (r, data, app'))
    (hfits : q.Fits r) {reply : List UInt8}
    (hreply : reply = core.adu tid smb.slaveAddr (q.reply smb.slaveAddr r data)) (t : Int) :
    ∃ ret smb₁ w₁ request, modbusSlaveWait fuel smb w smb.readBuff t = .ok (ret, smb₁, w₁, request) ∧
      (S.overrun w₁.device = S.overrun w.device →
        (w₁.toCome S = rest ∧ ∃ smb', modbusSlaveWaitHandle fuel smb w cb app t =
          .ok ((reply.length : Nat), smb', (modbusRtdeviceWrite S w₁ reply).2, app')) ∨
        (S.queue w₁.device = [] ∧ (∃ k < (core.adu tid a pdu).length,
            w₁.toCome S = (core.adu tid a pdu).drop k ++ rest) ∧
          ∃ smb', modbusSlaveWaitHandle fuel smb w cb app t = .ok (modbusTimeout, smb', w₁, app))) := by
  obtain ⟨ret, smb₁, w₁, taken, hok, hcases⟩ := rtdevice_request h hw hfuel ha hsize hlen hcome smb.readBuff t
  refine ⟨ret, smb₁, w₁, _, hok, fun hlost => ?_⟩
  rcases hcases hlost with ⟨rfl, rfl, rfl, hrest⟩ | ⟨rfl, rfl, hqueue, hshort, hstream⟩
  · obtain ⟨rb, wb, hrun⟩ := modbusSlaveWaitHandle_handled h hok hin cb app hcall hfits hreply
    rw [h.write rfl] at hrun
    exact Or.inl ⟨hrest, _, hrun⟩
  · refine Or.inr ⟨hqueue, ⟨taken.length, hshort, ?_⟩, _,
      modbusSlaveWaitHandle_rejected (by decide) hok cb app h.contextCheck⟩
    have hdrop := congrArg (List.drop taken.length) hstream
    rw [List.drop_append_of_le_length hshort.le, List.drop_left] at hdrop
    exact hdrop.symm

end Serve

/-- A device that counts releases from earlier, before a request and one more byte come in. -/
def beforeRequest : Rtdevice SerialFifo Nat :=
  ⟨⟨[], 0, 0, []⟩, 3, 2, [.call, .call, .interrupt 1 [6, 0], .call, .interrupt 4 [0, 5], .interrupt 8 [8, 77]]⟩

/-- A register is written. -/
theorem rtdevice_serves_register :
    ∃ ret smb₁ w₁ request, modbusSlaveWait 600 (newContext .rtu (rtdevicePort (fifoThread 64) 0) 1) beforeRequest
        (Buffer.replicate 260 0) (-1) = .ok (ret, smb₁, w₁, request) ∧
      (w₁.device.lost = 0 →
        (w₁.toCome (fifoThread 64) = [77] ∧ ∃ smb', modbusSlaveWaitHandle 600
            (newContext .rtu (rtdevicePort (fifoThread 64) 0) 1) beforeRequest (some (returning 1)) () (-1) =
          .ok (([1, 6, 0, 4, 0, 5, 8, 8].length : Nat), smb',
            (modbusRtdeviceWrite (fifoThread 64) w₁ [1, 6, 0, 4, 0, 5, 8, 8]).2, ())) ∨
        (w₁.device.bytes = [] ∧ (∃ k < (Core.rtu.adu 0 1 [6, 0, 4, 0, 5]).length,
            w₁.toCome (fifoThread 64) = (Core.rtu.adu 0 1 [6, 0, 4, 0, 5]).drop k ++ [77]) ∧
          ∃ smb', modbusSlaveWaitHandle 600 (newContext .rtu (rtdevicePort (fifoThread 64) 0) 1) beforeRequest
            (some (returning 1)) () (-1) = .ok (modbusTimeout, smb', w₁, ()))) := by
  have hin : (⟨6, 4, 5⟩ : Query).In .rtu ((Buffer.replicate 260 0).fill (Core.rtu.adu 0 1 [6, 0, 4, 0, 5])) :=
    ⟨by decide +kernel, by decide +kernel, by decide +kernel⟩
  have hcome : beforeRequest.toCome (fifoThread 64) = Core.rtu.adu 0 1 [6, 0, 4, 0, 5] ++ [77] := by decide +kernel
  have hready := newContext_ready .rtu (rtdevicePort (fifoThread 64) 0) 1
  have hw : beforeRequest.Indicated (fifoThread 64) := fun _ => by decide
  have hfuel : beforeRequest.rank (fifoThread 64) + 2 * modbusMaxAduLength + 1 < 600 := by decide
  have hreply : [1, 6, 0, 4, 0, 5, 8, 8] = Core.rtu.adu 0 1 (Query.reply ⟨6, 4, 5⟩ 1 1 (Query.cells .rtu
      (Core.rtu.adopt (newContext .rtu (rtdevicePort (fifoThread 64) 0) 1) 0)
      ((Buffer.replicate 260 0).fill (Core.rtu.adu 0 1 [6, 0, 4, 0, 5])) ⟨6, 4, 5⟩)) := by decide +kernel
  exact rtdevice_serves hready hw hfuel (Or.inl rfl) (by decide) (by decide) hcome hin (some (returning 1)) () rfl
    (Query.fits_of_lt (by decide)) hreply (-1)

end SmallModbus
