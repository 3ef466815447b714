/-
# `SmallModbus.Wire` — a port driven by a schedule.

A `Wire` holds the bytes its port has not handed over yet, a schedule that says how many bytes each of the
next reads may hand over, and the frames written to it. Every way to cut a finite stream into reads is a
schedule, and when the schedule has run out a read gets all it asked for, so the port is a steady and fair
line whose rank is what is left of the schedule.
-/
import SmallModbus.Line

namespace SmallModbus

open SmallModbus.Lib

/-- The device state: bytes to hand over, schedule, frames written. -/
structure Wire where
  rx : List UInt8
  grants : List Nat
  tx : List (List UInt8)
  deriving DecidableEq, Repr

namespace Wire

/-- How many bytes the next read hands over. -/
def count (w : Wire) (len : UInt16) : Nat :=
  min (min (w.grants.headD len.toNat) len.toNat) w.rx.length

def read (w : Wire) (len : UInt16) : Int × List UInt8 × Wire :=
  (w.count len, w.rx.take (w.count len), { w with rx := w.rx.drop (w.count len), grants := w.grants.tail })

def wait (w : Wire) (_timeout : Int) : Int × Wire :=
  (if w.rx = [] then modbusTimeout else modbusOk, w)

def write (w : Wire) (frame : List UInt8) : Int × Wire :=
  (frame.length, { w with tx := w.tx ++ [frame] })

/-- The port of a wire. -/
def port : Port Wire where
  openFn := none
  closeFn := none
  readFn := some read
  writeFn := some write
  flushFn := none
  waitFn := some wait

theorem count_le (w : Wire) (len : UInt16) : w.count len ≤ len.toNat := by
  unfold count
  omega

theorem count_le_rx (w : Wire) (len : UInt16) : w.count len ≤ w.rx.length := by
  unfold count
  omega

/-- A read that hands over nothing although there is something uses up a part of the schedule. -/
theorem grants_of_stall {w : Wire} {len : UInt16} (hlen : 0 < len.toNat) (hrx : w.rx ≠ [])
    (h : w.count len = 0) : w.grants.tail.length < w.grants.length := by
  cases hg : w.grants with
  | nil =>
    unfold count at h
    rw [hg] at h
    have := List.length_pos_of_ne_nil hrx
    simp only [List.headD_nil] at h
    omega
  | cons g gs => simp

/-- The line of a wire. -/
def line : Line port where
  read := read
  wait := wait
  readFn := rfl
  waitFn := rfl
  rem := rx
  count := count
  read_count _ _ := rfl
  read_bytes _ _ := rfl
  count_le := count_le
  count_le_rem := count_le_rx
  rem_read _ _ := rfl
  rem_wait _ _ := rfl

/-- The record of the frames written to a wire. -/
def tap : Tap port where
  write := write
  writeFn := rfl
  sent := tx
  sent_write _ _ := rfl

theorem steady : line.Steady modbusTimeout where
  code_neg := by decide
  prompt w _ h := by
    have hrx : ¬ w.rx = [] := h
    show 0 ≤ if w.rx = [] then modbusTimeout else modbusOk
    rw [if_neg hrx]
    decide
  wait_dry w _ h := if_pos h

theorem fair : line.Fair (fun w => w.grants.length) where
  rank_read w len := by
    show w.grants.tail.length ≤ w.grants.length
    rw [List.length_tail]
    omega
  rank_wait w t := le_rfl
  rank_stall w len t hlen hcount hwait := by
    refine grants_of_stall hlen ?_ hcount
    intro hrx
    have hdry : (w.read len).2.2.rx = [] := by
      show w.rx.drop _ = []
      rw [hrx, List.drop_nil]
    have : (line.wait (line.read w len).2.2 t).1 = modbusTimeout := if_pos hdry
    rw [this] at hwait
    exact absurd hwait (by decide)

end Wire

/-! ## A context to start from -/

/-- A zeroed context on a core and a port, after `_modbus_init` and with a slave address. -/
def newContext {σ : Type} (core : Core) (port : Port σ) (slaveAddr : UInt8) : Smb σ :=
  modbusInit
    { modbusMagic := 0, deviceMode := 0, slaveAddr := slaveAddr, debugLevel := 0, transferId := 0,
      protocolId := 0, status := 0, errorCode := 0, timeoutFrame := 0, timeoutByte := 0,
      readBuff := Buffer.replicate _ 0, writeBuff := Buffer.replicate _ 0, core := some core,
      port := some port }

theorem newContext_ready {σ : Type} (core : Core) (port : Port σ) (slaveAddr : UInt8) :
    Ready (newContext core port slaveAddr) core port := ⟨rfl, rfl, rfl⟩

end SmallModbus
