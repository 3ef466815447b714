/-
# `SmallModbus.VirtualIO` — the banks of the board behind the shipped slaves.

`board_virtualIO.c` keeps two banks of 64 coils and two of 16 registers, reached by loops over the item
accessors that stop at the end of the bank. The notification of the hardware, `vio_lowlevel_update`, is code
of the board and a parameter here.

`vioRead_eq`, `vioLowlevelUpdateBank_eq` and `vioWrite_eq` say what the loops move: the items of the window
that are in the bank, and no other.
-/
import SmallModbus.Bank

namespace SmallModbus

open SmallModbus.Lib

variable {η : Type} {n : Nat}

/-! ## §1 — the register accessors. -/

section Registers

variable {array : List UInt8} {i : Nat} (hi : i < 65536) (hlen : 2 * i + 1 < array.length)

include hi hlen

/-- **`aio_get_val`** reads the word of its index. -/
theorem aioGetVal_eq : aioGetVal array (UInt16.ofNat i) = .ok (wordAt array i).toNat := by
  have hindex : (UInt16.ofNat i).toNat = i := UInt16.toNat_ofNat_of_lt' hi
  have hlow : array[2 * i]? = some array[2 * i] := List.getElem?_eq_getElem (by omega)
  have hhigh : array[2 * i + 1]? = some array[2 * i + 1] := List.getElem?_eq_getElem hlen
  unfold aioGetVal wordAt
  rw [hindex, mul_comm i 2, hlow, hhigh]
  simp only [List.getD_eq_getElem?_getD, hlow, hhigh, Option.getD_some]
  rw [← toU16_natCast]
  push_cast
  rw [mul_comm (256 : Int)]

/-- **`aio_set_val`** writes the low 16 bits of the value to the word of its index. -/
theorem aioSetVal_eq (status : Int) :
    aioSetVal array (UInt16.ofNat i) status = .ok (setWord array i (toU16 status)) := by
  have hindex : (UInt16.ofNat i).toNat = i := UInt16.toNat_ofNat_of_lt' hi
  have hlow := toU8_natCast (toU16 status).toNat
  have hhigh : highByte status = UInt8.ofNat ((toU16 status).toNat / 256) := by
    rw [← highByte_toU16, highByte, ← toU8_natCast]
    norm_cast
  have hlow' : lowByte status = UInt8.ofNat (toU16 status).toNat := by
    rw [← lowByte_toU16, ← UInt8.toNat_inj, UInt8.toNat_ofNat']
    have h := toNat_lowByte ((toU16 status).toNat : Int)
    omega
  unfold aioSetVal setWord
  rw [hindex, mul_comm i 2, if_pos hlen, hhigh, hlow']

end Registers

/-! ## §2 — items through the accessors. -/

namespace Kind

/-- `dio_get_val` and `aio_get_val`. -/
def getVal : Kind → List UInt8 → UInt16 → Exec Int
  | .coil => dioGetVal
  | .register => aioGetVal

/-- `dio_set_val` and `aio_set_val`. -/
def setVal : Kind → List UInt8 → UInt16 → Int → Exec (List UInt8)
  | .coil => dioSetVal
  | .register => aioSetVal

/-- The value an accessor returns for an item. -/
def val : (k : Kind) → k.Item → Int
  | .coil, x => if x = true then 1 else 0
  | .register, x => x.toNat

/-- The item outside the banks. -/
def zero : (k : Kind) → k.Item
  | .coil => false
  | .register => 0

theorem val_inj (k : Kind) {x y : k.Item} : k.val x = k.val y ↔ x = y := by
  cases k with
  | coil => cases x <;> cases y <;> decide
  | register => exact Int.ofNat_inj.trans UInt16.toNat_inj

theorem getVal_eq (k : Kind) {array : List UInt8} {i : Nat} (hi : i < 2048)
    (hlen : k.bytes (i + 1) ≤ array.length) :
    k.getVal array (UInt16.ofNat i) = .ok (k.val (k.item array i)) := by
  cases k with
  | coil =>
    have hbyte : (i + 1 + 7) / 8 ≤ array.length := hlen
    exact dioGetVal_eq hi (by omega)
  | register =>
    have hbyte : 2 * (i + 1) ≤ array.length := hlen
    exact aioGetVal_eq (by omega) (by omega)

/-- Setting an item changes this item. -/
theorem setVal_eq (k : Kind) {array : List UInt8} {i : Nat} (hi : i < 2048)
    (hlen : k.bytes (i + 1) ≤ array.length) (x : k.Item) :
    ∃ array', k.setVal array (UInt16.ofNat i) (k.val x) = .ok array' ∧ array'.length = array.length ∧
      ∀ j, k.item array' j = if i = j then x else k.item array j := by
  cases k with
  | coil =>
    have hbyte : (i + 1 + 7) / 8 ≤ array.length := hlen
    have hstatus : decide (Kind.coil.val x ≠ 0) = x := by cases x <;> rfl
    have hset := dioSetVal_eq hi (show i / 8 < array.length by omega) (Kind.coil.val x)
    rw [hstatus] at hset
    exact ⟨_, hset, length_setBit array i x, bitAt_setBit (by omega) x⟩
  | register =>
    have hbyte : 2 * (i + 1) ≤ array.length := hlen
    have hset := aioSetVal_eq (show i < 65536 by omega) (show 2 * i + 1 < array.length by omega)
      (Kind.register.val x)
    rw [show toU16 (Kind.register.val x) = x from toU16_toNat x] at hset
    exact ⟨_, hset, length_setWord array i x, wordAt_setWord (by omega) x⟩

end Kind

/-! ## §3 — the loops over the accessors. -/

/-- The loop of a read and of an update from the hardware: items from `src` to `des`, `index` counting. -/
def vioMove (k : Kind) (src : List UInt8) : (left i j index : Nat) → List UInt8 → Exec (Nat × List UInt8)
  | 0, _, _, index, des => .ok (index, des)
  | left + 1, i, j, index, des => do
      let val ← k.getVal src (UInt16.ofNat i)
      let des ← k.setVal des (UInt16.ofNat j) val
      vioMove k src left (i + 1) (j + 1) (index + 1) des

/-- The loop of a write: only an item with another value is set and counted. -/
def vioStore (k : Kind) (buffer : List UInt8) :
    (left ioStart index count : Nat) → List UInt8 → Exec (Nat × Nat × List UInt8)
  | 0, _, index, count, bank => .ok (index, count, bank)
  | left + 1, ioStart, index, count, bank => do
      let valOld ← k.getVal bank (UInt16.ofNat ioStart)
      let valNew ← k.getVal buffer (UInt16.ofNat index)
      if valOld ≠ valNew then
        let bank ← k.setVal bank (UInt16.ofNat ioStart) valNew
        vioStore k buffer left (ioStart + 1) (index + 1) (count + 1) bank
      else
        vioStore k buffer left (ioStart + 1) (index + 1) count bank

/-- A byte string with `num` items of `src`, from item `i` on, at item `j`. -/
structure Kind.Moved (k : Kind) (src : List UInt8) (i j num : Nat) (des des' : List UInt8) : Prop where
  length_eq : des'.length = des.length
  item_eq : ∀ p, k.item des' p = if j ≤ p ∧ p < j + num then k.item src (i + (p - j)) else k.item des p

/-- One item moved, and then the others. -/
theorem Kind.Moved.cons {k : Kind} {src des des₁ des' : List UInt8} {i j num : Nat}
    (hlen : des₁.length = des.length) (hitem : ∀ p, k.item des₁ p = if j = p then k.item src i else k.item des p)
    (h : k.Moved src (i + 1) (j + 1) num des₁ des') : k.Moved src i j (num + 1) des des' where
  length_eq := h.length_eq.trans hlen
  item_eq p := by
    rw [h.item_eq, hitem]
    by_cases hp : j = p
    · subst hp
      rw [if_neg (by omega), if_pos rfl, if_pos (by omega), Nat.sub_self, Nat.add_zero]
    · rw [if_neg hp]
      by_cases hin : j + 1 ≤ p ∧ p < j + 1 + num
      · rw [if_pos hin, if_pos (by omega)]
        congr 1
        omega
      · rw [if_neg hin, if_neg (by omega)]

theorem vioMove_eq (k : Kind) (src : List UInt8) (left i j index : Nat) (des : List UInt8)
    (hi : i + left ≤ 2048) (hj : j + left ≤ 2048) (hsrc : k.bytes (i + left) ≤ src.length)
    (hdes : k.bytes (j + left) ≤ des.length) :
    ∃ des', vioMove k src left i j index des = .ok (index + left, des') ∧ k.Moved src i j left des des' := by
  induction left generalizing i j index des with
  | zero =>
    refine ⟨des, rfl, rfl, fun p => ?_⟩
    rw [if_neg (by omega)]
  | succ left ih =>
    have hsum : ∀ x, x + 1 + left = x + (left + 1) := by omega
    have hget := k.getVal_eq (show i < 2048 by omega) ((k.bytes_mono (by omega)).trans hsrc)
    obtain ⟨des₁, hset, hlen, hitem⟩ := k.setVal_eq (show j < 2048 by omega)
      ((k.bytes_mono (by omega)).trans hdes) (k.item src i)
    obtain ⟨des', hrun, hmoved⟩ := ih (i + 1) (j + 1) (index + 1) des₁ (by omega) (by omega)
      (by rwa [hsum]) (by rwa [hsum, hlen])
    refine ⟨des', ?_, hmoved.cons hlen hitem⟩
    rw [vioMove, hget, exec_ok_bind, hset, exec_ok_bind, hrun, hsum]

theorem Kind.length_setVal (k : Kind) {array array' : List UInt8} {index : UInt16} {status : Int}
    (h : k.setVal array index status = .ok array') : array'.length = array.length := by
  cases k with
  | coil =>
    unfold setVal dioSetVal at h
    dsimp only at h
    split at h
    · split at h
      · cases h
        simp
      · cases h
        simp
    · cases h
  | register =>
    unfold setVal aioSetVal at h
    dsimp only at h
    split at h
    · cases h
      simp
    · cases h

theorem length_vioMove {k : Kind} {src : List UInt8} {left i j index index' : Nat} {des des' : List UInt8}
    (h : vioMove k src left i j index des = .ok (index', des')) : des'.length = des.length := by
  induction left generalizing i j index des with
  | zero =>
    cases h
    rfl
  | succ left ih =>
    obtain ⟨val, -, h⟩ := bind_eq_ok.mp h
    obtain ⟨des₁, hset, h⟩ := bind_eq_ok.mp h
    rw [ih h, k.length_setVal hset]

/-- **The loop of a write** moves its items, and counts something exactly when the bank has changed. -/
theorem vioStore_eq (k : Kind) (buffer : List UInt8) (left ioStart index count : Nat) (bank : List UInt8)
    (hio : ioStart + left ≤ 2048) (hindex : index + left ≤ 2048) (hbank : k.bytes (ioStart + left) ≤ bank.length)
    (hbuffer : k.bytes (index + left) ≤ buffer.length) :
    ∃ count' bank', vioStore k buffer left ioStart index count bank = .ok (index + left, count', bank') ∧
      k.Moved buffer index ioStart left bank bank' ∧ count ≤ count' ∧
      (count' = count ↔ ∀ p, k.item bank' p = k.item bank p) := by
  induction left generalizing ioStart index count bank with
  | zero =>
    refine ⟨count, bank, rfl, ⟨rfl, fun p => ?_⟩, le_rfl, by simp⟩
    rw [if_neg (by omega)]
  | succ left ih =>
    have hsum : ∀ x, x + 1 + left = x + (left + 1) := by omega
    have hold := k.getVal_eq (show ioStart < 2048 by omega) ((k.bytes_mono (by omega)).trans hbank)
    have hnew := k.getVal_eq (show index < 2048 by omega) ((k.bytes_mono (by omega)).trans hbuffer)
    by_cases hval : k.item bank ioStart = k.item buffer index
    · -- nothing is set
      obtain ⟨count', bank', hrun, hmoved, hle, hcount⟩ := ih (ioStart + 1) (index + 1) count bank
        (by omega) (by omega) (by rwa [hsum]) (by rwa [hsum])
      refine ⟨count', bank', ?_, hmoved.cons rfl fun p => ?_, hle, hcount⟩
      · rw [vioStore, hold, exec_ok_bind, hnew, exec_ok_bind,
          if_neg (not_not.mpr ((k.val_inj).mpr hval)), hrun, hsum]
      · split_ifs with hp
        · rw [← hp, hval]
        · rfl
    · obtain ⟨bank₁, hset, hlen, hitem⟩ := k.setVal_eq (show ioStart < 2048 by omega)
        ((k.bytes_mono (by omega)).trans hbank) (k.item buffer index)
      obtain ⟨count', bank', hrun, hmoved, hle, -⟩ := ih (ioStart + 1) (index + 1) (count + 1) bank₁
        (by omega) (by omega) (by rwa [hsum, hlen]) (by rwa [hsum])
      have hall := hmoved.cons hlen hitem
      refine ⟨count', bank', ?_, hall, by omega, ⟨fun h => by omega, fun h => ?_⟩⟩
      · rw [vioStore, hold, exec_ok_bind, hnew, exec_ok_bind, if_pos (mt (k.val_inj).mp hval), hset,
          exec_ok_bind, hrun, hsum]
      · -- the item of this round has another value than before
        have hfirst := hall.item_eq ioStart
        rw [if_pos (by omega), Nat.sub_self, Nat.add_zero, h] at hfirst
        exact absurd hfirst hval

/-! ## §4 — the board. -/

/-- `INPUT_COILS_MAX` and `HOLD_COILS_MAX`, `INPUT_REG_MAX` and `HOLD_REG_MAX`. -/
@[simp] def Kind.boardMax : Kind → Nat
  | .coil => 64
  | .register => 16

/-- `input_coils`, `hold_coils`, `input_regs`, `hold_regs`. -/
structure Board where
  inputCoils : Buffer UInt8 8
  holdCoils : Buffer UInt8 8
  inputRegs : Buffer UInt8 32
  holdRegs : Buffer UInt8 32
  deriving DecidableEq

/-- The board and what is behind it. -/
structure Vio (η : Type) where
  board : Board
  hardware : η

/-- A read of `num` items at `addr`, or of those that are there. -/
def vioRead (k : Kind) (bank : Buffer UInt8 n) (addr num : UInt16) (buffer : List UInt8) :
    Exec (Int × List UInt8) :=
  if addr.toNat < k.boardMax then do
    let ioEnd := if addr.toNat + num.toNat > k.boardMax then k.boardMax else addr.toNat + num.toNat
    let (index, buffer) ← vioMove k bank.toList (ioEnd - addr.toNat) addr.toNat 0 0 buffer
    return (index, buffer)
  else return (0, buffer)

/-- An update of the bank from the hardware. -/
def vioLowlevelUpdateBank (k : Kind) (bank : Buffer UInt8 n) (addr num : UInt16) (buffer : List UInt8) :
    Exec (Int × Buffer UInt8 n) :=
  if addr.toNat < k.boardMax then do
    let ioEnd := if addr.toNat + num.toNat > k.boardMax then k.boardMax else addr.toNat + num.toNat
    let (index, items) ← vioMove k buffer (ioEnd - addr.toNat) 0 addr.toNat 0 bank.toList
    let bank ← bank.replaceFrom 0 items
    return (index, bank)
  else return (0, bank)

/-- A write: the number of items, of those that have changed, and the bank. -/
def vioWrite (k : Kind) (bank : Buffer UInt8 n) (addr num : UInt16) (buffer : List UInt8) :
    Exec (Int × Nat × Buffer UInt8 n) :=
  if addr.toNat < k.boardMax then do
    let ioEnd := if addr.toNat + num.toNat > k.boardMax then k.boardMax else addr.toNat + num.toNat
    let (index, count, items) ← vioStore k buffer (ioEnd - addr.toNat) addr.toNat 0 0 bank.toList
    let bank ← bank.replaceFrom 0 items
    return (index, count, bank)
  else return (0, 0, bank)

/-- `vio_read_input_coils`. -/
def vioReadInputCoils (b : Board) (addr num : UInt16) (buffer : List UInt8) : Exec (Int × List UInt8) :=
  vioRead .coil b.inputCoils addr num buffer

/-- `vio_read_hold_coils`. -/
def vioReadHoldCoils (b : Board) (addr num : UInt16) (buffer : List UInt8) : Exec (Int × List UInt8) :=
  vioRead .coil b.holdCoils addr num buffer

/-- `vio_read_input_regs`. -/
def vioReadInputRegs (b : Board) (addr num : UInt16) (buffer : List UInt8) : Exec (Int × List UInt8) :=
  vioRead .register b.inputRegs addr num buffer

/-- `vio_read_hold_regs`. -/
def vioReadHoldRegs (b : Board) (addr num : UInt16) (buffer : List UInt8) : Exec (Int × List UInt8) :=
  vioRead .register b.holdRegs addr num buffer

/-- `vio_lowlevel_update_input_coils`. -/
def vioLowlevelUpdateInputCoils (b : Board) (addr num : UInt16) (buffer : List UInt8) : Exec (Int × Board) := do
  let (index, bank) ← vioLowlevelUpdateBank .coil b.inputCoils addr num buffer
  return (index, { b with inputCoils := bank })

/-- `vio_lowlevel_update_hold_coils`. -/
def vioLowlevelUpdateHoldCoils (b : Board) (addr num : UInt16) (buffer : List UInt8) : Exec (Int × Board) := do
  let (index, bank) ← vioLowlevelUpdateBank .coil b.holdCoils addr num buffer
  return (index, { b with holdCoils := bank })

/-- `vio_lowlevel_update_input_regs`. -/
def vioLowlevelUpdateInputRegs (b : Board) (addr num : UInt16) (buffer : List UInt8) : Exec (Int × Board) := do
  let (index, bank) ← vioLowlevelUpdateBank .register b.inputRegs addr num buffer
  return (index, { b with inputRegs := bank })

/-- `vio_lowlevel_update_hold_regs`. -/
def vioLowlevelUpdateHoldRegs (b : Board) (addr num : UInt16) (buffer : List UInt8) : Exec (Int × Board) := do
  let (index, bank) ← vioLowlevelUpdateBank .register b.holdRegs addr num buffer
  return (index, { b with holdRegs := bank })

section Hardware

/-! `vio_lowlevel_update` of the board. -/
variable (vioLowlevelUpdate : Vio η → Vio η)

/-- `vio_write_hold_coils`. -/
def vioWriteHoldCoils (v : Vio η) (addr num : UInt16) (buffer : List UInt8) : Exec (Int × Vio η) := do
  let (index, count, bank) ← vioWrite .coil v.board.holdCoils addr num buffer
  let v := { v with board := { v.board with holdCoils := bank } }
  return (index, if count ≠ 0 then vioLowlevelUpdate v else v)

/-- `vio_write_hold_regs`. -/
def vioWriteHoldRegs (v : Vio η) (addr num : UInt16) (buffer : List UInt8) : Exec (Int × Vio η) := do
  let (index, count, bank) ← vioWrite .register v.board.holdRegs addr num buffer
  let v := { v with board := { v.board with holdRegs := bank } }
  return (index, if count ≠ 0 then vioLowlevelUpdate v else v)

end Hardware

/-! ## §5 — what a call moves. -/

/-- Two byte strings of the size of a bank with the same items are the same. -/
theorem Kind.ext_item (k : Kind) {l l' : List UInt8} (hl : l.length = k.bytes k.boardMax)
    (hl' : l'.length = k.bytes k.boardMax) (h : ∀ i, k.item l i = k.item l' i) : l = l' := by
  cases k with
  | coil => exact eq_of_bitAt (hl.trans hl'.symm) fun i _ => h i
  | register => exact eq_of_wordAt (hl.trans hl'.symm) 16 hl fun i _ => h i

namespace Kind

/-- The items of a window that are in the bank. -/
def avail (k : Kind) (addr num : Nat) : Nat := min num (k.boardMax - addr)

theorem boardMax_le (k : Kind) : k.boardMax ≤ 64 := by cases k <;> decide

section Window

variable (k : Kind) {addr : Nat} (num : Nat)

theorem ioEnd_sub (h : addr < k.boardMax) :
    (if addr + num > k.boardMax then k.boardMax else addr + num) - addr = k.avail addr num := by
  unfold avail
  split_ifs <;> omega

theorem add_avail_le (h : addr < k.boardMax) : addr + k.avail addr num ≤ k.boardMax := by
  unfold avail
  omega

theorem avail_eq_zero (h : ¬ addr < k.boardMax) : k.avail addr num = 0 := by
  unfold avail
  omega

end Window

theorem Moved.nothing (k : Kind) (src : List UInt8) (i j : Nat) (des : List UInt8) : k.Moved src i j 0 des des where
  length_eq := rfl
  item_eq p := by rw [if_neg (by omega)]

end Kind

section Loops

variable (k : Kind) (bank : Buffer UInt8 n) (hn : n = k.bytes k.boardMax) (addr num : UInt16)
  {buffer : List UInt8} (hbuffer : k.bytes (k.avail addr.toNat num.toNat) ≤ buffer.length)

include hn hbuffer

theorem vioRead_eq : ∃ buffer', vioRead k bank addr num buffer = .ok (k.avail addr.toNat num.toNat, buffer') ∧
    k.Moved bank.toList addr.toNat 0 (k.avail addr.toNat num.toNat) buffer buffer' := by
  have hmax := k.boardMax_le
  unfold vioRead
  by_cases haddr : addr.toNat < k.boardMax
  · have hle := k.add_avail_le num.toNat haddr
    obtain ⟨buffer', hrun, hmoved⟩ := vioMove_eq k bank.toList (k.avail addr.toNat num.toNat) addr.toNat 0 0 buffer
      (by omega) (by omega)
      (by rw [bank.size_eq, hn]; exact k.bytes_mono hle) (by rwa [Nat.zero_add])
    refine ⟨buffer', ?_, hmoved⟩
    simp only [if_pos haddr, k.ioEnd_sub num.toNat haddr, hrun, Nat.zero_add]
    rfl
  · rw [if_neg haddr, k.avail_eq_zero num.toNat haddr]
    exact ⟨buffer, rfl, .nothing k _ _ _ buffer⟩

theorem vioLowlevelUpdateBank_eq : ∃ bank', vioLowlevelUpdateBank k bank addr num buffer =
    .ok (k.avail addr.toNat num.toNat, bank') ∧
      k.Moved buffer 0 addr.toNat (k.avail addr.toNat num.toNat) bank.toList bank'.toList := by
  have hmax := k.boardMax_le
  unfold vioLowlevelUpdateBank
  by_cases haddr : addr.toNat < k.boardMax
  · have hle := k.add_avail_le num.toNat haddr
    obtain ⟨items, hrun, hmoved⟩ := vioMove_eq k buffer (k.avail addr.toNat num.toNat) 0 addr.toNat 0 bank.toList
      (by omega) (by omega) (by rwa [Nat.zero_add])
      (by rw [bank.size_eq, hn]; exact k.bytes_mono hle)
    have hsize := hmoved.length_eq.trans bank.size_eq
    refine ⟨⟨items, hsize⟩, ?_, hmoved⟩
    simp only [if_pos haddr, k.ioEnd_sub num.toNat haddr, hrun, exec_ok_bind, Nat.zero_add,
      bank.replaceFrom_zero hsize]
    rfl
  · rw [if_neg haddr, k.avail_eq_zero num.toNat haddr]
    exact ⟨bank, rfl, .nothing k _ _ _ bank.toList⟩

/-- Something is counted exactly when the bank has changed. -/
theorem vioWrite_eq : ∃ count bank', vioWrite k bank addr num buffer =
    .ok (k.avail addr.toNat num.toNat, count, bank') ∧
      k.Moved buffer 0 addr.toNat (k.avail addr.toNat num.toNat) bank.toList bank'.toList ∧
      (count = 0 ↔ bank' = bank) := by
  have hmax := k.boardMax_le
  unfold vioWrite
  by_cases haddr : addr.toNat < k.boardMax
  · have hle := k.add_avail_le num.toNat haddr
    obtain ⟨count, items, hrun, hmoved, -, hcount⟩ := vioStore_eq k buffer (k.avail addr.toNat num.toNat) addr.toNat 0 0
      bank.toList (by omega) (by omega)
      (by rw [bank.size_eq, hn]; exact k.bytes_mono hle) (by rwa [Nat.zero_add])
    have hsize := hmoved.length_eq.trans bank.size_eq
    refine ⟨count, ⟨items, hsize⟩, ?_, hmoved, hcount.trans ⟨fun h => ?_, fun h p => ?_⟩⟩
    · simp only [if_pos haddr, k.ioEnd_sub num.toNat haddr, hrun, exec_ok_bind, Nat.zero_add,
        bank.replaceFrom_zero hsize]
      rfl
    · ext1
      exact k.ext_item (hsize.trans hn) (bank.size_eq.trans hn) h
    · rw [← h]
  · rw [if_neg haddr, k.avail_eq_zero num.toNat haddr]
    exact ⟨0, bank, rfl, .nothing k _ _ _ bank.toList, by simp⟩

end Loops

end SmallModbus
