/-
# `SmallModbus.Utils` — `small_modbus_utils.c`.

The bitwise CRC, the coil accessors, the check of a quantity against the limit of its function, and the
do-while copies between host and wire order. A copy runs its body once before it looks at the count, and
it faults when it leaves the object it writes to, so its step budget is one more than the size of that
object.
-/
import SmallModbus.Types
import Mathlib.Tactic.IntervalCases

namespace SmallModbus

open SmallModbus.Lib

variable {n : Nat}

/-! ## §1 — `modbus_crc16`. -/

/-- The inner loop: `i` rounds on the CRC register. -/
def crcBits : Nat → UInt16 → UInt16
  | 0, crc => crc
  | i + 1, crc => crcBits i (if crc &&& 1 ≠ 0 then (crc >>> 1) ^^^ 0xA001 else crc >>> 1)

/-- One byte into the CRC register. -/
def crcByte (crc : UInt16) (b : UInt8) : UInt16 := crcBits 8 (crc ^^^ b.toUInt16)

/-- The outer loop, with `left` bytes to go from position `count`. -/
def crcLoop (buffer : Buffer UInt8 n) : (left count : Nat) → UInt16 → Exec UInt16
  | 0, _, crc => return crc
  | left + 1, count, crc => do
      let b ← buffer.load count
      crcLoop buffer left (count + 1) (crcByte crc b)

/-- `modbus_crc16`. -/
def modbusCrc16 (buffer : Buffer UInt8 n) (bufferLength : UInt16) : Exec UInt16 :=
  crcLoop buffer bufferLength.toNat 0 0xFFFF

/-- The CRC of a string of bytes. -/
def crc16 (bytes : List UInt8) : UInt16 := bytes.foldl crcByte 0xFFFF

theorem crcLoop_fill (old : Buffer UInt8 n) {pre : List UInt8} (h : pre.length ≤ n) :
    ∀ (left count : Nat) (crc : UInt16), count + left ≤ pre.length →
      crcLoop (old.fill pre) left count crc =
        .ok (((pre.drop count).take left).foldl crcByte crc) := by
  intro left
  induction left with
  | zero => intro count crc _; simp [crcLoop]
  | succ left ih =>
    intro count crc hle
    have hlt : count < pre.length := by omega
    rw [crcLoop, Buffer.load_fill old hlt h, exec_ok_bind, ih _ _ (by omega),
      List.drop_eq_getElem_cons hlt, List.take_succ_cons, List.foldl_cons]

/-- **`modbus_crc16` reads the CRC of the first bytes of its buffer.** -/
theorem modbusCrc16_fill (old : Buffer UInt8 n) {pre : List UInt8} (h : pre.length ≤ n)
    {len : UInt16} (hlen : len.toNat ≤ pre.length) :
    modbusCrc16 (old.fill pre) len = .ok (crc16 (pre.take len.toNat)) := by
  rw [modbusCrc16, crcLoop_fill old h _ _ _ (by omega), List.drop_zero, crc16]

/-! ## §2 — the accessors of coils and registers. -/

/-- `dio_get_val`. The byte offset is held in a `uint8_t`. -/
def dioGetVal (array : List UInt8) (index : UInt16) : Exec Int :=
  let offsetBit : UInt8 := (index &&& 0x07).toUInt8
  let offsetArr : UInt8 := (index >>> 3).toUInt8
  match array[offsetArr.toNat]? with
  | some b => .ok (if b &&& (1 <<< offsetBit) ≠ 0 then 1 else 0)
  | none => .error .fault

/-- `dio_set_val`. -/
def dioSetVal (array : List UInt8) (index : UInt16) (status : Int) : Exec (List UInt8) :=
  let offsetBit : UInt8 := (index &&& 0x07).toUInt8
  let offsetArr : UInt8 := (index >>> 3).toUInt8
  match array[offsetArr.toNat]? with
  | some b =>
      if status ≠ 0 then .ok (array.set offsetArr.toNat (b ||| (1 <<< offsetBit)))
      else .ok (array.set offsetArr.toNat (b &&& ~~~(1 <<< offsetBit)))
  | none => .error .fault

/-- `aio_get_val`: the array is accessed byte by byte. -/
def aioGetVal (array : List UInt8) (index : UInt16) : Exec Int :=
  match array[index.toNat * 2]?, array[index.toNat * 2 + 1]? with
  | some low, some high =>
      let status := toU16 (low.toNat + high.toNat * 256)
      .ok status.toNat
  | _, _ => .error .fault

/-- `aio_set_val`. -/
def aioSetVal (array : List UInt8) (index : UInt16) (status : Int) : Exec (List UInt8) :=
  if index.toNat * 2 + 1 < array.length then
    .ok ((array.set (index.toNat * 2) (lowByte status)).set (index.toNat * 2 + 1) (highByte status))
  else .error .fault

/-! ## §3 — `modbus_check_addr_num`. -/

/-- `modbus_check_addr_num`: the quantity against the limit of its function. The address is not
looked at. -/
def modbusCheckAddrNum (function : UInt8) (_address num : UInt16) : Bool :=
  let f : Int := function.toNat
  if f = modbusFcReadHoldingCoils ∨ f = modbusFcReadInputsCoils then
    decide (0 < num.toNat ∧ num.toNat ≤ modbusMaxReadBits)
  else if f = modbusFcReadHoldingRegisters ∨ f = modbusFcReadInputRegisters then
    decide (0 < num.toNat ∧ num.toNat ≤ modbusMaxReadRegisters)
  else if f = modbusFcWriteMultipleCoils then
    decide (0 < num.toNat ∧ num.toNat ≤ modbusMaxWriteBits)
  else if f = modbusFcWriteMultipleRegisters then
    decide (0 < num.toNat ∧ num.toNat ≤ modbusMaxWriteRegisters)
  else if f = modbusFcWriteSingleCoil ∨ f = modbusFcWriteSingleRegister then true
  else false

/-- The largest quantity of the functions that carry one. -/
def maxNum (function : UInt8) : Nat :=
  let f : Int := function.toNat
  if f = modbusFcReadHoldingCoils ∨ f = modbusFcReadInputsCoils then modbusMaxReadBits
  else if f = modbusFcReadHoldingRegisters ∨ f = modbusFcReadInputRegisters then modbusMaxReadRegisters
  else if f = modbusFcWriteMultipleCoils then modbusMaxWriteBits
  else if f = modbusFcWriteMultipleRegisters then modbusMaxWriteRegisters
  else 0

/-- The check of the functions that carry a quantity. -/
theorem modbusCheckAddrNum_iff {function : UInt8} {address num : UInt16}
    (h5 : (function.toNat : Int) ≠ modbusFcWriteSingleCoil)
    (h6 : (function.toNat : Int) ≠ modbusFcWriteSingleRegister) :
    modbusCheckAddrNum function address num = true ↔
      0 < num.toNat ∧ num.toNat ≤ maxNum function := by
  unfold modbusCheckAddrNum maxNum
  dsimp only
  split_ifs with h1 h2 h3 h4 h56
  · rw [decide_eq_true_iff]
  · rw [decide_eq_true_iff]
  · rw [decide_eq_true_iff]
  · rw [decide_eq_true_iff]
  · exact (h56.elim h5 h6).elim
  · constructor
    · intro h
      cases h
    · rintro ⟨h, h'⟩
      omega

/-! ## §4 — the copies between host and wire order. -/

/-- The do-while loop of `modbus_coil_h2m` and `modbus_coil_m2h`, in round `i`. -/
def coilCopyLoop (src : Buffer.Source UInt8) (d : Nat) :
    Nat → Buffer UInt8 n → (i : Nat) → Int → Exec (Buffer UInt8 n)
  | 0, _, _, _ => .error .fuel
  | fuel + 1, des, i, num => do
      let b ← src.load des i
      let des ← des.store (d + i) b
      let num := num - 1
      if num ≠ 0 then coilCopyLoop src d fuel des (i + 1) num else return des

/-- `(coil_num / 8) + ((coil_num % 8) ? 1 : 0)` in `int` arithmetic. -/
def coilBytes (coilNum : Int) : Int :=
  coilNum.tdiv 8 + (if coilNum.tmod 8 ≠ 0 then 1 else 0)

/-- `modbus_coil_h2m`, writing to `des + d`. -/
def modbusCoilH2m (des : Buffer UInt8 n) (d : Nat) (src : Buffer.Source UInt8) (coilNum : Int) :
    Exec (Buffer UInt8 n) :=
  coilCopyLoop src d (n + 1) des 0 (coilBytes coilNum)

/-- `modbus_coil_m2h`, writing to `des + d`. -/
def modbusCoilM2h (des : Buffer UInt8 n) (d : Nat) (src : Buffer.Source UInt8) (coilNum : Int) :
    Exec (Buffer UInt8 n) :=
  coilCopyLoop src d (n + 1) des 0 (coilBytes coilNum)

/-- The do-while loop of `modbus_reg_h2m` and `modbus_reg_m2h`, in round `i`: both bytes are read
before either is written, and they are written the other way round. -/
def regCopyLoop (src : Buffer.Source UInt8) (d : Nat) :
    Nat → Buffer UInt8 n → (i : Nat) → Int → Exec (Buffer UInt8 n)
  | 0, _, _, _ => .error .fuel
  | fuel + 1, des, i, regNum => do
      let second ← src.load des (2 * i + 1)
      let first ← src.load des (2 * i)
      let des ← des.store (d + 2 * i) second
      let des ← des.store (d + 2 * i + 1) first
      let regNum := regNum - 1
      if regNum ≠ 0 then regCopyLoop src d fuel des (i + 1) regNum else return des

/-- `modbus_reg_h2m`, writing to `des + d`. -/
def modbusRegH2m (des : Buffer UInt8 n) (d : Nat) (src : Buffer.Source UInt8) (regNum : Int) :
    Exec (Buffer UInt8 n) :=
  regCopyLoop src d (n + 1) des 0 regNum

/-- `modbus_reg_m2h`, writing to `des + d`. -/
def modbusRegM2h (des : Buffer UInt8 n) (d : Nat) (src : Buffer.Source UInt8) (regNum : Int) :
    Exec (Buffer UInt8 n) :=
  regCopyLoop src d (n + 1) des 0 regNum

/-! ## §5 — what the copies do. -/

/-- The number of bytes that hold `num` coils. -/
def byteCount (num : Nat) : Nat := (num + 7) / 8

theorem coilBytes_natCast (num : Nat) : coilBytes num = byteCount num := by
  have hd : ((num : Int).tdiv 8) = ((num / 8 : Nat) : Int) := rfl
  have hm : ((num : Int).tmod 8) = ((num % 8 : Nat) : Int) := rfl
  rw [coilBytes, hd, hm, byteCount]
  split <;> omega

/-- The count of a copy after a round that is not the last. -/
theorem count_pred (num : Nat) : ((num + 1 + 1 : Nat) : Int) - 1 = ((num + 1 : Nat) : Int) := by omega

/-- A coil copy from another object puts the bytes at the cursor. -/
theorem coilCopyLoop_other (old : Buffer UInt8 n) (cells : List UInt8) {d : Nat} :
    ∀ (fuel num i : Nat) (pre : List UInt8), num < fuel → pre.length = d + i →
      i + (num + 1) ≤ cells.length → pre.length + (num + 1) ≤ n →
      coilCopyLoop (.other cells) d fuel (old.fill pre) i ((num + 1 : Nat) : Int) =
        .ok (old.fill (pre ++ (cells.drop i).take (num + 1))) := by
  intro fuel
  induction fuel with
  | zero => intro num i pre hf; omega
  | succ fuel ih =>
    intro num i pre hf hd hc hn
    have hi : i < cells.length := by omega
    -- round `i` stores at the cursor: the known prefix grows by one byte
    rw [coilCopyLoop, Buffer.Source.load_other _ hi, exec_ok_bind, Buffer.store_fill_end old hd.symm (by omega),
      exec_ok_bind, List.drop_eq_getElem_cons hi, List.take_succ_cons]
    cases num with
    | zero => simp
    | succ num =>
      simp only [count_pred]
      rw [if_pos (by omega), ih num (i + 1) _ (by omega) (by simp; omega) (by omega)
        (by simp; omega), List.append_assoc, List.singleton_append]

/-- A coil copy of an object onto itself changes nothing. -/
theorem coilCopyLoop_self (des : Buffer UInt8 n) {d : Nat} :
    ∀ (fuel num i : Nat), num < fuel → d + i + (num + 1) ≤ n →
      coilCopyLoop (.self d) d fuel des i ((num + 1 : Nat) : Int) = .ok des := by
  intro fuel
  induction fuel with
  | zero => intro num i hf; omega
  | succ fuel ih =>
    intro num i hf hn
    -- each round stores the value it has just loaded from the same cell
    obtain ⟨b, -, hb⟩ := Buffer.load_of_lt des (show d + i < n by omega)
    rw [coilCopyLoop, Buffer.Source.load, hb, exec_ok_bind, Buffer.store_load_self hb, exec_ok_bind]
    cases num with
    | zero => simp
    | succ num =>
      simp only [count_pred]
      rw [if_pos (by omega), ih num (i + 1) (by omega) (by omega)]

/-- A load from another object that returns is inside that object. -/
theorem source_other_ok {des : Buffer UInt8 n} {cells : List UInt8} {i : Nat} {b : UInt8}
    (h : Buffer.Source.load des (.other cells) i = .ok b) : i < cells.length := by
  simp only [Buffer.Source.load] at h
  split at h
  · rename_i hb
    exact (List.getElem?_eq_some_iff.mp hb).1
  · cases h

/-- A coil copy that returns had a positive count, stayed inside both objects and wrote nothing before
its pointer. -/
theorem coilCopyLoop_ok {src : Buffer.Source UInt8} {d : Nat} :
    ∀ {fuel : Nat} {des res : Buffer UInt8 n} {i : Nat} {num : Int},
      coilCopyLoop src d fuel des i num = .ok res →
      1 ≤ num ∧ d + i + num ≤ n ∧ (∀ cells, src = .other cells → i + num ≤ cells.length) ∧
        ∀ j < d, res.toList[j]? = des.toList[j]? := by
  intro fuel
  induction fuel with
  | zero => intro des res i num h; cases h
  | succ fuel ih =>
    intro des res i num h
    rw [coilCopyLoop] at h
    obtain ⟨b, hb, h⟩ := bind_eq_ok.mp h
    obtain ⟨des', hst, h⟩ := bind_eq_ok.mp h
    obtain ⟨hlt, hset⟩ := Buffer.toList_of_store hst
    have hframe : ∀ j < d, des'.toList[j]? = des.toList[j]? := by
      intro j hj
      rw [hset, List.getElem?_set_ne (by omega)]
    have hsrc : ∀ cells, src = .other cells → i < cells.length := by
      rintro cells rfl
      exact source_other_ok hb
    dsimp only at h
    split at h
    · -- the rest of the rounds has a positive count, so this one has
      obtain ⟨h1, h2, h3, h4⟩ := ih h
      exact ⟨by omega, by omega, fun cells hc => by have := h3 cells hc; omega,
        fun j hj => (h4 j hj).trans (hframe j hj)⟩
    · cases h
      exact ⟨by omega, by omega, fun cells hc => by have := hsrc cells hc; omega, hframe⟩

/-- A register copy from another object puts the exchanged bytes at the cursor. -/
theorem regCopyLoop_other (old : Buffer UInt8 n) (cells : List UInt8) {d : Nat} :
    ∀ (fuel num i : Nat) (pre : List UInt8), num < fuel → pre.length = d + 2 * i →
      2 * i + 2 * (num + 1) ≤ cells.length → pre.length + 2 * (num + 1) ≤ n →
      regCopyLoop (.other cells) d fuel (old.fill pre) i ((num + 1 : Nat) : Int) =
        .ok (old.fill (pre ++ swapPairs ((cells.drop (2 * i)).take (2 * (num + 1))))) := by
  intro fuel
  induction fuel with
  | zero => intro num i pre hf; omega
  | succ fuel ih =>
    intro num i pre hf hd hc hn
    have hi : 2 * i < cells.length := by omega
    have hi' : 2 * i + 1 < cells.length := by omega
    rw [regCopyLoop, Buffer.Source.load_other _ hi', exec_ok_bind, Buffer.Source.load_other _ hi, exec_ok_bind,
      Buffer.store_fill_end old hd.symm (by omega), exec_ok_bind,
      Buffer.store_fill_end old (by simp; omega) (by omega), exec_ok_bind,
      List.drop_eq_getElem_cons hi, List.drop_eq_getElem_cons hi', Nat.mul_succ,
      List.take_succ_cons, List.take_succ_cons, swapPairs]
    cases num with
    | zero => simp [swapPairs]
    | succ num =>
      simp only [count_pred]
      rw [if_pos (by omega), ih num (i + 1) _ (by omega) (by simp; omega) (by omega)
        (by simp; omega)]
      simp [Nat.mul_succ]

/-- A register copy of an object onto itself exchanges the bytes where they are. -/
theorem regCopyLoop_self (old : Buffer UInt8 n) {d : Nat} :
    ∀ (fuel num i : Nat) (pre mid : List UInt8), num < fuel → pre.length = d + 2 * i →
      mid.length = 2 * (num + 1) → pre.length + mid.length ≤ n →
      regCopyLoop (.self d) d fuel (old.fill (pre ++ mid)) i ((num + 1 : Nat) : Int) =
        .ok (old.fill (pre ++ swapPairs mid)) := by
  intro fuel
  induction fuel with
  | zero => intro num i pre mid hf; omega
  | succ fuel ih =>
    intro num i pre mid hf hd hm hn
    match mid, hm with
    | a :: b :: mid, hm =>
      simp only [List.length_cons] at hm hn
      have hl : (pre ++ a :: b :: mid).length ≤ n := by simp; omega
      -- both bytes of the pair are read before either is written
      have hload : (old.fill (pre ++ a :: b :: mid)).load (d + 2 * i) = .ok a := by
        rw [Buffer.load_fill old (by simp; omega) hl]
        simp [← hd]
      have hload' : (old.fill (pre ++ a :: b :: mid)).load (d + (2 * i + 1)) = .ok b := by
        have hat : d + (2 * i + 1) = pre.length + 1 := by omega
        simp only [hat]
        rw [Buffer.load_fill old (by simp) hl]
        simp
      have hset : (pre ++ a :: b :: mid).set (d + 2 * i) b = pre ++ b :: b :: mid := by
        rw [List.set_append_right _ _ (by omega), hd, Nat.sub_self, List.set_cons_zero]
      have hset' : (pre ++ b :: b :: mid).set (d + 2 * i + 1) a = pre ++ b :: a :: mid := by
        rw [List.set_append_right _ _ (by omega), ← hd, Nat.add_sub_cancel_left,
          List.set_cons_succ, List.set_cons_zero]
      rw [regCopyLoop, Buffer.Source.load, Buffer.Source.load, hload', exec_ok_bind, hload,
        exec_ok_bind, Buffer.store_fill_lt old (by simp; omega) hl, hset, exec_ok_bind,
        Buffer.store_fill_lt old (by simp; omega) (by simpa using hl), hset', exec_ok_bind, swapPairs]
      cases num with
      | zero =>
        have : mid = [] := List.eq_nil_of_length_eq_zero (by omega)
        subst this
        simp [swapPairs]
      | succ num =>
        have happ : pre ++ b :: a :: mid = (pre ++ [b, a]) ++ mid := by simp
        simp only [count_pred]
        rw [if_pos (by omega), happ, ih num (i + 1) (pre ++ [b, a]) mid (by omega) (by simp; omega)
          (by omega) (by simp; omega)]
        simp

/-- A register copy that returns had a positive count, stayed inside both objects and wrote nothing
before its pointer. -/
theorem regCopyLoop_ok {src : Buffer.Source UInt8} {d : Nat} :
    ∀ {fuel : Nat} {des res : Buffer UInt8 n} {i : Nat} {num : Int},
      regCopyLoop src d fuel des i num = .ok res →
      1 ≤ num ∧ d + 2 * i + 2 * num ≤ n ∧
        (∀ cells, src = .other cells → 2 * i + 2 * num ≤ cells.length) ∧
        ∀ j < d, res.toList[j]? = des.toList[j]? := by
  intro fuel
  induction fuel with
  | zero => intro des res i num h; cases h
  | succ fuel ih =>
    intro des res i num h
    rw [regCopyLoop] at h
    obtain ⟨b, hb, h⟩ := bind_eq_ok.mp h
    obtain ⟨a, -, h⟩ := bind_eq_ok.mp h
    obtain ⟨des₁, hst₁, h⟩ := bind_eq_ok.mp h
    obtain ⟨des₂, hst₂, h⟩ := bind_eq_ok.mp h
    obtain ⟨hlt₁, hset₁⟩ := Buffer.toList_of_store hst₁
    obtain ⟨hlt₂, hset₂⟩ := Buffer.toList_of_store hst₂
    have hframe : ∀ j < d, des₂.toList[j]? = des.toList[j]? := by
      intro j hj
      rw [hset₂, List.getElem?_set_ne (by omega), hset₁, List.getElem?_set_ne (by omega)]
    have hsrc : ∀ cells, src = .other cells → 2 * i + 1 < cells.length := by
      rintro cells rfl
      exact source_other_ok hb
    dsimp only at h
    split at h
    · -- the rest of the rounds has a positive count, so this one has
      obtain ⟨h1, h2, h3, h4⟩ := ih h
      exact ⟨by omega, by omega, fun cells hc => by have := h3 cells hc; omega,
        fun j hj => (h4 j hj).trans (hframe j hj)⟩
    · cases h
      exact ⟨by omega, by omega, fun cells hc => by have := hsrc cells hc; omega, hframe⟩

/-! ### The four copies -/

theorem byteCount_pos {num : Nat} (h : 0 < num) : 0 < byteCount num := by
  unfold byteCount
  omega

section Copies

variable (old : Buffer UInt8 n) {pre : List UInt8} {d num : Nat}

theorem modbusCoilH2m_other (cells : List UInt8) (hd : d = pre.length) (hnum : 0 < num)
    (hc : byteCount num ≤ cells.length) (hn : pre.length + byteCount num ≤ n) :
    modbusCoilH2m (old.fill pre) d (.other cells) num =
      .ok (old.fill (pre ++ cells.take (byteCount num))) := by
  obtain ⟨k, hk⟩ := Nat.exists_eq_add_of_lt (byteCount_pos hnum)
  rw [Nat.zero_add] at hk
  rw [modbusCoilH2m, coilBytes_natCast, hk,
    coilCopyLoop_other old cells (n + 1) k 0 pre (by omega) (by omega) (by omega) (by omega)]
  rfl

theorem modbusCoilM2h_other (cells : List UInt8) (hd : d = pre.length) (hnum : 0 < num)
    (hc : byteCount num ≤ cells.length) (hn : pre.length + byteCount num ≤ n) :
    modbusCoilM2h (old.fill pre) d (.other cells) num =
      .ok (old.fill (pre ++ cells.take (byteCount num))) :=
  modbusCoilH2m_other old cells hd hnum hc hn

theorem modbusRegH2m_other (cells : List UInt8) (hd : d = pre.length) (hnum : 0 < num)
    (hc : 2 * num ≤ cells.length) (hn : pre.length + 2 * num ≤ n) :
    modbusRegH2m (old.fill pre) d (.other cells) num =
      .ok (old.fill (pre ++ swapPairs (cells.take (2 * num)))) := by
  obtain ⟨k, rfl⟩ := Nat.exists_eq_add_of_lt hnum
  rw [Nat.zero_add] at hc hn ⊢
  rw [modbusRegH2m,
    regCopyLoop_other old cells (n + 1) k 0 pre (by omega) (by omega) (by omega) (by omega)]
  rfl

theorem modbusRegM2h_other (cells : List UInt8) (hd : d = pre.length) (hnum : 0 < num)
    (hc : 2 * num ≤ cells.length) (hn : pre.length + 2 * num ≤ n) :
    modbusRegM2h (old.fill pre) d (.other cells) num =
      .ok (old.fill (pre ++ swapPairs (cells.take (2 * num)))) :=
  modbusRegH2m_other old cells hd hnum hc hn

theorem modbusRegH2m_self {mid : List UInt8} (hd : d = pre.length) (hnum : 0 < num) (hmid : mid.length = 2 * num)
    (hn : pre.length + 2 * num ≤ n) :
    modbusRegH2m (old.fill (pre ++ mid)) d (.self d) num = .ok (old.fill (pre ++ swapPairs mid)) := by
  subst hd
  obtain ⟨k, rfl⟩ := Nat.exists_eq_add_of_lt hnum
  rw [Nat.zero_add] at hmid hn ⊢
  exact regCopyLoop_self old (n + 1) k 0 pre mid (by omega) rfl hmid (by omega)

end Copies

end SmallModbus
