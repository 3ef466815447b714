/-
# `SmallModbus.Bank` — banks of coils and registers, and callbacks that serve them.

A `Bank` is what a Modbus slave is the memory of: coils, discrete inputs, holding registers, input
registers. `BankBacked` says that a callback moves the items it is asked for between a bank and its data
buffer and returns their number. `bankCallback` is such a callback, written like the shipped ones with
`dio_get_val` and `dio_set_val`.
-/
import SmallModbus.Lib.Bits
import SmallModbus.Confirm

namespace SmallModbus

open SmallModbus.Lib

variable {κ : Type}

/-! ## §1 — items and banks. -/

namespace Kind

/-- What an item is. -/
abbrev Item : Kind → Type
  | .coil => Bool
  | .register => UInt16

/-- Item `i` of a data buffer in the byte order of a little-endian host. -/
def item : (k : Kind) → List UInt8 → Nat → k.Item
  | .coil => bitAt
  | .register => wordAt

theorem item_append (k : Kind) {x : List UInt8} {num i : Nat} (hi : i < num)
    (hx : k.bytes num ≤ x.length) (y : List UInt8) : k.item (x ++ y) i = k.item x i := by
  cases k with
  | coil =>
    have h : (num + 7) / 8 ≤ x.length := hx
    exact bitAt_append (by omega) y
  | register =>
    have h : 2 * num ≤ x.length := hx
    exact wordAt_append (by omega) y

/-- The first items are in the first bytes. -/
theorem item_take (k : Kind) {l : List UInt8} {num i : Nat} (hi : i < num)
    (hl : k.bytes num ≤ l.length) : k.item (l.take (k.bytes num)) i = k.item l i := by
  have h := k.item_append hi (x := l.take (k.bytes num)) (List.length_take_of_le hl).ge
    (l.drop (k.bytes num))
  rw [List.take_append_drop] at h
  exact h.symm

end Kind

/-- The memory of a slave. -/
structure Bank where
  coils : Nat → Bool
  inputs : Nat → Bool
  holding : Nat → UInt16
  inputRegs : Nat → UInt16

namespace Bank

/-- The table a read operation reads. -/
def get (b : Bank) : (op : ReadOp) → Nat → op.kind.Item
  | .bits => b.coils
  | .inputBits => b.inputs
  | .registers => b.holding
  | .inputRegisters => b.inputRegs

/-- A table with the items of a data buffer at `addr` to `addr + num`. -/
def overlay (k : Kind) (table : Nat → k.Item) (addr num : Nat) (data : List UInt8) : Nat → k.Item :=
  fun a => if addr ≤ a ∧ a < addr + num then k.item data (a - addr) else table a

/-- The bank after a direct write of `num` items at `addr`. -/
def put (b : Bank) (addr num : Nat) (data : List UInt8) : Kind → Bank
  | .coil => { b with coils := overlay .coil b.coils addr num data }
  | .register => { b with holding := overlay .register b.holding addr num data }

theorem overlay_congr (k : Kind) {data data' : List UInt8} {num : Nat}
    (h : ∀ i < num, k.item data i = k.item data' i) (table : Nat → k.Item) (addr : Nat) :
    overlay k table addr num data = overlay k table addr num data' := by
  funext a
  unfold overlay
  split_ifs with ha
  · exact h _ (by omega)
  · rfl

/-- Only the items written matter. -/
theorem put_congr (b : Bank) (k : Kind) {data data' : List UInt8} {num : Nat}
    (h : ∀ i < num, k.item data i = k.item data' i) (addr : Nat) :
    b.put addr num data k = b.put addr num data' k := by
  cases k with
  | coil => exact congrArg (fun table => { b with coils := table }) (overlay_congr .coil h b.coils addr)
  | register => exact congrArg (fun table => { b with holding := table }) (overlay_congr .register h b.holding addr)

end Bank

/-- **A callback backed by a bank**: asked for items inside the limits and the address space, with a large
enough buffer, it moves exactly these between its bank and the buffer and returns their number. -/
structure BankBacked (cb : SlaveCallback κ) (bankOf : κ → Bank) : Prop where
  read : ∀ (op : ReadOp) (app : κ) (addr num : Nat) (data : List UInt8), 0 < num →
    num ≤ op.kind.maxRead → addr + num ≤ 65536 → op.kind.bytes num ≤ data.length →
    (cb.call app op.function.toNat addr num data).1 = num ∧
      bankOf (cb.call app op.function.toNat addr num data).2.2 = bankOf app ∧
      ∀ i < num, op.kind.item (cb.call app op.function.toNat addr num data).2.1 i =
        (bankOf app).get op (addr + i)
  write : ∀ (k : Kind) (f : UInt8) (app : κ) (addr num : Nat) (data : List UInt8),
    (f = k.fcSingle ∧ num = 1 ∨ f = k.fcMultiple) → 0 < num → num ≤ k.maxWrite →
    addr + num ≤ 65536 → k.bytes num ≤ data.length →
    (cb.call app f.toNat addr num data).1 = num ∧
      bankOf (cb.call app f.toNat addr num data).2.2 = (bankOf app).put addr num data k

/-! ## §2 — the coil accessors. -/

theorem toNat_offsetBit (index : UInt16) : (index &&& 0x07).toUInt8.toNat = index.toNat % 8 := by
  rw [UInt16.toNat_toUInt8, UInt16.toNat_and]
  show (index.toNat &&& (2 ^ 3 - 1)) % 256 = _
  rw [Nat.and_two_pow_sub_one_eq_mod]
  omega

theorem toNat_offsetArr (index : UInt16) : (index >>> 3).toUInt8.toNat = index.toNat / 8 % 256 := by
  rw [UInt16.toNat_toUInt8, UInt16.toNat_shiftRight]
  show (index.toNat >>> 3) % 256 = _
  rw [Nat.shiftRight_eq_div_pow]

section Accessors

variable {array : List UInt8}

/-- **`dio_get_val`** reads a bit of the first 256 bytes. -/
theorem dioGetVal_mod {index : UInt16} (hlen : index.toNat % 2048 / 8 < array.length) :
    dioGetVal array index = .ok (if bitAt array (index.toNat % 2048) = true then 1 else 0) := by
  have harr : (index >>> 3).toUInt8.toNat = index.toNat % 2048 / 8 := by
    rw [toNat_offsetArr]
    omega
  have hbit : (index &&& 0x07).toUInt8.toNat = index.toNat % 2048 % 8 := by
    rw [toNat_offsetBit]
    omega
  unfold dioGetVal
  dsimp only
  rw [harr, List.getElem?_eq_getElem hlen]
  simp only [and_bit_ne_zero (show (index &&& 0x07).toUInt8.toNat < 8 by rw [hbit]; omega), hbit]
  unfold bitAt
  rw [List.getD_eq_getElem?_getD, List.getElem?_eq_getElem hlen]
  rfl

/-- **`dio_set_val`** writes a bit of the first 256 bytes. -/
theorem dioSetVal_mod {index : UInt16} (hlen : index.toNat % 2048 / 8 < array.length) (status : Int) :
    dioSetVal array index status = .ok (setBit array (index.toNat % 2048) (decide (status ≠ 0))) := by
  have harr : (index >>> 3).toUInt8.toNat = index.toNat % 2048 / 8 := by
    rw [toNat_offsetArr]
    omega
  have hbit : (index &&& 0x07).toUInt8 = UInt8.ofNat (index.toNat % 2048 % 8) := by
    rw [← UInt8.toNat_inj, toNat_offsetBit, UInt8.toNat_ofNat']
    omega
  have hget : array.getD (index.toNat % 2048 / 8) 0 = array[index.toNat % 2048 / 8] := by
    rw [List.getD_eq_getElem?_getD, List.getElem?_eq_getElem hlen]
    rfl
  unfold dioSetVal
  dsimp only
  rw [harr, List.getElem?_eq_getElem hlen, hbit]
  unfold setBit putBit
  rw [hget]
  dsimp only
  split_ifs with hs hs' hs'
  · rfl
  · exact absurd (decide_eq_true hs) hs'
  · exact absurd (of_decide_eq_true hs') hs
  · rfl

section Small

variable {i : Nat} (hi : i < 2048) (hlen : i / 8 < array.length)

include hi

theorem toNat_mod_coil : (UInt16.ofNat i).toNat % 2048 = i := by
  rw [UInt16.toNat_ofNat_of_lt' (show i < 65536 by omega), Nat.mod_eq_of_lt hi]

include hlen

/-- Inside these bytes the bit read is the one of the index. -/
theorem dioGetVal_eq :
    dioGetVal array (UInt16.ofNat i) = .ok (if bitAt array i = true then 1 else 0) := by
  rw [dioGetVal_mod (by rwa [toNat_mod_coil hi]), toNat_mod_coil hi]

/-- Inside these bytes the bit written is the one of the index. -/
theorem dioSetVal_eq (status : Int) :
    dioSetVal array (UInt16.ofNat i) status = .ok (setBit array i (decide (status ≠ 0))) := by
  rw [dioSetVal_mod (by rwa [toNat_mod_coil hi]), toNat_mod_coil hi]

end Small

end Accessors

/-! ## §3 — a callback that serves a bank. -/

namespace Kind

/-- Write item `i` of a data buffer. -/
def putItem : (k : Kind) → List UInt8 → Nat → k.Item → Exec (List UInt8)
  | .coil, data, i, x => dioSetVal data (UInt16.ofNat i) (if x = true then 1 else 0)
  | .register, data, i, x => .ok (setWord data i x)

/-- Read item `i` of a data buffer. -/
def getItem : (k : Kind) → List UInt8 → Nat → Exec k.Item
  | .coil, data, i => do
      let status ← dioGetVal data (UInt16.ofNat i)
      return decide (status ≠ 0)
  | .register, data, i => .ok (wordAt data i)

/-- The loop of a read callback: `left` items from the table to the buffer. -/
def readLoop (k : Kind) (table : Nat → k.Item) (addr : Nat) :
    (left index : Nat) → List UInt8 → Exec (List UInt8)
  | 0, _, data => .ok data
  | left + 1, index, data => do
      let data ← k.putItem data index (table (addr + index))
      readLoop k table addr left (index + 1) data

/-- The loop of a write callback: `left` items from the buffer to the table. -/
def writeLoop (k : Kind) (addr : Nat) (data : List UInt8) :
    (left index : Nat) → (Nat → k.Item) → Exec (Nat → k.Item)
  | 0, _, table => .ok table
  | left + 1, index, table => do
      let x ← k.getItem data index
      writeLoop k addr data left (index + 1) (fun a => if a = addr + index then x else table a)

/-- Writing an item changes this item. -/
theorem putItem_eq (k : Kind) {data : List UInt8} {i : Nat} (hi : i < 2048)
    (hdata : k.bytes (i + 1) ≤ data.length) (x : k.Item) :
    ∃ data', k.putItem data i x = .ok data' ∧ data'.length = data.length ∧
      ∀ j, k.item data' j = if i = j then x else k.item data j := by
  cases k with
  | coil =>
    have hbyte : (i + 1 + 7) / 8 ≤ data.length := hdata
    have hlen : i / 8 < data.length := by omega
    have hstatus : decide ((if x = true then (1 : Int) else 0) ≠ 0) = x := by cases x <;> rfl
    refine ⟨setBit data i x, ?_, length_setBit data i x, fun j => bitAt_setBit hlen x j⟩
    show dioSetVal data (UInt16.ofNat i) (if x = true then 1 else 0) = _
    rw [dioSetVal_eq hi hlen, hstatus]
  | register =>
    have hbyte : 2 * (i + 1) ≤ data.length := hdata
    exact ⟨setWord data i x, rfl, length_setWord data i x, fun j => wordAt_setWord (by omega) x j⟩

theorem getItem_eq (k : Kind) {data : List UInt8} {i : Nat} (hi : i < 2048)
    (hdata : k.bytes (i + 1) ≤ data.length) : k.getItem data i = .ok (k.item data i) := by
  cases k with
  | coil =>
    have hbyte : (i + 1 + 7) / 8 ≤ data.length := hdata
    show (do
      let status ← dioGetVal data (UInt16.ofNat i)
      return decide (status ≠ 0)) = Except.ok (bitAt data i)
    rw [dioGetVal_eq hi (by omega), exec_ok_bind]
    cases bitAt data i <;> rfl
  | register => rfl

/-- Writing an item keeps the size of the buffer. -/
theorem length_putItem (k : Kind) {data data' : List UInt8} {i : Nat} {x : k.Item}
    (h : k.putItem data i x = .ok data') : data'.length = data.length := by
  cases k with
  | coil =>
    unfold putItem dioSetVal at h
    dsimp only at h
    split at h
    · split at h
      · cases h
        exact List.length_set
      · cases h
        exact List.length_set
    · cases h
  | register =>
    cases h
    exact length_setWord data i x

theorem length_readLoop (k : Kind) {table : Nat → k.Item} {addr : Nat} :
    ∀ {left index : Nat} {data data' : List UInt8},
      k.readLoop table addr left index data = .ok data' → data'.length = data.length := by
  intro left
  induction left with
  | zero =>
    intro index data data' h
    cases h
    rfl
  | succ left ih =>
    intro index data data' h
    obtain ⟨data₁, hput, h⟩ := bind_eq_ok.mp h
    rw [ih h, k.length_putItem hput]

/-- The loop of a read callback moves the items from `index` on. -/
theorem readLoop_eq (k : Kind) (table : Nat → k.Item) (addr : Nat) :
    ∀ (left index : Nat) (data : List UInt8), index + left ≤ 2048 →
      k.bytes (index + left) ≤ data.length →
      ∃ data', k.readLoop table addr left index data = .ok data' ∧
        ∀ j < index + left, k.item data' j = if index ≤ j then table (addr + j) else k.item data j := by
  intro left
  induction left with
  | zero => exact fun index data _ _ => ⟨data, rfl, fun j hj => by rw [if_neg (by omega)]⟩
  | succ left ih =>
    intro index data hindex hdata
    obtain ⟨data₁, hput, hlen, hitem⟩ := k.putItem_eq (show index < 2048 by omega)
      ((k.bytes_mono (by omega)).trans hdata) (table (addr + index))
    have hsum : index + 1 + left = index + (left + 1) := by omega
    obtain ⟨data', hloop, hall⟩ := ih (index + 1) data₁ (by omega) (by rw [hsum, hlen]; exact hdata)
    refine ⟨data', ?_, fun j hj => ?_⟩
    · rw [readLoop, hput, exec_ok_bind, hloop]
    · rw [hall j (by omega), hitem j]
      -- the item of this round is not touched again
      by_cases hj' : index = j
      · subst hj'
        rw [if_neg (by omega), if_pos rfl, if_pos le_rfl]
      · rw [if_neg hj']
        by_cases hle : index ≤ j
        · rw [if_pos (by omega), if_pos hle]
        · rw [if_neg (by omega), if_neg hle]

/-- The loop of a write callback moves the items from `index` on. -/
theorem writeLoop_eq (k : Kind) (addr : Nat) (data : List UInt8) :
    ∀ (left index : Nat) (table : Nat → k.Item), index + left ≤ 2048 →
      k.bytes (index + left) ≤ data.length →
      k.writeLoop addr data left index table =
        .ok (fun a => if addr + index ≤ a ∧ a < addr + (index + left) then k.item data (a - addr)
          else table a) := by
  intro left
  induction left with
  | zero =>
    intro index table _ _
    apply congrArg Except.ok
    funext a
    rw [if_neg (by omega)]
  | succ left ih =>
    intro index table hindex hdata
    have hsum : index + 1 + left = index + (left + 1) := by omega
    rw [writeLoop, k.getItem_eq (show index < 2048 by omega) ((k.bytes_mono (by omega)).trans hdata),
      exec_ok_bind, ih (index + 1) _ (by omega) (by rw [hsum]; exact hdata)]
    apply congrArg Except.ok
    funext a
    -- the item of this round, the items of the rounds to come, the items of neither
    by_cases ha : a = addr + index
    · subst ha
      rw [if_neg (by omega), if_pos rfl, if_pos (by omega), Nat.add_sub_cancel_left]
    · rw [if_neg ha]
      by_cases hin : addr + index ≤ a ∧ a < addr + (index + (left + 1))
      · rw [if_pos (by omega), if_pos hin]
      · rw [if_neg (by omega), if_neg hin]

end Kind

/-- A read: on a fault of the loop nothing has been moved. -/
def serveRead (k : Kind) (table : Nat → k.Item) (b : Bank) (addr num : Int) (data : List UInt8) :
    Int × List UInt8 × Bank :=
  match k.readLoop table addr.toNat num.toNat 0 data with
  | .ok data => (num, data, b)
  | .error _ => (0, data, b)

/-- A write to the table that `set` replaces. -/
def serveWrite (k : Kind) (table : Nat → k.Item) (set : (Nat → k.Item) → Bank) (b : Bank) (addr num : Int)
    (data : List UInt8) : Int × List UInt8 × Bank :=
  match k.writeLoop addr.toNat data num.toNat 0 table with
  | .ok table => (num, data, set table)
  | .error _ => (0, data, b)

/-- The callback that serves a bank. -/
def bankCall (b : Bank) (functionCode addr num : Int) (data : List UInt8) : Int × List UInt8 × Bank :=
  if functionCode = modbusFcReadHoldingCoils then serveRead .coil b.coils b addr num data
  else if functionCode = modbusFcReadInputsCoils then serveRead .coil b.inputs b addr num data
  else if functionCode = modbusFcReadHoldingRegisters then serveRead .register b.holding b addr num data
  else if functionCode = modbusFcReadInputRegisters then serveRead .register b.inputRegs b addr num data
  else if functionCode = modbusFcWriteSingleCoil ∨ functionCode = modbusFcWriteMultipleCoils then
    serveWrite .coil b.coils (fun table => { b with coils := table }) b addr num data
  else if functionCode = modbusFcWriteSingleRegister ∨ functionCode = modbusFcWriteMultipleRegisters then
    serveWrite .register b.holding (fun table => { b with holding := table }) b addr num data
  else (0, data, b)

theorem length_serveRead (k : Kind) (table : Nat → k.Item) (b : Bank) (addr num : Int)
    (data : List UInt8) : (serveRead k table b addr num data).2.1.length = data.length := by
  unfold serveRead
  split
  · rename_i data' hloop
    exact k.length_readLoop hloop
  · rfl

theorem length_serveWrite (k : Kind) (table : Nat → k.Item) (set : (Nat → k.Item) → Bank) (b : Bank)
    (addr num : Int) (data : List UInt8) :
    (serveWrite k table set b addr num data).2.1.length = data.length := by
  unfold serveWrite
  split <;> rfl

/-- **The callback that serves a bank.** -/
def bankCallback : SlaveCallback Bank where
  call := bankCall
  size_eq b f addr num data := by
    unfold bankCall
    split_ifs
    · exact length_serveRead _ _ _ _ _ _
    · exact length_serveRead _ _ _ _ _ _
    · exact length_serveRead _ _ _ _ _ _
    · exact length_serveRead _ _ _ _ _ _
    · exact length_serveWrite _ _ _ _ _ _ _
    · exact length_serveWrite _ _ _ _ _ _ _
    · rfl

/-- A read inside the limits moves its items. -/
theorem serveRead_eq (k : Kind) (table : Nat → k.Item) (b : Bank) (addr : Nat) {num : Nat}
    (hnum : num ≤ 2048) {data : List UInt8} (hdata : k.bytes num ≤ data.length) :
    (serveRead k table b addr num data).1 = num ∧ (serveRead k table b addr num data).2.2 = b ∧
      ∀ i < num, k.item (serveRead k table b addr num data).2.1 i = table (addr + i) := by
  obtain ⟨data', hloop, hall⟩ := k.readLoop_eq table addr num 0 data (by omega)
    (by rw [Nat.zero_add]; exact hdata)
  unfold serveRead
  rw [Int.toNat_natCast, Int.toNat_natCast, hloop]
  refine ⟨rfl, rfl, fun i hi => ?_⟩
  rw [hall i (by omega), if_pos (Nat.zero_le i)]

/-- A write inside the limits moves its items. -/
theorem serveWrite_eq (k : Kind) (table : Nat → k.Item) (set : (Nat → k.Item) → Bank) (b : Bank)
    (addr : Nat) {num : Nat} (hnum : num ≤ 2048) {data : List UInt8} (hdata : k.bytes num ≤ data.length) :
    serveWrite k table set b addr num data = ((num : Int), data, set (Bank.overlay k table addr num data)) := by
  unfold serveWrite
  rw [Int.toNat_natCast, Int.toNat_natCast, k.writeLoop_eq addr data num 0 table (by omega)
    (by rw [Nat.zero_add]; exact hdata), Nat.zero_add]
  rfl

theorem bankCallback_backed : BankBacked bankCallback id where
  read op b addr num data hpos hnum haddr hdata := by
    have hmax := op.kind.maxRead_le
    cases op with
    | bits => exact serveRead_eq .coil b.coils b addr (by omega) hdata
    | inputBits => exact serveRead_eq .coil b.inputs b addr (by omega) hdata
    | registers => exact serveRead_eq .register b.holding b addr (by omega) hdata
    | inputRegisters => exact serveRead_eq .register b.inputRegs b addr (by omega) hdata
  write k f b addr num data hf hpos hnum haddr hdata := by
    have hmax := k.maxWrite_le
    have hle : num ≤ 2048 := by omega
    -- single or multiple, the branch is that of the kind
    have hcall : ∀ code : UInt8, code = k.fcSingle ∨ code = k.fcMultiple →
        (bankCall b code.toNat addr num data).1 = num ∧
          (bankCall b code.toNat addr num data).2.2 = b.put addr num data k := by
      intro code hcode
      cases k with
      | coil =>
        have hserve : bankCall b code.toNat addr num data = ((num : Int), data, b.put addr num data .coil) := by
          rcases hcode with rfl | rfl <;> exact serveWrite_eq .coil b.coils _ b addr hle hdata
        rw [hserve]
        exact ⟨rfl, rfl⟩
      | register =>
        have hserve : bankCall b code.toNat addr num data = ((num : Int), data, b.put addr num data .register) := by
          rcases hcode with rfl | rfl <;> exact serveWrite_eq .register b.holding _ b addr hle hdata
        rw [hserve]
        exact ⟨rfl, rfl⟩
    exact hcall f (hf.imp_left And.left)

end SmallModbus
