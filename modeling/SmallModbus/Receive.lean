/-
# `SmallModbus.Receive` — how the two sides delimit a frame.

A side finds the end of a frame from the function code and, for some functions, from a byte count: a
`Format` is that table, and `framePull core fmt` the reader that takes one frame by it. The step tables
of `modbus_slave_wait` and `modbus_wait_confirm` follow the readers of `slaveFormat` and `confirmFormat`
(`follows_slave`, `follows_confirm`), which read to the end exactly the byte strings with the lengths of
their format (`framePull_accepts_iff`). From this come the specifications of the two functions on a line
(`modbusSlaveWait_line`, `modbusWaitConfirm_line`), and that no fragmentation shows in what they return.
-/
import SmallModbus.Wire
import SmallModbus.Framing

namespace SmallModbus

open SmallModbus.Lib

variable {σ : Type} {n : Nat}

/-! ## §1 — formats and their readers. -/

/-- How a side delimits the frames it receives. -/
structure Format where
  /-- the bytes that always follow the function code -/
  fixed : UInt8 → Nat
  /-- where in the PDU the byte count of the data is, if there is one -/
  counted : UInt8 → Option Nat
  /-- the code of a frame that would be too long -/
  error : Int
  error_neg : error < 0
  fixed_le : ∀ f, fixed f ≤ 9
  counted_le : ∀ f i, counted f = some i → i ≤ fixed f

namespace Format

/-- The data bytes the byte count announces. -/
def dataLength (fmt : Format) (pdu : List UInt8) : Nat :=
  match fmt.counted (pdu.getD 0 0) with
  | some i => (pdu.getD i 0).toNat
  | none => 0

/-- The PDU has the length its function code and its byte count say. -/
def Sized (fmt : Format) (pdu : List UInt8) : Prop :=
  pdu.length = 1 + fmt.fixed (pdu.getD 0 0) + fmt.dataLength pdu

instance (fmt : Format) (pdu : List UInt8) : Decidable (fmt.Sized pdu) :=
  inferInstanceAs (Decidable (_ = _))

/-- What is wanted when the fixed part has arrived: the data and the checksum. -/
def more (fmt : Format) (core : Core) (got : List UInt8) : Nat :=
  fmt.dataLength (got.drop core.lenHeader) + core.lenChecksum

/-- The announced length where the function has a byte count. -/
theorem dataLength_of_counted {fmt : Format} {pdu : List UInt8} {i : Nat} (hc : fmt.counted (pdu.getD 0 0) = some i) :
    fmt.dataLength pdu = (pdu.getD i 0).toNat := by
  unfold dataLength
  rw [hc]

/-- And where it has none. -/
theorem dataLength_of_not_counted {fmt : Format} {pdu : List UInt8} (hc : fmt.counted (pdu.getD 0 0) = none) :
    fmt.dataLength pdu = 0 := by
  unfold dataLength
  rw [hc]

/-- The data behind the fixed part does not change the announced length. -/
theorem dataLength_append (fmt : Format) {f : UInt8} {fx : List UInt8} (hfx : fx.length = fmt.fixed f)
    (data : List UInt8) : fmt.dataLength (f :: (fx ++ data)) = fmt.dataLength (f :: fx) := by
  cases hc : fmt.counted f with
  | none =>
    have hnone : ∀ l : List UInt8, fmt.dataLength (f :: l) = 0 := fun l => dataLength_of_not_counted hc
    rw [hnone, hnone]
  | some i =>
    have hsome : ∀ l : List UInt8, fmt.dataLength (f :: l) = ((f :: l).getD i 0).toNat :=
      fun l => dataLength_of_counted hc
    have hi : i < (f :: fx).length := by
      have := fmt.counted_le f i hc
      rw [List.length_cons]
      omega
    rw [hsome, hsome]
    simp only [List.getD_eq_getElem?_getD, ← List.cons_append, List.getElem?_append_left hi]

theorem sized_iff (fmt : Format) {f : UInt8} {fx : List UInt8} (hfx : fx.length = fmt.fixed f)
    (data : List UInt8) :
    fmt.Sized (f :: (fx ++ data)) ↔ data.length = fmt.dataLength (f :: fx) := by
  unfold Sized
  rw [dataLength_append fmt hfx]
  show (f :: (fx ++ data)).length = 1 + fmt.fixed f + _ ↔ _
  rw [List.length_cons, List.length_append, hfx]
  omega

/-- A PDU without a byte count is its function code and its fixed part. -/
theorem sized_uncounted_iff {fmt : Format} {f : UInt8} {l : List UInt8} (hc : fmt.counted f = none) :
    fmt.Sized (f :: l) ↔ l.length = fmt.fixed f := by
  have hdata : fmt.dataLength (f :: l) = 0 := dataLength_of_not_counted hc
  show (f :: l).length = 1 + fmt.fixed f + fmt.dataLength (f :: l) ↔ _
  rw [hdata, List.length_cons]
  omega

/-- A PDU whose byte count comes right behind its function code. -/
theorem sized_counted_iff {fmt : Format} {f b : UInt8} {data : List UInt8} (hc : fmt.counted f = some 1)
    (hfixed : fmt.fixed f = 1) : fmt.Sized (f :: b :: data) ↔ b.toNat = data.length := by
  have hdata : fmt.dataLength (f :: b :: data) = b.toNat := by
    rw [dataLength_of_counted hc]
    rfl
  show (f :: b :: data).length = 1 + fmt.fixed f + fmt.dataLength (f :: b :: data) ↔ _
  rw [hdata, hfixed, List.length_cons, List.length_cons]
  omega

end Format

/-- The reader of the rest of a frame, `got` being the header and the fixed part of its PDU. -/
def tailPull (core : Core) (fmt : Format) (got : List UInt8) : Pull UInt8 Int :=
  if fmt.more core got + got.length > core.lenAduMax then .reject fmt.error
  else .want (fmt.more core got) fun _ => .finish

/-- The reader of one frame. -/
def framePull (core : Core) (fmt : Format) : Pull UInt8 Int :=
  .read (core.lenHeader + 1) fun head =>
    .want (fmt.fixed (head.getD core.lenHeader 0)) fun fixed => tailPull core fmt (head ++ fixed)

section Accepts

variable {core : Core} {fmt : Format}

/-- A word the reader reads to the end begins with a header, a function code and its fixed part. -/
theorem framePull_split {t : List UInt8} (h : (framePull core fmt).Accepts t) :
    ∃ hd f fx rest, t = hd ++ f :: (fx ++ rest) ∧ hd.length = core.lenHeader ∧
      fx.length = fmt.fixed f := by
  obtain ⟨hhead, hacc⟩ := h
  obtain ⟨hfix, -⟩ := Pull.accepts_want.mp hacc
  have hlt : core.lenHeader < t.length := hhead
  have hf : (t.take (core.lenHeader + 1)).getD core.lenHeader 0 = t[core.lenHeader] := by
    rw [List.getD_eq_getElem?_getD, List.getElem?_take, if_pos (by omega), List.getElem?_eq_getElem hlt]
    rfl
  rw [hf] at hfix
  refine ⟨t.take core.lenHeader, t[core.lenHeader],
    (t.drop (core.lenHeader + 1)).take (fmt.fixed t[core.lenHeader]),
    (t.drop (core.lenHeader + 1)).drop (fmt.fixed t[core.lenHeader]), ?_, ?_, ?_⟩
  · rw [List.take_append_drop, ← List.drop_eq_getElem_cons hlt, List.take_append_drop]
  · exact List.length_take_of_le (by omega)
  · exact List.length_take_of_le hfix

section Split

variable {hd : List UInt8} (hhd : hd.length = core.lenHeader) (f : UInt8)

include hhd

theorem getD_header : (hd ++ [f]).getD core.lenHeader 0 = f := by
  simp [List.getD_eq_getElem?_getD, ← hhd]

/-- What is read behind the fixed part depends on the PDU only. -/
theorem Format.more_split (fmt : Format) (fx : List UInt8) :
    fmt.more core ((hd ++ [f]) ++ fx) = fmt.dataLength (f :: fx) + core.lenChecksum := by
  rw [Format.more, ← hhd, List.append_assoc, List.drop_left]
  rfl

end Split

theorem framePull_accepts_split {hd fx rest : List UInt8} {f : UInt8}
    (hhd : hd.length = core.lenHeader) (hfx : fx.length = fmt.fixed f) :
    (framePull core fmt).Accepts (hd ++ f :: (fx ++ rest)) ↔
      rest.length = fmt.dataLength (f :: fx) + core.lenChecksum ∧
        (hd ++ f :: (fx ++ rest)).length ≤ modbusMaxAduLength := by
  have happ : hd ++ f :: (fx ++ rest) = (hd ++ [f]) ++ (fx ++ rest) := by simp
  have hl : (hd ++ [f]).length = core.lenHeader + 1 := by simp [hhd]
  have hget := getD_header hhd f
  have hmore := fmt.more_split hhd f fx
  have hlen : (hd ++ f :: (fx ++ rest)).length = core.lenHeader + 1 + fmt.fixed f + rest.length := by
    rw [happ, List.length_append, hl, List.length_append, hfx]
    omega
  rw [framePull, happ, Pull.Accepts, ← hl, List.take_left, List.drop_left, hl, hget, Pull.accepts_want,
    ← hfx, List.take_left, List.drop_left, tailPull, hmore, ← happ, hlen, Core.lenAduMax_eq]
  simp only [List.length_append, hl, hfx]
  split
  · rename_i hmax
    constructor
    · rintro ⟨-, -, h⟩
      exact h.elim
    · rintro ⟨h, h'⟩
      omega
  · rename_i hmax
    rw [Pull.accepts_want, Pull.Accepts, List.drop_eq_nil_iff]
    omega

/-- The reader stops behind the fixed part when the announced data does not fit a frame. -/
theorem framePull_ends_over {hd fx : List UInt8} {f : UInt8} (hhd : hd.length = core.lenHeader)
    (hfx : fx.length = fmt.fixed f)
    (hover : modbusMaxAduLength < core.lenHeader + 1 + fmt.fixed f +
      (fmt.dataLength (f :: fx) + core.lenChecksum)) :
    (framePull core fmt).Ends (hd ++ f :: fx) (some fmt.error) := by
  have happ : hd ++ f :: fx = (hd ++ [f]) ++ fx := by simp
  have hl : (hd ++ [f]).length = core.lenHeader + 1 := by simp [hhd]
  have hget := getD_header hhd f
  have hmore := fmt.more_split hhd f fx
  have hlen : ((hd ++ [f]) ++ fx).length = core.lenHeader + 1 + fmt.fixed f := by
    rw [List.length_append, hl, hfx]
  rw [framePull, happ, Pull.Ends, ← hl, List.take_left, List.drop_left, hl, hget, Pull.ends_want, ← hfx,
    List.take_length, List.drop_length, tailPull, hmore, hlen, Core.lenAduMax_eq, if_pos (by omega)]
  exact ⟨by omega, le_rfl, rfl, rfl⟩

/-- **What the reader reads to the end**: a header, a PDU of the right length, a checksum, together
no longer than the largest frame. -/
theorem framePull_accepts_iff {t : List UInt8} :
    (framePull core fmt).Accepts t ↔
      ∃ hd pdu ck, t = hd ++ pdu ++ ck ∧ hd.length = core.lenHeader ∧ ck.length = core.lenChecksum ∧
        fmt.Sized pdu ∧ t.length ≤ modbusMaxAduLength := by
  constructor
  · intro h
    obtain ⟨hd, f, fx, rest, rfl, hhd, hfx⟩ := framePull_split h
    obtain ⟨hrest, hlen⟩ := (framePull_accepts_split hhd hfx).mp h
    refine ⟨hd, f :: (fx ++ rest.take (fmt.dataLength (f :: fx))),
      rest.drop (fmt.dataLength (f :: fx)), ?_, hhd, ?_, ?_, hlen⟩
    · simp
    · rw [List.length_drop]
      omega
    · rw [Format.sized_iff fmt hfx, List.length_take]
      omega
  · rintro ⟨hd, pdu, ck, rfl, hhd, hck, hsize, hlen⟩
    obtain ⟨f, fx, data, rfl, hfx⟩ : ∃ f fx data, pdu = f :: (fx ++ data) ∧ fx.length = fmt.fixed f := by
      match pdu, hsize with
      | [], hsize =>
        have h : 0 = 1 + fmt.fixed 0 + fmt.dataLength [] := hsize
        omega
      | f :: l, hsize =>
        have h : (f :: l).length = 1 + fmt.fixed f + fmt.dataLength (f :: l) := hsize
        rw [List.length_cons] at h
        exact ⟨f, l.take (fmt.fixed f), l.drop (fmt.fixed f), by rw [List.take_append_drop],
          List.length_take_of_le (by omega)⟩
    have hdata := (Format.sized_iff fmt hfx data).mp hsize
    have happ : hd ++ f :: (fx ++ data) ++ ck = hd ++ f :: (fx ++ (data ++ ck)) := by simp
    rw [happ] at hlen ⊢
    refine (framePull_accepts_split hhd hfx).mpr ⟨?_, hlen⟩
    rw [List.length_append, hdata, hck]

/-- The reader reads a frame to the end when its PDU has the right length and the frame fits. -/
theorem framePull_accepts_adu {tid : UInt16} {a : UInt8} {pdu : List UInt8} (hsize : fmt.Sized pdu)
    (hlen : (core.adu tid a pdu).length ≤ modbusMaxAduLength) :
    (framePull core fmt).Accepts (core.adu tid a pdu) :=
  framePull_accepts_iff.mpr ⟨_, _, _, rfl, by simp, by simp, hsize, hlen⟩

/-- The reader fails with negative codes only. -/
theorem framePull_error_neg {code : Int} (hcode : code < 0) {s : List UInt8} {e : Int}
    (h : ((framePull core fmt).run code s).error = some e) : e < 0 := by
  have hneg : (framePull core fmt).ErrorsIn (fun e => e < 0) := by
    intro head
    apply Pull.errorsIn_want
    intro fixed
    unfold tailPull
    split_ifs
    · exact fmt.error_neg
    · exact Pull.errorsIn_want fun _ => trivial
  exact Pull.error_of_run (P := fun e => e < 0) hcode hneg h

/-- The reader rejects with the code of its format. -/
theorem framePull_ends_error {t : List UInt8} {e : Int} (h : (framePull core fmt).Ends t (some e)) :
    e = fmt.error := by
  have hcode : (framePull core fmt).ErrorsIn (fun e => e = fmt.error) := by
    intro head
    apply Pull.errorsIn_want
    intro fixed
    unfold tailPull
    split_ifs
    · rfl
    · exact Pull.errorsIn_want fun _ => trivial
  exact Pull.error_of_run (P := fun e => e = fmt.error) rfl hcode
    (congrArg Outcome.error (Pull.run_of_ends fmt.error h []))

end Accepts

/-! ## §2 — the step tables follow the readers. -/

/-- The table of `modbus_slave_wait`. -/
def slaveFormat : Format where
  fixed f := (slaveHeadWant f.toNat).toNat
  counted f :=
    if (f.toNat : Int) = modbusFcWriteMultipleCoils ∨ (f.toNat : Int) = modbusFcWriteMultipleRegisters
    then some 5
    else if (f.toNat : Int) = modbusFcWriteAndReadRegisters then some 9
    else none
  error := modbusFail
  error_neg := by decide
  fixed_le f := by
    unfold slaveHeadWant
    split_ifs <;> simp
  counted_le f i h := by
    split_ifs at h with h1 h2
    · obtain rfl : 5 = i := Option.some.inj h
      rcases h1 with h1 | h1 <;> rw [h1] <;> decide
    · obtain rfl : 9 = i := Option.some.inj h
      rw [h2]
      decide

/-- The table of `modbus_wait_confirm`. -/
def confirmFormat : Format where
  fixed f :=
    if (f.toNat : Int) = modbusFcReadHoldingCoils ∨ (f.toNat : Int) = modbusFcReadInputsCoils ∨
      (f.toNat : Int) = modbusFcReadHoldingRegisters ∨ (f.toNat : Int) = modbusFcReadInputRegisters
    then 1
    else if (f.toNat : Int) = modbusFcWriteSingleCoil ∨ (f.toNat : Int) = modbusFcWriteSingleRegister ∨
      (f.toNat : Int) = modbusFcWriteMultipleCoils ∨ (f.toNat : Int) = modbusFcWriteMultipleRegisters
    then 4
    else if (f.toNat : Int) = modbusFcMaskWriteRegister then 6
    else 1
  counted f :=
    if (f.toNat : Int) = modbusFcReadHoldingCoils ∨ (f.toNat : Int) = modbusFcReadInputsCoils ∨
      (f.toNat : Int) = modbusFcReadHoldingRegisters ∨ (f.toNat : Int) = modbusFcReadInputRegisters
    then some 1
    else none
  error := modbusFailConfirm
  error_neg := by decide
  fixed_le f := by
    split_ifs <;> omega
  counted_le f i h := by
    split_ifs at h ⊢
    simp_all

/-- What a side wants when the fixed part has arrived, or the code it rejects the frame with. -/
def Format.verdict (fmt : Format) (core : Core) (got : List UInt8) : Except Int Int :=
  if ((fmt.more core got + got.length : Nat) : Int) > core.lenAduMax then .error fmt.error
  else .ok (fmt.more core got : Nat)

/-- What the step table says once `r` has arrived is what the reader `p` says. -/
def Agrees (next : NextWant n) (old : Buffer UInt8 n) (p : Pull UInt8 Int) (position : Int)
    (r : List UInt8) : Prop :=
  (∃ position' e, next (old.fill r) position (r.length : Nat) = .ok (position', .error e) ∧
    p = .reject e) ∨
  (∃ position' want', next (old.fill r) position (r.length : Nat) = .ok (position', .ok want') ∧
    Follows next old p position' want' r)

/-- A step table that does what a format says, on request buffers of any size. -/
structure Tabled (next : ∀ m, NextWant m) (core : Core) (fmt : Format) : Prop where
  head : ∀ (m : Nat) (old : Buffer UInt8 m) (head : List UInt8), head.length ≤ m →
    head.length = core.lenHeader + 1 →
    next m (old.fill head) 0 (head.length : Nat) =
      if fmt.fixed (head.getD core.lenHeader 0) = 0 then next m (old.fill head) 1 (head.length : Nat)
      else .ok (1, .ok (fmt.fixed (head.getD core.lenHeader 0) : Nat))
  tail : ∀ (m : Nat) (old : Buffer UInt8 m) (got : List UInt8), got.length ≤ m →
    got.length = core.lenHeader + 1 + fmt.fixed (got.getD core.lenHeader 0) →
    ∃ p, next m (old.fill got) 1 (got.length : Nat) = .ok (p, fmt.verdict core got) ∧
      ∀ want, fmt.verdict core got = .ok want → p = 2
  last : ∀ (m : Nat) (b : Buffer UInt8 m) (len : Int), next m b 2 len = .ok (2, .ok 0)

section Steps

variable {next : ∀ m, NextWant m} {core : Core} {fmt : Format} (hnext : Tabled next core fmt)
  (old : Buffer UInt8 n) (hn : modbusMaxAduLength ≤ n)

include hnext hn

theorem agrees_tail {got : List UInt8} {position : Int} (hgot : got.length ≤ n)
    (hlen : got.length = core.lenHeader + 1 + fmt.fixed (got.getD core.lenHeader 0))
    (hpos : next n (old.fill got) position (got.length : Nat) =
      next n (old.fill got) 1 (got.length : Nat)) :
    Agrees (next n) old (tailPull core fmt got) position got := by
  obtain ⟨p, hrun, hp⟩ := hnext.tail n old got hgot hlen
  unfold Agrees tailPull
  rw [hpos, hrun]
  have hmax : core.lenAduMax = 260 := Core.lenAduMax_eq core
  have hmax' : modbusMaxAduLength = 260 := rfl
  by_cases hover : fmt.more core got + got.length > core.lenAduMax
  · -- too long for a frame: both reject
    left
    rw [if_pos hover]
    exact ⟨p, fmt.error, by rw [Format.verdict, if_pos (by omega)], rfl⟩
  · -- data and checksum are the last demand
    right
    have hv : fmt.verdict core got = .ok (fmt.more core got : Nat) := by
      rw [Format.verdict, if_neg (by omega)]
    obtain rfl := hp _ hv
    rw [if_neg hover, hv]
    refine ⟨2, _, rfl, ?_⟩
    unfold Pull.want
    split_ifs with h0
    · rw [h0]
      rfl
    · refine ⟨rfl, by omega, by omega, by omega, fun c hc => Or.inr ⟨2, 0, hnext.last n _ _, rfl⟩⟩

/-- A step table that does what a format says follows its reader. -/
theorem follows_framePull :
    Follows (next n) old (framePull core fmt) 0 ((core.lenHeader + 1 : Nat) : Int) [] := by
  have hh := core.lenHeader_le
  have hmax : modbusMaxAduLength = 260 := rfl
  refine ⟨rfl, by omega, by omega, by simp; omega, fun head hhd => ?_⟩
  have hfix := fmt.fixed_le (head.getD core.lenHeader 0)
  have hhead := hnext.head n old head (by omega) hhd
  rw [List.nil_append]
  show Agrees (next n) old (Pull.want (fmt.fixed (head.getD core.lenHeader 0)) fun fixed =>
    tailPull core fmt (head ++ fixed)) 0 head
  unfold Pull.want
  split_ifs with h0
  · -- no fixed part: the switch falls through to the tail in the same step
    show Agrees (next n) old (tailPull core fmt (head ++ [])) 0 head
    rw [List.append_nil]
    apply agrees_tail hnext old hn (by omega) (by omega)
    rw [hhead, if_pos h0]
  · refine Or.inr ⟨1, _, by rw [hhead, if_neg h0], rfl, by omega, by omega, by omega, ?_⟩
    intro fixed hfixed
    have hget : (head ++ fixed).getD core.lenHeader 0 = head.getD core.lenHeader 0 := by
      rw [List.getD_eq_getElem?_getD, List.getElem?_append_left (by omega), List.getD_eq_getElem?_getD]
    exact agrees_tail hnext old hn (by rw [List.length_append]; omega)
      (by rw [hget, List.length_append]; omega) rfl

end Steps

/-- The step table, let see only the bytes received so far. -/
def cutNext (next : ∀ m, NextWant m) (m : Nat) : NextWant m := fun b position readLength =>
  next _ (b.cut readLength.toNat) position readLength

/-- A step table that does what a format says reads no byte that has not been received. -/
theorem Tabled.cut {next : ∀ m, NextWant m} {core : Core} {fmt : Format} (h : Tabled next core fmt) :
    Tabled (cutNext next) core fmt where
  head m old head hm hlen := by
    obtain ⟨c, hc⟩ := old.cut_fill hm
    unfold cutNext
    rw [Int.toNat_natCast, hc]
    exact h.head _ c head (by omega) hlen
  tail m old got hm hlen := by
    obtain ⟨c, hc⟩ := old.cut_fill hm
    unfold cutNext
    rw [Int.toNat_natCast, hc]
    exact h.tail _ c got (by omega) hlen
  last m b len := h.last _ _ _

/-- The data byte count of a format, as the source loads it. -/
theorem more_of_counted {core : Core} {fmt : Format} {got : List UInt8} {i : Nat}
    (hc : fmt.counted (got.getD core.lenHeader 0) = some i) :
    fmt.more core got = (got.getD (core.lenHeader + i) 0).toNat + core.lenChecksum := by
  have hdrop : ∀ j, (got.drop core.lenHeader).getD j 0 = got.getD (core.lenHeader + j) 0 := by
    intro j
    rw [List.getD_eq_getElem?_getD, List.getElem?_drop, List.getD_eq_getElem?_getD]
  rw [Format.more, Format.dataLength_of_counted (by rw [hdrop]; exact hc), hdrop]

theorem more_of_not_counted {core : Core} {fmt : Format} {got : List UInt8}
    (hc : fmt.counted (got.getD core.lenHeader 0) = none) :
    fmt.more core got = core.lenChecksum := by
  have hdrop : (got.drop core.lenHeader).getD 0 0 = got.getD core.lenHeader 0 := by
    rw [List.getD_eq_getElem?_getD, List.getElem?_drop, List.getD_eq_getElem?_getD, Nat.add_zero]
  rw [Format.more, Format.dataLength_of_not_counted (by rw [hdrop]; exact hc), Nat.zero_add]

/-- Loading below the cursor, with the value spelt as a default lookup. -/
theorem load_fill_getD (old : Buffer UInt8 n) {t : List UInt8} {i : Nat} (hi : i < t.length)
    (hn : t.length ≤ n) : (old.fill t).load i = .ok (t.getD i 0) := by
  rw [Buffer.load_fill old hi hn, List.getD_eq_getElem?_getD, List.getElem?_eq_getElem hi]
  rfl

/-- The end of both step tables: the bytes wanted against the room that is left. -/
theorem verdict_run {core : Core} {fmt : Format} {got : List UInt8} {want : Nat}
    (h : fmt.more core got = want + core.lenChecksum) (p : Int) :
    ∃ p', (if (want : Int) + core.lenChecksum + (got.length : Nat) > core.lenAduMax
          then (.ok (p, .error fmt.error) : Exec (Int × Except Int Int))
          else .ok (2, .ok ((want : Int) + core.lenChecksum))) = .ok (p', fmt.verdict core got) ∧
      ∀ w, fmt.verdict core got = .ok w → p' = 2 := by
  unfold Format.verdict
  rw [h]
  by_cases hover : (want : Int) + core.lenChecksum + (got.length : Nat) > core.lenAduMax
  · rw [if_pos hover, if_pos (by omega)]
    exact ⟨p, rfl, fun w hw => by cases hw⟩
  · rw [if_neg hover, if_neg (by omega)]
    exact ⟨2, rfl, fun _ _ => rfl⟩

section Tables

variable (core : Core) (old : Buffer UInt8 n)

theorem slaveDataWant_fill {got : List UInt8} (hgot : got.length ≤ n)
    (hlen : got.length = core.lenHeader + 1 + slaveFormat.fixed (got.getD core.lenHeader 0)) :
    ∃ p, slaveDataWant core (old.fill got) (got.length : Nat) =
        .ok (p, slaveFormat.verdict core got) ∧
      ∀ want, slaveFormat.verdict core got = .ok want → p = 2 := by
  have hidx : ∀ i, slaveFormat.counted (got.getD core.lenHeader 0) = some i →
      (old.fill got).load (core.lenHeader + i) = .ok (got.getD (core.lenHeader + i) 0) := by
    intro i hi
    have := slaveFormat.counted_le _ i hi
    exact load_fill_getD old (by omega) hgot
  unfold slaveDataWant
  rw [load_fill_getD old (by omega) hgot, exec_ok_bind]
  set f := got.getD core.lenHeader 0 with hf
  dsimp only
  by_cases h1 : (f.toNat : Int) = modbusFcWriteMultipleCoils ∨
      (f.toNat : Int) = modbusFcWriteMultipleRegisters
  · have hc : slaveFormat.counted f = some 5 := if_pos h1
    rw [if_pos h1, hidx 5 hc]
    exact verdict_run (more_of_counted hc) 2
  · by_cases h2 : (f.toNat : Int) = modbusFcWriteAndReadRegisters
    · have hc : slaveFormat.counted f = some 9 := (if_neg h1).trans (if_pos h2)
      rw [if_neg h1, if_pos h2, hidx 9 hc]
      exact verdict_run (more_of_counted hc) 2
    · have hc : slaveFormat.counted f = none := (if_neg h1).trans (if_neg h2)
      rw [if_neg h1, if_neg h2]
      exact verdict_run ((more_of_not_counted hc).trans (Nat.zero_add _).symm) 2

theorem slaveHeadWant_nonneg (f : Int) : 0 ≤ slaveHeadWant f := by
  unfold slaveHeadWant
  split_ifs <;> omega

/-- The step table of `modbus_slave_wait` does what its format says. -/
theorem slave_tabled : Tabled (fun _ => slaveNextWant core) core slaveFormat where
  head m old head hm hhead := by
    unfold slaveNextWant
    rw [if_pos rfl, load_fill_getD old (by omega) (by omega), exec_ok_bind]
    set f := head.getD core.lenHeader 0 with hf
    dsimp only
    have hnn := slaveHeadWant_nonneg (f.toNat : Int)
    have hfix : slaveFormat.fixed f = (slaveHeadWant (f.toNat : Int)).toNat := rfl
    by_cases h0 : slaveHeadWant (f.toNat : Int) = 0
    · rw [if_neg (by omega), if_pos (by omega), if_neg (by decide), if_pos rfl]
    · rw [if_pos h0, if_neg (by omega), hfix, Int.toNat_of_nonneg hnn]
      rfl
  tail m old got hgot hlen := slaveDataWant_fill core old hgot hlen
  last _ _ _ := rfl

/-- **The step table of `modbus_slave_wait` follows the reader of its format.** -/
theorem follows_slave (hn : modbusMaxAduLength ≤ n) :
    Follows (slaveNextWant core) old (framePull core slaveFormat) 0 ((core.lenHeader + 1 : Nat) : Int)
      [] := follows_framePull (slave_tabled core) old hn

theorem confirmDataWant_fill {got : List UInt8} (hgot : got.length ≤ n)
    (hlen : got.length = core.lenHeader + 1 + confirmFormat.fixed (got.getD core.lenHeader 0)) :
    ∃ want : Nat, confirmDataWant core (old.fill got) = .ok (want : Int) ∧
      confirmFormat.more core got = want + core.lenChecksum := by
  unfold confirmDataWant
  rw [load_fill_getD old (by omega) hgot, exec_ok_bind]
  set f := got.getD core.lenHeader 0 with hf
  dsimp only
  by_cases h1 : (f.toNat : Int) = modbusFcReadHoldingCoils ∨ (f.toNat : Int) = modbusFcReadInputsCoils ∨
      (f.toNat : Int) = modbusFcReadHoldingRegisters ∨ (f.toNat : Int) = modbusFcReadInputRegisters
  · have hc : confirmFormat.counted f = some 1 := if_pos h1
    have := confirmFormat.counted_le _ _ hc
    rw [if_pos h1, load_fill_getD old (by omega) hgot, exec_ok_bind]
    exact ⟨_, rfl, more_of_counted hc⟩
  · have hc : confirmFormat.counted f = none := if_neg h1
    rw [if_neg h1]
    exact ⟨0, rfl, (more_of_not_counted hc).trans (Nat.zero_add _).symm⟩

/-- The step table of `modbus_wait_confirm` does what its format says. -/
theorem confirm_tabled : Tabled (fun _ => confirmNextWant core) core confirmFormat where
  head m old head hm hhead := by
    unfold confirmNextWant
    rw [if_pos rfl, load_fill_getD old (by omega) (by omega), exec_ok_bind]
    set f := head.getD core.lenHeader 0 with hf
    dsimp only [confirmFormat]
    split_ifs <;> first | contradiction | rfl
  tail m old got hgot hlen := by
    obtain ⟨want, hwant, hmore⟩ := confirmDataWant_fill core old hgot hlen
    unfold confirmNextWant
    rw [if_neg (by decide), if_pos rfl, hwant, exec_ok_bind]
    exact verdict_run hmore 1
  last _ _ _ := rfl

/-- **The step table of `modbus_wait_confirm` follows the reader of its format.** -/
theorem follows_confirm (hn : modbusMaxAduLength ≤ n) :
    Follows (confirmNextWant core) old (framePull core confirmFormat) 0
      ((core.lenHeader + 1 : Nat) : Int) [] := follows_framePull (confirm_tabled core) old hn

end Tables

/-- No reception takes more than the largest frame. -/
theorem Feed.Received.taken_le {core : Core} {port : Port σ} {F : Feed port} {next : ∀ m, NextWant m} {fmt : Format}
    (hnext : Tabled next core fmt) {w w' : σ} {o : Outcome UInt8 Int}
    (hrec : F.Received (framePull core fmt) w w' o) :
    o.taken.length ≤ modbusMaxAduLength := by
  have hfol := follows_framePull hnext (Buffer.replicate modbusMaxAduLength 0) le_rfl
  have hle := Follows.taken_le _ _ _ _ o.taken hfol (Nat.zero_le _) (hrec.ends.symm.imp And.left (⟨_, ·⟩))
  rwa [List.length_nil, Nat.zero_add] at hle

/-! ## §3 — the two wait functions on a line. -/

/-- How `modbus_slave_wait` ends when its reader leaves `o`. -/
def SlaveEnds (core : Core) (smb : Smb σ) (o : Outcome UInt8 Int) (ret : Int) (smb' : Smb σ) : Prop :=
  (∃ e, o.error = some e ∧ e < 0 ∧ ret = e ∧ smb' = smb) ∨
  o.error = none ∧
    (ret = (o.taken.length : Nat) ∧ (∃ a tid pdu, smb.Admits a ∧ slaveFormat.Sized pdu ∧
        o.taken = core.adu tid a pdu ∧ smb' = core.adopt smb tid) ∨
      ret < 0 ∧ smb' = smb ∧ ∀ a tid pdu, smb.Admits a → o.taken ≠ core.adu tid a pdu)

/-- How `modbus_wait_confirm` ends when its reader leaves `o`. -/
def ConfirmEnds (core : Core) (smb : Smb σ) (o : Outcome UInt8 Int) (ret : Int) : Prop :=
  (∃ e, o.error = some e ∧ e < 0 ∧ ret = e) ∨
  o.error = none ∧
    (ret = (o.taken.length : Nat) ∧ (∃ a pdu, smb.Admits a ∧ confirmFormat.Sized pdu ∧
        o.taken = core.adu smb.transferId a pdu) ∨
      ret < 0 ∧ ∀ a pdu, smb.Admits a → o.taken ≠ core.adu smb.transferId a pdu)

/-- The error of a reader is what the wait returns, and the context stays as it is. -/
theorem SlaveEnds.of_error {core : Core} {smb smb' : Smb σ} {o : Outcome UInt8 Int} {ret e : Int}
    (h : SlaveEnds core smb o ret smb') (he : o.error = some e) : ret = e ∧ smb' = smb := by
  rcases h with ⟨e', he', -, hret, hsmb⟩ | ⟨hnone, -⟩
  · exact ⟨hret.trans (Option.some.inj (he'.symm.trans he)), hsmb⟩
  · rw [hnone] at he
    cases he

theorem ConfirmEnds.of_error {core : Core} {smb : Smb σ} {o : Outcome UInt8 Int} {ret e : Int}
    (h : ConfirmEnds core smb o ret) (he : o.error = some e) : ret = e := by
  rcases h with ⟨e', he', -, hret⟩ | ⟨hnone, -⟩
  · exact hret.trans (Option.some.inj (he'.symm.trans he))
  · rw [hnone] at he
    cases he

section Feed

variable {smb : Smb σ} {core : Core} {port : Port σ} {F : Feed port} (hF : F.Clean)
  (h : Ready smb core port) (old : Buffer UInt8 n)

include hF h

/-- The reception loop with the step table of a format, from an empty frame. -/
theorem receive_feed {next : NextWant n} {fmt : Format}
    (hfol : Follows next old (framePull core fmt) 0 ((core.lenHeader + 1 : Nat) : Int) []) (fuel : Nat)
    (w : σ) (t : Int) :
    receiveLoop next smb fuel w old 0 (core.lenHeader + 1) 0 t = .error .fuel ∨
    ∃ o w', receiveLoop next smb fuel w old 0 (core.lenHeader + 1) 0 t =
        .ok (exitOf [] o, w', old.fill o.taken) ∧ F.Received (framePull core fmt) w w' o ∧
      ((∃ e, o.error = some e ∧ e < 0 ∧ exitOf [] o = .error e) ∨
        o.error = none ∧ exitOf [] o = .ok (o.taken.length : Nat) ∧
          ∃ hd pdu ck, o.taken = hd ++ pdu ++ ck ∧ hd.length = core.lenHeader ∧
            ck.length = core.lenChecksum ∧ fmt.Sized pdu ∧ o.taken.length ≤ modbusMaxAduLength) := by
  have hloop := receiveLoop_feed hF h _ old _ fuel w 0 _ [] t hfol
  rw [Buffer.fill_nil] at hloop
  have hcast : ((core.lenHeader + 1 : Nat) : Int) = core.lenHeader + 1 := by push_cast; rfl
  rw [hcast] at hloop
  rcases hloop with hfuel | ⟨o, w', hrun, hrec⟩
  · exact Or.inl hfuel
  right
  refine ⟨o, w', hrun, hrec, ?_⟩
  cases herr : o.error with
  | some e =>
    left
    refine ⟨e, rfl, ?_, by rw [exitOf, herr]⟩
    rcases hrec.ends with hends | ⟨-, code, -, -, hcode, hneg, -⟩
    · rw [herr] at hends
      have hrunE := Pull.run_of_ends (-1 : Int) hends []
      exact framePull_error_neg (show (-1 : Int) < 0 by decide) (congrArg Outcome.error hrunE)
    · rw [herr] at hcode
      obtain rfl := Option.some.inj hcode
      exact hneg
  | none =>
    right
    refine ⟨rfl, by rw [exitOf, herr, List.length_nil, Nat.zero_add], ?_⟩
    rcases hrec.ends with hends | ⟨-, code, -, -, hcode, -⟩
    · rw [herr] at hends
      exact framePull_accepts_iff.mp (Pull.ends_none_iff.mp hends)
    · rw [herr] at hcode
      cases hcode

/-- On a patient port the loop returns. -/
theorem receive_patient {next : NextWant n} {fmt : Format}
    (hfol : Follows next old (framePull core fmt) 0 ((core.lenHeader + 1 : Nat) : Int) []) {bound fuel : Nat} {w : σ}
    (hpat : F.Patient bound w) (t : Int) (hfuel : bound + 2 * n + 1 < fuel) :
    receiveLoop next smb fuel w old 0 (core.lenHeader + 1) 0 t ≠ .error .fuel := by
  have hloop := receiveLoop_returns hF h _ old _ fuel w 0 _ [] t hpat hfol hfuel
  rw [Buffer.fill_nil] at hloop
  exact_mod_cast hloop

variable (hn : modbusMaxAduLength ≤ n)

include hn

/-- **`modbus_slave_wait` on a feed**: it never leaves its buffer, and when it returns, the buffer holds
what the port handed over. -/
theorem modbusSlaveWait_feed (fuel : Nat) (w : σ) (t : Int) :
    modbusSlaveWait fuel smb w old t = .error .fuel ∨
    ∃ o ret smb' w', modbusSlaveWait fuel smb w old t = .ok (ret, smb', w', old.fill o.taken) ∧
      F.Received (framePull core slaveFormat) w w' o ∧ SlaveEnds core smb o ret smb' ∧
      (o.error = none → core.checkWaitRequest smb (old.fill o.taken) (o.taken.length : Nat) =
        .ok (ret, smb')) := by
  unfold modbusSlaveWait
  simp only [h.contextCheck, ne_eq, not_true, if_false, h.coreOf, exec_ok_bind]
  rcases receive_feed hF h old (follows_slave core old hn) fuel w t with
    hfuel | ⟨o, w', hrun, hrec, ⟨e, herr, hneg, hexit⟩ | ⟨herr, hexit, hd, pdu, ck, ht, hhd, hck, hsize, hlen⟩⟩
  · left
    rw [hfuel, exec_error_bind]
  · right
    rw [hrun, hexit]
    refine ⟨o, e, smb, w', rfl, hrec, Or.inl ⟨e, herr, hneg, rfl, rfl⟩, ?_⟩
    rw [herr]
    exact fun hnone => by cases hnone
  · right
    obtain ⟨ret, smb', hcheck, hcase⟩ := checkWaitRequest_eq core smb old ht hhd hck hn hlen
    rw [hrun, hexit, exec_ok_bind]
    dsimp only
    rw [hcheck, exec_ok_bind]
    refine ⟨o, ret, smb', w', rfl, hrec, Or.inr ⟨herr, hcase.imp_left ?_⟩, fun _ => hcheck⟩
    rintro ⟨hret, a, tid, ha, hadu, hsmb⟩
    exact ⟨hret, a, tid, pdu, ha, hsize, hadu, hsmb⟩

/-- On a patient port `modbus_slave_wait` returns. -/
theorem modbusSlaveWait_patient {bound fuel : Nat} {w : σ} (hpat : F.Patient bound w) (t : Int)
    (hfuel : bound + 2 * n + 1 < fuel) : modbusSlaveWait fuel smb w old t ≠ .error .fuel := by
  intro hrun
  unfold modbusSlaveWait at hrun
  simp only [h.contextCheck, ne_eq, not_true, if_false, h.coreOf, exec_ok_bind] at hrun
  rcases receive_feed hF h old (follows_slave core old hn) fuel w t with
    hout | ⟨o, w', hok, -, ⟨e, -, -, hexit⟩ | ⟨-, hexit, hd, pdu, ck, ht, hhd, hck, -, hlen⟩⟩
  · exact receive_patient hF h old (follows_slave core old hn) hpat t hfuel hout
  · rw [hok, hexit] at hrun
    cases hrun
  · obtain ⟨ret, smb', hcheck, -⟩ := checkWaitRequest_eq core smb old ht hhd hck hn hlen
    rw [hok, hexit, exec_ok_bind] at hrun
    dsimp only at hrun
    rw [hcheck] at hrun
    cases hrun

/-- **`modbus_wait_confirm` on a feed**, in the same way. -/
theorem modbusWaitConfirm_feed (fuel : Nat) (w : σ) :
    modbusWaitConfirm fuel smb w old = .error .fuel ∨
    ∃ o ret w', modbusWaitConfirm fuel smb w old = .ok (ret, w', old.fill o.taken) ∧
      F.Received (framePull core confirmFormat) w w' o ∧ ConfirmEnds core smb o ret ∧
      (o.error = none → core.checkWaitResponse smb (old.fill o.taken) (o.taken.length : Nat) = .ok ret) := by
  unfold modbusWaitConfirm
  simp only [h.contextCheck, ne_eq, not_true, if_false, h.coreOf, exec_ok_bind]
  rcases receive_feed hF h old (follows_confirm core old hn) fuel w (toI32 smb.timeoutFrame) with
    hfuel | ⟨o, w', hrun, hrec, ⟨e, herr, hneg, hexit⟩ | ⟨herr, hexit, hd, pdu, ck, ht, hhd, hck, hsize, hlen⟩⟩
  · left
    rw [hfuel, exec_error_bind]
  · right
    rw [hrun, hexit]
    refine ⟨o, e, w', rfl, hrec, Or.inl ⟨e, herr, hneg, rfl⟩, ?_⟩
    rw [herr]
    exact fun hnone => by cases hnone
  · right
    obtain ⟨ret, hcheck, hcase⟩ := checkWaitResponse_eq core smb old ht hhd hck hn hlen
    rw [hrun, hexit, exec_ok_bind]
    dsimp only
    rw [hcheck, exec_ok_bind]
    refine ⟨o, ret, w', rfl, hrec, Or.inr ⟨herr, hcase.imp_left ?_⟩, fun _ => hcheck⟩
    rintro ⟨hret, a, ha, hadu⟩
    exact ⟨hret, a, pdu, ha, hsize, hadu⟩

/-- On a patient port `modbus_wait_confirm` returns. -/
theorem modbusWaitConfirm_patient {bound fuel : Nat} {w : σ} (hpat : F.Patient bound w)
    (hfuel : bound + 2 * n + 1 < fuel) : modbusWaitConfirm fuel smb w old ≠ .error .fuel := by
  intro hrun
  unfold modbusWaitConfirm at hrun
  simp only [h.contextCheck, ne_eq, not_true, if_false, h.coreOf, exec_ok_bind] at hrun
  rcases receive_feed hF h old (follows_confirm core old hn) fuel w (toI32 smb.timeoutFrame) with
    hout | ⟨o, w', hok, -, ⟨e, -, -, hexit⟩ | ⟨-, hexit, hd, pdu, ck, ht, hhd, hck, -, hlen⟩⟩
  · exact receive_patient hF h old (follows_confirm core old hn) hpat _ hfuel hout
  · rw [hok, hexit] at hrun
    cases hrun
  · obtain ⟨ret, hcheck, -⟩ := checkWaitResponse_eq core smb old ht hhd hck hn hlen
    rw [hok, hexit, exec_ok_bind] at hrun
    dsimp only at hrun
    rw [hcheck] at hrun
    cases hrun

end Feed

section Wait

variable {smb : Smb σ} {core : Core} {port : Port σ} (L : Line port) (h : Ready smb core port)
  (old : Buffer UInt8 n) (hn : modbusMaxAduLength ≤ n)

include h L hn

/-- **`modbus_slave_wait` on a line**: it leaves what the reader of its format leaves on the stream cut
off somewhere, and on a prompt line on the whole stream. -/
theorem modbusSlaveWait_line {code₀ : Int} (h₀ : code₀ < 0) {fuel : Nat} {w w' : σ} {t ret : Int}
    {smb' : Smb σ} {buff' : Buffer UInt8 n}
    (hrun : modbusSlaveWait fuel smb w old t = .ok (ret, smb', w', buff')) :
    ∃ (cut : Nat) (code : Int) (o : Outcome UInt8 Int), cut ≤ (L.rem w).length ∧
      (L.Prompt → cut = (L.rem w).length) ∧ (L.Steady code₀ → code = code₀) ∧
      o = (framePull core slaveFormat).run code ((L.rem w).take cut) ∧
      buff' = old.fill o.taken ∧ L.rem w' = (L.rem w).drop o.taken.length ∧
      SlaveEnds core smb o ret smb' ∧
      (o.error = none → core.checkWaitRequest smb (old.fill o.taken) (o.taken.length : Nat) =
        .ok (ret, smb')) := by
  rcases modbusSlaveWait_feed L.clean h old hn fuel w t with hfuel | ⟨o, ret₁, smb₁, w₁, hok, hrec, hends, hcheck⟩
  · rw [hfuel] at hrun
    cases hrun
  rw [hok] at hrun
  cases hrun
  obtain ⟨cut, code, hcut, -, hp, hst, herr, htaken, hrem⟩ := Received.on_line hrec h₀
  refine ⟨cut, code, _, hcut, hp, hst, rfl, by rw [htaken], by rw [htaken, hrem], ?_, ?_⟩
  · unfold SlaveEnds
    rw [herr, htaken]
    exact hends
  · rw [herr, htaken]
    exact hcheck

/-- On a fair line `modbus_slave_wait` returns. -/
theorem modbusSlaveWait_returns {rank : σ → Nat} (hf : L.Fair rank) {fuel : Nat} {w : σ} (t : Int)
    (hfuel : rank w + 2 * n + 1 < fuel) : ∃ x, modbusSlaveWait fuel smb w old t = .ok x := by
  have hne := modbusSlaveWait_patient L.clean h old hn (hf.feed.patient L.clean w) t hfuel
  rcases modbusSlaveWait_feed L.clean h old hn fuel w t with hout | ⟨o, ret, smb', w', hok, -⟩
  · exact absurd hout hne
  · exact ⟨_, hok⟩

/-- **`modbus_wait_confirm` on a line**, in the same way. -/
theorem modbusWaitConfirm_line {code₀ : Int} (h₀ : code₀ < 0) {fuel : Nat} {w w' : σ} {ret : Int}
    {buff' : Buffer UInt8 n} (hrun : modbusWaitConfirm fuel smb w old = .ok (ret, w', buff')) :
    ∃ (cut : Nat) (code : Int) (o : Outcome UInt8 Int), cut ≤ (L.rem w).length ∧
      (L.Prompt → cut = (L.rem w).length) ∧ (L.Steady code₀ → code = code₀) ∧
      o = (framePull core confirmFormat).run code ((L.rem w).take cut) ∧
      buff' = old.fill o.taken ∧ L.rem w' = (L.rem w).drop o.taken.length ∧
      ConfirmEnds core smb o ret ∧
      (o.error = none → core.checkWaitResponse smb (old.fill o.taken) (o.taken.length : Nat) =
        .ok ret) := by
  rcases modbusWaitConfirm_feed L.clean h old hn fuel w with hfuel | ⟨o, ret₁, w₁, hok, hrec, hends, hcheck⟩
  · rw [hfuel] at hrun
    cases hrun
  rw [hok] at hrun
  cases hrun
  obtain ⟨cut, code, hcut, -, hp, hst, herr, htaken, hrem⟩ := Received.on_line hrec h₀
  refine ⟨cut, code, _, hcut, hp, hst, rfl, by rw [htaken], by rw [htaken, hrem], ?_, ?_⟩
  · unfold ConfirmEnds
    rw [herr, htaken]
    exact hends
  · rw [herr, htaken]
    exact hcheck

/-- On a fair line `modbus_wait_confirm` returns. -/
theorem modbusWaitConfirm_returns {rank : σ → Nat} (hf : L.Fair rank) {fuel : Nat} {w : σ}
    (hfuel : rank w + 2 * n + 1 < fuel) : ∃ x, modbusWaitConfirm fuel smb w old = .ok x := by
  have hne := modbusWaitConfirm_patient L.clean h old hn (hf.feed.patient L.clean w) hfuel
  rcases modbusWaitConfirm_feed L.clean h old hn fuel w with hout | ⟨o, ret, w', hok, -⟩
  · exact absurd hout hne
  · exact ⟨_, hok⟩

/-- The wait for a confirmation preserves what reads and waits preserve. -/
theorem modbusWaitConfirm_preserves {P : σ → Prop} (hP : L.Preserves P) {fuel : Nat} {w : σ}
    {x : Int × σ × Buffer UInt8 n} (hrun : modbusWaitConfirm fuel smb w old = .ok x) (hw : P w) :
    P x.2.1 := by
  rcases modbusWaitConfirm_feed L.clean h old hn fuel w with hfuel | ⟨o, ret, w', hok, hrec, -⟩
  · rw [hfuel] at hrun
    cases hrun
  · rw [hok] at hrun
    cases hrun
    exact hrec.session.preserves hP.feed hw

/-- So does the slave's wait for a request. -/
theorem modbusSlaveWait_preserves {P : σ → Prop} (hP : L.Preserves P) {fuel : Nat} {w : σ} {t : Int}
    {x : Int × Smb σ × σ × Buffer UInt8 n} (hrun : modbusSlaveWait fuel smb w old t = .ok x) (hw : P w) :
    P x.2.2.1 := by
  rcases modbusSlaveWait_feed L.clean h old hn fuel w t with hfuel | ⟨o, ret, smb', w', hok, hrec, -⟩
  · rw [hfuel] at hrun
    cases hrun
  · rw [hok] at hrun
    cases hrun
    exact hrec.session.preserves hP.feed hw

/-! ### A frame followed by other bytes -/

/-- On a prompt line `modbus_slave_wait` takes the word on which its reader ends, and nothing behind it. -/
theorem modbusSlaveWait_word (hp : L.Prompt) {word rest : List UInt8} {r : Option Int}
    (hword : (framePull core slaveFormat).Ends word r) {fuel : Nat} {w w' : σ} {t ret : Int} {smb' : Smb σ}
    {buff' : Buffer UInt8 n} (hrem : L.rem w = word ++ rest)
    (hrun : modbusSlaveWait fuel smb w old t = .ok (ret, smb', w', buff')) :
    buff' = old.fill word ∧ L.rem w' = rest ∧ SlaveEnds core smb ⟨r, word, rest⟩ ret smb' := by
  obtain ⟨cut, code, o, -, hcut, -, ho, rfl, hrem', hends, -⟩ :=
    modbusSlaveWait_line L h old hn (show (-1 : Int) < 0 by decide) hrun
  obtain rfl := hcut hp
  rw [List.take_length, hrem, Pull.run_of_ends code hword] at ho
  subst ho
  refine ⟨rfl, ?_, hends⟩
  rw [hrem', hrem, List.drop_left]

/-- **A request frame is received** whole and alone. -/
theorem modbusSlaveWait_adu (hp : L.Prompt) {tid : UInt16} {a : UInt8} {pdu rest : List UInt8}
    (ha : smb.Admits a) (hsize : slaveFormat.Sized pdu)
    (hlen : (core.adu tid a pdu).length ≤ modbusMaxAduLength) {fuel : Nat} {w w' : σ} {t ret : Int}
    {smb' : Smb σ} {buff' : Buffer UInt8 n} (hrem : L.rem w = core.adu tid a pdu ++ rest)
    (hrun : modbusSlaveWait fuel smb w old t = .ok (ret, smb', w', buff')) :
    ret = ((core.adu tid a pdu).length : Nat) ∧ smb' = core.adopt smb tid ∧
      buff' = old.fill (core.adu tid a pdu) ∧ L.rem w' = rest := by
  have hword : (framePull core slaveFormat).Ends (core.adu tid a pdu) none :=
    Pull.ends_none_iff.mpr (framePull_accepts_adu hsize hlen)
  obtain ⟨hfill, hrest, hends⟩ := modbusSlaveWait_word L h old hn hp hword hrem hrun
  rcases hends with ⟨e, he, -⟩ | ⟨-, ⟨hret, a', tid', pdu', -, -, hadu, hsmb⟩ | ⟨-, -, hnot⟩⟩
  · cases he
  · obtain ⟨-, -, hadopt⟩ := Core.adu_inj (σ := σ) hadu
    exact ⟨hret, hsmb.trans (hadopt smb).symm, hfill, hrest⟩
  · exact absurd rfl (hnot a tid pdu ha)

/-- Whatever the line does, a request is accepted only as the frame the stream begins with. -/
theorem modbusSlaveWait_accepted {tid : UInt16} {a : UInt8} {pdu rest : List UInt8}
    (hsize : slaveFormat.Sized pdu) (hlen : (core.adu tid a pdu).length ≤ modbusMaxAduLength) {fuel : Nat}
    {w w' : σ} {t ret : Int} {smb' : Smb σ} {buff' : Buffer UInt8 n}
    (hrem : L.rem w = core.adu tid a pdu ++ rest)
    (hrun : modbusSlaveWait fuel smb w old t = .ok (ret, smb', w', buff')) (hret : 0 ≤ ret) :
    ret = ((core.adu tid a pdu).length : Nat) ∧ smb' = core.adopt smb tid ∧
      buff' = old.fill (core.adu tid a pdu) ∧ L.rem w' = rest := by
  obtain ⟨cut, code, o, -, -, -, ho, rfl, hrem', hends, -⟩ :=
    modbusSlaveWait_line L h old hn (show (-1 : Int) < 0 by decide) hrun
  rcases hends with ⟨e, -, hneg, rfl, -⟩ | ⟨hnone, ⟨rfl, a', tid', pdu', -, -, hadu, rfl⟩ | ⟨hneg, -⟩⟩
  · omega
  · subst ho
    have hpre : ((framePull core slaveFormat).run code ((L.rem w).take cut)).taken <+: L.rem w :=
      List.IsPrefix.trans ⟨_, Pull.taken_append_rest code _ _⟩ (List.take_prefix cut _)
    have hsame := Pull.Accepts.prefix_unique (Pull.accepts_of_run code hnone)
      (framePull_accepts_adu hsize hlen) hpre ⟨rest, hrem.symm⟩
    obtain ⟨-, -, hadopt⟩ := Core.adu_inj (σ := σ) (hadu.symm.trans hsame)
    refine ⟨by rw [hsame], hadopt smb, by rw [hsame], ?_⟩
    rw [hrem', hsame, hrem, List.drop_left]
  · omega

/-- On a prompt line `modbus_wait_confirm` takes the word on which its reader ends, and nothing behind it. -/
theorem modbusWaitConfirm_word (hp : L.Prompt) {word rest : List UInt8} {r : Option Int}
    (hword : (framePull core confirmFormat).Ends word r) {fuel : Nat} {w w' : σ} {ret : Int}
    {buff' : Buffer UInt8 n} (hrem : L.rem w = word ++ rest)
    (hrun : modbusWaitConfirm fuel smb w old = .ok (ret, w', buff')) :
    buff' = old.fill word ∧ L.rem w' = rest ∧ ConfirmEnds core smb ⟨r, word, rest⟩ ret := by
  obtain ⟨cut, code, o, -, hcut, -, ho, rfl, hrem', hends, -⟩ :=
    modbusWaitConfirm_line L h old hn (show (-1 : Int) < 0 by decide) hrun
  obtain rfl := hcut hp
  rw [List.take_length, hrem, Pull.run_of_ends code hword] at ho
  subst ho
  refine ⟨rfl, ?_, hends⟩
  rw [hrem', hrem, List.drop_left]

/-- **A response frame is received** whole and alone, if it is of this transaction. -/
theorem modbusWaitConfirm_adu (hp : L.Prompt) {a : UInt8} {pdu rest : List UInt8}
    (ha : smb.Admits a) (hsize : confirmFormat.Sized pdu)
    (hlen : (core.adu smb.transferId a pdu).length ≤ modbusMaxAduLength) {fuel : Nat} {w w' : σ}
    {ret : Int} {buff' : Buffer UInt8 n} (hrem : L.rem w = core.adu smb.transferId a pdu ++ rest)
    (hrun : modbusWaitConfirm fuel smb w old = .ok (ret, w', buff')) :
    ret = ((core.adu smb.transferId a pdu).length : Nat) ∧
      buff' = old.fill (core.adu smb.transferId a pdu) ∧ L.rem w' = rest := by
  have hword : (framePull core confirmFormat).Ends (core.adu smb.transferId a pdu) none :=
    Pull.ends_none_iff.mpr (framePull_accepts_adu hsize hlen)
  obtain ⟨hfill, hrest, hends⟩ := modbusWaitConfirm_word L h old hn hp hword hrem hrun
  rcases hends with ⟨e, he, -⟩ | ⟨-, ⟨hret, -⟩ | ⟨-, hnot⟩⟩
  · cases he
  · exact ⟨hret, hfill, hrest⟩
  · exact absurd rfl (hnot a pdu ha)

/-- A response frame at the head of the stream is taken whole also when it is refused. If it is accepted it
is of this transaction. -/
theorem modbusWaitConfirm_next (hp : L.Prompt) {tid : UInt16} {a : UInt8} {pdu rest frame : List UInt8}
    (hframe : frame = core.adu tid a pdu) (hsize : confirmFormat.Sized pdu)
    (hlen : frame.length ≤ modbusMaxAduLength) {fuel : Nat} {w w' : σ} {ret : Int} {buff' : Buffer UInt8 n}
    (hrem : L.rem w = frame ++ rest) (hrun : modbusWaitConfirm fuel smb w old = .ok (ret, w', buff')) :
    L.rem w' = rest ∧ (0 ≤ ret → ret = (frame.length : Nat) ∧ buff' = old.fill frame ∧
      ∃ a' pdu', frame = core.adu smb.transferId a' pdu') := by
  subst hframe
  have hword : (framePull core confirmFormat).Ends (core.adu tid a pdu) none :=
    Pull.ends_none_iff.mpr (framePull_accepts_adu hsize hlen)
  obtain ⟨hfill, hrest, hends⟩ := modbusWaitConfirm_word L h old hn hp hword hrem hrun
  refine ⟨hrest, fun hret => ?_⟩
  rcases hends with ⟨e, he, -⟩ | ⟨-, ⟨hlength, a', pdu', -, -, heq⟩ | ⟨hneg, -⟩⟩
  · cases he
  · exact ⟨hlength, hfill, a', pdu', heq⟩
  · omega

end Wait

/-! ## §4 — fragmentation does not show. -/

section SameStream

variable {τ : Type} {core : Core} {port : Port σ} {port₂ : Port τ} {L : Line port} {L₂ : Line port₂} {code : Int}
  (hs : L.Steady code) (hs₂ : L₂.Steady code) {smb : Smb σ} {smb₂ : Smb τ} (h : Ready smb core port)
  (h₂ : Ready smb₂ core port₂) (haddr : smb.slaveAddr = smb₂.slaveAddr) (htid : smb.transferId = smb₂.transferId)
  {old : Buffer UInt8 n} (hn : modbusMaxAduLength ≤ n) {w w' : σ} {w₂ w₂' : τ} (hrem : L.rem w = L₂.rem w₂)
  {fuel fuel₂ : Nat} {ret ret₂ : Int} {buff buff₂ : Buffer UInt8 n}

include hs hs₂ h h₂ haddr htid hn hrem

theorem modbusSlaveWait_sameStream {t t₂ : Int} {smb' : Smb σ} {smb₂' : Smb τ}
    (hrun : modbusSlaveWait fuel smb w old t = .ok (ret, smb', w', buff))
    (hrun₂ : modbusSlaveWait fuel₂ smb₂ w₂ old t₂ = .ok (ret₂, smb₂', w₂', buff₂)) :
    ret = ret₂ ∧ buff = buff₂ ∧ smb'.transferId = smb₂'.transferId ∧ L.rem w' = L₂.rem w₂' := by
  obtain ⟨cut, c, o, -, hcut, hc, ho, hbuff, hrest, hends, hcheck⟩ :=
    modbusSlaveWait_line L h old hn hs.code_neg hrun
  obtain ⟨cut₂, c₂, o₂, -, hcut₂, hc₂, ho₂, hbuff₂, hrest₂, hends₂, hcheck₂⟩ :=
    modbusSlaveWait_line L₂ h₂ old hn hs₂.code_neg hrun₂
  rw [hcut hs.prompt, hc hs, List.take_length, hrem] at ho
  rw [hcut₂ hs₂.prompt, hc₂ hs₂, List.take_length] at ho₂
  obtain rfl : o = o₂ := ho.trans ho₂.symm
  have hsame : ret = ret₂ ∧ smb'.transferId = smb₂'.transferId := by
    cases he : o.error with
    | some e =>
      obtain ⟨rfl, rfl⟩ := hends.of_error he
      obtain ⟨rfl, rfl⟩ := hends₂.of_error he
      exact ⟨rfl, htid⟩
    | none => exact checkWaitRequest_congr haddr htid (hcheck he) (hcheck₂ he)
  exact ⟨hsame.1, hbuff.trans hbuff₂.symm, hsame.2, by rw [hrest, hrest₂, hrem]⟩

theorem modbusWaitConfirm_sameStream (hrun : modbusWaitConfirm fuel smb w old = .ok (ret, w', buff))
    (hrun₂ : modbusWaitConfirm fuel₂ smb₂ w₂ old = .ok (ret₂, w₂', buff₂)) :
    ret = ret₂ ∧ buff = buff₂ ∧ L.rem w' = L₂.rem w₂' := by
  obtain ⟨cut, c, o, -, hcut, hc, ho, hbuff, hrest, hends, hcheck⟩ :=
    modbusWaitConfirm_line L h old hn hs.code_neg hrun
  obtain ⟨cut₂, c₂, o₂, -, hcut₂, hc₂, ho₂, hbuff₂, hrest₂, hends₂, hcheck₂⟩ :=
    modbusWaitConfirm_line L₂ h₂ old hn hs₂.code_neg hrun₂
  rw [hcut hs.prompt, hc hs, List.take_length, hrem] at ho
  rw [hcut₂ hs₂.prompt, hc₂ hs₂, List.take_length] at ho₂
  obtain rfl : o = o₂ := ho.trans ho₂.symm
  refine ⟨?_, hbuff.trans hbuff₂.symm, by rw [hrest, hrest₂, hrem]⟩
  cases he : o.error with
  | some e => exact (hends.of_error he).trans (hends₂.of_error he).symm
  | none =>
    have hsame := hcheck he
    rw [checkWaitResponse_congr haddr htid, hcheck₂ he] at hsame
    exact (Except.ok.inj hsame).symm

end SameStream

/-- **Fragmentation independence.** Two steady ports that hold the same stream and time out with the
same code, however differently they hand it over: `modbus_slave_wait` returns the same value, leaves the
same buffer, the same transaction id and the same unread rest, and so does `modbus_wait_confirm`. On a
fair port both return. -/
theorem wait_fragmentation {τ : Type} {core : Core} {port : Port σ} {port₂ : Port τ} (L : Line port)
    (L₂ : Line port₂) {code : Int} (hs : L.Steady code) (hs₂ : L₂.Steady code) {smb : Smb σ}
    {smb₂ : Smb τ} (h : Ready smb core port) (h₂ : Ready smb₂ core port₂)
    (haddr : smb.slaveAddr = smb₂.slaveAddr) (htid : smb.transferId = smb₂.transferId)
    (old : Buffer UInt8 n) (hn : modbusMaxAduLength ≤ n) (w : σ) (w₂ : τ) (hrem : L.rem w = L₂.rem w₂)
    (t t₂ : Int) :
    (∀ {fuel fuel₂ ret ret₂ smb' smb₂' w' w₂' buff buff₂},
      modbusSlaveWait fuel smb w old t = .ok (ret, smb', w', buff) →
      modbusSlaveWait fuel₂ smb₂ w₂ old t₂ = .ok (ret₂, smb₂', w₂', buff₂) →
      ret = ret₂ ∧ buff = buff₂ ∧ smb'.transferId = smb₂'.transferId ∧ L.rem w' = L₂.rem w₂') ∧
    (∀ {fuel fuel₂ ret ret₂ w' w₂' buff buff₂},
      modbusWaitConfirm fuel smb w old = .ok (ret, w', buff) →
      modbusWaitConfirm fuel₂ smb₂ w₂ old = .ok (ret₂, w₂', buff₂) →
      ret = ret₂ ∧ buff = buff₂ ∧ L.rem w' = L₂.rem w₂') ∧
    (∀ rank, L.Fair rank → ∀ fuel, rank w + 2 * n + 1 < fuel →
      (∃ x, modbusSlaveWait fuel smb w old t = .ok x) ∧ ∃ x, modbusWaitConfirm fuel smb w old = .ok x) := by
  refine ⟨?_, ?_, ?_⟩
  · intro fuel fuel₂ ret ret₂ smb' smb₂' w' w₂' buff buff₂ hrun hrun₂
    exact modbusSlaveWait_sameStream hs hs₂ h h₂ haddr htid hn hrem hrun hrun₂
  · intro fuel fuel₂ ret ret₂ w' w₂' buff buff₂ hrun hrun₂
    exact modbusWaitConfirm_sameStream hs hs₂ h h₂ haddr htid hn hrem hrun hrun₂
  · intro rank hf fuel hfuel
    exact ⟨modbusSlaveWait_returns L h old hn hf t hfuel, modbusWaitConfirm_returns L h old hn hf hfuel⟩

/-- Seven bytes of no request, in one piece and cut with stalls. -/
theorem wait_fragmentation_garbage :
    ∃ x x₂, modbusSlaveWait 600 (newContext .rtu Wire.port 1) ⟨[1, 3, 0, 0, 9, 9, 9], [], []⟩
        (Buffer.replicate 260 0) 5 = .ok x ∧
      modbusSlaveWait 600 (newContext .rtu Wire.port 1) ⟨[1, 3, 0, 0, 9, 9, 9], [0, 1, 0, 2, 1], []⟩
        (Buffer.replicate 260 0) 7 = .ok x₂ ∧
      x.1 = x₂.1 ∧ x.2.2.2 = x₂.2.2.2 ∧ x.2.2.1.rx = x₂.2.2.1.rx := by
  have hw : (newContext Core.rtu Wire.port 1).slaveAddr = (newContext Core.rtu Wire.port 1).slaveAddr := rfl
  obtain ⟨hslave, -, hret⟩ := wait_fragmentation Wire.line Wire.line Wire.steady Wire.steady
    (newContext_ready .rtu Wire.port 1) (newContext_ready .rtu Wire.port 1) hw rfl
    (Buffer.replicate 260 0) (by decide) ⟨[1, 3, 0, 0, 9, 9, 9], [], []⟩
    ⟨[1, 3, 0, 0, 9, 9, 9], [0, 1, 0, 2, 1], []⟩ rfl 5 7
  obtain ⟨-, -, hret₂⟩ := wait_fragmentation Wire.line Wire.line Wire.steady Wire.steady
    (newContext_ready .rtu Wire.port 1) (newContext_ready .rtu Wire.port 1) hw rfl
    (Buffer.replicate 260 0) (by decide) ⟨[1, 3, 0, 0, 9, 9, 9], [0, 1, 0, 2, 1], []⟩
    ⟨[1, 3, 0, 0, 9, 9, 9], [], []⟩ rfl 7 5
  obtain ⟨⟨x, hx⟩, -⟩ := hret _ Wire.fair 600 (by decide)
  obtain ⟨⟨x₂, hx₂⟩, -⟩ := hret₂ _ Wire.fair 600 (by decide)
  obtain ⟨h1, h2, -, h4⟩ := hslave hx hx₂
  exact ⟨x, x₂, hx, hx₂, h1, h2, h4⟩

end SmallModbus
