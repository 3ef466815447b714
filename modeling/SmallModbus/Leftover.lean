/-
# `SmallModbus.Leftover` — what an earlier reply leaves in a later one.

A reply is assembled in the buffer of the last one, and a callback that sets its coils bit by bit with
`dio_set_val` leaves the other bits as they are. `setCoils_reply` says which bits those are in the reply,
and `reply_leak_iff` when there are none.
-/
import SmallModbus.Answers
import SmallModbus.Bank

namespace SmallModbus

open SmallModbus.Lib

variable {σ κ : Type} {n : Nat}

/-! ## §1 — callbacks that set coils. -/

/-- `dio_set_val` at each position of a list. -/
def dioSetAll (status : Nat → Int) : List Nat → List UInt8 → Exec (List UInt8)
  | [], data => .ok data
  | i :: l, data => do
      let data ← dioSetVal data (UInt16.ofNat i) (status i)
      dioSetAll status l data

/-- The bits at these positions are set, and the others are left alone. -/
theorem dioSetAll_eq (status : Nat → Int) :
    ∀ (l : List Nat) (data : List UInt8), (∀ i ∈ l, i < 2048 ∧ i / 8 < data.length) →
      ∃ data', dioSetAll status l data = .ok data' ∧ data'.length = data.length ∧
        ∀ j, bitAt data' j = if j ∈ l then decide (status j ≠ 0) else bitAt data j := by
  intro l
  induction l with
  | nil =>
    intro data _
    exact ⟨data, rfl, rfl, fun j => (if_neg List.not_mem_nil).symm⟩
  | cons i l ih =>
    intro data hl
    obtain ⟨hi, hlen⟩ := hl i List.mem_cons_self
    obtain ⟨data', hrun, hsize, hbit⟩ := ih (setBit data i (decide (status i ≠ 0))) (by
      intro j hj
      rw [length_setBit]
      exact hl j (List.mem_cons_of_mem i hj))
    refine ⟨data', ?_, hsize.trans (length_setBit _ _ _), fun j => ?_⟩
    · rw [dioSetAll, dioSetVal_eq hi hlen, exec_ok_bind, hrun]
    · rw [hbit j, bitAt_setBit hlen]
      -- a position that is set again gets the same bit again
      by_cases hj : j ∈ l
      · rw [if_pos hj, if_pos (List.mem_cons_of_mem i hj)]
      · rw [if_neg hj]
        by_cases hij : i = j
        · subst hij
          rw [if_pos rfl, if_pos List.mem_cons_self]
        · rw [if_neg hij, if_neg (by rw [List.mem_cons]; exact fun h => h.elim (fun h => hij h.symm) hj)]

/-- **A callback that sets the coils it is asked for**, each with `dio_set_val`, in any order, and no other
bit, and returns their number. The values may depend on everything but the buffer. -/
def SetsCoils (cb : SlaveCallback κ) (status : κ → Int → Int → Nat → Int) : Prop :=
  ∀ (app : κ) (function addr : Int) (num : Nat) (data : List UInt8),
    function = modbusFcReadHoldingCoils ∨ function = modbusFcReadInputsCoils → 0 < num →
    num ≤ modbusMaxReadBits → byteCount num ≤ data.length →
    (cb.call app function addr num data).1 = num ∧
      ∃ l, (∀ i, i ∈ l ↔ i < num) ∧
        dioSetAll (status app function addr) l data = .ok (cb.call app function addr num data).2.1

/-- The bits such a callback leaves in its buffer. -/
theorem SetsCoils.bits {cb : SlaveCallback κ} {status : κ → Int → Int → Nat → Int}
    (h : SetsCoils cb status) (app : κ) {function : Int} (addr : Int) {num : Nat} {data : List UInt8}
    (hf : function = modbusFcReadHoldingCoils ∨ function = modbusFcReadInputsCoils) (hpos : 0 < num)
    (hnum : num ≤ modbusMaxReadBits) (hdata : byteCount num ≤ data.length) (j : Nat) :
    bitAt (cb.call app function addr num data).2.1 j =
      if j < num then decide (status app function addr j ≠ 0) else bitAt data j := by
  obtain ⟨-, l, hl, hrun⟩ := h app function addr num data hf hpos hnum hdata
  have hmax : modbusMaxReadBits = 2000 := rfl
  have hcount : byteCount num = (num + 7) / 8 := rfl
  obtain ⟨data', hrun', -, hbit⟩ := dioSetAll_eq (status app function addr) l data (by
    intro i hi
    have hlt := (hl i).mp hi
    exact ⟨by omega, by omega⟩)
  rw [hrun] at hrun'
  cases hrun'
  rw [hbit j]
  simp only [hl]

/-- The read loop of a bank sets its coils one after the other. -/
theorem readLoop_dioSetAll (table : Nat → Bool) (addr : Nat) :
    ∀ (left index : Nat) (data : List UInt8), Kind.readLoop .coil table addr left index data =
      dioSetAll (fun i => if table (addr + i) = true then 1 else 0) (List.range' index left) data := by
  intro left
  induction left with
  | zero => exact fun _ _ => rfl
  | succ left ih =>
    intro index data
    rw [Kind.readLoop, List.range'_succ, dioSetAll]
    exact bind_congr fun data' => ih (index + 1) data'

/-- The coils of the two tables that are read bit by bit. -/
def Bank.coilStatus (b : Bank) (function addr : Int) (i : Nat) : Int :=
  if function = modbusFcReadHoldingCoils then if b.coils (addr.toNat + i) = true then 1 else 0
  else if b.inputs (addr.toNat + i) = true then 1 else 0

theorem bankCallback_setsCoils : SetsCoils bankCallback Bank.coilStatus := by
  have hserve : ∀ (table : Nat → Bool) (b : Bank) (addr : Int) (num : Nat) (data : List UInt8),
      num ≤ modbusMaxReadBits → byteCount num ≤ data.length →
      (serveRead .coil table b addr num data).1 = num ∧ ∃ l, (∀ i, i ∈ l ↔ i < num) ∧
        dioSetAll (fun i => if table (addr.toNat + i) = true then 1 else 0) l data =
          .ok (serveRead .coil table b addr num data).2.1 := by
    intro table b addr num data hnum hdata
    have hmax : modbusMaxReadBits = 2000 := rfl
    obtain ⟨data', hloop, -⟩ := Kind.readLoop_eq .coil table addr.toNat num 0 data (by omega)
      (by rw [Nat.zero_add]; exact hdata)
    unfold serveRead
    rw [Int.toNat_natCast, hloop]
    refine ⟨rfl, List.range' 0 num, fun i => ?_, ?_⟩
    · rw [List.mem_range'_1]
      omega
    · rw [← readLoop_dioSetAll]
      exact hloop
  rintro b function addr num data (rfl | rfl) hpos hnum hdata
  · exact hserve b.coils b addr num data hnum hdata
  · exact hserve b.inputs b addr num data hnum hdata

/-! ## §2 — the coils of a reply. -/

section Reply

variable {cb : SlaveCallback κ} {status : κ → Int → Int → Nat → Int} (hset : SetsCoils cb status)
  {q : Query} (hserv : serviceOf q.function = .read .coil) (app : κ)

include hset hserv

/-- **The data of the reply**: the bits that were asked for, then what the buffer held. -/
theorem setCoils_reply (hnum : 0 < q.num.toNat ∧ q.num.toNat ≤ modbusMaxReadBits) (core : Core)
    (smb : Smb σ) (request : Buffer UInt8 n) :
    (q.call core smb request (some cb) app).1 = q.num.toNat ∧
      ∃ items, q.reply smb.slaveAddr (q.call core smb request (some cb) app).1
          (q.call core smb request (some cb) app).2.1 =
        q.function :: toU8 (byteCount q.num.toNat) :: items ∧
      items.length = byteCount q.num.toNat ∧
      ∀ j < 8 * byteCount q.num.toNat, bitAt items j =
        if j < q.num.toNat then decide (status app q.function.toNat q.address.toNat j ≠ 0)
        else bitAt (smb.writeBuff.toList.drop (core.lenHeader + 2)) j := by
  have hh := core.lenHeader_le
  have hmax : modbusMaxAduLength = 260 := rfl
  have hbits : modbusMaxReadBits = 2000 := rfl
  have hcount : byteCount q.num.toNat = (q.num.toNat + 7) / 8 := rfl
  have hrange : 0 < q.num.toNat ∧ q.num.toNat ≤ Kind.maxRead .coil := hnum
  have hcells : byteCount q.num.toNat ≤ (smb.writeBuff.toList.drop (core.lenHeader + 2)).length := by
    rw [List.length_drop, Buffer.length_toList]
    omega
  have hf := serviceOf_read_coil q.function hserv
  have hbit := hset.bits app q.address.toNat hf hnum.1 hnum.2 hcells
  have hret := (hset app q.function.toNat q.address.toNat q.num.toNat _ hf hnum.1 hnum.2 hcells).1
  have hlen := cb.size_eq app q.function.toNat q.address.toNat q.num.toNat
    (smb.writeBuff.toList.drop (core.lenHeader + 2))
  have hcall : q.call core smb request (some cb) app = cb.call app q.function.toNat q.address.toNat
      q.num.toNat (smb.writeBuff.toList.drop (core.lenHeader + 2)) := by
    unfold Query.call Query.items Query.cells
    rw [hserv]
    dsimp only
    rw [if_pos hrange]
    rfl
  rw [hcall, hret]
  refine ⟨rfl, (cb.call app q.function.toNat q.address.toNat q.num.toNat
    (smb.writeBuff.toList.drop (core.lenHeader + 2))).2.1.take (byteCount q.num.toNat), ?_, ?_,
    fun j hj => ?_⟩
  · have hword : (toU16 (q.num.toNat : Int)).toNat = q.num.toNat := toNat_toU16_natCast (by omega)
    unfold Query.reply
    rw [hserv]
    dsimp only
    rw [hword, if_pos hrange, if_pos ⟨by omega, hrange⟩, Int.toNat_natCast]
    rfl
  · rw [List.length_take_of_le (by omega)]
  · rw [bitAt_take (by omega), hbit j]

/-- **What is sent**: for a quantity that is refused the callback is not asked, else the reply carries the
coils, and behind them what the buffer held. -/
theorem setCoils_answers {smb : Smb σ} {core : Core} {port : Port σ} (h : Ready smb core port) (T : Tap port)
    (w : σ) {request : Buffer UInt8 n} (hn : modbusMaxAduLength ≤ n) (hin : q.In core request)
    (requestLen : UInt16) :
    ∃ pdu, (∀ P, AnswersWith T smb w request requestLen (some cb) app P ↔
        P (core.adu smb.transferId smb.slaveAddr pdu)) ∧
      (¬(0 < q.num.toNat ∧ q.num.toNat ≤ modbusMaxReadBits) → pdu = q.reply smb.slaveAddr 0 []) ∧
      (0 < q.num.toNat ∧ q.num.toNat ≤ modbusMaxReadBits → ∃ items,
        pdu = q.function :: toU8 (byteCount q.num.toNat) :: items ∧
        items.length = byteCount q.num.toNat ∧
        ∀ j < 8 * byteCount q.num.toNat, bitAt items j =
          if j < q.num.toNat then decide (status app q.function.toNat q.address.toNat j ≠ 0)
          else bitAt (smb.writeBuff.toList.drop (core.lenHeader + 2)) j) := by
  obtain ⟨⟨r, data, app'⟩, hcall⟩ : ∃ x, q.call core smb request (some cb) app = x := ⟨_, rfl⟩
  have hreply := fun hnum => setCoils_reply hset hserv app hnum core smb request
  rw [hcall] at hreply
  by_cases hnum : 0 < q.num.toNat ∧ q.num.toNat ≤ modbusMaxReadBits
  · have hlt := q.num.toNat_lt
    obtain ⟨hr, hitems⟩ := hreply hnum
    have hfits : q.Fits r := Query.fits_of_lt (by rw [show r = _ from hr]; omega)
    exact ⟨_, fun P => answersWith_iff h T w hn hin requestLen (some cb) app hcall hfits,
      fun hno => absurd hnum hno, fun _ => hitems⟩
  · have hrange : ¬(0 < q.num.toNat ∧ q.num.toNat ≤ Kind.maxRead .coil) := hnum
    have hrefused : q.call core smb request (some cb) app = (0, [], app) := by
      unfold Query.call Query.items
      rw [hserv]
      dsimp only
      rw [if_neg hrange]
    have hfits : q.Fits 0 := Query.fits_of_lt (by decide)
    exact ⟨_, fun P => answersWith_iff h T w hn hin requestLen (some cb) app hrefused hfits, fun _ => rfl,
      fun hno => absurd hno hnum⟩

end Reply

/-- The context with another content of its reply buffer. -/
def Smb.withWriteBuff (smb : Smb σ) (old : Buffer UInt8 modbusMaxAduLength) : Smb σ :=
  { smb with writeBuff := old }

/-- A bit of a buffer whose bytes are all the same. -/
theorem bitAt_drop_replicate {k j : Nat} (hj : j / 8 < modbusMaxAduLength - k) (b : UInt8) :
    bitAt ((Buffer.replicate modbusMaxAduLength b).toList.drop k) j = b.toNat.testBit (j % 8) := by
  have hdrop : (Buffer.replicate modbusMaxAduLength b).toList.drop k =
      List.replicate (modbusMaxAduLength - k) b := List.drop_replicate
  unfold bitAt
  rw [hdrop, List.getD_eq_getElem?_getD, List.getElem?_replicate_of_lt hj]
  rfl

/-- **The reply to a read of coils does not depend on the last content of the buffer** exactly when the
coils fill their bytes, or are too many or none: the unused bits of the last byte come from the buffer. -/
theorem reply_leak_iff {smb : Smb σ} {core : Core} {port : Port σ} (h : Ready smb core port) (T : Tap port)
    (w : σ) {q : Query} {request : Buffer UInt8 n} (hn : modbusMaxAduLength ≤ n) (hin : q.In core request)
    (requestLen : UInt16) (hf : q.function = 0x01 ∨ q.function = 0x02) {cb : SlaveCallback κ}
    {status : κ → Int → Int → Nat → Int} (hset : SetsCoils cb status) (app : κ) :
    (∃ reply, ∀ old, AnswersWith T (smb.withWriteBuff old) w request requestLen (some cb) app
        (fun frame => frame = reply)) ↔
      (0 < q.num.toNat ∧ q.num.toNat ≤ modbusMaxReadBits → q.num.toNat % 8 = 0) := by
  have hserv : serviceOf q.function = .read .coil := by
    rcases hf with hf | hf <;> rw [hf] <;> rfl
  have hh := core.lenHeader_le
  have hmax : modbusMaxAduLength = 260 := rfl
  have hbits : modbusMaxReadBits = 2000 := rfl
  have hcount : byteCount q.num.toNat = (q.num.toNat + 7) / 8 := rfl
  have hready : ∀ old, Ready (smb.withWriteBuff old) core port := fun _ => h.congr rfl rfl rfl
  have hans := fun old => setCoils_answers hset hserv app (hready old) T w hn hin requestLen
  constructor
  · -- a bit behind the last coil is in the reply, and as it was
    rintro ⟨reply, hsame⟩ hnum
    by_contra hodd
    obtain ⟨pdu, hiff, -, hitems⟩ := hans (Buffer.replicate _ 0)
    obtain ⟨pdu', hiff', -, hitems'⟩ := hans (Buffer.replicate _ 0xFF)
    obtain ⟨-, rfl, -⟩ := Core.adu_inj (σ := σ) (((hiff _).mp (hsame _)).trans ((hiff' _).mp (hsame _)).symm)
    obtain ⟨items, hpdu, -, hbit⟩ := hitems hnum
    obtain ⟨items', hpdu', -, hbit'⟩ := hitems' hnum
    obtain rfl : items = items' := (List.cons.inj (List.cons.inj (hpdu.symm.trans hpdu')).2).2
    have hlow := hbit q.num.toNat (by omega)
    have hhigh := hbit' q.num.toNat (by omega)
    rw [if_neg (by omega)] at hlow hhigh
    have hset0 := (bitAt_drop_replicate (by omega) 0).symm.trans (hlow.symm.trans hhigh)
    have hset1 := hset0.trans (bitAt_drop_replicate (by omega) 0xFF)
    have hbyte : ∀ i < 8, (0 : UInt8).toNat.testBit i ≠ (0xFF : UInt8).toNat.testBit i := by decide
    exact hbyte _ (Nat.mod_lt _ (by decide)) hset1
  · intro hfull
    obtain ⟨pdu, hiff, hrefused, hitems⟩ := hans smb.writeBuff
    refine ⟨core.adu smb.transferId smb.slaveAddr pdu, fun old => ?_⟩
    obtain ⟨pdu', hiff', hrefused', hitems'⟩ := hans old
    rw [hiff']
    apply congrArg
    by_cases hnum : 0 < q.num.toNat ∧ q.num.toNat ≤ modbusMaxReadBits
    · have height := hfull hnum
      obtain ⟨items, rfl, hlen, hbit⟩ := hitems hnum
      obtain ⟨items', rfl, hlen', hbit'⟩ := hitems' hnum
      have heq : items' = items := by
        apply eq_of_bitAt (hlen'.trans hlen.symm)
        intro j hj
        rw [hbit j (by omega), hbit' j (by omega), if_pos (by omega), if_pos (by omega)]
      rw [heq]
    · rw [hrefused hnum, hrefused' hnum]
      rfl

/-- Sixteen coils of a bank. -/
theorem reply_leak_iff_bank :
    ∃ reply, ∀ old, AnswersWith Wire.tap ((newContext .rtu Wire.port 1).withWriteBuff old) ⟨[], [], []⟩
      ((Buffer.replicate 260 0).fill (Core.rtu.adu 0 1 [1, 0, 3, 0, 16])) 8 (some bankCallback)
      ⟨fun _ => true, fun _ => false, fun _ => 9, fun _ => 0⟩ (fun frame => frame = reply) := by
  apply (reply_leak_iff (q := ⟨1, 3, 16⟩) (newContext_ready .rtu Wire.port 1) Wire.tap ⟨[], [], []⟩ le_rfl
    ⟨by decide +kernel, by decide +kernel, by decide +kernel⟩ 8 (Or.inl rfl) bankCallback_setsCoils _).mpr
  intro _
  decide

/-- One coil, which is clear. In a new context the reply is 0; after a read of eight coils that are set the
other bits are theirs. -/
theorem reply_leak_seven :
    (modbusSlaveWaitHandle 600 (newContext .tcp Wire.port 1) ⟨[0, 2, 0, 0, 0, 6, 1, 1, 0, 0, 0, 1], [], []⟩
        (some bankCallback) ⟨fun a => decide (8 ≤ a), fun _ => false, fun _ => 0, fun _ => 0⟩ (-1)).map
        (fun x => x.2.2.1.tx) = .ok [[0, 2, 0, 0, 0, 4, 1, 1, 1, 0]] ∧
      ((modbusSlaveWaitHandle 600 (newContext .tcp Wire.port 1)
          ⟨[0, 1, 0, 0, 0, 6, 1, 1, 0, 8, 0, 8, 0, 2, 0, 0, 0, 6, 1, 1, 0, 0, 0, 1], [], []⟩ (some bankCallback)
          ⟨fun a => decide (8 ≤ a), fun _ => false, fun _ => 0, fun _ => 0⟩ (-1)) >>= fun y =>
        modbusSlaveWaitHandle 600 y.2.1 y.2.2.1 (some bankCallback) y.2.2.2 (-1)).map (fun x => x.2.2.1.tx) =
        .ok [[0, 1, 0, 0, 0, 4, 1, 1, 1, 0xFF], [0, 2, 0, 0, 0, 4, 1, 1, 1, 0xFE]] :=
  ⟨by decide +kernel, by decide +kernel⟩

end SmallModbus
