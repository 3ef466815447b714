/-
# `SmallModbus.ErrorDetection` — which errors the CRC of an RTU frame detects.

`modbus_crc16` is the run of a shift register over the bits of its bytes, the lowest bit of each byte
first, which is the order of transmission. Sent low byte first, the CRC runs the register into 0: a frame
passes the check exactly if the register is 0 behind its last bit (`residue_eq_zero_iff`). A corrupted
frame therefore passes exactly if the errors alone run an empty register into 0, and the library's three
kinds of errors do not.
-/
import SmallModbus.Lib.Lfsr
import SmallModbus.Framing
import SmallModbus.Wire

namespace SmallModbus

open SmallModbus.Lib

variable {σ τ : Type} {n m : Nat}

/-! ## §1 — the CRC as a shift register. -/

/-- The polynomial of `modbus_crc16`. -/
def crcPoly : BitVec 16 := 0xA001

/-- The bits of a string of bytes in the order of transmission. -/
def bitsOf (bytes : List UInt8) : List Bool := bytes.flatMap fun b => (List.range 8).map b.toBitVec.getLsbD

@[simp] theorem bitsOf_nil : bitsOf [] = [] := rfl

theorem bitsOf_append (xs ys : List UInt8) : bitsOf (xs ++ ys) = bitsOf xs ++ bitsOf ys := List.flatMap_append

theorem bitsOf_cons (b : UInt8) (bytes : List UInt8) : bitsOf (b :: bytes) = bitsOf [b] ++ bitsOf bytes :=
  bitsOf_append [b] bytes

@[simp] theorem length_bitsOf (bytes : List UInt8) : (bitsOf bytes).length = 8 * bytes.length := by
  induction bytes with
  | nil => rfl
  | cons b bytes ih =>
    rw [bitsOf_cons, List.length_append, ih, List.length_cons]
    show 8 + _ = _
    omega

/-- Where two strings of bytes differ, bit by bit. -/
def flips (xs ys : List UInt8) : List Bool := List.zipWith xor (bitsOf xs) (bitsOf ys)

theorem flips_eq (xs ys : List UInt8) (h : xs.length = ys.length) :
    List.zipWith xor (bitsOf xs) (flips xs ys) = bitsOf ys := by
  have hlen : (bitsOf xs).length = (bitsOf ys).length := by
    rw [length_bitsOf, length_bitsOf, h]
  apply List.ext_getElem
  · rw [flips, List.length_zipWith, List.length_zipWith]
    omega
  · intro i h1 h2
    simp [flips]

/-- One round of the inner loop is one shift. -/
theorem toBitVec_crcBits (k : Nat) (crc : UInt16) : (crcBits k crc).toBitVec = Lfsr.steps crcPoly k crc.toBitVec := by
  induction k generalizing crc with
  | zero => rfl
  | succ k ih =>
    rw [crcBits, ih, Lfsr.steps]
    congr 1
    have hlow : (crc &&& 1 ≠ 0) ↔ crc.toBitVec.getLsbD 0 = true := by
      rw [Ne, ← UInt16.toBitVec_inj, UInt16.toBitVec_and]
      show ¬ crc.toBitVec &&& 1#16 = 0#16 ↔ _
      rw [BitVec.and_one_eq_setWidth_ofBool_getLsbD]
      cases crc.toBitVec.getLsbD 0 <;> decide
    unfold Lfsr.step
    by_cases h : crc &&& 1 ≠ 0
    · rw [if_pos h, if_pos (hlow.mp h)]
      rfl
    · rw [if_neg h, if_neg (mt hlow.mpr h)]
      rfl

theorem word_bitsOf_byte (b : UInt8) : (Lfsr.word (bitsOf [b]) : BitVec 16) = b.toUInt16.toBitVec := by
  apply BitVec.eq_of_getLsbD_eq
  intro i hi
  rw [Lfsr.getLsbD_word _ hi]
  have hval : b.toUInt16.toBitVec = b.toBitVec.setWidth 16 := rfl
  rw [hval, BitVec.getLsbD_setWidth, decide_eq_true hi, Bool.true_and]
  by_cases h8 : i < 8
  · simp [bitsOf, h8]
  · rw [BitVec.getLsbD_of_ge _ _ (by omega), List.getD_eq_getElem?_getD,
      List.getElem?_eq_none (by rw [length_bitsOf]; simp; omega)]
    rfl

theorem toBitVec_crcByte (crc : UInt16) (b : UInt8) :
    (crcByte crc b).toBitVec = Lfsr.run crcPoly crc.toBitVec (bitsOf [b]) := by
  rw [crcByte, toBitVec_crcBits, Lfsr.run_eq_steps _ _ (by simp), word_bitsOf_byte]
  rfl

/-- **`modbus_crc16` is the run of the register.** -/
theorem toBitVec_foldl_crcByte (bytes : List UInt8) (crc : UInt16) :
    (bytes.foldl crcByte crc).toBitVec = Lfsr.run crcPoly crc.toBitVec (bitsOf bytes) := by
  induction bytes generalizing crc with
  | nil => rfl
  | cons b bytes ih => rw [List.foldl_cons, ih, toBitVec_crcByte, bitsOf_cons b bytes, Lfsr.run_append]

/-! ## §2 — the register behind a frame. -/

/-- The register behind the last bit of a frame. -/
def residue (frame : List UInt8) : BitVec 16 := Lfsr.run crcPoly 0xFFFF (bitsOf frame)

theorem crcPoly_msb : crcPoly.msb = true := by decide

theorem word_bitsOf_pair (lo hi : UInt8) :
    (Lfsr.word (bitsOf [lo, hi]) : BitVec 16) = (toU16 (word hi lo)).toBitVec := by
  apply BitVec.eq_of_getLsbD_eq
  intro i h
  rw [Lfsr.getLsbD_word _ h, bitsOf_cons, List.getD_eq_getElem?_getD]
  have hval : (toU16 (word hi lo)).toNat = lo.toNat + 2 ^ 8 * hi.toNat := by
    have := word_lt hi lo
    rw [toNat_toU16_of_lt (by omega) (by omega), word]
    omega
  have hbit : (toU16 (word hi lo)).toBitVec.getLsbD i = (lo.toNat + 2 ^ 8 * hi.toNat).testBit i := by
    rw [← hval]
    rfl
  rw [hbit, Nat.add_comm, Nat.testBit_two_pow_mul_add _ lo.toNat_lt]
  by_cases h8 : i < 8
  · rw [List.getElem?_append_left (by rw [length_bitsOf]; simpa using h8), if_pos h8]
    simp [bitsOf, h8]
    rfl
  · rw [List.getElem?_append_right (by rw [length_bitsOf]; simp; omega), if_neg h8, length_bitsOf]
    simp only [bitsOf, List.length_singleton, List.flatMap_cons, List.flatMap_nil, List.append_nil, List.getElem?_map]
    rw [List.getElem?_range (by omega)]
    rfl

/-- A frame passes the check exactly if its last bit leaves an empty register. -/
theorem residue_eq_zero_iff (payload : List UInt8) (lo hi : UInt8) :
    residue (payload ++ [lo, hi]) = 0 ↔ crc16 payload = toU16 (word hi lo) := by
  have hcrc : Lfsr.run crcPoly 0xFFFF (bitsOf payload) = (crc16 payload).toBitVec :=
    (toBitVec_foldl_crcByte payload 0xFFFF).symm
  rw [residue, bitsOf_append, Lfsr.run_append, hcrc, Lfsr.run_eq_steps _ _ (by simp),
    word_bitsOf_pair, ← UInt16.toBitVec_inj]
  constructor
  · intro h
    exact BitVec.xor_eq_zero_iff.mp (Lfsr.steps_eq_zero crcPoly_msb h)
  · intro h
    rw [h, BitVec.xor_self]
    exact Lfsr.steps_zero _ _

/-- **Errors move the register on their own.** -/
theorem residue_flips (frame bad : List UInt8) (h : frame.length = bad.length) :
    residue bad = residue frame ^^^ Lfsr.run crcPoly 0 (flips frame bad) := by
  have hlen : (bitsOf frame).length = (flips frame bad).length := by
    rw [flips, List.length_zipWith, length_bitsOf, length_bitsOf, h, Nat.min_self]
  rw [residue, residue, ← Lfsr.run_xor crcPoly 0xFFFF 0 hlen, flips_eq _ _ h]
  rfl

/-! ## §3 — the errors that are detected. -/

/-- Errors that are odd in number, or two, or confined to 16 consecutive bits. -/
inductive LimitedError (e : List Bool) : Prop
  | odd (h : Odd (e.count true))
  | two (h : e.count true = 2)
  | burst (i : Nat) (h : e.count true ≠ 0) (hwindow : ∀ j, e[j]? = some true → i ≤ j ∧ j < i + 16)

/-- No two positions of a frame of 260 bytes are a period of the register apart. -/
theorem crcPoly_aperiodic : Lfsr.avoids crcPoly 1 2079 1 = true := by decide +kernel

/-- The polynomial has an odd number of ones. -/
theorem crcPoly_parity : Lfsr.parity crcPoly = 1 := by decide

theorem LimitedError.run_ne_zero {e : List Bool} (h : LimitedError e) (hlen : e.length ≤ 2080) :
    Lfsr.run crcPoly 0 e ≠ 0 := by
  cases h with
  | odd h => exact Lfsr.run_ne_zero_of_odd crcPoly_parity h
  | two h =>
    apply Lfsr.run_ne_zero_of_two crcPoly_msb h
    intro d h0 hd
    exact Lfsr.steps_ne_of_avoids 2079 1 crcPoly_aperiodic d h0 (by omega)
  | burst i h hwindow => exact Lfsr.run_ne_zero_of_burst crcPoly_msb h hwindow

/-- `_rtu_check_send_pre` puts the CRC behind the payload; the frame leaves an empty register. -/
theorem rtuCheckSendPre_residue (smb : Smb σ) {b b' : Buffer UInt8 n} {length : Nat} {ret : Int}
    (hlen : length ≤ 258) (h : rtuCheckSendPre smb b length = .ok (ret, b')) :
    length + 2 ≤ n ∧ residue (b'.toList.take (length + 2)) = 0 := by
  -- the two stores returned, so there is room for the CRC
  have hn : length + 2 ≤ n := by
    obtain ⟨crc, -, h⟩ := bind_eq_ok.mp h
    obtain ⟨b₁, -, h⟩ := bind_eq_ok.mp h
    obtain ⟨b₂, h₂, -⟩ := bind_eq_ok.mp h
    have := (Buffer.toList_of_store h₂).1
    omega
  refine ⟨hn, ?_⟩
  obtain ⟨payload, hpayload⟩ : ∃ payload, payload = b.toList.take length := ⟨_, rfl⟩
  have hpl : payload.length = length := by
    rw [hpayload, List.length_take, Buffer.length_toList]
    omega
  have hsplit : b.toList = payload ++ b.toList.drop length := by
    rw [hpayload, List.take_append_drop]
  have hb : b.fill payload = b := Buffer.fill_take_self b hsplit
  have hu : (toU16 (length : Int)).toNat = length := toNat_toU16_natCast (by omega)
  rw [rtuCheckSendPre, ← hb, modbusCrc16_fill b (by omega) (by omega), exec_ok_bind, hu,
    List.take_of_length_le (by omega), Buffer.store_fill_end b hpl.symm (by omega), exec_ok_bind,
    Buffer.store_fill_end b (by rw [List.length_append, hpl]; rfl) (by omega), exec_ok_bind, List.append_assoc] at h
  have hb' : b' = b.fill (payload ++ [lowByte (crc16 payload).toNat, highByte (crc16 payload).toNat]) := by
    injection h with h
    exact (congrArg Prod.snd h).symm
  have htotal : (payload ++ [lowByte (crc16 payload).toNat, highByte (crc16 payload).toNat]).length = length + 2 := by
    rw [List.length_append, hpl]
    rfl
  have hframe : b'.toList.take (length + 2) =
      payload ++ [lowByte (crc16 payload).toNat, highByte (crc16 payload).toNat] := by
    rw [hb', ← htotal]
    exact Buffer.take_fill b (by omega)
  rw [hframe, residue_eq_zero_iff]
  exact (toU16_word_eq_iff.mpr ⟨rfl, rfl⟩).symm

/-- The check of a received frame fails when the register is not empty behind it. -/
theorem rtuCheckWait_residue (smb : Smb σ) {recv : Buffer UInt8 m} {bad : List UInt8} (h3 : 3 ≤ bad.length)
    (h260 : bad.length ≤ modbusMaxAduLength) (hrecv : recv.toList.take bad.length = bad)
    (hbad : residue bad ≠ 0) : rtuCheckWait smb recv (bad.length : Nat) = .ok modbusFailCheck := by
  have hm : bad.length ≤ m := by
    have := congrArg List.length hrecv
    rw [List.length_take, Buffer.length_toList] at this
    omega
  obtain ⟨a, body, rfl⟩ : ∃ a body, bad = a :: body := List.exists_cons_of_length_pos (by omega)
  rw [List.length_cons] at h3
  -- the last two bytes are the CRC received
  obtain ⟨pdu, lo, hi, rfl⟩ : ∃ pdu lo hi, body = pdu ++ [lo, hi] := by
    rcases List.eq_nil_or_concat body with rfl | ⟨init, hi, rfl⟩
    · simp at h3
    rcases List.eq_nil_or_concat init with rfl | ⟨pdu, lo, rfl⟩
    · simp at h3
    · exact ⟨pdu, lo, hi, by simp⟩
  have hsplit : recv.toList = a :: (pdu ++ [lo, hi]) ++ recv.toList.drop (a :: (pdu ++ [lo, hi])).length := by
    conv_lhs => rw [← List.take_append_drop (a :: (pdu ++ [lo, hi])).length recv.toList, hrecv]
  have hfill : recv.fill (a :: (pdu ++ [lo, hi])) = recv := Buffer.fill_take_self recv hsplit
  have hcrc : crc16 ([a] ++ pdu) ≠ toU16 (word hi lo) := by
    intro hcrc
    exact hbad ((residue_eq_zero_iff ([a] ++ pdu) lo hi).mpr hcrc)
  have hparts : a :: (pdu ++ [lo, hi]) = [a] ++ pdu ++ [lo, hi] := rfl
  have hcheck := rtuCheckWait_fill smb recv hparts hm h260
  rw [hfill, if_neg hcrc] at hcheck
  exact hcheck

/-- **RTU error detection.** A frame completed by `_rtu_check_send_pre` and received with an odd number of
bits flipped, with two bits flipped, or with errors within 16 consecutive bits fails both checks. -/
theorem rtu_error_detection (sender : Smb σ) (receiver : Smb τ) {b b' : Buffer UInt8 n} {length : Nat} {ret : Int}
    (h4 : 4 ≤ length + 2) (h260 : length + 2 ≤ 260) (hsend : rtuCheckSendPre sender b length = .ok (ret, b'))
    (recv : Buffer UInt8 m) (hm : length + 2 ≤ m)
    (herr : LimitedError (flips (b'.toList.take (length + 2)) (recv.toList.take (length + 2)))) :
    rtuCheckWaitRequest receiver recv ((length + 2 : Nat) : Int) = .ok (modbusFailCheck, receiver) ∧
      rtuCheckWaitResponse receiver recv ((length + 2 : Nat) : Int) = .ok modbusFailCheck := by
  obtain ⟨hn, hvalid⟩ := rtuCheckSendPre_residue sender (by omega) hsend
  obtain ⟨frame, hframe⟩ : ∃ frame, frame = b'.toList.take (length + 2) := ⟨_, rfl⟩
  obtain ⟨bad, hbad⟩ : ∃ bad, bad = recv.toList.take (length + 2) := ⟨_, rfl⟩
  have hfl : frame.length = length + 2 := by
    rw [hframe, List.length_take, Buffer.length_toList]
    omega
  have hbl : bad.length = length + 2 := by
    rw [hbad, List.length_take, Buffer.length_toList]
    omega
  rw [← hframe, ← hbad] at herr
  rw [← hframe] at hvalid
  have hres : residue bad ≠ 0 := by
    rw [residue_flips frame bad (by omega), hvalid, Lfsr.zero_xor]
    apply herr.run_ne_zero
    rw [flips, List.length_zipWith, length_bitsOf, length_bitsOf]
    omega
  have hrecv : recv.toList.take bad.length = bad := by rw [hbl, hbad]
  have hcheck := rtuCheckWait_residue receiver (by omega) (hbl.le.trans h260) hrecv hres
  rw [hbl] at hcheck
  refine ⟨?_, hcheck⟩
  rw [rtuCheckWaitRequest, hcheck]
  rfl

/-- A frame of four bytes, received with the lowest bit of its second byte and of its CRC flipped. -/
theorem rtu_error_detection_two :
    rtuCheckWaitRequest (newContext .rtu Wire.port 1) (⟨[1, 2, 0x41, 0x21], rfl⟩ : Buffer UInt8 4) (2 + 2 : Nat) =
        .ok (modbusFailCheck, newContext .rtu Wire.port 1) ∧
      rtuCheckWaitResponse (newContext .rtu Wire.port 1) (⟨[1, 2, 0x41, 0x21], rfl⟩ : Buffer UInt8 4)
        (2 + 2 : Nat) = .ok modbusFailCheck :=
  have hsend : rtuCheckSendPre (newContext .rtu Wire.port 1) (⟨[1, 3, 0, 0], rfl⟩ : Buffer UInt8 4) 2 =
      .ok (4, ⟨[1, 3, 0x40, 0x21], rfl⟩) := by decide +kernel
  rtu_error_detection (newContext .rtu Wire.port 1) (newContext .rtu Wire.port 1) (by decide) (by decide) hsend
    ⟨[1, 2, 0x41, 0x21], rfl⟩ (by decide) (.two (by decide))

end SmallModbus
