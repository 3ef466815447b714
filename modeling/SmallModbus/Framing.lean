/-
# `SmallModbus.Framing` — the frames of the two cores, as byte lists.

`Core.adu core tid slave pdu` is the frame that carries `pdu` (the function code and what follows it): on
RTU the address, the PDU and its CRC, on TCP the MBAP header and the PDU. The builders of a core leave an
open header in the buffer, `checkSendPre` completes it to a frame (`checkSendPre_fill`), and the two checks
let through exactly the frames with the slave address or the broadcast address, `checkWaitResponse` on
TCP only those with the transaction id of the context (`checkWaitRequest_eq`, `checkWaitResponse_eq`).
-/
import SmallModbus.Core

namespace SmallModbus

open SmallModbus.Lib

variable {σ : Type} {n : Nat}

/-! ## §1 — the frame around a PDU. -/

namespace Core

/-- The header in front of a PDU of `len` bytes. -/
def header (core : Core) (tid : UInt16) (slave : UInt8) (len : Nat) : List UInt8 :=
  match core with
  | .rtu => [slave]
  | .tcp => [highByte tid.toNat, lowByte tid.toNat, 0, 0, highByte (len + 1 : Nat),
      lowByte (len + 1 : Nat), slave]

/-- The checksum behind the header and the PDU. -/
def checksum (core : Core) (body : List UInt8) : List UInt8 :=
  match core with
  | .rtu => [lowByte (crc16 body).toNat, highByte (crc16 body).toNat]
  | .tcp => []

/-- **The frame** that carries `pdu` to or from `slave`. -/
def adu (core : Core) (tid : UInt16) (slave : UInt8) (pdu : List UInt8) : List UInt8 :=
  core.header tid slave pdu.length ++ pdu ++ core.checksum (core.header tid slave pdu.length ++ pdu)

/-- The header a builder leaves, with what the buffer had in the bytes it does not write. -/
def openHeader (core : Core) (tid : UInt16) (slave x y : UInt8) : List UInt8 :=
  match core with
  | .rtu => [slave]
  | .tcp => [highByte tid.toNat, lowByte tid.toNat, 0, 0, x, y, slave]

@[simp] theorem length_header (core : Core) (tid : UInt16) (slave : UInt8) (len : Nat) :
    (core.header tid slave len).length = core.lenHeader := by cases core <;> rfl

@[simp] theorem length_checksum (core : Core) (body : List UInt8) :
    (core.checksum body).length = core.lenChecksum := by cases core <;> rfl

@[simp] theorem length_openHeader (core : Core) (tid : UInt16) (slave x y : UInt8) :
    (core.openHeader tid slave x y).length = core.lenHeader := by cases core <;> rfl

@[simp] theorem length_adu (core : Core) (tid : UInt16) (slave : UInt8) (pdu : List UInt8) :
    (core.adu tid slave pdu).length = core.lenHeader + pdu.length + core.lenChecksum := by
  simp only [adu, List.length_append, length_header, length_checksum]

theorem lenHeader_pos (core : Core) : 0 < core.lenHeader := by cases core <;> decide

theorem lenHeader_le (core : Core) : core.lenHeader ≤ 7 := by cases core <;> decide

/-- Header and checksum leave room for every PDU of up to 253 bytes. -/
theorem lenOverhead_le (core : Core) : core.lenHeader + core.lenChecksum ≤ 7 := by
  cases core <;> decide

@[simp] theorem lenAduMax_eq (core : Core) : core.lenAduMax = modbusMaxAduLength := by
  cases core <;> rfl

/-- The context after `build_request_header`: TCP takes a new transaction id. -/
def requestContext (core : Core) (smb : Smb σ) : Smb σ :=
  match core with
  | .rtu => smb
  | .tcp => { smb with transferId := smb.transferId + 1 }

/-- The context after an accepted request: TCP adopts its transaction id. -/
def adopt (core : Core) (smb : Smb σ) (tid : UInt16) : Smb σ :=
  match core with
  | .rtu => smb
  | .tcp => { smb with transferId := tid }

end Core

/-! ## §2 — building. -/

theorem buildRequestHeader_fill (core : Core) (smb : Smb σ) (old : Buffer UInt8 n) (hn : 12 ≤ n)
    (slave function reg num : Int) :
    ∃ x y, core.buildRequestHeader smb old slave function reg num =
      .ok (core.lenHeader + 5, core.requestContext smb,
        old.fill (core.openHeader (core.requestContext smb).transferId (toU8 slave) x y ++
          [toU8 function, highByte reg, lowByte reg, highByte num, lowByte num])) := by
  cases core with
  | rtu =>
    refine ⟨0, 0, ?_⟩
    show rtuBuildRequestHeader smb old slave function reg num = _
    conv_lhs => rw [rtuBuildRequestHeader, ← Buffer.fill_nil old]
    simp (disch := first | omega | simp) only [Buffer.store_fill_end, exec_ok_bind]
    rfl
  | tcp =>
    obtain ⟨x, hx, -⟩ := Buffer.load_of_lt old (show 4 < n by omega)
    obtain ⟨y, hy, -⟩ := Buffer.load_of_lt old (show 5 < n by omega)
    refine ⟨x, y, ?_⟩
    show tcpBuildRequestHeader smb old slave function reg num = _
    conv_lhs => rw [tcpBuildRequestHeader, ← Buffer.fill_nil old]
    simp (disch := first | omega | simp) only [Buffer.store_fill_end, exec_ok_bind]
    -- bytes 4 and 5 keep what they were
    conv_lhs => rw [Buffer.fill_extend old hx rfl, Buffer.fill_extend old hy rfl]
    simp (disch := first | omega | simp) only [Buffer.store_fill_end, exec_ok_bind]
    rfl

theorem buildResponseHeader_fill (core : Core) (smb : Smb σ) (old : Buffer UInt8 n) (hn : 8 ≤ n)
    (slave function : Int) :
    ∃ x y, core.buildResponseHeader smb old slave function =
      .ok (core.lenHeader + 1,
        old.fill (core.openHeader smb.transferId (toU8 slave) x y ++ [toU8 function])) := by
  cases core with
  | rtu =>
    refine ⟨0, 0, ?_⟩
    show rtuBuildResponseHeader smb old slave function = _
    conv_lhs => rw [rtuBuildResponseHeader, ← Buffer.fill_nil old]
    simp (disch := first | omega | simp) only [Buffer.store_fill_end, exec_ok_bind]
    rfl
  | tcp =>
    obtain ⟨x, hx, -⟩ := Buffer.load_of_lt old (show 4 < n by omega)
    obtain ⟨y, hy, -⟩ := Buffer.load_of_lt old (show 5 < n by omega)
    refine ⟨x, y, ?_⟩
    show tcpBuildResponseHeader smb old slave function = _
    conv_lhs => rw [tcpBuildResponseHeader, ← Buffer.fill_nil old]
    simp (disch := first | omega | simp) only [Buffer.store_fill_end, exec_ok_bind]
    -- bytes 4 and 5 keep what they were
    conv_lhs => rw [Buffer.fill_extend old hx rfl, Buffer.fill_extend old hy rfl]
    simp (disch := first | omega | simp) only [Buffer.store_fill_end, exec_ok_bind]
    rfl

/-- **`check_send_pre` completes a frame**: an open header and a PDU become the frame of that PDU. -/
theorem checkSendPre_fill (core : Core) (smb : Smb σ) (old : Buffer UInt8 n)
    (hn : modbusMaxAduLength ≤ n) (tid : UInt16) (slave x y : UInt8) {pdu : List UInt8}
    (hlen : (core.adu tid slave pdu).length ≤ modbusMaxAduLength) {len : Nat}
    (hl : len = core.lenHeader + pdu.length) :
    core.checkSendPre smb (old.fill (core.openHeader tid slave x y ++ pdu)) len =
      .ok (((core.adu tid slave pdu).length : Nat), old.fill (core.adu tid slave pdu)) := by
  subst hl
  rw [Core.length_adu] at hlen ⊢
  cases core with
  | rtu =>
    simp only [Core.lenHeader, Core.lenChecksum, modbusMaxAduLength] at hlen hn ⊢
    have hbody : (([slave] : List UInt8) ++ pdu).length = 1 + pdu.length := by
      rw [List.length_append, List.length_singleton]
    have hu : (toU16 ((1 + pdu.length : Nat) : Int)).toNat = 1 + pdu.length := toNat_toU16_natCast (by omega)
    show rtuCheckSendPre smb (old.fill ([slave] ++ pdu)) (1 + pdu.length) = _
    rw [rtuCheckSendPre, modbusCrc16_fill old (by omega) (by omega), exec_ok_bind, hu,
      List.take_of_length_le (by omega), Buffer.store_fill_end old hbody.symm (by omega), exec_ok_bind,
      Buffer.store_fill_end old (by simp; omega) (by omega), exec_ok_bind, List.append_assoc]
    rfl
  | tcp =>
    simp only [Core.lenHeader, Core.lenChecksum, modbusMaxAduLength] at hlen hn ⊢
    have hrc : ((7 + pdu.length : Nat) : Int) - 6 = ((pdu.length + 1 : Nat) : Int) := by omega
    have hopen : ((Core.tcp.openHeader tid slave x y) ++ pdu).length ≤ n := by
      rw [List.length_append, Core.length_openHeader]
      simp only [Core.lenHeader]
      omega
    show tcpCheckSendPre smb (old.fill (Core.tcp.openHeader tid slave x y ++ pdu)) (7 + pdu.length) = _
    rw [tcpCheckSendPre, hrc, Buffer.store_fill_lt old (by simp [Core.lenHeader]; omega) hopen,
      exec_ok_bind, Buffer.store_fill_lt old (by simp [Core.lenHeader]; omega) (by simpa using hopen),
      exec_ok_bind]
    simp [Core.openHeader, Core.adu, Core.header, Core.checksum]

/-! ## §3 — two frames that are equal carry the same. -/

/-- A 16-bit value and its two bytes determine each other. -/
theorem word_eq_iff {hi lo : UInt8} {x : Nat} (hx : x < 65536) :
    word hi lo = x ↔ hi = highByte x ∧ lo = lowByte x := by
  constructor
  · rintro rfl
    exact ⟨(highByte_word hi lo).symm, (lowByte_word hi lo).symm⟩
  · rintro ⟨rfl, rfl⟩
    have h := word_highByte_lowByte (x := (x : Int)) (by omega) (by omega)
    exact_mod_cast h

/-- The same for the `uint16_t` made of the two bytes. -/
theorem toU16_word_eq_iff {hi lo : UInt8} {x : UInt16} :
    toU16 (word hi lo) = x ↔ hi = highByte x.toNat ∧ lo = lowByte x.toNat := by
  rw [← word_eq_iff x.toNat_lt, toU16_natCast, ← UInt16.toNat_inj, UInt16.toNat_ofNat_of_lt' (word_lt hi lo)]

theorem highByte_lowByte_inj {x y : UInt16} (hh : highByte x.toNat = highByte y.toNat)
    (hl : lowByte x.toNat = lowByte y.toNat) : x = y := by
  have hx : toU16 (word (highByte x.toNat) (lowByte x.toNat)) = x := toU16_word_eq_iff.mpr ⟨rfl, rfl⟩
  have hy : toU16 (word (highByte x.toNat) (lowByte x.toNat)) = y := toU16_word_eq_iff.mpr ⟨hh, hl⟩
  exact hx.symm.trans hy

namespace Core

/-- **Equal frames carry the same** slave address, PDU and, on TCP, transaction id. -/
theorem adu_inj {core : Core} {tid tid' : UInt16} {a a' : UInt8} {pdu pdu' : List UInt8}
    (h : core.adu tid a pdu = core.adu tid' a' pdu') :
    a = a' ∧ pdu = pdu' ∧ ∀ smb : Smb σ, core.adopt smb tid = core.adopt smb tid' := by
  have hlen : pdu.length = pdu'.length := by
    have := congrArg List.length h
    simp only [length_adu] at this
    omega
  unfold adu at h
  rw [List.append_assoc, List.append_assoc] at h
  obtain ⟨hhead, htail⟩ := List.append_inj h (by simp)
  obtain ⟨hpdu, -⟩ := List.append_inj htail hlen
  refine ⟨?_, hpdu, ?_⟩
  · cases core <;> simp_all [header]
  · intro smb
    cases core with
    | rtu => rfl
    | tcp =>
      simp only [header, List.cons.injEq] at hhead
      show { smb with transferId := tid } = { smb with transferId := tid' }
      rw [highByte_lowByte_inj hhead.1 hhead.2.1]

/-- A TCP frame says itself where it ends. -/
theorem tcp_adu_prefix {tid tid' : UInt16} {a a' : UInt8} {pdu pdu' rest rest' : List UInt8}
    (hlen : (Core.tcp.adu tid a pdu).length ≤ modbusMaxAduLength)
    (hlen' : (Core.tcp.adu tid' a' pdu').length ≤ modbusMaxAduLength)
    (h : Core.tcp.adu tid a pdu ++ rest = Core.tcp.adu tid' a' pdu' ++ rest') :
    Core.tcp.adu tid a pdu = Core.tcp.adu tid' a' pdu' ∧ rest = rest' := by
  have hmax : modbusMaxAduLength = 260 := rfl
  apply List.append_inj h
  rw [length_adu, length_adu] at *
  have hhead := congrArg (List.take 6) h
  simp only [adu, header, List.cons_append, List.take_succ_cons, List.take_zero, List.cons.injEq] at hhead
  obtain ⟨-, -, -, -, h1, h0, -⟩ := hhead
  have hx : word (highByte (pdu.length + 1 : Nat)) (lowByte (pdu.length + 1 : Nat)) = (pdu.length + 1 : Nat) :=
    (word_eq_iff (by omega)).mpr ⟨rfl, rfl⟩
  rw [h1, h0, (word_eq_iff (show pdu'.length + 1 < 65536 by omega)).mpr ⟨rfl, rfl⟩] at hx
  omega

/-- The PDU of a frame is what lies between its header and its checksum. -/
theorem pdu_of_adu_eq {core : Core} {tid : UInt16} {a : UInt8} {hd pdu ck pdu' : List UInt8}
    (hhd : hd.length = core.lenHeader) (hck : ck.length = core.lenChecksum)
    (h : hd ++ pdu ++ ck = core.adu tid a pdu') : pdu' = pdu := by
  have hlen := congrArg List.length h
  rw [length_adu, List.length_append, List.length_append, hhd, hck] at hlen
  unfold adu at h
  rw [List.append_assoc, List.append_assoc] at h
  obtain ⟨-, htail⟩ := List.append_inj h (by rw [hhd, length_header])
  exact (List.append_inj htail (by omega)).1.symm

end Core

/-! ## §4 — checking. -/

/-- The addresses a check lets through. -/
def Smb.Admits (smb : Smb σ) (a : UInt8) : Prop := a = smb.slaveAddr ∨ a = modbusBroadcastAddress

instance (smb : Smb σ) (a : UInt8) : Decidable (smb.Admits a) := inferInstanceAs (Decidable (_ ∨ _))

theorem rtuCheckWait_fill (smb : Smb σ) (old : Buffer UInt8 n) {a lo hi : UInt8} {pdu t : List UInt8}
    (ht : t = [a] ++ pdu ++ [lo, hi]) (hn : t.length ≤ n) (hlen : t.length ≤ modbusMaxAduLength) :
    rtuCheckWait smb (old.fill t) (t.length : Nat) =
      .ok (if crc16 ([a] ++ pdu) = toU16 (word hi lo) then
          if smb.Admits a then (t.length : Nat) else modbusFailAdrr
        else modbusFailCheck) := by
  have hl : t.length = pdu.length + 3 := by rw [ht]; simp
  have h2 : (t.length : Int) - 2 = ((pdu.length + 1 : Nat) : Int) := by omega
  have h1 : (t.length : Int) - 1 = ((pdu.length + 2 : Nat) : Int) := by omega
  have hu : (toU16 ((pdu.length + 1 : Nat) : Int)).toNat = pdu.length + 1 := by
    simp only [modbusMaxAduLength] at hlen
    exact toNat_toU16_natCast (by omega)
  have hlo : t[pdu.length + 1]? = some lo := by simp [ht]
  have hhi : t[pdu.length + 2]? = some hi := by simp [ht]
  have ha : t[0]? = some a := by simp [ht]
  have hbody : t.take (pdu.length + 1) = [a] ++ pdu := by simp [ht]
  unfold rtuCheckWait
  rw [h2, h1, Buffer.loadAt_natCast, Buffer.loadAt_natCast, Buffer.load_fill_of_getElem? old hlo hn,
    exec_ok_bind, Buffer.load_fill_of_getElem? old hhi hn, exec_ok_bind,
    modbusCrc16_fill old hn (by omega), exec_ok_bind, hu, hbody,
    Buffer.load_fill_of_getElem? old ha hn, exec_ok_bind]
  by_cases hcrc : crc16 ([a] ++ pdu) = toU16 (word hi lo)
  · rw [if_neg (not_not.mpr hcrc), if_pos hcrc]
    by_cases hadm : smb.Admits a
    · rw [if_pos hadm, if_neg (by unfold Smb.Admits at hadm; tauto)]
      rfl
    · rw [if_neg hadm, if_pos (by unfold Smb.Admits at hadm; tauto)]
      rfl
  · rw [if_pos hcrc, if_neg hcrc]
    rfl

section Tcp

variable (smb : Smb σ) (old : Buffer UInt8 n) {t1 t0 p1 p0 l1 l0 a : UInt8} {pdu t : List UInt8}
  (ht : t = [t1, t0, p1, p0, l1, l0, a] ++ pdu) (hn : t.length ≤ n)

include ht hn

theorem tcpHeader_load {i : Nat} {b : UInt8} (hb : [t1, t0, p1, p0, l1, l0, a][i]? = some b) :
    (old.fill t).load i = .ok b := by
  have hi : i < [t1, t0, p1, p0, l1, l0, a].length := (List.getElem?_eq_some_iff.mp hb).1
  apply Buffer.load_fill_of_getElem? old _ hn
  rw [ht, List.getElem?_append_left hi, hb]

theorem tcpCheckWaitRequest_fill :
    tcpCheckWaitRequest smb (old.fill t) (t.length : Nat) =
      .ok (if p1 = 0 ∧ p0 = 0 ∧ word l1 l0 = pdu.length + 1 then
          if smb.Admits a then ((t.length : Nat), { smb with transferId := toU16 (word t1 t0) })
          else (modbusFailAdrr, smb)
        else (modbusFailCheck, smb)) := by
  have hl : t.length = pdu.length + 7 := by rw [ht]; simp
  have hsix : (t.length : Int) - (word l1 l0 : Nat) = 6 ↔ word l1 l0 = pdu.length + 1 := by omega
  have hload : ∀ i b, [t1, t0, p1, p0, l1, l0, a][i]? = some b → (old.fill t).load i = .ok b :=
    fun i b hb => tcpHeader_load old ht hn hb
  unfold tcpCheckWaitRequest
  rw [hload 4 l1 rfl, hload 5 l0 rfl, hload 6 a rfl, hload 2 p1 rfl, hload 3 p0 rfl, hload 0 t1 rfl,
    hload 1 t0 rfl]
  simp only [exec_ok_bind, exec_pure, hsix, ← Smb.Admits.eq_1]
  split_ifs <;> simp_all

theorem tcpCheckWaitResponse_fill :
    tcpCheckWaitResponse smb (old.fill t) (t.length : Nat) =
      .ok (if toU16 (word t1 t0) = smb.transferId ∧ p1 = 0 ∧ p0 = 0 ∧ word l1 l0 = pdu.length + 1 then
          if smb.Admits a then (t.length : Nat) else modbusFailAdrr
        else modbusFailCheck) := by
  have hl : t.length = pdu.length + 7 := by rw [ht]; simp
  have hsix : (t.length : Int) - (word l1 l0 : Nat) = 6 ↔ word l1 l0 = pdu.length + 1 := by omega
  have hload : ∀ i b, [t1, t0, p1, p0, l1, l0, a][i]? = some b → (old.fill t).load i = .ok b :=
    fun i b hb => tcpHeader_load old ht hn hb
  unfold tcpCheckWaitResponse
  rw [hload 4 l1 rfl, hload 5 l0 rfl, hload 6 a rfl, hload 0 t1 rfl, hload 1 t0 rfl, hload 2 p1 rfl,
    hload 3 p0 rfl]
  simp only [exec_ok_bind, exec_pure, hsix, ← Smb.Admits.eq_1]
  split_ifs <;> simp_all

end Tcp

/-! ### What the checks let through -/

theorem rtu_adu_iff {tid : UInt16} {a b lo hi : UInt8} {pdu : List UInt8} :
    [b] ++ pdu ++ [lo, hi] = Core.rtu.adu tid a pdu ↔
      b = a ∧ crc16 ([b] ++ pdu) = toU16 (word hi lo) := by
  rw [eq_comm (a := crc16 ([b] ++ pdu)), toU16_word_eq_iff]
  constructor
  · intro h
    simp only [Core.adu, Core.header, Core.checksum, List.cons_append, List.nil_append,
      List.cons.injEq, List.append_cancel_left_eq, List.cons.injEq, and_true] at h
    obtain ⟨rfl, rfl, rfl⟩ := h
    exact ⟨rfl, rfl, rfl⟩
  · rintro ⟨rfl, rfl, rfl⟩
    rfl

theorem tcp_adu_iff {tid : UInt16} {a b t1 t0 p1 p0 l1 l0 : UInt8} {pdu : List UInt8}
    (hlen : pdu.length + 1 < 65536) :
    [t1, t0, p1, p0, l1, l0, b] ++ pdu = Core.tcp.adu tid a pdu ↔
      b = a ∧ toU16 (word t1 t0) = tid ∧ p1 = 0 ∧ p0 = 0 ∧ word l1 l0 = pdu.length + 1 := by
  rw [toU16_word_eq_iff, word_eq_iff hlen]
  constructor
  · intro h
    simp only [Core.adu, Core.header, Core.checksum, List.append_nil, List.append_cancel_right_eq,
      List.cons.injEq, and_true] at h
    obtain ⟨rfl, rfl, rfl, rfl, rfl, rfl, rfl⟩ := h
    exact ⟨rfl, ⟨rfl, rfl⟩, rfl, rfl, rfl, rfl⟩
  · rintro ⟨rfl, ⟨rfl, rfl⟩, rfl, rfl, rfl, rfl⟩
    simp [Core.adu, Core.header, Core.checksum]

/-- Header and PDU of a TCP frame that is not too long. -/
theorem tcp_split {hd pdu ck t : List UInt8} (ht : t = hd ++ pdu ++ ck)
    (hhd : hd.length = Core.tcp.lenHeader) (hck : ck.length = Core.tcp.lenChecksum)
    (hlen : t.length ≤ modbusMaxAduLength) :
    ∃ t1 t0 p1 p0 l1 l0 b, t = [t1, t0, p1, p0, l1, l0, b] ++ pdu ∧ pdu.length + 1 < 65536 := by
  have hmax : modbusMaxAduLength = 260 := rfl
  obtain rfl : ck = [] := List.eq_nil_of_length_eq_zero hck
  rw [List.append_nil] at ht
  match hd, hhd with
  | [t1, t0, p1, p0, l1, l0, b], _ =>
    refine ⟨t1, t0, p1, p0, l1, l0, b, ht, ?_⟩
    rw [ht, List.length_append] at hlen
    omega

section Check

variable (core : Core) (smb : Smb σ) (old : Buffer UInt8 n) {hd pdu ck t : List UInt8}
  (ht : t = hd ++ pdu ++ ck) (hhd : hd.length = core.lenHeader) (hck : ck.length = core.lenChecksum)
  (hn : modbusMaxAduLength ≤ n) (hlen : t.length ≤ modbusMaxAduLength)

include ht hhd hck hn hlen

/-- **`check_wait_response`** returns the length for the frames of this transaction from an admitted
address, and a negative code for all other bytes. -/
theorem checkWaitResponse_eq :
    ∃ ret, core.checkWaitResponse smb (old.fill t) (t.length : Nat) = .ok ret ∧
      (ret = (t.length : Nat) ∧ (∃ a, smb.Admits a ∧ t = core.adu smb.transferId a pdu) ∨
        ret < 0 ∧ ∀ a pdu', smb.Admits a → t ≠ core.adu smb.transferId a pdu') := by
  suffices hsame : ∃ ret, core.checkWaitResponse smb (old.fill t) (t.length : Nat) = .ok ret ∧
      (ret = (t.length : Nat) ∧ (∃ a, smb.Admits a ∧ t = core.adu smb.transferId a pdu) ∨
        ret < 0 ∧ ∀ a, smb.Admits a → t ≠ core.adu smb.transferId a pdu) by
    -- a frame of these lengths has this PDU and no other
    obtain ⟨ret, hret, hcase⟩ := hsame
    refine ⟨ret, hret, hcase.imp_right ?_⟩
    rintro ⟨hneg, hall⟩
    refine ⟨hneg, fun a pdu' ha heq => ?_⟩
    obtain rfl := Core.pdu_of_adu_eq hhd hck (ht ▸ heq)
    exact hall a ha heq
  cases core with
  | rtu =>
    obtain ⟨b, rfl⟩ : ∃ b, hd = [b] := List.length_eq_one_iff.mp hhd
    obtain ⟨lo, hi, rfl⟩ : ∃ lo hi, ck = [lo, hi] := List.length_eq_two.mp hck
    refine ⟨_, rtuCheckWait_fill smb old ht (hlen.trans hn) hlen, ?_⟩
    simp only [ht, ne_eq, rtu_adu_iff]
    split_ifs with h1 h2
    · exact Or.inl ⟨rfl, b, h2, rfl, h1⟩
    · refine Or.inr ⟨by simp, ?_⟩
      rintro a ha ⟨rfl, -⟩
      exact h2 ha
    · refine Or.inr ⟨by simp, ?_⟩
      rintro a - ⟨rfl, hcrc⟩
      exact h1 hcrc
  | tcp =>
    obtain ⟨t1, t0, p1, p0, l1, l0, b, ht, hpdu⟩ := tcp_split ht hhd hck hlen
    refine ⟨_, tcpCheckWaitResponse_fill smb old ht (hlen.trans hn), ?_⟩
    simp only [ht, ne_eq, tcp_adu_iff hpdu]
    split_ifs with h1 h2
    · exact Or.inl ⟨rfl, b, h2, rfl, h1⟩
    · refine Or.inr ⟨by simp, ?_⟩
      rintro a ha ⟨rfl, -⟩
      exact h2 ha
    · refine Or.inr ⟨by simp, ?_⟩
      rintro a - ⟨rfl, h⟩
      exact h1 h

/-- **`check_wait_request`** returns the length for the frames with an admitted address and adopts
their transaction id, and returns a negative code for all other bytes. -/
theorem checkWaitRequest_eq :
    ∃ ret smb', core.checkWaitRequest smb (old.fill t) (t.length : Nat) = .ok (ret, smb') ∧
      (ret = (t.length : Nat) ∧
          (∃ a tid, smb.Admits a ∧ t = core.adu tid a pdu ∧ smb' = core.adopt smb tid) ∨
        ret < 0 ∧ smb' = smb ∧ ∀ a tid pdu', smb.Admits a → t ≠ core.adu tid a pdu') := by
  suffices hsame : ∃ ret smb',
      core.checkWaitRequest smb (old.fill t) (t.length : Nat) = .ok (ret, smb') ∧
      (ret = (t.length : Nat) ∧
          (∃ a tid, smb.Admits a ∧ t = core.adu tid a pdu ∧ smb' = core.adopt smb tid) ∨
        ret < 0 ∧ smb' = smb ∧ ∀ a tid, smb.Admits a → t ≠ core.adu tid a pdu) by
    -- a frame of these lengths has this PDU and no other
    obtain ⟨ret, smb', hret, hcase⟩ := hsame
    refine ⟨ret, smb', hret, hcase.imp_right ?_⟩
    rintro ⟨hneg, hsmb, hall⟩
    refine ⟨hneg, hsmb, fun a tid pdu' ha heq => ?_⟩
    obtain rfl := Core.pdu_of_adu_eq hhd hck (ht ▸ heq)
    exact hall a tid ha heq
  cases core with
  | rtu =>
    obtain ⟨b, rfl⟩ : ∃ b, hd = [b] := List.length_eq_one_iff.mp hhd
    obtain ⟨lo, hi, rfl⟩ : ∃ lo hi, ck = [lo, hi] := List.length_eq_two.mp hck
    have hrun : Core.rtu.checkWaitRequest smb (old.fill t) (t.length : Nat) =
        .ok (if crc16 ([b] ++ pdu) = toU16 (word hi lo) then
            if smb.Admits b then (t.length : Nat) else modbusFailAdrr
          else modbusFailCheck, smb) := by
      show rtuCheckWaitRequest smb (old.fill t) (t.length : Nat) = _
      rw [rtuCheckWaitRequest, rtuCheckWait_fill smb old ht (hlen.trans hn) hlen, exec_ok_bind, exec_pure]
    refine ⟨_, _, hrun, ?_⟩
    simp only [ht, ne_eq, rtu_adu_iff]
    split_ifs with h1 h2
    · exact Or.inl ⟨rfl, b, 0, h2, ⟨rfl, h1⟩, rfl⟩
    · refine Or.inr ⟨by simp, trivial, ?_⟩
      rintro a tid ha ⟨rfl, -⟩
      exact h2 ha
    · refine Or.inr ⟨by simp, trivial, ?_⟩
      rintro a tid - ⟨rfl, hcrc⟩
      exact h1 hcrc
  | tcp =>
    obtain ⟨t1, t0, p1, p0, l1, l0, b, ht, hpdu⟩ := tcp_split ht hhd hck hlen
    have hrun : Core.tcp.checkWaitRequest smb (old.fill t) (t.length : Nat) = _ :=
      tcpCheckWaitRequest_fill smb old ht (hlen.trans hn)
    simp only [ht, ne_eq, tcp_adu_iff hpdu] at hrun ⊢
    by_cases h1 : p1 = 0 ∧ p0 = 0 ∧ word l1 l0 = pdu.length + 1
    · rw [if_pos h1] at hrun
      by_cases h2 : smb.Admits b
      · rw [if_pos h2] at hrun
        exact ⟨_, _, hrun, Or.inl ⟨rfl, b, _, h2, ⟨rfl, rfl, h1⟩, rfl⟩⟩
      · rw [if_neg h2] at hrun
        refine ⟨_, _, hrun, Or.inr ⟨by simp, rfl, ?_⟩⟩
        rintro a tid ha ⟨rfl, -⟩
        exact h2 ha
    · rw [if_neg h1] at hrun
      refine ⟨_, _, hrun, Or.inr ⟨by simp, rfl, ?_⟩⟩
      rintro a tid - ⟨rfl, -, h⟩
      exact h1 h

end Check

section Cut

variable (core : Core) (smb : Smb σ) (old : Buffer UInt8 n) {hd pdu ck t : List UInt8}
  (ht : t = hd ++ pdu ++ ck) (hhd : hd.length = core.lenHeader) (hck : ck.length = core.lenChecksum)
  (hn : t.length ≤ n) (hlen : t.length ≤ modbusMaxAduLength)

include ht hhd hck hn hlen

/-- `check_wait_request` reads no byte behind the frame. -/
theorem checkWaitRequest_cut :
    core.checkWaitRequest smb ((old.fill t).cut t.length) (t.length : Nat) =
      core.checkWaitRequest smb (old.fill t) (t.length : Nat) := by
  obtain ⟨c, hc⟩ := old.cut_fill hn
  have hm : t.length ≤ min t.length n := by omega
  rw [hc]
  cases core with
  | rtu =>
    obtain ⟨b, rfl⟩ : ∃ b, hd = [b] := List.length_eq_one_iff.mp hhd
    obtain ⟨lo, hi, rfl⟩ : ∃ lo hi, ck = [lo, hi] := List.length_eq_two.mp hck
    show rtuCheckWaitRequest smb (c.fill t) _ = rtuCheckWaitRequest smb (old.fill t) _
    rw [rtuCheckWaitRequest, rtuCheckWaitRequest, rtuCheckWait_fill smb c ht hm hlen,
      rtuCheckWait_fill smb old ht hn hlen]
  | tcp =>
    obtain ⟨t1, t0, p1, p0, l1, l0, b, ht, -⟩ := tcp_split ht hhd hck hlen
    exact (tcpCheckWaitRequest_fill smb c ht hm).trans (tcpCheckWaitRequest_fill smb old ht hn).symm

/-- Nor does `check_wait_response`. -/
theorem checkWaitResponse_cut :
    core.checkWaitResponse smb ((old.fill t).cut t.length) (t.length : Nat) =
      core.checkWaitResponse smb (old.fill t) (t.length : Nat) := by
  obtain ⟨c, hc⟩ := old.cut_fill hn
  have hm : t.length ≤ min t.length n := by omega
  rw [hc]
  cases core with
  | rtu =>
    obtain ⟨b, rfl⟩ : ∃ b, hd = [b] := List.length_eq_one_iff.mp hhd
    obtain ⟨lo, hi, rfl⟩ : ∃ lo hi, ck = [lo, hi] := List.length_eq_two.mp hck
    exact (rtuCheckWait_fill smb c ht hm hlen).trans (rtuCheckWait_fill smb old ht hn hlen).symm
  | tcp =>
    obtain ⟨t1, t0, p1, p0, l1, l0, b, ht, -⟩ := tcp_split ht hhd hck hlen
    exact (tcpCheckWaitResponse_fill smb c ht hm).trans (tcpCheckWaitResponse_fill smb old ht hn).symm

end Cut

section Congr

variable {τ : Type} {core : Core} {smb : Smb σ} {smb₂ : Smb τ}
  (haddr : smb.slaveAddr = smb₂.slaveAddr) (htid : smb.transferId = smb₂.transferId)

include haddr htid

/-- `check_wait_response` looks at the address and the transaction id of its context only. -/
theorem checkWaitResponse_congr (b : Buffer UInt8 n) (len : Int) :
    core.checkWaitResponse smb b len = core.checkWaitResponse smb₂ b len := by
  cases core with
  | rtu =>
    show rtuCheckWaitResponse smb b len = rtuCheckWaitResponse smb₂ b len
    unfold rtuCheckWaitResponse rtuCheckWait
    rw [haddr]
  | tcp =>
    show tcpCheckWaitResponse smb b len = tcpCheckWaitResponse smb₂ b len
    unfold tcpCheckWaitResponse
    rw [haddr, htid]

/-- So does `check_wait_request`. -/
theorem checkWaitRequest_congr {b : Buffer UInt8 n} {len ret ret₂ : Int} {smb' : Smb σ} {smb₂' : Smb τ}
    (h : core.checkWaitRequest smb b len = .ok (ret, smb'))
    (h₂ : core.checkWaitRequest smb₂ b len = .ok (ret₂, smb₂')) :
    ret = ret₂ ∧ smb'.transferId = smb₂'.transferId := by
  cases core with
  | rtu =>
    have hsame : rtuCheckWait smb b len = rtuCheckWait smb₂ b len := by
      unfold rtuCheckWait
      rw [haddr]
    obtain ⟨r, hr, h⟩ := bind_eq_ok.mp h
    obtain ⟨r₂, hr₂, h₂⟩ := bind_eq_ok.mp h₂
    rw [hsame, hr₂] at hr
    cases hr
    cases h
    cases h₂
    exact ⟨rfl, htid⟩
  | tcp =>
    replace h : tcpCheckWaitRequest smb b len = .ok (ret, smb') := h
    replace h₂ : tcpCheckWaitRequest smb₂ b len = .ok (ret₂, smb₂') := h₂
    unfold tcpCheckWaitRequest at h h₂
    rw [← haddr] at h₂
    obtain ⟨b4, h4, h⟩ := bind_eq_ok.mp h
    obtain ⟨b5, h5, h⟩ := bind_eq_ok.mp h
    obtain ⟨b6, h6, h⟩ := bind_eq_ok.mp h
    obtain ⟨b2, h2, h⟩ := bind_eq_ok.mp h
    obtain ⟨b3, h3, h⟩ := bind_eq_ok.mp h
    simp only [h4, h5, h6, h2, h3, exec_ok_bind] at h₂
    split_ifs at h h₂ with hp hl ha
    · obtain ⟨b0, h0, h⟩ := bind_eq_ok.mp h
      obtain ⟨b1, h1, h⟩ := bind_eq_ok.mp h
      simp only [h0, h1, exec_ok_bind] at h₂
      cases h
      cases h₂
      exact ⟨rfl, rfl⟩
    all_goals
      cases h
      cases h₂
      exact ⟨rfl, htid⟩

end Congr

end SmallModbus
