/-
# `SmallModbus.Answers` — what a reply of the slave says about the callback's result.

`write_answer_iff`: when the normal reply of a write says that everything was written.
`read_answer_iff`: when the normal reply of a read carries exactly what was asked.
`reply_roundtrip`: that the requesting master receives whatever the slave replies.
-/
import SmallModbus.Reply
import SmallModbus.Request

namespace SmallModbus

open SmallModbus.Lib

variable {σ κ : Type} {n : Nat}

/-! ## §1 — replies to writes. -/

/-- The frame is a normal reply to the function: its function code is not the exception's. -/
def NormalReply (core : Core) (function : UInt8) (frame : List UInt8) : Prop :=
  frame[core.lenHeader]? = some function

instance (core : Core) (function : UInt8) (frame : List UInt8) :
    Decidable (NormalReply core function frame) := inferInstanceAs (Decidable (_ = _))

theorem adu_getElem? (core : Core) (tid : UInt16) (a : UInt8) {pdu : List UInt8} {i : Nat}
    (hi : i < pdu.length) : (core.adu tid a pdu)[core.lenHeader + i]? = pdu[i]? := by
  have hl : (core.header tid a pdu.length).length = core.lenHeader := by simp
  rw [Core.adu, List.append_assoc, List.getElem?_append_right (by omega), hl, Nat.add_sub_cancel_left,
    List.getElem?_append_left hi]

theorem normalReply_adu {core : Core} {tid : UInt16} {a f g : UInt8} {pdu : List UInt8} :
    NormalReply core f (core.adu tid a (g :: pdu)) ↔ g = f := by
  unfold NormalReply
  rw [← Nat.add_zero core.lenHeader, adu_getElem? core tid a (Nat.succ_pos _)]
  simp

/-- The exception bit changes the function code. -/
theorem exceptionFunction_ne (f : UInt8) : toU8 ((f.toNat : Int) + 0x80) ≠ f := by
  intro h
  have h1 := toNat_toU8 ((f.toNat : Int) + 0x80)
  have h2 := f.toNat_lt
  rw [h] at h1
  omega

/-- A write is answered normally when the callback's result passes the check of its branch. -/
theorem normalReply_write (core : Core) (tid : UInt16) {q : Query} {items : Nat}
    (hitems : q.items = some items) (slaveAddr : UInt8) (r : Int) (data : List UInt8) :
    (∀ k, serviceOf q.function = .writeSingle k →
      (NormalReply core q.function (core.adu tid slaveAddr (q.reply slaveAddr r data)) ↔ r = items)) ∧
    (∀ k, serviceOf q.function = .writeMultiple k →
      (NormalReply core q.function (core.adu tid slaveAddr (q.reply slaveAddr r data)) ↔
        0 < r ∧ 0 < (toU16 r).toNat ∧ (toU16 r).toNat ≤ k.maxWrite)) := by
  unfold Query.items at hitems
  refine ⟨fun k hserv => ?_, fun k hserv => ?_⟩
  · rw [hserv] at hitems
    obtain rfl : 1 = items := Option.some.inj hitems
    unfold Query.reply
    rw [hserv]
    dsimp only
    split_ifs with hr
    · rw [Query.echoReply, normalReply_adu]
      exact ⟨fun _ => hr.symm, fun _ => rfl⟩
    · rw [Query.exceptionReply, normalReply_adu]
      exact ⟨fun h => absurd h (exceptionFunction_ne _), fun h => absurd h.symm hr⟩
  · rw [hserv] at hitems
    dsimp only at hitems
    split_ifs at hitems with hnum
    unfold Query.reply
    rw [hserv]
    dsimp only
    rw [if_pos hnum]
    split_ifs with hr
    · rw [Query.echoReply, normalReply_adu]
      exact ⟨fun _ => hr, fun _ => rfl⟩
    · rw [Query.exceptionReply, normalReply_adu]
      exact ⟨fun h => absurd h (exceptionFunction_ne _), fun h => absurd h hr⟩

/-- The slave answers this query with exactly one frame, and the frame has the property. -/
def AnswersWith {port : Port σ} (T : Tap port) (smb : Smb σ) (w : σ) (request : Buffer UInt8 n)
    (requestLen : UInt16) (cb : Option (SlaveCallback κ)) (app : κ) (P : List UInt8 → Prop) : Prop :=
  ∃ ret smb' w' request' app' reply,
    modbusSlaveHandle smb w request requestLen cb app = .ok (ret, smb', w', request', app') ∧
      T.sent w' = T.sent w ++ [reply] ∧ P reply

section Answer

variable {smb : Smb σ} {core : Core} {port : Port σ} (h : Ready smb core port) (T : Tap port) (w : σ)
  {q : Query} {request : Buffer UInt8 n} (hn : modbusMaxAduLength ≤ n) (hin : q.In core request)
  (requestLen : UInt16) (cb : Option (SlaveCallback κ)) (app : κ) {r : Int} {data : List UInt8} {app' : κ}
  (hcall : q.call core smb request cb app = (r, data, app'))

include h hn hin hcall

/-- A result that fits is answered with the reply of the query, and with nothing else. -/
theorem answersWith_iff (hfits : q.Fits r) {P : List UInt8 → Prop} :
    AnswersWith T smb w request requestLen cb app P ↔
      P (core.adu smb.transferId smb.slaveAddr (q.reply smb.slaveAddr r data)) := by
  obtain ⟨wb, req', hrun⟩ := modbusSlaveHandle_eq hin hn cb app h T.writeFn w requestLen hcall hfits
  constructor
  · rintro ⟨ret, smb', w', request', app'', reply, hrun', hsent, hP⟩
    rw [hrun] at hrun'
    cases hrun'
    rw [T.sent_write] at hsent
    obtain rfl := List.singleton_injective (List.append_cancel_left hsent)
    exact hP
  · intro hP
    exact ⟨_, _, _, _, _, _, hrun, T.sent_write w _, hP⟩

/-- **A normal reply to a write says that all items were written** exactly for the single writes and for
the results of a multiple write that are the quantity itself or fail the range check. -/
theorem write_answer_iff {items : Nat} (hitems : q.items = some items)
    (hwrite : (∃ k, serviceOf q.function = .writeSingle k) ∨
      ∃ k, serviceOf q.function = .writeMultiple k) :
    AnswersWith T smb w request requestLen cb app
        (fun reply => NormalReply core q.function reply ↔ r = items) ↔
      ∀ k, serviceOf q.function = .writeMultiple k →
        r = items ∨ r ≤ 0 ∨ ¬(0 < r % 65536 ∧ r % 65536 ≤ k.maxWrite) := by
  have hfits : q.Fits r := by
    intro k hread
    rcases hwrite with ⟨k', hk'⟩ | ⟨k', hk'⟩ <;> rw [hk'] at hread <;> cases hread
  rw [answersWith_iff h T w hn hin requestLen cb app hcall hfits]
  obtain ⟨hsingle, hmultiple⟩ :=
    normalReply_write core smb.transferId hitems smb.slaveAddr r data
  rcases hwrite with ⟨k, hk⟩ | ⟨k, hk⟩
  · rw [hsingle k hk]
    constructor
    · rintro - k' hk'
      rw [hk] at hk'
      cases hk'
    · exact fun _ => Iff.rfl
  · rw [hmultiple k hk]
    have hmod := toNat_toU16 r
    have hitems' : 0 < items ∧ items ≤ k.maxWrite := by
      unfold Query.items at hitems
      rw [hk] at hitems
      dsimp only at hitems
      split_ifs at hitems with hnum
      obtain rfl := Option.some.inj hitems
      exact hnum
    have hmax := k.maxWrite_le
    constructor
    · intro hiff k' hk'
      obtain rfl : k = k' := by
        rw [hk] at hk'
        exact Service.writeMultiple.inj hk'
      by_cases hr : r = items
      · exact Or.inl hr
      · have hnot := mt hiff.mp hr
        right
        omega
    · intro hcond
      have := hcond k hk
      constructor
      · intro hr
        omega
      · rintro rfl
        omega

end Answer

/-- A callback that returns `r` and leaves the data alone. -/
def returning (r : Int) : SlaveCallback Unit where
  call app _ _ _ data := (r, data, app)
  size_eq _ _ _ _ _ := rfl

/-- Ten coils to write, of which the callback stores none. -/
theorem write_answer_iff_refused :
    AnswersWith Wire.tap (newContext .rtu Wire.port 1) ⟨[], [], []⟩
      ((Buffer.replicate 260 0).fill (Core.rtu.adu 0 1 [15, 0, 0, 0, 10, 2, 255, 3])) 11
      (some (returning (-2))) () (fun reply => NormalReply .rtu 15 reply ↔ (-2 : Int) = 10) :=
  (write_answer_iff (q := ⟨15, 0, 10⟩) (newContext_ready .rtu Wire.port 1) Wire.tap ⟨[], [], []⟩
    (by decide) ⟨by decide +kernel, by decide +kernel, by decide +kernel⟩ 11 (some (returning (-2))) ()
    (r := -2) rfl (show Query.items ⟨15, 0, 10⟩ = some 10 from rfl) (Or.inr ⟨.coil, rfl⟩)).mpr
      fun _ _ => Or.inr (Or.inl (by decide))

/-- Ten coils to write, of which the callback stores three: the reply is the normal one. -/
theorem write_answer_short :
    (modbusSlaveWaitHandle 600 (newContext .rtu Wire.port 1)
        ⟨[1, 15, 0, 0, 0, 10, 2, 255, 3, 228, 201], [], []⟩ (some (returning 3)) () (-1)).map
        (fun x => x.2.2.1.tx) = .ok [[1, 15, 0, 0, 0, 10, 213, 204]] ∧
      ¬ (NormalReply .rtu 15 [1, 15, 0, 0, 0, 10, 213, 204] ↔ (3 : Int) = 10) :=
  ⟨by decide +kernel, by decide⟩

/-! ## §2 — replies to reads. -/

/-- The frame is an exception reply to the function. -/
def ExceptionReply (core : Core) (function : UInt8) (frame : List UInt8) : Prop :=
  frame[core.lenHeader]? = some (toU8 ((function.toNat : Int) + 0x80))

/-- The frame has the byte count of `num` items, and that many bytes of data. -/
def ReadReply (core : Core) (k : Kind) (num : Nat) (frame : List UInt8) : Prop :=
  ∃ b, frame[core.lenHeader + 1]? = some b ∧ b.toNat = k.bytes num ∧
    frame.length = core.lenHeader + 2 + k.bytes num + core.lenChecksum

theorem exceptionReply_adu {core : Core} {tid : UInt16} {a f g : UInt8} {pdu : List UInt8} :
    ExceptionReply core f (core.adu tid a (g :: pdu)) ↔ g = toU8 ((f.toNat : Int) + 0x80) :=
  normalReply_adu (f := toU8 ((f.toNat : Int) + 0x80))

theorem readReply_adu {core : Core} {tid : UInt16} {a f b : UInt8} {data : List UInt8} {k : Kind}
    {num : Nat} (hb : b.toNat = data.length) :
    ReadReply core k num (core.adu tid a (f :: b :: data)) ↔ data.length = k.bytes num := by
  unfold ReadReply
  rw [adu_getElem? core tid a (show 1 < (f :: b :: data).length by simp), Core.length_adu,
    List.length_cons, List.length_cons]
  constructor
  · rintro ⟨b', hb', hnum, -⟩
    obtain rfl : b = b' := Option.some.inj hb'
    omega
  · intro hnum
    exact ⟨b, rfl, by omega, by omega⟩

/-- What a read leaves behind the pointer of the callback has the length of the reply buffer behind it. -/
theorem length_of_readCall {smb : Smb σ} {core : Core} {q : Query} {request : Buffer UInt8 n}
    {cb : Option (SlaveCallback κ)} {app app' : κ} {r : Int} {data : List UInt8} {k : Kind}
    (hread : serviceOf q.function = .read k) (hnum : 0 < q.num.toNat ∧ q.num.toNat ≤ k.maxRead)
    (hcall : q.call core smb request cb app = (r, data, app')) :
    data.length = modbusMaxAduLength - (core.lenHeader + 2) := by
  unfold Query.call Query.items Query.cells at hcall
  rw [hread] at hcall
  dsimp only at hcall
  rw [if_pos hnum] at hcall
  have hlen := callResult_length cb app q.function.toNat q.address.toNat q.num.toNat
    (smb.writeBuff.toList.drop (core.lenHeader + 2))
  dsimp only at hcall
  rwa [hcall, List.length_drop, Buffer.length_toList] at hlen

section Read

variable {smb : Smb σ} {core : Core} {port : Port σ} (h : Ready smb core port) (T : Tap port) (w : σ)
  {q : Query} {request : Buffer UInt8 n} (hn : modbusMaxAduLength ≤ n) (hin : q.In core request)
  (requestLen : UInt16) (cb : Option (SlaveCallback κ)) (app : κ) {r : Int} {data : List UInt8} {app' : κ}
  (hcall : q.call core smb request cb app = (r, data, app')) {k : Kind}
  (hread : serviceOf q.function = .read k)

include h hn hin hcall hread

/-- **A reply to a read that is no exception carries exactly what was asked** exactly for the results that
fail the range check and those that take as many bytes as the quantity. -/
theorem read_answer_iff :
    AnswersWith T smb w request requestLen cb app
        (fun reply => ¬ ExceptionReply core q.function reply → ReadReply core k q.num.toNat reply) ↔
      r ≤ 0 ∨ ¬(0 < r % 65536 ∧ r % 65536 ≤ k.maxRead) ∨
        r ≤ k.maxRead ∧ k.bytes r.toNat = k.bytes q.num.toNat := by
  have hmod := toNat_toU16 r
  have hh := core.lenHeader_le
  have hmax : modbusMaxAduLength = 260 := rfl
  have hexc : ∀ code, ExceptionReply core q.function (core.adu smb.transferId smb.slaveAddr
      (q.exceptionReply r code)) := fun code => exceptionReply_adu.mpr rfl
  by_cases hfits : q.Fits r
  · rw [answersWith_iff h T w hn hin requestLen cb app hcall hfits]
    unfold Query.reply
    rw [hread]
    dsimp only
    split_ifs with hnum hr
    · -- the callback was asked and its result passed the check
      have hle := hfits k hread hr
      have hbytes : k.bytes r.toNat ≤ 250 := k.bytes_maxRead ▸ k.bytes_mono (by omega)
      have hdata := length_of_readCall hread hnum hcall
      have hlen : (k.conv (data.take (k.bytes r.toNat))).length = k.bytes r.toNat := by
        rw [Kind.length_conv, List.length_take_of_le (by omega)]
      have hb : (toU8 (k.bytes r.toNat)).toNat = k.bytes r.toNat := toNat_toU8_of_lt (by omega)
      rw [exceptionReply_adu, readReply_adu (hb.trans hlen.symm), hlen]
      constructor
      · intro hsame
        exact Or.inr (Or.inr ⟨hle, hsame fun h => exceptionFunction_ne _ h.symm⟩)
      · rintro (h0 | hrange | ⟨-, hsame⟩) -
        · omega
        · omega
        · exact hsame
    · constructor
      · intro _
        omega
      · exact fun _ hno => absurd (hexc _) hno
    · -- the callback was not asked
      have hr0 : 0 = r := by
        unfold Query.call Query.items at hcall
        rw [hread] at hcall
        dsimp only at hcall
        rw [if_neg hnum] at hcall
        exact congrArg Prod.fst hcall
      constructor
      · intro _
        omega
      · exact fun _ hno => absurd (hexc _) hno
  · constructor
    · rintro ⟨ret, smb', w', request', app'', reply, hrun, -⟩
      exact absurd hrun (modbusSlaveHandle_overrun hin cb app h w requestLen hcall hfits _)
    · intro hcond
      refine absurd (fun k' hk' hr => ?_) hfits
      obtain rfl := Service.read.inj (hread.symm.trans hk')
      rcases hcond with h0 | hrange | ⟨hle, -⟩
      · omega
      · omega
      · exact hle

end Read

/-- Two registers to read, of which the callback gives none. -/
theorem read_answer_iff_refused :
    AnswersWith Wire.tap (newContext .tcp Wire.port 1) ⟨[], [], []⟩
      ((Buffer.replicate 260 0).fill (Core.tcp.adu 9 1 [3, 0, 0, 0, 2])) 12
      (some (returning (-2))) ()
      (fun reply => ¬ ExceptionReply .tcp 3 reply → ReadReply .tcp .register 2 reply) :=
  (read_answer_iff (q := ⟨3, 0, 2⟩) (newContext_ready .tcp Wire.port 1) Wire.tap ⟨[], [], []⟩
    (by decide) ⟨by decide +kernel, by decide +kernel, by decide +kernel⟩ 12 (some (returning (-2))) ()
    (r := -2) rfl (k := .register) rfl).mpr (Or.inl (by decide))

/-- Two registers to read, of which the callback gives one: the reply carries one. -/
theorem read_answer_short :
    (modbusSlaveWaitHandle 600 (newContext .rtu Wire.port 1) ⟨[1, 3, 0, 0, 0, 2, 196, 11], [], []⟩
        (some (returning 1)) () (-1)).map (fun x => x.2.2.1.tx) = .ok [[1, 3, 2, 0, 0, 184, 68]] ∧
      ¬ (¬ ExceptionReply .rtu 3 [1, 3, 2, 0, 0, 184, 68] →
        ReadReply .rtu .register 2 [1, 3, 2, 0, 0, 184, 68]) := by
  refine ⟨by decide +kernel, fun hread => ?_⟩
  obtain ⟨b, hb, hcount, -⟩ := hread (by unfold ExceptionReply; decide)
  obtain rfl : 2 = b := Option.some.inj hb
  exact absurd hcount (by decide)

/-! ## §3 — the requesting master receives the reply. -/

/-- The callback returns a negative number or one that fits 16 bits. -/
def SlaveCallback.FitsWord (cb : SlaveCallback κ) : Prop :=
  ∀ app f a num data, (cb.call app f a num data).1 < 65536

/-- Behind its header a frame of five bytes or more is a query. -/
theorem exists_query {pdu : List UInt8} (h : 5 ≤ pdu.length) :
    ∃ (q : Query) (tail : List UInt8), pdu = q.echoReply ++ tail := by
  match pdu, h with
  | f :: a1 :: a0 :: n1 :: n0 :: tail, _ =>
    refine ⟨⟨f, toU16 (word a1 a0), toU16 (word n1 n0)⟩, tail, ?_⟩
    obtain ⟨ha1, ha0⟩ := toU16_word_eq_iff.mp (rfl : toU16 (word a1 a0) = toU16 (word a1 a0))
    obtain ⟨hn1, hn0⟩ := toU16_word_eq_iff.mp (rfl : toU16 (word n1 n0) = toU16 (word n1 n0))
    show f :: a1 :: a0 :: n1 :: n0 :: tail = f :: _ :: _ :: _ :: _ :: tail
    rw [← ha1, ← ha0, ← hn1, ← hn0]

/-- A served function with the exception bit is delimited like an exception. -/
theorem confirmFormat_exception (f : UInt8) (h : serviceOf f ≠ .unsupported) :
    confirmFormat.fixed (toU8 ((f.toNat : Int) + 0x80)) = 1 ∧
      confirmFormat.counted (toU8 ((f.toNat : Int) + 0x80)) = none := by
  revert f
  exact forall_uint8 (by decide +kernel)

theorem confirmFormat_read (f : UInt8) {k : Kind} (h : serviceOf f = .read k) :
    confirmFormat.fixed f = 1 ∧ confirmFormat.counted f = some 1 := by
  revert f
  cases k <;> exact forall_uint8 (by decide +kernel)

theorem confirmFormat_write (f : UInt8)
    (h : (∃ k, serviceOf f = .writeSingle k) ∨ ∃ k, serviceOf f = .writeMultiple k) :
    confirmFormat.fixed f = 4 ∧ confirmFormat.counted f = none := by
  rcases h with ⟨k, hk⟩ | ⟨k, hk⟩
  · obtain rfl := serviceOf_writeSingle f hk
    cases k <;> exact ⟨rfl, rfl⟩
  · obtain rfl := serviceOf_writeMultiple f hk
    cases k <;> exact ⟨rfl, rfl⟩

section Sized

variable {q : Query}

theorem exceptionReply_sized (hserv : serviceOf q.function ≠ .unsupported) (r code : Int) :
    confirmFormat.Sized (q.exceptionReply r code) := by
  obtain ⟨hfixed, hcounted⟩ := confirmFormat_exception q.function hserv
  exact (Format.sized_uncounted_iff hcounted).mpr hfixed.symm

theorem echoReply_sized (h : (∃ k, serviceOf q.function = .writeSingle k) ∨
    ∃ k, serviceOf q.function = .writeMultiple k) : confirmFormat.Sized q.echoReply := by
  obtain ⟨hfixed, hcounted⟩ := confirmFormat_write q.function h
  exact (Format.sized_uncounted_iff hcounted).mpr hfixed.symm

/-- **Every reply has the length the master's table gives it.** -/
theorem reply_sized {smb : Smb σ} {core : Core} {request : Buffer UInt8 n}
    {cb : Option (SlaveCallback κ)} {app app' : κ} {r : Int} {data : List UInt8}
    (hcall : q.call core smb request cb app = (r, data, app')) (hfits : q.Fits r)
    (hserv : ∃ k, serviceOf q.function = .read k ∨ serviceOf q.function = .writeSingle k ∨
      serviceOf q.function = .writeMultiple k) :
    confirmFormat.Sized (q.reply smb.slaveAddr r data) := by
  have hh := core.lenHeader_le
  have hmax : modbusMaxAduLength = 260 := rfl
  have hexc : ∀ code, confirmFormat.Sized (q.exceptionReply r code) := by
    intro code
    apply exceptionReply_sized
    rintro hun
    obtain ⟨k, hk⟩ := hserv
    rw [hun] at hk
    simp at hk
  unfold Query.reply
  obtain ⟨k, hk | hk | hk⟩ := hserv
  · rw [hk]
    dsimp only
    split_ifs with hnum hr
    · have hle := hfits k hk hr
      have hbytes : k.bytes r.toNat ≤ 250 := k.bytes_maxRead ▸ k.bytes_mono (by omega)
      have hdata := length_of_readCall hk hnum hcall
      obtain ⟨hfixed, hcounted⟩ := confirmFormat_read q.function hk
      apply (Format.sized_counted_iff hcounted hfixed).mpr
      rw [Kind.length_conv, List.length_take_of_le (by omega), toNat_toU8_of_lt (by omega)]
    · exact hexc _
    · exact hexc _
  · rw [hk]
    dsimp only
    split_ifs
    · exact echoReply_sized (Or.inl ⟨k, hk⟩)
    · exact hexc _
  · rw [hk]
    dsimp only
    split_ifs
    · exact echoReply_sized (Or.inr ⟨k, hk⟩)
    · exact hexc _
    · exact hexc _

end Sized

/-- The eight functions of the master are served. -/
theorem serviceOf_request {function : Int} (h : function ∈ requestFunctions) :
    ∃ k, serviceOf (toU8 function) = .read k ∨ serviceOf (toU8 function) = .writeSingle k ∨
      serviceOf (toU8 function) = .writeMultiple k := by
  simp only [requestFunctions, List.mem_cons, List.not_mem_nil, or_false] at h
  rcases h with rfl | rfl | rfl | rfl | rfl | rfl | rfl | rfl
  · exact ⟨.coil, Or.inl rfl⟩
  · exact ⟨.coil, Or.inl rfl⟩
  · exact ⟨.register, Or.inl rfl⟩
  · exact ⟨.register, Or.inl rfl⟩
  · exact ⟨.coil, Or.inr (Or.inl rfl)⟩
  · exact ⟨.register, Or.inr (Or.inl rfl)⟩
  · exact ⟨.coil, Or.inr (Or.inr rfl)⟩
  · exact ⟨.register, Or.inr (Or.inr rfl)⟩

/-- The function code of a query that was sent. -/
theorem Query.function_of_request {q : Query} {function addr num : Int} {writeData tail : List UInt8}
    (hpdu : requestPdu function addr num writeData = q.echoReply ++ tail) : q.function = toU8 function :=
  (Option.some.inj (congrArg List.head? hpdu)).symm

/-- The request of the master is a query of its function. -/
theorem Sendable.query {function addr num : Int} {writeData : List UInt8}
    (hs : Sendable function addr num writeData) :
    ∃ (q : Query) (tail : List UInt8), requestPdu function addr num writeData = q.echoReply ++ tail ∧
      q.function = toU8 function := by
  have hlen : 5 ≤ (requestPdu function addr num writeData).length := by
    have hsize : (requestPdu function addr num writeData).length =
        1 + slaveFormat.fixed (toU8 function) + _ := hs.sized.1
    have hfixed : 4 ≤ slaveFormat.fixed (toU8 function) := by
      have hmem := hs.function_mem
      simp only [requestFunctions, List.mem_cons, List.not_mem_nil, or_false] at hmem
      rcases hmem with rfl | rfl | rfl | rfl | rfl | rfl | rfl | rfl <;> decide
    omega
  obtain ⟨q, tail, hq⟩ := exists_query hlen
  exact ⟨q, tail, hq, q.function_of_request hq⟩

theorem adopt_ready {smb : Smb σ} {core : Core} {port : Port σ} (h : Ready smb core port) (core' : Core)
    (tid : UInt16) : Ready (core'.adopt smb tid) core port := by
  cases core' with
  | rtu => exact h
  | tcp => exact h.congr rfl rfl rfl

@[simp] theorem adopt_slaveAddr (core : Core) (smb : Smb σ) (tid : UInt16) :
    (core.adopt smb tid).slaveAddr = smb.slaveAddr := by cases core <;> rfl

/-- A frame sent under an adopted transaction id is a frame of that transaction. -/
theorem adu_adopt (core : Core) (smb : Smb σ) (tid : UInt16) (a : UInt8) (pdu : List UInt8) :
    core.adu (core.adopt smb tid).transferId a pdu = core.adu tid a pdu := by cases core <;> rfl

/-- The results of a call fit 16 bits when those of the callback do. -/
theorem call_lt {smb : Smb σ} {core : Core} {q : Query} {request : Buffer UInt8 n}
    {cb : Option (SlaveCallback κ)} (hcb : ∀ c, cb = some c → c.FitsWord) (app : κ) :
    (q.call core smb request cb app).1 < 65536 := by
  have h0 : (0 : Int) < 65536 := by decide
  unfold Query.call callResult
  cases q.items with
  | none => exact h0
  | some items =>
    cases cb with
    | none => exact h0
    | some c => exact hcb c rfl _ _ _ _ _

/-- **Reply round trip.** The master starts a request; a slave with the same address receives the frame,
with any bytes behind it, and answers it with whatever its callback does. The reply it hands to its port,
followed by any other bytes and in any fragmentation, is then received by the waiting master: it returns
the length of the reply, its buffer begins with the reply, and the other bytes stay unread. -/
theorem reply_roundtrip {core : Core} {smb : Smb σ} {port : Port σ} (h : Ready smb core port)
    (T : Tap port) (w : σ) (old : Buffer UInt8 modbusMaxAduLength) {function addr num : Int}
    (hf : function ∈ requestFunctions) {writeData : List UInt8} {ret : Int} {smb' : Smb σ} {w' : σ}
    {buff' : Buffer UInt8 modbusMaxAduLength} {frame : List UInt8}
    (hstart : modbusStartRequest smb w old function addr num writeData = .ok (ret, smb', w', buff'))
    (hsent : T.sent w' = T.sent w ++ [frame])
    {τ : Type} {m : Nat} {slave : Smb τ} {slavePort : Port τ} (hslave : Ready slave core slavePort)
    (haddr : slave.slaveAddr = smb.slaveAddr) (L : Line slavePort) (hp : L.Prompt) {rank : τ → Nat}
    (hfair : L.Fair rank) (T₂ : Tap slavePort) (slaveOld : Buffer UInt8 m) (hm : modbusMaxAduLength ≤ m)
    (cb : Option (SlaveCallback κ)) (hcb : ∀ c, cb = some c → c.FitsWord) (app : κ) {v : τ}
    {rest : List UInt8} (hrem : L.rem v = frame ++ rest) (t : Int) {fuel : Nat}
    (hfuel : rank v + 2 * m + 1 < fuel)
    (M : Line port) (hpM : M.Prompt) {rankM : σ → Nat} (hfairM : M.Fair rankM)
    (response : Buffer UInt8 n) (hn : modbusMaxAduLength ≤ n) (more : List UInt8) :
    ∃ slave₁ v₁ request,
      modbusSlaveWait fuel slave v slaveOld t = .ok ((frame.length : Nat), slave₁, v₁, request) ∧
      ∃ ret₂ slave₂ v₂ request₂ app₂ reply,
        modbusSlaveHandle slave₁ v₁ request (toU16 (frame.length : Nat)) cb app =
          .ok (ret₂, slave₂, v₂, request₂, app₂) ∧
        T₂.sent v₂ = T₂.sent v₁ ++ [reply] ∧
        ∀ u fuelM, M.rem u = reply ++ more → rankM u + 2 * n + 1 < fuelM →
          ∃ u', modbusWaitConfirm fuelM smb' u response =
              .ok ((reply.length : Nat), u', response.fill reply) ∧ M.rem u' = more := by
  rcases modbusStartRequest_cases h hf hstart with ⟨-, -, rfl, -⟩ | hs
  · -- nothing was sent
    simp at hsent
  · rw [modbusStartRequest_eq h T.writeFn w old le_rfl hs] at hstart
    cases hstart
    rw [T.sent_write] at hsent
    obtain rfl := List.singleton_injective (List.append_cancel_left hsent)
    have hlen := hs.length_adu_le core (core.requestContext smb).transferId smb.slaveAddr
    -- the slave receives the request
    obtain ⟨⟨retS, slave₁, v₁, request⟩, hrunS⟩ := modbusSlaveWait_returns L hslave slaveOld hm hfair t hfuel
    obtain ⟨rfl, rfl, rfl, -⟩ := modbusSlaveWait_adu L hslave slaveOld hm hp (Or.inl haddr.symm)
      hs.sized.1 hlen hrem hrunS
    refine ⟨_, _, _, hrunS, ?_⟩
    -- it answers it
    obtain ⟨q, tail, hpdu, hqf⟩ := hs.query
    have hin : q.In core (slaveOld.fill (requestFrame core smb function addr num writeData)) :=
      Query.in_adu slaveOld (by rw [requestFrame, hpdu]) (hlen.trans hm)
    have hready := adopt_ready hslave core (core.requestContext smb).transferId
    have hlt : (q.call core (core.adopt slave (core.requestContext smb).transferId)
        (slaveOld.fill (requestFrame core smb function addr num writeData)) cb app).1 < 65536 :=
      call_lt hcb app
    obtain ⟨⟨r, data, app₂⟩, hcall⟩ : ∃ x, q.call core (core.adopt slave (core.requestContext smb).transferId)
        (slaveOld.fill (requestFrame core smb function addr num writeData)) cb app = x := ⟨_, rfl⟩
    rw [hcall] at hlt
    have hfits : q.Fits r := Query.fits_of_lt hlt
    obtain ⟨wb, request₂, hrunH⟩ := modbusSlaveHandle_eq hin hm cb app hready T₂.writeFn v₁
      (toU16 ((requestFrame core smb function addr num writeData).length : Nat)) hcall hfits
    refine ⟨_, _, _, _, _, _, hrunH, T₂.sent_write v₁ _, ?_⟩
    -- the master receives the answer
    intro u fuelM hremM hfuelM
    have hreadyM := requestContext_ready h core
    obtain ⟨⟨retM, u', buffM⟩, hrunM⟩ := modbusWaitConfirm_returns M hreadyM response hn hfairM hfuelM
    have hserv := serviceOf_request hf
    rw [← hqf] at hserv
    have hsized := reply_sized hcall hfits hserv
    have hlenR := length_replyAdu_le hfits core (core.adopt slave (core.requestContext smb).transferId).transferId
      (core.adopt slave (core.requestContext smb).transferId).slaveAddr data
    rw [adu_adopt] at hremM hlenR ⊢
    obtain ⟨rfl, rfl, hrest⟩ := modbusWaitConfirm_adu M hreadyM response hn hpM
      (Or.inl (by rw [adopt_slaveAddr, requestContext_slaveAddr, haddr])) hsized hlenR hremM hrunM
    exact ⟨u', hrunM, hrest⟩

/-- A read of two registers over TCP that the callback refuses, with other bytes behind both frames. -/
theorem reply_roundtrip_refused :
    ∃ frame ret smb' w' buff', modbusStartRequest (newContext .tcp Wire.port 17) ⟨[], [], []⟩
        (Buffer.replicate 260 0) modbusFcReadHoldingRegisters 300 2 [] = .ok (ret, smb', w', buff') ∧
      ∃ slave₁ v₁ request ret₂ slave₂ v₂ request₂ reply,
        modbusSlaveWait 600 (newContext .tcp Wire.port 17) ⟨frame ++ [0, 9], [3, 0, 1], []⟩
          (Buffer.replicate 260 0) 5 = .ok ((frame.length : Nat), slave₁, v₁, request) ∧
        modbusSlaveHandle slave₁ v₁ request (toU16 (frame.length : Nat)) (some (returning (-2))) () =
          .ok (ret₂, slave₂, v₂, request₂, ()) ∧
        ∃ u', modbusWaitConfirm 600 smb' ⟨reply ++ [7, 7], [2, 0, 1], []⟩ (Buffer.replicate 260 0) =
          .ok ((reply.length : Nat), u', (Buffer.replicate 260 0).fill reply) ∧ u'.rx = [7, 7] := by
  have hmem : modbusFcReadHoldingRegisters ∈ requestFunctions := by decide
  have hs : Sendable modbusFcReadHoldingRegisters 300 2 [] :=
    ⟨hmem, by decide, fun _ => by decide, by decide⟩
  have hstart := modbusStartRequest_eq (newContext_ready .tcp Wire.port 17) Wire.tap.writeFn ⟨[], [], []⟩
    (Buffer.replicate 260 0) le_rfl hs
  have hcb : ∀ c, some (returning (-2)) = some c → c.FitsWord := by
    rintro c hc
    obtain rfl := Option.some.inj hc
    exact fun _ _ _ _ _ => show (-2 : Int) < 65536 by decide
  obtain ⟨slave₁, v₁, request, hwait, ret₂, slave₂, v₂, request₂, app₂, reply, hhandle, -, hconfirm⟩ :=
    reply_roundtrip (newContext_ready .tcp Wire.port 17) Wire.tap ⟨[], [], []⟩ (Buffer.replicate 260 0) hmem
      hstart rfl (newContext_ready .tcp Wire.port 17) rfl Wire.line Wire.steady.prompt Wire.fair Wire.tap
      (Buffer.replicate 260 0) le_rfl (some (returning (-2))) hcb ()
      (v := ⟨_ ++ [0, 9], [3, 0, 1], []⟩) rfl 5 (show 3 + 2 * 260 + 1 < 600 by decide)
      Wire.line Wire.steady.prompt Wire.fair (Buffer.replicate 260 0) le_rfl [7, 7]
  obtain ⟨u', hu, hrest⟩ := hconfirm ⟨reply ++ [7, 7], [2, 0, 1], []⟩ 600 rfl
    (show 3 + 2 * 260 + 1 < 600 by decide)
  exact ⟨_, _, _, _, _, hstart, slave₁, v₁, request, ret₂, slave₂, v₂, request₂, reply, hwait, hhandle, u', hu,
    hrest⟩

end SmallModbus
