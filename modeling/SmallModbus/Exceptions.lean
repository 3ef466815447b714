/-
# `SmallModbus.Exceptions` — exceptions, from the slave that raises one to the master that is told.

`Query.exception` is the exception the slave raises. `recognisable_iff`: when its reply shows the function
it answers. `exception_identity_iff`: when the master's operation returns the exception that was raised.
`exception_number_iff`: when the exception byte is the number that the protocol gives the code.
-/
import SmallModbus.System

namespace SmallModbus

open SmallModbus.Lib

variable {σ κ : Type} {n : Nat}

/-! ## §1 — the exception of a query. -/

/-- A negative result of the callback takes the place of the code. -/
def raised (r code : Int) : Int := if r < 0 then r else code

namespace Query

/-- The exception the slave raises for the query, the callback having returned `r`. -/
def exception (q : Query) (r : Int) : Option Int :=
  match serviceOf q.function with
  | .read k =>
      if 0 < q.num.toNat ∧ q.num.toNat ≤ k.maxRead then
        if 0 < r ∧ 0 < (toU16 r).toNat ∧ (toU16 r).toNat ≤ k.maxRead then none
        else some (raised r modbusException)
      else some (raised r modbusExceptionIllegalDataValue)
  | .writeSingle _ => if 1 = r then none else some (raised r modbusExceptionIllegalDataValue)
  | .writeMultiple k =>
      if 0 < q.num.toNat ∧ q.num.toNat ≤ k.maxWrite then
        if 0 < r ∧ 0 < (toU16 r).toNat ∧ (toU16 r).toNat ≤ k.maxWrite then none
        else some (raised r modbusException)
      else some (raised r modbusExceptionIllegalDataValue)
  | .reportSlaveId => none
  | .unsupported => some (raised r modbusExceptionIllegalFunction)

/-- The reply is the exception that was raised, or begins with the function that was asked for. -/
theorem reply_cases (q : Query) (slaveAddr : UInt8) (r : Int) (data : List UInt8) :
    (∃ e, q.exception r = some e ∧
      q.reply slaveAddr r data = [toU8 ((q.function.toNat : Int) + 0x80), toU8 e]) ∨
    (q.exception r = none ∧ ∃ body, q.reply slaveAddr r data = q.function :: body) := by
  have hexc : ∀ code, ∃ e, some (raised r code) = some e ∧
      q.exceptionReply r code = [toU8 ((q.function.toNat : Int) + 0x80), toU8 e] :=
    fun code => ⟨_, rfl, rfl⟩
  unfold exception reply
  cases serviceOf q.function with
  | read k =>
    dsimp only
    split_ifs
    · exact Or.inr ⟨rfl, _, rfl⟩
    · exact Or.inl (hexc _)
    · exact Or.inl (hexc _)
  | writeSingle k =>
    dsimp only
    split_ifs
    · exact Or.inr ⟨rfl, _, rfl⟩
    · exact Or.inl (hexc _)
  | writeMultiple k =>
    dsimp only
    split_ifs
    · exact Or.inr ⟨rfl, _, rfl⟩
    · exact Or.inl (hexc _)
    · exact Or.inl (hexc _)
  | reportSlaveId => exact Or.inr ⟨rfl, _, rfl⟩
  | unsupported => exact Or.inl (hexc _)

theorem reply_of_exception {q : Query} {r e : Int} (h : q.exception r = some e) (slaveAddr : UInt8)
    (data : List UInt8) :
    q.reply slaveAddr r data = [toU8 ((q.function.toNat : Int) + 0x80), toU8 e] := by
  rcases q.reply_cases slaveAddr r data with ⟨e', he, hreply⟩ | ⟨hnone, -⟩
  · obtain rfl := Option.some.inj (h.symm.trans he)
    exact hreply
  · rw [h] at hnone
    cases hnone

/-- A result that raises an exception is not taken for a length. -/
theorem fits_of_exception {q : Query} {core : Core} {smb : Smb σ} {request : Buffer UInt8 n}
    {cb : Option (SlaveCallback κ)} {app app' : κ} {r e : Int} {data : List UInt8}
    (hcall : q.call core smb request cb app = (r, data, app')) (h : q.exception r = some e) : q.Fits r := by
  intro k hread hr
  unfold exception at h
  rw [hread] at h
  dsimp only at h
  rw [if_pos hr] at h
  split_ifs at h with hnum
  -- the quantity was refused, so the callback was not asked
  unfold call items at hcall
  rw [hread] at hcall
  dsimp only at hcall
  rw [if_neg hnum] at hcall
  obtain rfl : 0 = r := congrArg Prod.fst hcall
  exact absurd hr.1 (lt_irrefl 0)

/-- A function with the top bit set is not served. -/
theorem serviceOf_high (f : UInt8) (h : ¬ f < 0x80) : serviceOf f = .unsupported := by
  revert f
  exact forall_uint8 (by decide +kernel)

end Query

/-! ## §2 — the reply shows the function it answers. -/

/-- The frame is a reply to the query that can be recognised: it fits the buffers, is framed for the
slave's address, and carries the function of the query, or this with the exception bit and the exception. -/
def Recognisable (core : Core) (slaveAddr : UInt8) (q : Query) (r : Int) (frame : List UInt8) : Prop :=
  frame.length ≤ modbusMaxAduLength ∧ ∃ tid pdu, frame = core.adu tid slaveAddr pdu ∧
    match q.exception r with
    | none => ∃ body, pdu = q.function :: body
    | some e => pdu = [q.function ||| 0x80, toU8 e]

/-- The sum that makes the function byte of an exception sets the top bit, unless it is set. -/
theorem exceptionFunction_eq_iff (f : UInt8) : toU8 ((f.toNat : Int) + 0x80) = f ||| 0x80 ↔ f < 0x80 := by
  revert f
  exact forall_uint8 (by decide +kernel)

theorem recognisable_adu {core : Core} {tid : UInt16} {a : UInt8} {q : Query} {r : Int} {data : List UInt8}
    (hfits : q.Fits r) :
    Recognisable core a q r (core.adu tid a (q.reply a r data)) ↔ q.function < 0x80 := by
  have hlen := length_replyAdu_le hfits core tid a data
  constructor
  · rintro ⟨-, tid', pdu, hframe, hpdu⟩
    by_contra hhigh
    have hexc : q.exception r = some (raised r modbusExceptionIllegalFunction) := by
      unfold Query.exception
      rw [Query.serviceOf_high q.function hhigh]
    rw [hexc] at hpdu
    obtain ⟨-, heq, -⟩ := Core.adu_inj (σ := Unit) hframe
    rw [Query.reply_of_exception hexc, hpdu] at heq
    exact hhigh ((exceptionFunction_eq_iff q.function).mp (List.cons.inj heq).1)
  · intro hlow
    refine ⟨hlen, tid, _, rfl, ?_⟩
    rcases q.reply_cases a r data with ⟨e, he, hreply⟩ | ⟨hnone, body, hreply⟩
    · rw [he, hreply, (exceptionFunction_eq_iff q.function).mpr hlow]
    · rw [hnone]
      exact ⟨body, hreply⟩

/-- **A request gets one recognisable reply** exactly when its function code has no top bit: the slave adds
the exception bit, and the sum loses it where it is set already. -/
theorem recognisable_iff {smb : Smb σ} {core : Core} {port : Port σ} (h : Ready smb core port)
    (T : Tap port) (w : σ) {q : Query} {request : Buffer UInt8 n} (hn : modbusMaxAduLength ≤ n)
    (hin : q.In core request) (requestLen : UInt16) (cb : Option (SlaveCallback κ))
    (hcb : ∀ c, cb = some c → c.FitsWord) (app : κ) :
    AnswersWith T smb w request requestLen cb app
        (Recognisable core smb.slaveAddr q (q.call core smb request cb app).1) ↔ q.function < 0x80 := by
  have hfits : q.Fits (q.call core smb request cb app).1 := Query.fits_of_lt (call_lt hcb app)
  rw [answersWith_iff h T w hn hin requestLen cb app rfl hfits]
  exact recognisable_adu hfits

/-- A read of one register, refused by the callback. -/
theorem recognisable_iff_refused :
    AnswersWith Wire.tap (newContext .rtu Wire.port 1) ⟨[], [], []⟩
      ((Buffer.replicate 260 0).fill (Core.rtu.adu 0 1 [3, 0, 0, 0, 1])) 8 (some (returning (-2))) ()
      (Recognisable .rtu 1 ⟨3, 0, 1⟩ (-2)) := by
  apply (recognisable_iff (q := ⟨3, 0, 1⟩) (newContext_ready .rtu Wire.port 1) Wire.tap ⟨[], [], []⟩ le_rfl
    ⟨by decide +kernel, by decide +kernel, by decide +kernel⟩ 8 (some (returning (-2))) ?_ ()).mpr
  · decide
  · rintro c hc
    obtain rfl := Option.some.inj hc
    exact fun _ _ _ _ _ => show (-2 : Int) < 65536 by decide

/-- Function 0x83: the slave answers with function 0x03. -/
theorem recognisable_high :
    (modbusSlaveWaitHandle 600 (newContext .rtu Wire.port 1) ⟨[1, 0x83, 65, 129], [], []⟩
        (some (returning 0)) () (-1)).map (fun x => x.2.2.1.tx) = .ok [[1, 3, 0x7F, 97, 16]] ∧
      ∀ address num, ¬ Recognisable .rtu 1 ⟨0x83, address, num⟩ 0 [1, 3, 0x7F, 97, 16] := by
  refine ⟨by decide +kernel, ?_⟩
  rintro address num ⟨-, tid, pdu, hframe, hpdu⟩
  obtain rfl : pdu = [0x83 ||| 0x80, toU8 modbusExceptionIllegalFunction] := hpdu
  have hbyte : some 3 = some (0x83 ||| 0x80 : UInt8) := congrArg (fun l => l[1]?) hframe
  exact absurd hbyte (by decide)

/-! ## §3 — the exception reaches the master. -/

/-- The quantity of a read or a multiple write is the one the master was asked for. -/
theorem Query.num_of_request {function addr num : Int} {writeData tail : List UInt8} {q : Query}
    (hpdu : requestPdu function addr num writeData = q.echoReply ++ tail)
    (h5 : function ≠ modbusFcWriteSingleCoil) (h6 : function ≠ modbusFcWriteSingleRegister) :
    q.num = toU16 num := by
  obtain ⟨more, hmore⟩ : ∃ more, requestTail function num writeData =
      highByte num :: lowByte num :: more := by
    unfold requestTail
    rw [if_neg h5, if_neg h6]
    split_ifs
    · exact ⟨_, rfl⟩
    · exact ⟨_, rfl⟩
    · exact ⟨_, rfl⟩
  unfold requestPdu at hpdu
  rw [hmore] at hpdu
  obtain ⟨hhi, hrest⟩ := List.cons.inj (List.cons.inj (List.cons.inj (List.cons.inj hpdu).2).2).2
  have hlo := (List.cons.inj hrest).1
  rw [← toU16_word_eq_iff.mpr ⟨hhi, hlo⟩, ← highByte_toU16, ← lowByte_toU16]
  exact toU16_word_eq_iff.mpr ⟨rfl, rfl⟩

/-- **What a request of the master raises.** Its quantity has passed the check, so the exception is the
callback's own or the code of its branch. -/
theorem Query.exception_of_request {function addr num : Int} {writeData tail : List UInt8}
    (hs : Sendable function addr num writeData) {q : Query}
    (hpdu : requestPdu function addr num writeData = q.echoReply ++ tail) {r e : Int}
    (he : q.exception r = some e) :
    q.function = toU8 function ∧ (e = raised r modbusException ∨
      e = raised r modbusExceptionIllegalDataValue ∧
        (function = modbusFcWriteSingleCoil ∨ function = modbusFcWriteSingleRegister)) := by
  have hqf := q.function_of_request hpdu
  refine ⟨hqf, ?_⟩
  have hserved := serviceOf_request hs.function_mem
  have hcheck := hs.check
  rw [← hqf] at hserved hcheck
  have hsingle : function = modbusFcWriteSingleCoil ∨ function = modbusFcWriteSingleRegister →
      ∃ k, serviceOf q.function = .writeSingle k := by
    rintro (rfl | rfl)
    · exact ⟨.coil, hqf ▸ rfl⟩
    · exact ⟨.register, hqf ▸ rfl⟩
  have hnum : (∀ k, serviceOf q.function ≠ .writeSingle k) → q.num = toU16 num := by
    intro hno
    apply Query.num_of_request hpdu
    · exact fun h5 => (hsingle (Or.inl h5)).elim hno
    · exact fun h6 => (hsingle (Or.inr h6)).elim hno
  unfold Query.exception at he
  cases hserv : serviceOf q.function with
  | read k =>
    rw [hserv] at he hnum
    dsimp only at he
    rw [← hnum (fun _ => nofun)] at hcheck
    rw [if_pos ((checkAddrNum_read hserv _ _).mp hcheck)] at he
    split_ifs at he
    exact Or.inl (Option.some.inj he).symm
  | writeSingle k =>
    rw [hserv] at he
    dsimp only at he
    split_ifs at he
    refine Or.inr ⟨(Option.some.inj he).symm, ?_⟩
    have hf := toNat_toU8_of_mem hs.function_mem
    rw [← hqf, serviceOf_writeSingle q.function hserv] at hf
    rw [← hf]
    cases k with
    | coil => exact Or.inl rfl
    | register => exact Or.inr rfl
  | writeMultiple k =>
    rw [hserv] at he hnum
    dsimp only at he
    rw [← hnum (fun _ => nofun)] at hcheck
    rw [if_pos ((checkAddrNum_writeMultiple hserv _ _).mp hcheck)] at he
    split_ifs at he
    exact Or.inl (Option.some.inj he).symm
  | reportSlaveId =>
    rw [hserv] at hserved
    obtain ⟨k, hk | hk | hk⟩ := hserved <;> cases hk
  | unsupported =>
    rw [hserv] at hserved
    obtain ⟨k, hk | hk | hk⟩ := hserved <;> cases hk

/-- A request of the master has a function code without the top bit. -/
theorem request_function_lt {function : Int} (h : function ∈ requestFunctions) :
    0 < function ∧ function ≤ 16 ∧ toU8 function < 0x80 := by
  revert function
  decide

section Exchange

variable {core : Core} {cb : SlaveCallback κ} {smb : Smb (World κ)} {w : World κ}
  (hj : Joined core cb smb w) {function addr num : Int} {writeData : List UInt8}
  (hs : Sendable function addr num writeData) {q : Query} {tail : List UInt8}
  (hpdu : requestPdu function addr num writeData = q.echoReply ++ tail)
  {r : Int} {data : List UInt8} {app' : κ}
  (hcall : q.call core (core.adopt w.slave (core.requestContext smb).transferId)
    (w.slave.readBuff.fill (requestFrame core smb function addr num writeData)) (some cb) w.app =
      (r, data, app'))
  {e : Int} (he : q.exception r = some e) (readData : Buffer UInt8 n) {fuel : Nat}
  (hfuel : w.line.grants.length + 2 * modbusMaxAduLength + 1 < fuel)

include hj hs hpdu hcall he hfuel

/-- Whatever is raised, the operation returns the function byte of the reply, negated, and both are joined
again. -/
theorem exchange_refused :
    ∃ smb' w', masterOperation fuel smb w function addr num writeData readData =
        .ok (-(0x80 + function), smb', w', readData) ∧ Joined core cb smb' w' ∧ w'.app = app' ∧
      w'.line.grants.length ≤ w.line.grants.length := by
  obtain ⟨hqf, -⟩ := Query.exception_of_request hs hpdu he
  obtain ⟨-, -, hlow⟩ := request_function_lt hs.function_mem
  have hmax : modbusMaxAduLength = 260 := rfl
  have hfits := Query.fits_of_exception hcall he
  have hreply := Query.reply_of_exception he smb.slaveAddr data
  have hlen := length_replyAdu_le hfits core (core.requestContext smb).transferId smb.slaveAddr data
  have hbyte : ((toU8 ((q.function.toNat : Int) + 0x80)).toNat : Int) = 0x80 + function := by
    have hf := toNat_toU8_of_mem hs.function_mem
    have hlt := request_function_lt hs.function_mem
    rw [hqf, toNat_toU8, hf]
    omega
  have hin : q.In core (smb.writeBuff.fill (requestFrame core smb function addr num writeData)) :=
    Query.in_adu smb.writeBuff (by rw [requestFrame, hpdu]) (hs.length_adu_le core _ _)
  have hload : (smb.readBuff.fill (core.adu (core.requestContext smb).transferId smb.slaveAddr
      (q.reply smb.slaveAddr r data))).load core.lenHeader = .ok (toU8 ((q.function.toNat : Int) + 0x80)) :=
    load_adu (i := 0) smb.readBuff hlen (by rw [hreply]; rfl)
  have hconfirm : ∀ smb₁ requestLen, Ready smb₁ core (World.port cb) →
      modbusHandleConfirm smb₁ (smb.writeBuff.fill (requestFrame core smb function addr num writeData))
        requestLen (smb.readBuff.fill (core.adu (core.requestContext smb).transferId smb.slaveAddr
          (q.reply smb.slaveAddr r data)))
        (toU16 ((core.adu (core.requestContext smb).transferId smb.slaveAddr
          (q.reply smb.slaveAddr r data)).length : Nat)) readData =
        .ok (-(0x80 + function), readData) := by
    intro smb₁ requestLen hready
    have hlt := request_function_lt hs.function_mem
    rw [modbusHandleConfirm_function hready hin hload, if_pos (by omega), hbyte, zero_sub]
  obtain ⟨smb', w', hrun, hj', happ, -, hgrants⟩ := exchange hj hs hpdu rfl hcall hfits rfl hconfirm hfuel
  exact ⟨smb', w', hrun, hj', happ, hgrants⟩

theorem exchange_exception :
    ∃ smb' w', masterOperation fuel smb w function addr num writeData readData =
      .ok (-(0x80 + function), smb', w', readData) := by
  obtain ⟨smb', w', hrun, -⟩ := exchange_refused hj hs hpdu hcall he readData hfuel
  exact ⟨smb', w', hrun⟩

/-- **The operation returns the exception that was raised** exactly when the callback's result is the
negated function byte of the reply: the exception byte is never looked at. -/
theorem exception_identity_iff :
    (∃ smb' w' out, masterOperation fuel smb w function addr num writeData readData =
      .ok (e, smb', w', out)) ↔ r = -(0x80 + function) := by
  obtain ⟨smb₁, w₁, hrun⟩ := exchange_exception hj hs hpdu hcall he readData hfuel
  obtain ⟨hpos, hle, -⟩ := request_function_lt hs.function_mem
  obtain ⟨-, hcode⟩ := Query.exception_of_request hs hpdu he
  have heq : e = -(0x80 + function) ↔ r = -(0x80 + function) := by
    unfold raised modbusException modbusExceptionIllegalDataValue at hcode
    unfold modbusFcWriteSingleCoil modbusFcWriteSingleRegister at hcode
    split_ifs at hcode with hneg <;> omega
  rw [← heq]
  constructor
  · rintro ⟨smb', w', out, hrun'⟩
    rw [hrun] at hrun'
    cases hrun'
    rfl
  · rintro rfl
    exact ⟨smb₁, w₁, readData, hrun⟩

end Exchange

/-- A read of three registers that the callback refuses with -0x83. -/
theorem exception_identity_iff_value :
    ∃ smb' w' out, masterOperation 600 (newContext .rtu (World.port (returning (-0x83))) 17)
      ⟨⟨[], [2, 0], []⟩, newContext .rtu Wire.port 17, ⟨[], [0, 3], []⟩, ()⟩ modbusFcReadHoldingRegisters 7 3 []
      (Buffer.replicate 6 0) = .ok (-0x83, smb', w', out) := by
  have hj : Joined .rtu (returning (-0x83)) (newContext .rtu (World.port (returning (-0x83))) 17)
      ⟨⟨[], [2, 0], []⟩, newContext .rtu Wire.port 17, ⟨[], [0, 3], []⟩, ()⟩ :=
    ⟨newContext_ready .rtu _ 17, newContext_ready .rtu _ 17, rfl, rfl, rfl, rfl⟩
  have hs : Sendable modbusFcReadHoldingRegisters 7 3 [] :=
    ⟨by decide, by decide, fun _ => by decide, by decide⟩
  have hpdu : requestPdu modbusFcReadHoldingRegisters 7 3 [] = Query.echoReply ⟨3, 7, 3⟩ ++ [] := by decide
  exact (exception_identity_iff hj hs hpdu rfl (show Query.exception ⟨3, 7, 3⟩ (-0x83) = some (-0x83) from rfl)
    (Buffer.replicate 6 0) (show 2 + 2 * 260 + 1 < 600 by decide)).mpr rfl

/-- A read of two registers: the callback's -0x82 and the slave's -0x80 both come out as -0x83. -/
theorem exception_identity_lost :
    Query.exception ⟨3, 0, 2⟩ (-0x82) = some (-0x82) ∧ Query.exception ⟨3, 0, 2⟩ 0 = some (-0x80) ∧
      (modbusReadRegisters 600 (newContext .tcp (World.port (returning (-0x82))) 17)
        ⟨⟨[], [], []⟩, newContext .tcp Wire.port 17, ⟨[], [], []⟩, ()⟩ 0 2 (Buffer.replicate 4 0)).map Prod.fst =
          .ok (-0x83) ∧
      (modbusReadRegisters 600 (newContext .tcp (World.port (returning 0)) 17)
        ⟨⟨[], [], []⟩, newContext .tcp Wire.port 17, ⟨[], [], []⟩, ()⟩ 0 2 (Buffer.replicate 4 0)).map Prod.fst =
          .ok (-0x83) :=
  ⟨by decide, by decide, by decide +kernel, by decide +kernel⟩

/-! ## §4 — the exception byte. -/

/-- The code the slave raises of itself: for a function it does not serve, a quantity outside the limit of
its function, or a single write whose callback did not return 1. -/
def Query.refusal (q : Query) (r : Int) : Option Int :=
  match serviceOf q.function with
  | .read k =>
      if 0 < q.num.toNat ∧ q.num.toNat ≤ k.maxRead then none else some modbusExceptionIllegalDataValue
  | .writeSingle _ => if 1 = r then none else some modbusExceptionIllegalDataValue
  | .writeMultiple k =>
      if 0 < q.num.toNat ∧ q.num.toNat ≤ k.maxWrite then none else some modbusExceptionIllegalDataValue
  | .reportSlaveId => none
  | .unsupported => some modbusExceptionIllegalFunction

/-- The exception number of the protocol that a value of `enum returnCode` names: the values count down
from `MODBUS_EXCEPTION`. -/
def exceptionNumber (code : Int) : UInt8 := toU8 (modbusException - code)

namespace Query

theorem exception_of_refusal {q : Query} {r code : Int} (h : q.refusal r = some code) :
    q.exception r = some (raised r code) := by
  unfold refusal at h
  unfold exception
  cases hserv : serviceOf q.function with
  | read k =>
    rw [hserv] at h
    dsimp only at h ⊢
    split_ifs at h with hnum
    rw [if_neg hnum, Option.some.inj h]
  | writeSingle k =>
    rw [hserv] at h
    dsimp only at h ⊢
    split_ifs at h with hr
    rw [if_neg hr, Option.some.inj h]
  | writeMultiple k =>
    rw [hserv] at h
    dsimp only at h ⊢
    split_ifs at h with hnum
    rw [if_neg hnum, Option.some.inj h]
  | reportSlaveId =>
    rw [hserv] at h
    cases h
  | unsupported =>
    rw [hserv] at h
    rw [← Option.some.inj h]

/-- A request that is refused and is no single write has not reached the callback. -/
theorem call_of_refusal {q : Query} {core : Core} {smb : Smb σ} {request : Buffer UInt8 n}
    {cb : Option (SlaveCallback κ)} {app app' : κ} {r code : Int} {data : List UInt8}
    (hcall : q.call core smb request cb app = (r, data, app')) (h : q.refusal r = some code)
    (hs : ¬ ∃ k, serviceOf q.function = .writeSingle k) : r = 0 := by
  have hitems : q.items = none := by
    unfold refusal at h
    unfold items
    cases hserv : serviceOf q.function with
    | read k =>
      rw [hserv] at h
      dsimp only at h ⊢
      split_ifs at h with hnum
      exact if_neg hnum
    | writeSingle k => exact absurd ⟨k, hserv⟩ hs
    | writeMultiple k =>
      rw [hserv] at h
      dsimp only at h ⊢
      split_ifs at h with hnum
      exact if_neg hnum
    | reportSlaveId => rfl
    | unsupported => rfl
  rw [call, hitems] at hcall
  exact (congrArg Prod.fst hcall).symm

/-- What a refused request raises. -/
theorem refusal_cases {q : Query} {r code : Int} (h : q.refusal r = some code) :
    code = modbusExceptionIllegalDataValue ∨
      code = modbusExceptionIllegalFunction ∧ ¬ ∃ k, serviceOf q.function = .writeSingle k := by
  unfold refusal at h
  cases hserv : serviceOf q.function with
  | unsupported =>
    rw [hserv] at h
    refine Or.inr ⟨(Option.some.inj h).symm, ?_⟩
    rintro ⟨k, hk⟩
    cases hk
  | reportSlaveId =>
    rw [hserv] at h
    cases h
  | read k =>
    rw [hserv] at h
    dsimp only at h
    split_ifs at h
    exact Or.inl (Option.some.inj h).symm
  | writeSingle k =>
    rw [hserv] at h
    dsimp only at h
    split_ifs at h
    exact Or.inl (Option.some.inj h).symm
  | writeMultiple k =>
    rw [hserv] at h
    dsimp only at h
    split_ifs at h
    exact Or.inl (Option.some.inj h).symm

end Query

/-- A code of the slave's own goes out as its low byte, which is never the number it names; only a result
of a callback can be that number. -/
theorem exceptionByte_iff {q : Query} {r code : Int} (h : q.refusal r = some code)
    (hs : (¬ ∃ k, serviceOf q.function = .writeSingle k) → r = 0) :
    toU8 (raised r code) = exceptionNumber code ↔
      (∃ k, serviceOf q.function = .writeSingle k) ∧ r < 0 ∧ r % 256 = 3 := by
  have hbyte := toNat_toU8 r
  rw [← UInt8.toNat_inj]
  rcases Query.refusal_cases h with rfl | ⟨rfl, hno⟩
  · have hnum : (exceptionNumber modbusExceptionIllegalDataValue).toNat = 3 := by decide
    rw [hnum, raised]
    by_cases hr : r < 0
    · -- the callback's result goes out
      rw [if_pos hr]
      constructor
      · intro h3
        refine ⟨?_, hr, by omega⟩
        by_contra hno
        have := hs hno
        omega
      · rintro ⟨-, -, h3⟩
        omega
    · rw [if_neg hr]
      constructor
      · intro h3
        exact absurd h3 (by decide)
      · rintro ⟨-, hneg, -⟩
        exact absurd hneg hr
  · have hr : ¬ r < 0 := by
      have := hs hno
      omega
    rw [raised, if_neg hr]
    constructor
    · intro h1
      exact absurd h1 (by decide)
    · rintro ⟨hk, -⟩
      exact absurd hk hno

/-- **The exception byte of a request the slave refuses** is the number the protocol has for the code it
raised exactly for the single writes whose callback returned a negative result with this low byte. -/
theorem exception_number_iff {smb : Smb σ} {core : Core} {port : Port σ} (h : Ready smb core port)
    (T : Tap port) (w : σ) {q : Query} {request : Buffer UInt8 n} (hn : modbusMaxAduLength ≤ n)
    (hin : q.In core request) (requestLen : UInt16) (cb : Option (SlaveCallback κ)) (app : κ) {code : Int}
    (hcode : q.refusal (q.call core smb request cb app).1 = some code) :
    AnswersWith T smb w request requestLen cb app
        (fun reply => reply[core.lenHeader + 1]? = some (exceptionNumber code)) ↔
      (∃ k, serviceOf q.function = .writeSingle k) ∧ (q.call core smb request cb app).1 < 0 ∧
        (q.call core smb request cb app).1 % 256 = 3 := by
  obtain ⟨r, data, app', hcall⟩ : ∃ r data app', q.call core smb request cb app = (r, data, app') :=
    ⟨_, _, _, rfl⟩
  rw [hcall] at hcode ⊢
  have hexc := Query.exception_of_refusal hcode
  rw [answersWith_iff h T w hn hin requestLen cb app hcall (Query.fits_of_exception hcall hexc),
    Query.reply_of_exception hexc, adu_getElem? core _ _ (i := 1) (by simp),
    ← exceptionByte_iff hcode (Query.call_of_refusal hcall hcode)]
  exact Option.some_inj

/-- A single write whose callback returns -0xFD: the byte is 3. -/
theorem exception_number_iff_single :
    AnswersWith Wire.tap (newContext .rtu Wire.port 1) ⟨[], [], []⟩
        ((Buffer.replicate 260 0).fill (Core.rtu.adu 0 1 [6, 0, 0, 0, 1])) 8 (some (returning (-0xFD))) ()
        (fun reply => reply[2]? = some (exceptionNumber modbusExceptionIllegalDataValue)) :=
  (exception_number_iff (q := ⟨6, 0, 1⟩) (newContext_ready .rtu Wire.port 1) Wire.tap ⟨[], [], []⟩ le_rfl
    ⟨by decide +kernel, by decide +kernel, by decide +kernel⟩ 8 (some (returning (-0xFD))) ()
    (by rfl)).mpr ⟨⟨.register, rfl⟩, by decide, by decide⟩

/-- Function 0x07, which the slave does not serve: the exception byte is 0x7F and not 1. -/
theorem exception_number_unsupported :
    Query.refusal ⟨7, 0, 0⟩ 0 = some modbusExceptionIllegalFunction ∧
      exceptionNumber modbusExceptionIllegalFunction = 1 ∧
      (modbusSlaveWaitHandle 600 (newContext .rtu Wire.port 1) ⟨[1, 7, 65, 226], [], []⟩ (some (returning 0)) ()
        (-1)).map (fun x => x.2.2.1.tx.map (fun reply => reply[2]?)) = .ok [some 0x7F] :=
  ⟨by decide, by decide, by decide +kernel⟩

end SmallModbus
