/-
# `SmallModbus.Reply` — what `modbus_slave_handle` replies.

A `Query` is what the dispatcher reads from a request: function, address, quantity. `Query.call` is the
call the slave makes for it, and `Query.reply` the PDU it answers with, given what the callback returned
and left. `modbusSlaveHandle_eq` says that the port is handed exactly the frame of this PDU.
-/
import SmallModbus.Service

namespace SmallModbus

open SmallModbus.Lib

variable {σ κ : Type} {n : Nat}

/-! ## §1 — queries, calls and replies. -/

/-- What a callback that may be missing returns and leaves. -/
def callResult (cb : Option (SlaveCallback κ)) (app : κ) (function addr num : Int)
    (cells : List UInt8) : Int × List UInt8 × κ :=
  match cb with
  | some cb => cb.call app function addr num cells
  | none => (0, cells, app)

/-- What the dispatcher reads from a request. -/
structure Query where
  function : UInt8
  address : UInt16
  num : UInt16
  deriving DecidableEq, Repr

namespace Query

/-- The request in the buffer is this query. -/
structure In (core : Core) (request : Buffer UInt8 n) (q : Query) : Prop where
  function_eq : request.load core.lenHeader = .ok q.function
  address_eq : loadWord request (core.lenHeader + 1) = .ok q.address
  num_eq : loadWord request (core.lenHeader + 3) = .ok q.num

/-- How many items the callback is asked for, if it is called. -/
def items (q : Query) : Option Nat :=
  match serviceOf q.function with
  | .read k => if 0 < q.num.toNat ∧ q.num.toNat ≤ k.maxRead then some q.num.toNat else none
  | .writeSingle _ => some 1
  | .writeMultiple k => if 0 < q.num.toNat ∧ q.num.toNat ≤ k.maxWrite then some q.num.toNat else none
  | _ => none

/-- The cells of `buff` from `off` on, the first `num` items in host order. -/
def hostCells (k : Kind) (buff : Buffer UInt8 n) (off num : Nat) : List UInt8 :=
  k.conv ((buff.toList.drop off).take (k.bytes num)) ++ buff.toList.drop (off + k.bytes num)

/-- The cells behind the pointer the callback gets. -/
def cells (core : Core) (smb : Smb σ) (request : Buffer UInt8 n) (q : Query) : List UInt8 :=
  match serviceOf q.function with
  | .read _ => smb.writeBuff.toList.drop (core.lenHeader + 2)
  | .writeSingle k => hostCells k request (core.lenHeader + 3) 1
  | .writeMultiple k => hostCells k request (core.lenHeader + 6) q.num.toNat
  | _ => []

/-- **The call** the slave makes for a query: what the callback returns and leaves. A callback that is
missing or not called returns 0. -/
def call (core : Core) (smb : Smb σ) (request : Buffer UInt8 n) (q : Query)
    (cb : Option (SlaveCallback κ)) (app : κ) : Int × List UInt8 × κ :=
  match q.items with
  | some items =>
      callResult cb app q.function.toNat q.address.toNat items (q.cells core smb request)
  | none => (0, [], app)

/-- The exception reply: a negative result of the callback goes out instead of the code. -/
def exceptionReply (q : Query) (r code : Int) : List UInt8 :=
  [toU8 (q.function.toNat + 0x80), toU8 (if r < 0 then r else code)]

/-- The normal reply of the writes: address and quantity (or value) of the request. -/
def echoReply (q : Query) : List UInt8 :=
  [q.function, highByte q.address.toNat, lowByte q.address.toNat, highByte q.num.toNat,
    lowByte q.num.toNat]

/-- **The PDU of the reply**, the callback having returned `r` and left `data`. -/
def reply (q : Query) (slaveAddr : UInt8) (r : Int) (data : List UInt8) : List UInt8 :=
  match serviceOf q.function with
  | .read k =>
      if 0 < q.num.toNat ∧ q.num.toNat ≤ k.maxRead then
        if 0 < r ∧ 0 < (toU16 r).toNat ∧ (toU16 r).toNat ≤ k.maxRead then
          q.function :: toU8 (k.bytes r.toNat) :: k.conv (data.take (k.bytes r.toNat))
        else q.exceptionReply r modbusException
      else q.exceptionReply r modbusExceptionIllegalDataValue
  | .writeSingle _ =>
      if 1 = r then q.echoReply else q.exceptionReply r modbusExceptionIllegalDataValue
  | .writeMultiple k =>
      if 0 < q.num.toNat ∧ q.num.toNat ≤ k.maxWrite then
        if 0 < r ∧ 0 < (toU16 r).toNat ∧ (toU16 r).toNat ≤ k.maxWrite then q.echoReply
        else q.exceptionReply r modbusException
      else q.exceptionReply r modbusExceptionIllegalDataValue
  | .reportSlaveId =>
      [q.function, 9, slaveAddr, 0xFF, 0x53, 0x4D, 0x4F, 0x44, 0x42, 0x55, 0x53]
  | .unsupported => q.exceptionReply r modbusExceptionIllegalFunction

/-- The result stays inside the reply: it is no result that only passes the check of its low 16 bits. -/
def Fits (q : Query) (r : Int) : Prop :=
  ∀ k, serviceOf q.function = .read k →
    0 < r ∧ 0 < (toU16 r).toNat ∧ (toU16 r).toNat ≤ k.maxRead → r ≤ k.maxRead

theorem fits_of_lt {q : Query} {r : Int} (h : r < 65536) : q.Fits r := by
  rintro k - ⟨hr, -, hle⟩
  rw [toNat_toU16_of_lt (by omega) h] at hle
  omega

end Query

/-! ## §2 — the pieces of the handler. -/

theorem callResult_length (cb : Option (SlaveCallback κ)) (app : κ) (function addr num : Int)
    (cells : List UInt8) : (callResult cb app function addr num cells).2.1.length = cells.length := by
  cases cb with
  | none => rfl
  | some cb => exact cb.size_eq _ _ _ _ _

/-- The callback gets the cells behind the cursor and replaces them. -/
theorem callSlave_fill (cb : Option (SlaveCallback κ)) (app : κ) (function addr num : Int)
    (b : Buffer UInt8 n) (pre : List UInt8) (hpre : pre.length ≤ n) {off : Nat} (hoff : off = pre.length) :
    callSlave cb app function addr num (b.fill pre) off =
      .ok ((callResult cb app function addr num (b.toList.drop pre.length)).1,
        b.fill (pre ++ (callResult cb app function addr num (b.toList.drop pre.length)).2.1),
        (callResult cb app function addr num (b.toList.drop pre.length)).2.2) := by
  subst hoff
  cases cb with
  | none =>
    show Except.ok (0, b.fill pre, app) = .ok (0, b.fill (pre ++ b.toList.drop pre.length), app)
    rw [← Buffer.toList_fill b hpre, Buffer.fill_toList]
  | some cb =>
    have hlen : (cb.call app function addr num (b.toList.drop pre.length)).2.1.length =
        n - pre.length := by
      rw [cb.size_eq, List.length_drop, Buffer.length_toList]
    have hrep := Buffer.replaceFrom_fill b rfl (hlen.symm ▸ Nat.add_sub_of_le hpre)
    show (do
      let out := cb.call app function addr num ((b.fill pre).tailFrom pre.length)
      let buff ← (b.fill pre).replaceFrom pre.length out.2.1
      return (out.1, buff, out.2.2)) = _
    dsimp only
    rw [Buffer.tailFrom_fill b hpre, hrep, exec_ok_bind]
    rfl

/-- The in-place conversion of a request, and the cells the callback then gets. -/
theorem m2h_request (k : Kind) (request : Buffer UInt8 n) {d num : Nat} (hnum : 0 < num)
    (hn : d + k.bytes num ≤ n) :
    k.m2h request d (.self d) num =
      .ok (request.fill (request.toList.take d ++ Query.hostCells k request d num)) := by
  have hd : (request.toList.take d).length = d := List.length_take_of_le (by simp; omega)
  have hmid : ((request.toList.drop d).take (k.bytes num)).length = k.bytes num :=
    List.length_take_of_le (by simp; omega)
  have hsplit : request.toList = (request.toList.take d ++ (request.toList.drop d).take (k.bytes num)) ++
      request.toList.drop (d + k.bytes num) := by
    rw [← List.take_add, List.take_append_drop]
  have hself := k.m2h_self request hd.symm hnum hmid (by omega)
  -- the cells behind the items are counted in as they are
  rw [Buffer.fill_take_self request hsplit] at hself
  rw [hself]
  congr 1
  ext1
  have hl : (request.toList.take d ++ k.conv ((request.toList.drop d).take (k.bytes num))).length =
      d + k.bytes num := by
    rw [List.length_append, Kind.length_conv, hd, hmid]
  have hl' : (request.toList.take d ++ Query.hostCells k request d num).length = n := by
    unfold Query.hostCells
    rw [← List.append_assoc, List.length_append, hl, List.length_drop, Buffer.length_toList]
    omega
  have hnil : request.toList.drop n = [] := List.drop_eq_nil_of_le (by simp)
  rw [Buffer.toList_fill _ (by omega), Buffer.toList_fill _ (by omega), hl, hl', hnil, List.append_nil,
    Query.hostCells, List.append_assoc]

section Pieces

variable {smb : Smb σ} {core : Core} {q : Query}

/-- A normal reply begins with the address of the slave and the function code of the query. -/
theorem buildResponseHeader_reply (smb : Smb σ) (core : Core) (q : Query) :
    ∃ x y, core.buildResponseHeader smb smb.writeBuff smb.slaveAddr.toNat q.function.toNat =
      .ok (core.lenHeader + 1,
        smb.writeBuff.fill (core.openHeader smb.transferId smb.slaveAddr x y ++ [q.function])) := by
  obtain ⟨x, y, hbuild⟩ := buildResponseHeader_fill core smb smb.writeBuff (by decide) smb.slaveAddr.toNat
    q.function.toNat
  rw [toU8_toNat, toU8_toNat] at hbuild
  exact ⟨x, y, hbuild⟩

/-- The end of the handler makes the frame buffer of this PDU of the handling. -/
def Answers (smb : Smb σ) (core : Core) (q : Query) (d : Handling κ n) (pdu : List UInt8) : Prop :=
  ∃ (B : Buffer UInt8 modbusMaxAduLength) (x y : UInt8), finishReply smb core q.function d =
    .ok (core.lenHeader + pdu.length, B.fill (core.openHeader smb.transferId smb.slaveAddr x y ++ pdu))

theorem answers_exception {d : Handling κ n} (hexc : d.responseDataException ≤ modbusException) :
    Answers smb core q d (q.exceptionReply d.responseDataLen d.responseDataException) := by
  obtain ⟨x, y, hbuild⟩ := buildResponseHeader_fill core smb d.response (by decide) smb.slaveAddr.toNat
    (q.function.toNat + 0x80)
  rw [toU8_toNat] at hbuild
  have hh := core.lenHeader_le
  refine ⟨d.response, x, y, ?_⟩
  unfold finishReply
  rw [if_pos hexc, hbuild, exec_ok_bind]
  dsimp only
  rw [Buffer.store_fill_end _ (by simp) (by show _ < 260; omega), exec_ok_bind, List.append_assoc]
  rfl

theorem answers_normal {d : Handling κ n} {pdu : List UInt8} (hexc : d.responseDataException = modbusOk)
    (hlen : d.responseLen = core.lenHeader + pdu.length) {B : Buffer UInt8 modbusMaxAduLength}
    {x y : UInt8} (hresp : d.response = B.fill (core.openHeader smb.transferId smb.slaveAddr x y ++ pdu)) :
    Answers smb core q d pdu := by
  refine ⟨B, x, y, ?_⟩
  unfold finishReply
  rw [if_neg (by rw [hexc]; decide), hlen, hresp]
  rfl

/-- Address, quantity or value behind the header and the function code. -/
theorem storeEcho_fill (B : Buffer UInt8 n) {pre : List UInt8} (hn : pre.length + 4 ≤ n) {len : Nat}
    (hlen : len = pre.length) (address num : UInt16) :
    storeEcho (B.fill pre) len address num =
      .ok (B.fill (pre ++ [highByte address.toNat, lowByte address.toNat, highByte num.toNat,
        lowByte num.toNat])) := by
  subst hlen
  unfold storeEcho
  rw [Buffer.store_fill_end _ rfl (by omega), exec_ok_bind,
    Buffer.store_fill_end _ (by simp) (by omega), exec_ok_bind,
    Buffer.store_fill_end _ (by simp) (by omega), exec_ok_bind,
    Buffer.store_fill_end _ (by simp) (by omega)]
  simp

/-- Writing the cell at the cursor. -/
theorem set_at (hd data : List UInt8) (z b : UInt8) {i : Nat} (hi : i = hd.length) :
    (hd ++ [z] ++ data).set i b = hd ++ [b] ++ data := by
  subst hi
  rw [List.append_assoc, List.set_append_right _ _ le_rfl, Nat.sub_self]
  simp

variable {request : Buffer UInt8 n} (cb : Option (SlaveCallback κ)) (app : κ)

/-- The reply of a write, the callback having returned `r` with the quantity of the request checked. -/
theorem write_answers {B : Buffer UInt8 modbusMaxAduLength} {x y : UInt8} {ok : Prop} [Decidable ok]
    {r code : Int} (hcode : code ≤ modbusException) {request' : Buffer UInt8 n} {app' : κ} :
    ∃ d, (if ok then do
        let response ← storeEcho (B.fill (core.openHeader smb.transferId smb.slaveAddr x y ++
          [q.function])) (core.lenHeader + 1) q.address q.num
        return ⟨core.lenHeader + 1 + 4, r, modbusOk, response, request', app'⟩
      else return ⟨core.lenHeader + 1, r, code, B.fill (core.openHeader smb.transferId smb.slaveAddr x y ++
          [q.function]), request', app'⟩ : Exec (Handling κ n)) = .ok d ∧ d.app = app' ∧
      Answers smb core q d (if ok then q.echoReply else q.exceptionReply r code) := by
  have hh := core.lenHeader_le
  split_ifs with hok
  · rw [storeEcho_fill B (by simp; show _ ≤ 260; omega) (by simp), exec_ok_bind]
    refine ⟨_, rfl, rfl, answers_normal (B := B) (x := x) (y := y) rfl rfl ?_⟩
    simp [Query.echoReply]
  · have hans : Answers smb core q (⟨core.lenHeader + 1, r, code, B.fill (core.openHeader smb.transferId
        smb.slaveAddr x y ++ [q.function]), request', app'⟩ : Handling κ n) _ := answers_exception hcode
    exact ⟨_, rfl, rfl, hans⟩

/-- The conversion of the request and the call, which are made or skipped together. -/
theorem convert_call (k : Kind) {d num : Nat} (hnum : 0 < num) (hn : d + k.bytes num ≤ n)
    {r : Int} {data : List UInt8} {app' : κ} {function addr : Int}
    (hcall : callResult cb app function addr num (Query.hostCells k request d num) = (r, data, app')) :
    ∃ request₁ request', (∀ {β : Type} (K : Buffer UInt8 n → Exec β),
        (if cb.isSome then k.m2h request d (.self d) num >>= K else .ok request >>= K) = K request₁) ∧
      callSlave cb app function addr num request₁ d = .ok (r, request', app') := by
  cases cb with
  | none =>
    obtain ⟨rfl, -, rfl⟩ : 0 = r ∧ _ = data ∧ app = app' := by
      simpa only [callResult, Prod.mk.injEq] using hcall
    exact ⟨request, request, fun K => rfl, rfl⟩
  | some cb =>
    have hd : (request.toList.take d).length = d := List.length_take_of_le (by simp; omega)
    have hcells : (Query.hostCells k request d num).length = n - d := by
      unfold Query.hostCells
      rw [List.length_append, Kind.length_conv, List.length_take_of_le (by simp; omega), List.length_drop,
        Buffer.length_toList]
      omega
    have hfull : (request.fill (request.toList.take d ++ Query.hostCells k request d num)).fill
        (request.toList.take d) =
        request.fill (request.toList.take d ++ Query.hostCells k request d num) :=
      Buffer.fill_append_fill _ (by rw [List.length_append, hd, hcells]; omega)
    have hslave := callSlave_fill (some cb) app function addr num
      (request.fill (request.toList.take d ++ Query.hostCells k request d num)) (request.toList.take d)
      (by omega) hd.symm
    have hdrop : (request.fill (request.toList.take d ++ Query.hostCells k request d num)).toList.drop
        (request.toList.take d).length = Query.hostCells k request d num := by
      rw [Buffer.toList_fill _ (by rw [List.length_append, hd, hcells]; omega), List.append_assoc,
        List.drop_left, List.drop_eq_nil_of_le (by
          rw [Buffer.length_toList, List.length_append, hd, hcells]; omega), List.append_nil]
    rw [hfull, hdrop, hcall] at hslave
    refine ⟨_, _, fun K => ?_, hslave⟩
    show k.m2h request d (.self d) num >>= K = _
    rw [m2h_request k request hnum hn, exec_ok_bind]

variable (hin : q.In core request)

include hin

/-- The branches of functions 0x01 to 0x04 up to the call, on a quantity that passes the check: the
callback gets the reply buffer behind the byte count, which is not written yet. -/
theorem handleRead_called {k : Kind} (hserv : serviceOf q.function = .read k)
    (hnum : 0 < q.num.toNat ∧ q.num.toNat ≤ k.maxRead) {r : Int} {data : List UInt8} {app' : κ}
    (hcall : callResult cb app q.function.toNat q.address.toNat q.num.toNat
      (smb.writeBuff.toList.drop (core.lenHeader + 2)) = (r, data, app')) :
    ∃ x y z, data.length = modbusMaxAduLength - (core.lenHeader + 2) ∧
      handleRead k.h2m k.bytesOf smb core q.function request cb app =
        let B := smb.writeBuff.fill (core.openHeader smb.transferId smb.slaveAddr x y ++ [q.function] ++ [z] ++
          data)
        if 0 < r ∧ 0 < (toU16 r).toNat ∧ (toU16 r).toNat ≤ k.maxRead then do
          let response ← B.store (core.lenHeader + 1) (toU8 (k.bytesOf r))
          let response ← k.h2m response (core.lenHeader + 2) (.self (core.lenHeader + 2)) r
          return ⟨core.lenHeader + 1 + ((toU8 (k.bytesOf r)).toNat + 1), r, modbusOk, response, request, app'⟩
        else
          return ⟨core.lenHeader + 1, r, modbusException, B, request, app'⟩ := by
  have hh := core.lenHeader_le
  have hcheck : ∀ num, modbusCheckAddrNum q.function q.address num = true ↔
      0 < num.toNat ∧ num.toNat ≤ k.maxRead := fun num => checkAddrNum_read hserv q.address num
  obtain ⟨x, y, hbuild⟩ := buildResponseHeader_reply smb core q
  have hhdlen : (core.openHeader smb.transferId smb.slaveAddr x y ++ [q.function]).length =
      core.lenHeader + 1 := by simp
  obtain ⟨z, hz, -⟩ := Buffer.load_of_lt smb.writeBuff (show core.lenHeader + 1 < modbusMaxAduLength by
    show _ < 260
    omega)
  have hlen2 : (core.openHeader smb.transferId smb.slaveAddr x y ++ [q.function] ++ [z]).length =
      core.lenHeader + 2 := by simp
  have hslave := callSlave_fill cb app q.function.toNat q.address.toNat q.num.toNat smb.writeBuff
    _ (by rw [hlen2]; show _ ≤ 260; omega) (hlen2.symm : core.lenHeader + 1 + 1 = _)
  rw [hlen2, hcall] at hslave
  have hdata := callResult_length cb app q.function.toNat q.address.toNat q.num.toNat
    (smb.writeBuff.toList.drop (core.lenHeader + 2))
  rw [hcall, List.length_drop, Buffer.length_toList] at hdata
  refine ⟨x, y, z, hdata, ?_⟩
  unfold handleRead
  rw [hin.address_eq, exec_ok_bind, hin.num_eq, exec_ok_bind, if_pos ((hcheck _).mpr hnum), hbuild,
    exec_ok_bind]
  dsimp only
  rw [Buffer.fill_extend smb.writeBuff hz hhdlen.symm, hslave, exec_ok_bind]
  simp only [hcheck, Nat.add_assoc, Nat.reduceAdd]

/-- **The branches of functions 0x01 to 0x04**, on a quantity that passes the check. -/
theorem handleRead_answers {k : Kind} (hserv : serviceOf q.function = .read k)
    (hnum : 0 < q.num.toNat ∧ q.num.toNat ≤ k.maxRead) {r : Int} {data : List UInt8} {app' : κ}
    (hcall : callResult cb app q.function.toNat q.address.toNat q.num.toNat
      (smb.writeBuff.toList.drop (core.lenHeader + 2)) = (r, data, app'))
    (hfits : q.Fits r) :
    ∃ d, handleRead k.h2m k.bytesOf smb core q.function request cb app = .ok d ∧ d.app = app' ∧
      Answers smb core q d (q.reply smb.slaveAddr r data) := by
  have hh := core.lenHeader_le
  obtain ⟨x, y, z, hdata, hcalled⟩ := handleRead_called cb app hin hserv hnum hcall
  obtain ⟨hd, hhd⟩ : ∃ hd, hd = core.openHeader smb.transferId smb.slaveAddr x y ++ [q.function] :=
    ⟨_, rfl⟩
  have hhdlen : hd.length = core.lenHeader + 1 := by simp [hhd]
  have hlen2 : (hd ++ [z]).length = core.lenHeader + 2 := by simp [hhdlen]
  rw [hcalled, ← hhd]
  unfold Query.reply
  rw [hserv]
  dsimp only
  rw [if_pos hnum]
  by_cases hr : 0 < r ∧ 0 < (toU16 r).toNat ∧ (toU16 r).toNat ≤ k.maxRead
  · obtain ⟨m, rfl⟩ := Int.eq_ofNat_of_zero_le hr.1.le
    have hm : m ≤ k.maxRead := by exact_mod_cast hfits k hserv hr
    have hbytes : k.bytes m ≤ 250 := k.bytes_maxRead ▸ k.bytes_mono hm
    have hmax : modbusMaxAduLength = 260 := rfl
    have hb : (toU8 (k.bytes m)).toNat = k.bytes m := toNat_toU8_of_lt (by omega)
    -- the byte count goes where the unwritten byte was
    have hset : (hd ++ [z] ++ data).set (core.lenHeader + 1) (toU8 (k.bytes m)) =
        (hd ++ [toU8 (k.bytes m)] ++ data.take (k.bytes m)) ++ data.drop (k.bytes m) := by
      rw [set_at hd data z _ hhdlen.symm, List.append_assoc (hd ++ [_]), List.take_append_drop]
    have hall : (hd ++ [z] ++ data).length ≤ modbusMaxAduLength := by
      rw [List.length_append, hlen2, hdata]
      omega
    have hpre : (hd ++ [toU8 (k.bytes m)]).length = core.lenHeader + 2 := by simp [hhdlen]
    have hmid : (data.take (k.bytes m)).length = k.bytes m := List.length_take_of_le (by omega)
    have hfill : ((hd ++ [toU8 (k.bytes m)] ++ data.take (k.bytes m)) ++
        data.drop (k.bytes m)).length ≤ modbusMaxAduLength := by
      rw [← hset, List.length_set]
      exact hall
    have hself := k.h2m_self (smb.writeBuff.fill ((hd ++ [toU8 (k.bytes m)] ++ data.take (k.bytes m)) ++
      data.drop (k.bytes m))) hpre.symm (show 0 < m by omega) hmid (by omega)
    rw [Buffer.fill_append_fill _ hfill] at hself
    rw [if_pos hr, if_pos hr, k.bytesOf_natCast,
      Buffer.store_fill_lt _ (by rw [List.length_append, hlen2]; omega) hall, exec_ok_bind, hset,
      hself, exec_ok_bind]
    refine ⟨_, rfl, rfl, answers_normal (B := smb.writeBuff.fill ((hd ++ [toU8 (k.bytes m)] ++
      data.take (k.bytes m)) ++ data.drop (k.bytes m))) (x := x) (y := y) rfl ?_ ?_⟩
    · show core.lenHeader + 1 + ((toU8 (k.bytes m)).toNat + 1) = _
      rw [hb, Int.toNat_natCast, List.length_cons, List.length_cons, Kind.length_conv, hmid]
      omega
    · dsimp only
      rw [hhd, Int.toNat_natCast]
      simp only [List.append_assoc, List.cons_append, List.nil_append]
  · rw [if_neg hr, if_neg hr]
    have hans : Answers smb core q (⟨core.lenHeader + 1, r, modbusException,
        smb.writeBuff.fill (hd ++ [z] ++ data), request, app'⟩ : Handling κ n) _ :=
      answers_exception le_rfl
    exact ⟨_, rfl, rfl, hans⟩

/-- A result that only passes the check of its low 16 bits makes the conversion leave the reply buffer. -/
theorem handleRead_overrun {k : Kind} (hserv : serviceOf q.function = .read k)
    (hnum : 0 < q.num.toNat ∧ q.num.toNat ≤ k.maxRead) {r : Int} {data : List UInt8} {app' : κ}
    (hcall : callResult cb app q.function.toNat q.address.toNat q.num.toNat
      (smb.writeBuff.toList.drop (core.lenHeader + 2)) = (r, data, app'))
    (hfits : ¬ q.Fits r) (d : Handling κ n) :
    handleRead k.h2m k.bytesOf smb core q.function request cb app ≠ .ok d := by
  intro hd
  obtain ⟨x, y, z, -, hcalled⟩ := handleRead_called cb app hin hserv hnum hcall
  have hr : 0 < r ∧ 0 < (toU16 r).toNat ∧ (toU16 r).toNat ≤ k.maxRead := by
    by_contra hr
    exact hfits fun k' hk' hr' => absurd (Service.read.inj (hserv.symm.trans hk') ▸ hr') hr
  have hbig : (k.maxRead : Int) < r := by
    by_contra hle
    apply hfits
    intro k' hk' _
    rw [← Service.read.inj (hserv.symm.trans hk')]
    omega
  rw [hcalled] at hd
  dsimp only at hd
  rw [if_pos hr] at hd
  obtain ⟨b, -, hd⟩ := bind_eq_ok.mp hd
  obtain ⟨c, hcopy, -⟩ := bind_eq_ok.mp hd
  have hmax : modbusMaxAduLength = 260 := rfl
  have hmod := toNat_toU16 r
  have hsize := (k.h2m_ok hcopy).1
  -- a result that passes on its low 16 bits alone is 65536 at least, more than the buffer holds
  cases k with
  | coil =>
    have h1 : (toU16 r).toNat ≤ 2000 := hr.2.2
    have h2 : (2000 : Int) < r := hbig
    obtain ⟨m, rfl⟩ := Int.eq_ofNat_of_zero_le hr.1.le
    rw [Kind.bytesOf_natCast] at hsize
    have h3 : Kind.coil.bytes m = (m + 7) / 8 := rfl
    omega
  | register =>
    have h2 : (125 : Int) < r := hbig
    have h1 : (toU16 r).toNat ≤ 125 := hr.2.2
    have h3 : Kind.register.bytesOf r = r * 2 := rfl
    omega

/-- **The branches of functions 0x05 and 0x06.** -/
theorem handleWriteSingle_answers {k : Kind} (hserv : serviceOf q.function = .writeSingle k)
    (hn : core.lenHeader + 5 ≤ n) {r : Int} {data : List UInt8} {app' : κ}
    (hcall : callResult cb app q.function.toNat q.address.toNat 1
      (Query.hostCells k request (core.lenHeader + 3) 1) = (r, data, app')) :
    ∃ d, handleWriteSingle k.m2h smb core q.function request cb app = .ok d ∧ d.app = app' ∧
      Answers smb core q d (q.reply smb.slaveAddr r data) := by
  obtain ⟨x, y, hbuild⟩ := buildResponseHeader_reply smb core q
  have hone := k.bytes_one_le
  obtain ⟨request₁, request', hconv, hslave⟩ :=
    convert_call cb app k (show 0 < 1 by decide) (show core.lenHeader + 3 + k.bytes 1 ≤ n by omega) hcall
  unfold handleWriteSingle
  rw [hin.address_eq, exec_ok_bind, hin.num_eq, exec_ok_bind, hbuild, exec_ok_bind]
  dsimp only
  rw [show (1 : Int) = ((1 : Nat) : Int) from rfl, hconv, hslave, exec_ok_bind]
  unfold Query.reply
  rw [hserv]
  exact write_answers (by decide)

/-- **The branches of functions 0x0F and 0x10**, on a quantity that passes the check. -/
theorem handleWriteMultiple_answers {k : Kind} (hserv : serviceOf q.function = .writeMultiple k)
    (hn : modbusMaxAduLength ≤ n) (hnum : 0 < q.num.toNat ∧ q.num.toNat ≤ k.maxWrite) {r : Int}
    {data : List UInt8} {app' : κ}
    (hcall : callResult cb app q.function.toNat q.address.toNat q.num.toNat
      (Query.hostCells k request (core.lenHeader + 6) q.num.toNat) = (r, data, app')) :
    ∃ d, handleWriteMultiple k.m2h smb core q.function request cb app = .ok d ∧ d.app = app' ∧
      Answers smb core q d (q.reply smb.slaveAddr r data) := by
  have hh := core.lenHeader_le
  have hmax : modbusMaxAduLength = 260 := rfl
  have hbytes : k.bytes q.num.toNat ≤ 246 := k.bytes_maxWrite ▸ k.bytes_mono hnum.2
  obtain ⟨x, y, hbuild⟩ := buildResponseHeader_reply smb core q
  obtain ⟨request₁, request', hconv, hslave⟩ := convert_call cb app k hnum.1
    (show core.lenHeader + 6 + k.bytes q.num.toNat ≤ n by omega) hcall
  unfold handleWriteMultiple
  rw [hin.address_eq, exec_ok_bind, hin.num_eq, exec_ok_bind,
    if_pos ((checkAddrNum_writeMultiple hserv _ _).mpr hnum), hbuild, exec_ok_bind]
  dsimp only
  rw [hconv, hslave, exec_ok_bind]
  unfold Query.reply
  rw [hserv]
  dsimp only
  rw [if_pos hnum]
  simp only [checkAddrNum_writeMultiple hserv]
  exact write_answers le_rfl

omit hin in
/-- The branch of function 0x11. -/
theorem handleReportSlaveId_answers (hserv : serviceOf q.function = .reportSlaveId) {r : Int}
    {data : List UInt8} :
    ∃ d, handleReportSlaveId smb core q.function request app = .ok d ∧ d.app = app ∧
      Answers smb core q d (q.reply smb.slaveAddr r data) := by
  have hh := core.lenHeader_le
  obtain ⟨x, y, hbuild⟩ := buildResponseHeader_reply smb core q
  obtain ⟨hd, hhd⟩ : ∃ hd, hd = core.openHeader smb.transferId smb.slaveAddr x y ++ [q.function] :=
    ⟨_, rfl⟩
  rw [← hhd] at hbuild
  have hhdlen : hd.length = core.lenHeader + 1 := by simp [hhd]
  unfold handleReportSlaveId
  rw [hbuild, exec_ok_bind]
  dsimp only
  have hmax : modbusMaxAduLength = 260 := rfl
  simp (disch := first | omega | (simp only [List.length_append, List.length_singleton]; omega)) only
    [Buffer.store_fill_end, exec_ok_bind]
  refine ⟨_, rfl, rfl, answers_normal (B := smb.writeBuff) (x := x) (y := y) rfl ?_ ?_⟩
  · unfold Query.reply
    rw [hserv]
    rfl
  · unfold Query.reply
    rw [hserv, hhd]
    simp only [List.append_assoc, List.cons_append, List.nil_append]

end Pieces

/-! ## §3 — the handler as a whole. -/

section Handle

variable {smb : Smb σ} {core : Core} {q : Query} {request : Buffer UInt8 n} (hin : q.In core request)
  (hn : modbusMaxAduLength ≤ n) (cb : Option (SlaveCallback κ)) (app : κ)

include hin hn

/-- **The dispatcher** makes the call of the query and answers with its reply. -/
theorem slaveDispatch_answers {r : Int} {data : List UInt8} {app' : κ}
    (hcall : q.call core smb request cb app = (r, data, app')) (hfits : q.Fits r) :
    ∃ d, slaveDispatch smb core q.function request cb app = .ok d ∧ d.app = app' ∧
      Answers smb core q d (q.reply smb.slaveAddr r data) := by
  have hh := core.lenHeader_le
  have hmax : modbusMaxAduLength = 260 := rfl
  rw [slaveDispatch_eq]
  unfold Query.call Query.items Query.cells at hcall
  cases hserv : serviceOf q.function with
  | read k =>
    rw [hserv] at hcall
    dsimp only at hcall ⊢
    by_cases hnum : 0 < q.num.toNat ∧ q.num.toNat ≤ k.maxRead
    · rw [if_pos hnum] at hcall
      exact handleRead_answers cb app hin hserv hnum hcall hfits
    · -- a quantity out of range is refused before the callback is asked
      rw [if_neg hnum] at hcall
      cases hcall
      unfold handleRead Query.reply
      rw [hin.address_eq, exec_ok_bind, hin.num_eq, exec_ok_bind,
        if_neg (by rwa [checkAddrNum_read hserv]), hserv]
      dsimp only
      rw [if_neg hnum]
      exact ⟨_, rfl, rfl, answers_exception (d := ⟨0, 0, modbusExceptionIllegalDataValue, smb.writeBuff,
        request, app⟩) (show modbusExceptionIllegalDataValue ≤ modbusException by decide)⟩
  | writeSingle k =>
    rw [hserv] at hcall
    exact handleWriteSingle_answers cb app hin hserv (by omega) hcall
  | writeMultiple k =>
    rw [hserv] at hcall
    dsimp only at hcall ⊢
    by_cases hnum : 0 < q.num.toNat ∧ q.num.toNat ≤ k.maxWrite
    · rw [if_pos hnum] at hcall
      exact handleWriteMultiple_answers cb app hin hserv hn hnum hcall
    · -- and so is it here, before the data are converted
      rw [if_neg hnum] at hcall
      cases hcall
      unfold handleWriteMultiple Query.reply
      rw [hin.address_eq, exec_ok_bind, hin.num_eq, exec_ok_bind,
        if_neg (by rwa [checkAddrNum_writeMultiple hserv]), hserv]
      dsimp only
      rw [if_neg hnum]
      exact ⟨_, rfl, rfl, answers_exception (d := ⟨0, 0, modbusExceptionIllegalDataValue, smb.writeBuff,
        request, app⟩) (show modbusExceptionIllegalDataValue ≤ modbusException by decide)⟩
  | reportSlaveId =>
    rw [hserv] at hcall
    cases hcall
    exact handleReportSlaveId_answers app hserv
  | unsupported =>
    rw [hserv] at hcall
    cases hcall
    unfold Query.reply
    rw [hserv]
    exact ⟨_, rfl, rfl, answers_exception (d := ⟨0, 0, modbusExceptionIllegalFunction, smb.writeBuff,
      request, app⟩) (show modbusExceptionIllegalFunction ≤ modbusException by decide)⟩

omit hin hn in
/-- A reply fits a frame. -/
theorem length_reply_le {r : Int} (hfits : q.Fits r) (slaveAddr : UInt8) (data : List UInt8) :
    0 < (q.reply slaveAddr r data).length ∧ (q.reply slaveAddr r data).length ≤ 252 := by
  have hexc : ∀ code, 0 < (q.exceptionReply r code).length ∧ (q.exceptionReply r code).length ≤ 252 :=
    fun code => ⟨Nat.succ_pos _, show 2 ≤ 252 by decide⟩
  have hecho : 0 < q.echoReply.length ∧ q.echoReply.length ≤ 252 := ⟨Nat.succ_pos _, show 5 ≤ 252 by decide⟩
  unfold Query.reply
  cases hserv : serviceOf q.function with
  | read k =>
    dsimp only
    split_ifs with h1 h2
    · have hm : r.toNat ≤ k.maxRead := by
        have := hfits k hserv h2
        omega
      have hbytes : k.bytes r.toNat ≤ 250 := k.bytes_maxRead ▸ k.bytes_mono hm
      rw [List.length_cons, List.length_cons, Kind.length_conv, List.length_take]
      omega
    · exact hexc _
    · exact hexc _
  | writeSingle k =>
    dsimp only
    split_ifs
    · exact hecho
    · exact hexc _
  | writeMultiple k =>
    dsimp only
    split_ifs
    · exact hecho
    · exact hexc _
    · exact hexc _
  | reportSlaveId => exact ⟨Nat.succ_pos _, show 11 ≤ 252 by decide⟩
  | unsupported => exact hexc _

omit hin hn in
theorem length_replyAdu_le {r : Int} (hfits : q.Fits r) (core : Core) (tid : UInt16) (slaveAddr : UInt8)
    (data : List UInt8) : (core.adu tid slaveAddr (q.reply slaveAddr r data)).length ≤
      modbusMaxAduLength := by
  have h1 := (length_reply_le hfits slaveAddr data).2
  have h2 := core.lenOverhead_le
  rw [Core.length_adu]
  show _ ≤ 260
  omega

/-- **`modbus_slave_handle`** makes the call of the query and hands the port the frame of its reply. -/
theorem modbusSlaveHandle_run {port : Port σ} (h : Ready smb core port) (w : σ) (requestLen : UInt16)
    {r : Int} {data : List UInt8} {app' : κ} (hcall : q.call core smb request cb app = (r, data, app'))
    (hfits : q.Fits r) {frame : List UInt8}
    (hframe : frame = core.adu smb.transferId smb.slaveAddr (q.reply smb.slaveAddr r data)) :
    ∃ writeBuff' request', modbusSlaveHandle smb w request requestLen cb app =
      .ok ((modbusWrite smb w frame).1, { smb with writeBuff := writeBuff' }, (modbusWrite smb w frame).2,
        request', app') := by
  obtain ⟨d, hd, rfl, B, x, y, hfinish⟩ := slaveDispatch_answers hin hn cb app hcall hfits
  have hlen := length_replyAdu_le hfits core smb.transferId smb.slaveAddr data
  have hpos := (length_reply_le hfits smb.slaveAddr data).1
  have hsend := checkSendPre_fill core smb B le_rfl smb.transferId smb.slaveAddr x y hlen rfl
  rw [← hframe] at hlen hsend
  have hmax : modbusMaxAduLength = 260 := rfl
  have hframepos : 0 < frame.length := by
    rw [hframe, Core.length_adu]
    omega
  have hslice : (B.fill frame).slice (toU16 (frame.length : Nat)).toNat = .ok frame := by
    rw [toNat_toU16_natCast (by omega), Buffer.slice_fill B hlen]
  refine ⟨B.fill frame, d.request, ?_⟩
  unfold modbusSlaveHandle
  simp only [h.coreOf, exec_ok_bind, hin.function_eq, h.contextCheck, ne_eq, not_true, if_false, hd, hfinish]
  rw [if_pos (by omega), hsend, exec_ok_bind]
  dsimp only
  rw [if_pos (by omega), hslice, exec_ok_bind]
  rfl

theorem modbusSlaveHandle_eq {port : Port σ} (h : Ready smb core port)
    {write : σ → List UInt8 → Int × σ} (hwrite : port.writeFn = some write) (w : σ) (requestLen : UInt16)
    {r : Int} {data : List UInt8} {app' : κ} (hcall : q.call core smb request cb app = (r, data, app'))
    (hfits : q.Fits r) :
    ∃ writeBuff' request', modbusSlaveHandle smb w request requestLen cb app =
      .ok ((write w (core.adu smb.transferId smb.slaveAddr (q.reply smb.slaveAddr r data))).1,
        { smb with writeBuff := writeBuff' },
        (write w (core.adu smb.transferId smb.slaveAddr (q.reply smb.slaveAddr r data))).2, request',
        app') := by
  rw [← h.write hwrite]
  exact modbusSlaveHandle_run hin hn cb app h w requestLen hcall hfits rfl

omit hn in
/-- A result that does not fit is never answered: the handler writes outside its reply buffer. -/
theorem modbusSlaveHandle_overrun {port : Port σ} (h : Ready smb core port) (w : σ) (requestLen : UInt16)
    {r : Int} {data : List UInt8} {app' : κ} (hcall : q.call core smb request cb app = (r, data, app'))
    (hfits : ¬ q.Fits r) (x : Int × Smb σ × σ × Buffer UInt8 n × κ) :
    modbusSlaveHandle smb w request requestLen cb app ≠ .ok x := by
  intro hrun
  unfold modbusSlaveHandle at hrun
  simp only [h.coreOf, exec_ok_bind, hin.function_eq, h.contextCheck, ne_eq, not_true, if_false] at hrun
  obtain ⟨d, hd, -⟩ := bind_eq_ok.mp hrun
  obtain ⟨k, hserv, hr, -⟩ : ∃ k, serviceOf q.function = .read k ∧ 0 < r ∧ ¬ r ≤ k.maxRead := by
    by_contra hno
    apply hfits
    intro k hk hr
    by_contra hle
    exact hno ⟨k, hk, hr.1, hle⟩
  rw [slaveDispatch_eq, hserv] at hd
  unfold Query.call Query.items Query.cells at hcall
  rw [hserv] at hcall
  dsimp only at hcall hd
  split_ifs at hcall with hnum
  · exact handleRead_overrun cb app hin hserv hnum hcall hfits d hd
  · cases hcall
    omega

end Handle

/-! ### The query of a frame -/

/-- The fields of a request, in the buffer that begins with its frame. -/
theorem Query.in_adu {core : Core} {tid : UInt16} {a : UInt8} {q : Query} {tail : List UInt8}
    (old : Buffer UInt8 n) {frame : List UInt8}
    (hframe : frame = core.adu tid a (q.echoReply ++ tail)) (hn : frame.length ≤ n) :
    q.In core (old.fill frame) := by
  have hget : ∀ i b, q.echoReply[i]? = some b → (old.fill frame).load (core.lenHeader + i) = .ok b := by
    intro i b hb
    have hi : i < q.echoReply.length := (List.getElem?_eq_some_iff.mp hb).1
    refine Buffer.load_fill_of_getElem? old ?_ hn
    have hl : (core.header tid a (q.echoReply ++ tail).length).length = core.lenHeader := by simp
    rw [hframe, Core.adu, List.append_assoc, List.getElem?_append_right (by omega), hl,
      Nat.add_sub_cancel_left, List.append_assoc, List.getElem?_append_left hi, hb]
  have hword : ∀ i (x : UInt16), q.echoReply[i]? = some (highByte x.toNat) →
      q.echoReply[i + 1]? = some (lowByte x.toNat) →
      loadWord (old.fill frame) (core.lenHeader + i) = .ok x := by
    intro i x hi hi'
    unfold loadWord
    rw [hget i _ hi, exec_ok_bind, Nat.add_assoc, hget (i + 1) _ hi', exec_ok_bind,
      toU16_word_eq_iff.mpr ⟨rfl, rfl⟩]
    rfl
  exact ⟨hget 0 _ rfl, hword 1 _ rfl rfl, hword 3 _ rfl rfl⟩

end SmallModbus
