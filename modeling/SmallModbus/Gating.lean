/-
# `SmallModbus.Gating` — one step of the slave, on any port.

`slaveStep_cases` lists what a call of `modbus_slave_wait_handle` can do on a port that fails no read: it
does not return, or it rejects what it received, or it received a frame for this slave, which holds a
query. `callback_gating` reads off it when the application is called.
-/
import SmallModbus.Handover

namespace SmallModbus

open SmallModbus.Lib

variable {σ κ : Type} {n : Nat}

/-! ## §1 — the query of a received frame. -/

theorem exists_loadWord (b : Buffer UInt8 n) {i : Nat} (h : i + 1 < n) : ∃ x, loadWord b i = .ok x := by
  obtain ⟨hi, -, hload⟩ := Buffer.load_of_lt b (show i < n by omega)
  obtain ⟨lo, -, hload'⟩ := Buffer.load_of_lt b h
  unfold loadWord
  rw [hload, exec_ok_bind, hload', exec_ok_bind]
  exact ⟨_, rfl⟩

/-- The fields of a query are read from the buffer, whatever has been received. -/
theorem Query.exists_in (core : Core) (b : Buffer UInt8 n) (hn : modbusMaxAduLength ≤ n) :
    ∃ q : Query, q.In core b := by
  have hh := core.lenHeader_le
  have hmax : modbusMaxAduLength = 260 := rfl
  obtain ⟨f, -, hf⟩ := Buffer.load_of_lt b (show core.lenHeader < n by omega)
  obtain ⟨address, ha⟩ := exists_loadWord b (show core.lenHeader + 1 + 1 < n by omega)
  obtain ⟨num, hnum⟩ := exists_loadWord b (show core.lenHeader + 3 + 1 < n by omega)
  exact ⟨⟨f, address, num⟩, hf, ha, hnum⟩

theorem Query.In.unique {core : Core} {b : Buffer UInt8 n} {q q' : Query} (h : q.In core b)
    (h' : q'.In core b) : q = q' := by
  obtain ⟨f, address, num⟩ := q
  obtain ⟨f', address', num'⟩ := q'
  obtain rfl : f = f' := Except.ok.inj (h.function_eq.symm.trans h'.function_eq)
  obtain rfl : address = address' := Except.ok.inj (h.address_eq.symm.trans h'.address_eq)
  obtain rfl : num = num' := Except.ok.inj (h.num_eq.symm.trans h'.num_eq)
  rfl

/-- The function of the query is the function code of the frame. -/
theorem Query.In.function_adu {core : Core} {tid : UInt16} {a f : UInt8} {pdu : List UInt8}
    {old : Buffer UInt8 n} {q : Query} (h : q.In core (old.fill (core.adu tid a (f :: pdu))))
    (hn : (core.adu tid a (f :: pdu)).length ≤ n) : q.function = f := by
  have hpos : 0 < (f :: pdu).length := Nat.succ_pos _
  have hget := adu_getElem? core tid a hpos
  have hload := Buffer.load_fill_of_getElem? old hget hn
  exact Except.ok.inj (h.function_eq.symm.trans hload)

/-- A PDU of the right length has a function code. -/
theorem Format.Sized.exists_cons {fmt : Format} {pdu : List UInt8} (h : fmt.Sized pdu) :
    ∃ f l, pdu = f :: l ∧ fmt.fixed f ≤ l.length := by
  cases pdu with
  | nil =>
    have h0 : 0 = 1 + fmt.fixed 0 + fmt.dataLength [] := h
    omega
  | cons f l =>
    have hl : (f :: l).length = 1 + fmt.fixed f + fmt.dataLength (f :: l) := h
    rw [List.length_cons] at hl
    exact ⟨f, l, rfl, by omega⟩

/-! ## §2 — the steps of the slave. -/

section Step

variable {smb : Smb σ} {core : Core} {port : Port σ} {F : Feed port} (hF : F.Clean)
  (h : Ready smb core port) (cb : Option (SlaveCallback κ)) (app : κ) (fuel : Nat) (w : σ) (t : Int)

include hF h

/-- **The steps of the slave**: it does not return, it rejects what it received, or it received a frame
that is for it. -/
theorem slaveStep_cases :
    (modbusSlaveWait fuel smb w smb.readBuff t = .error .fuel ∧
      modbusSlaveWaitHandle fuel smb w cb app t = .error .fuel) ∨
    (∃ ret w₁ taken, ret < 0 ∧ F.Session w taken w₁ ∧
      modbusSlaveWait fuel smb w smb.readBuff t = .ok (ret, smb, w₁, smb.readBuff.fill taken) ∧
      modbusSlaveWaitHandle fuel smb w cb app t =
        .ok (ret, { smb with readBuff := smb.readBuff.fill taken }, w₁, app)) ∨
    ∃ tid a pdu w₁ q, smb.Admits a ∧ slaveFormat.Sized pdu ∧
      (core.adu tid a pdu).length ≤ modbusMaxAduLength ∧ F.Session w (core.adu tid a pdu) w₁ ∧
      modbusSlaveWait fuel smb w smb.readBuff t = .ok (((core.adu tid a pdu).length : Nat),
        core.adopt smb tid, w₁, smb.readBuff.fill (core.adu tid a pdu)) ∧
      Query.In core (smb.readBuff.fill (core.adu tid a pdu)) q := by
  rcases modbusSlaveWait_feed hF h smb.readBuff le_rfl fuel w t with
    hout | ⟨o, ret, smb', w₁, hok, hrec, hends, -⟩
  · refine Or.inl ⟨hout, ?_⟩
    unfold modbusSlaveWaitHandle
    rw [h.contextCheck, if_neg (not_not.mpr rfl), hout, exec_error_bind]
  right
  rcases hends with ⟨e, -, hneg, rfl, rfl⟩ | ⟨-, ⟨rfl, a, tid, pdu, ha, hsize, hadu, rfl⟩ | ⟨hneg, rfl, -⟩⟩
  · left
    exact ⟨_, w₁, _, hneg, hrec.session, hok,
      modbusSlaveWaitHandle_rejected hneg hok cb app h.contextCheck⟩
  · right
    have hlen := hrec.taken_le (slave_tabled core)
    have hs := hrec.session
    rw [hadu] at hok hlen hs
    obtain ⟨q, hq⟩ := Query.exists_in core (smb.readBuff.fill (core.adu tid a pdu)) le_rfl
    exact ⟨tid, a, pdu, w₁, q, ha, hsize, hlen, hs, hok, hq⟩
  · left
    exact ⟨_, w₁, _, hneg, hrec.session, hok,
      modbusSlaveWaitHandle_rejected hneg hok cb app h.contextCheck⟩

end Step

/-! ## §3 — when the application is called. -/

/-- The functions that lead to a call, with the largest number of its items. -/
def callLimit (f : UInt8) : Option Nat :=
  if f = 1 ∨ f = 2 then some modbusMaxReadBits
  else if f = 3 ∨ f = 4 then some modbusMaxReadRegisters
  else if f = 5 ∨ f = 6 then some 1
  else if f = 15 then some modbusMaxWriteBits
  else if f = 16 then some modbusMaxWriteRegisters
  else none

/-- The call is the one the frame asks for: the frame passes the check of the core for an address of this
slave, and the arguments are its fields, the quantity within the limit of the function and 1 for a single
write. -/
def Gated (core : Core) (smb : Smb σ) (frame : List UInt8) (c : Call) : Prop :=
  ∃ (tid : UInt16) (a : UInt8) (q : Query) (tail : List UInt8) (limit : Nat),
    frame = core.adu tid a (q.echoReply ++ tail) ∧ (a = smb.slaveAddr ∨ a = modbusBroadcastAddress) ∧
      callLimit q.function = some limit ∧ c.function = q.function.toNat ∧ c.addr = q.address.toNat ∧
      1 ≤ c.num ∧ c.num ≤ limit ∧
      (c.num = q.num.toNat ∨ (q.function = 5 ∨ q.function = 6) ∧ c.num = 1)

theorem callLimit_read (f : UInt8) {k : Kind} (h : serviceOf f = .read k) :
    callLimit f = some k.maxRead ∧ 4 ≤ slaveFormat.fixed f := by
  revert f
  cases k <;> exact forall_uint8 (by decide +kernel)

theorem callLimit_writeSingle (f : UInt8) {k : Kind} (h : serviceOf f = .writeSingle k) :
    callLimit f = some 1 ∧ 4 ≤ slaveFormat.fixed f ∧ (f = 5 ∨ f = 6) := by
  revert f
  cases k <;> exact forall_uint8 (by decide +kernel)

theorem callLimit_writeMultiple (f : UInt8) {k : Kind} (h : serviceOf f = .writeMultiple k) :
    callLimit f = some k.maxWrite ∧ 4 ≤ slaveFormat.fixed f := by
  revert f
  cases k <;> exact forall_uint8 (by decide +kernel)

/-- What a query asks the callback for is within the limit of its function. -/
theorem Query.items_limit {q : Query} {items : Nat} (h : q.items = some items) :
    ∃ limit, callLimit q.function = some limit ∧ 1 ≤ items ∧ items ≤ limit ∧
      4 ≤ slaveFormat.fixed q.function ∧
      (items = q.num.toNat ∨ (q.function = 5 ∨ q.function = 6) ∧ items = 1) := by
  unfold Query.items at h
  cases hserv : serviceOf q.function with
  | read k =>
    rw [hserv] at h
    dsimp only at h
    split_ifs at h with hnum
    obtain rfl := Option.some.inj h
    obtain ⟨hlimit, hfixed⟩ := callLimit_read q.function hserv
    exact ⟨_, hlimit, hnum.1, hnum.2, hfixed, Or.inl rfl⟩
  | writeSingle k =>
    rw [hserv] at h
    obtain rfl : 1 = items := Option.some.inj h
    obtain ⟨hlimit, hfixed, hf⟩ := callLimit_writeSingle q.function hserv
    exact ⟨_, hlimit, le_rfl, le_rfl, hfixed, Or.inr ⟨hf, rfl⟩⟩
  | writeMultiple k =>
    rw [hserv] at h
    dsimp only at h
    split_ifs at h with hnum
    obtain rfl := Option.some.inj h
    obtain ⟨hlimit, hfixed⟩ := callLimit_writeMultiple q.function hserv
    exact ⟨_, hlimit, hnum.1, hnum.2, hfixed, Or.inl rfl⟩
  | reportSlaveId =>
    rw [hserv] at h
    cases h
  | unsupported =>
    rw [hserv] at h
    cases h

/-- A function that leads to a call has its query in the frame. -/
theorem Query.In.gated {core : Core} {smb : Smb σ} {tid : UInt16} {a : UInt8} {pdu : List UInt8}
    {old : Buffer UInt8 n} {q : Query} (hin : q.In core (old.fill (core.adu tid a pdu)))
    (hn : (core.adu tid a pdu).length ≤ n) (ha : smb.Admits a) (hsize : slaveFormat.Sized pdu) {items : Nat}
    (hitems : q.items = some items) (data : List UInt8) :
    Gated core smb (core.adu tid a pdu) ⟨q.function.toNat, q.address.toNat, items, data⟩ := by
  obtain ⟨limit, hlimit, hpos, hle, hfixed, hnum⟩ := Query.items_limit hitems
  obtain ⟨f, l, rfl, hl⟩ := hsize.exists_cons
  obtain rfl := hin.function_adu hn
  have hfive : 5 ≤ (q.function :: l).length := by
    rw [List.length_cons]
    omega
  obtain ⟨q', tail, hpdu⟩ := exists_query hfive
  obtain rfl : q = q' := hin.unique (Query.in_adu old (by rw [hpdu]) hn)
  refine ⟨tid, a, q, tail, limit, by rw [hpdu], ha, hlimit, rfl, rfl, ?_, ?_, ?_⟩
  · show (1 : Int) ≤ items
    omega
  · show (items : Int) ≤ limit
    omega
  · show (items : Int) = q.num.toNat ∨ (q.function = 5 ∨ q.function = 6) ∧ (items : Int) = 1
    exact hnum.imp (by omega) (fun h => ⟨h.1, by omega⟩)

/-- A watched callback records at most one call, that of the query. -/
theorem Query.call_watched (q : Query) (core : Core) (smb : Smb σ) (request : Buffer UInt8 n)
    (cb : SlaveCallback κ) (app : κ) (log : List Call) :
    ∃ calls, (q.call core smb request (some cb.watched) (app, log)).2.2.2 = log ++ calls ∧
      calls.length ≤ 1 ∧ ∀ c ∈ calls, ∃ items data, q.items = some items ∧
        c = ⟨q.function.toNat, q.address.toNat, items, data⟩ := by
  unfold Query.call
  cases hitems : q.items with
  | none => exact ⟨[], (List.append_nil log).symm, Nat.zero_le _, fun c hc => nomatch hc⟩
  | some items =>
    refine ⟨[_], rfl, le_rfl, fun c hc => ?_⟩
    exact ⟨items, _, rfl, List.mem_singleton.mp hc⟩

/-- A result that does not fit was returned by the callback. -/
theorem Query.call_of_not_fits {q : Query} {core : Core} {smb : Smb σ} {request : Buffer UInt8 n}
    {cb : SlaveCallback κ} {app : κ} (h : ¬ q.Fits (q.call core smb request (some cb) app).1) :
    ∃ items cells, q.items = some items ∧
      65536 ≤ (cb.call app q.function.toNat q.address.toNat items cells).1 := by
  have hbig : 65536 ≤ (q.call core smb request (some cb) app).1 := by
    by_contra hlt
    exact h (Query.fits_of_lt (by omega))
  unfold Query.call at hbig
  cases hitems : q.items with
  | none =>
    rw [hitems] at hbig
    have h0 : (65536 : Int) ≤ 0 := hbig
    omega
  | some items =>
    rw [hitems] at hbig
    exact ⟨items, _, rfl, hbig⟩

/-- **The application is called at most once, and only through every gate.** For each core, each state of
the slave, each port that fails no read, whatever it hands over: when the wait rejects, nothing is written
and only `read_buff` changes, and when it accepts a frame, the callback is called for that frame or not at
all. A call that does not return because the callback's result made it leave the reply buffer has made the
one call of its frame, too. -/
theorem callback_gating {smb : Smb σ} {core : Core} {port : Port σ} (hcore : smb.core = some core)
    (hport : smb.port = some port) {F : Feed port} (hF : F.Clean) {T : Tap port}
    (hT : ∀ frames, F.Preserves (fun w => T.sent w = frames)) (cb : SlaveCallback κ) (app : κ)
    (log : List Call) (fuel : Nat) (w : σ) (t : Int) :
    (∀ x, modbusSlaveWaitHandle fuel smb w (some cb.watched) (app, log) t = .ok x →
      ∃ ret smb₁ w₁ request, modbusSlaveWait fuel smb w smb.readBuff t = .ok (ret, smb₁, w₁, request) ∧
        (ret < 0 → x = (ret, { smb with readBuff := request }, w₁, (app, log)) ∧ T.sent w₁ = T.sent w) ∧
        (0 ≤ ret → ∃ frame calls, F.Session w frame w₁ ∧ request = smb.readBuff.fill frame ∧
          x.2.2.2.2 = log ++ calls ∧ calls.length ≤ 1 ∧ ∀ c ∈ calls, Gated core smb frame c)) ∧
    (modbusSlaveWaitHandle fuel smb w (some cb.watched) (app, log) t = .error .fault →
      ∃ w₁ frame c cells, F.Session w frame w₁ ∧ Gated core smb frame c ∧
        65536 ≤ (cb.call app c.function c.addr c.num cells).1) := by
  rcases modbusContextCheck_cases smb with hbad | ⟨-, hmagic⟩
  · -- a context that fails its check is left alone
    have hctx : modbusContextCheck smb ≠ modbusOk := by rw [hbad]; decide
    have hwait : modbusSlaveWait fuel smb w smb.readBuff t =
        .ok (modbusContextCheck smb, smb, w, smb.readBuff) := if_pos hctx
    have hrun : modbusSlaveWaitHandle fuel smb w (some cb.watched) (app, log) t =
        .ok (modbusContextCheck smb, smb, w, (app, log)) := if_pos hctx
    rw [hbad] at hwait hrun
    refine ⟨fun x hx => ?_, fun hfault => ?_⟩
    · rw [hrun] at hx
      cases hx
      exact ⟨_, _, _, _, hwait, fun _ => ⟨rfl, rfl⟩, fun hnn => absurd hnn (by decide)⟩
    · rw [hrun] at hfault
      cases hfault
  have h : Ready smb core port := ⟨hmagic, hcore, hport⟩
  rcases slaveStep_cases hF h (some cb.watched) (app, log) fuel w t with
    ⟨-, hout⟩ | ⟨ret, w₁, taken, hneg, hs, hwait, hrun⟩ |
      ⟨tid, a, pdu, w₁, q, ha, hsize, hlen, hs, hwait, hin⟩
  · -- the wait does not return
    rw [hout]
    exact ⟨fun x hx => (nomatch hx), fun hfault => (nomatch hfault)⟩
  · -- the wait rejects
    refine ⟨fun x hx => ?_, fun hfault => ?_⟩
    · rw [hrun] at hx
      cases hx
      exact ⟨_, _, _, _, hwait, fun _ => ⟨rfl, hs.preserves (hT _) rfl⟩, fun hnn => by omega⟩
    · rw [hrun] at hfault
      cases hfault
  · -- a frame is accepted, and its query handled
    obtain ⟨⟨r, data, app'⟩, hcall⟩ : ∃ y, q.call core (core.adopt smb tid)
        (smb.readBuff.fill (core.adu tid a pdu)) (some cb.watched) (app, log) = y := ⟨_, rfl⟩
    by_cases hfits : q.Fits r
    · obtain ⟨rb, wb, hrun⟩ := modbusSlaveWaitHandle_handled h hwait hin _ _ hcall hfits rfl
      obtain ⟨calls, hcalls, hone, hall⟩ := q.call_watched core (core.adopt smb tid)
        (smb.readBuff.fill (core.adu tid a pdu)) cb app log
      rw [hcall] at hcalls
      refine ⟨fun x hx => ?_, fun hfault => ?_⟩
      · rw [hrun] at hx
        cases hx
        refine ⟨_, _, _, _, hwait, fun hneg => by omega, fun _ => ?_⟩
        refine ⟨core.adu tid a pdu, calls, hs, rfl, hcalls, hone, fun c hc => ?_⟩
        obtain ⟨items, data, hitems, rfl⟩ := hall c hc
        exact hin.gated hlen ha hsize hitems data
      · rw [hrun] at hfault
        cases hfault
    · -- the result of the one call leads out of the reply buffer
      refine ⟨fun x hx => ?_, fun _ => ?_⟩
      · exact absurd hx (modbusSlaveWaitHandle_overrun h hwait hin _ _ hcall hfits x)
      · have hr : ¬ q.Fits (q.call core (core.adopt smb tid) (smb.readBuff.fill (core.adu tid a pdu))
            (some cb.watched) (app, log)).1 := by
          rw [hcall]
          exact hfits
        obtain ⟨items, cells, hitems, hbig⟩ := Query.call_of_not_fits hr
        exact ⟨w₁, _, _, cells, hs, hin.gated hlen ha hsize hitems [], hbig⟩

/-- Reads and waits of a wire write nothing. -/
theorem Wire.line_quiet (frames : List (List UInt8)) :
    Wire.line.feed.Preserves (fun w => Wire.tap.sent w = frames) :=
  ⟨fun _ _ h => h, fun _ _ h => h⟩

/-- A read of two registers over TCP: one call, which its frame asks for. -/
theorem callback_gating_one :
    ∃ x frame, modbusSlaveWaitHandle 600 (newContext .tcp Wire.port 1)
        ⟨[0, 9, 0, 0, 0, 6, 1, 3, 0, 0, 0, 2], [3, 0, 1], []⟩ (some (returning 2).watched) ((), []) (-1) = .ok x ∧
      x.2.2.2.2 = [⟨3, 0, 2, [0, 0, 0, 0]⟩] ∧
      Gated .tcp (newContext .tcp Wire.port 1) frame ⟨3, 0, 2, [0, 0, 0, 0]⟩ := by
  have hlog : (modbusSlaveWaitHandle 600 (newContext .tcp Wire.port 1)
      ⟨[0, 9, 0, 0, 0, 6, 1, 3, 0, 0, 0, 2], [3, 0, 1], []⟩ (some (returning 2).watched) ((), []) (-1)).map
      (fun x => x.2.2.2.2) = .ok [⟨3, 0, 2, [0, 0, 0, 0]⟩] := by decide +kernel
  obtain ⟨x, hrun, hx⟩ := map_eq_ok.mp hlog
  obtain ⟨ret, smb₁, w₁, request, -, hrejected, haccepted⟩ :=
    (callback_gating rfl rfl Wire.line.clean Wire.line_quiet (returning 2) () [] 600 _ (-1)).1 x hrun
  by_cases hret : ret < 0
  · -- a rejected wait would have made no call
    rw [(hrejected hret).1] at hx
    cases hx
  · obtain ⟨frame, calls, -, -, hcalls, -, hall⟩ := haccepted (by omega)
    rw [hx, List.nil_append] at hcalls
    refine ⟨x, frame, hrun, hx, hall _ ?_⟩
    rw [← hcalls]
    exact List.mem_singleton_self _

end SmallModbus
