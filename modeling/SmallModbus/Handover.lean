/-
# `SmallModbus.Handover` — what the slave hands to its callback.

`modbusSlaveWaitHandle_handled` is the specification of `modbus_slave_wait_handle` on an accepted frame.
A watched callback keeps a record of its calls with the bytes of the items it was asked for;
`write_data_iff` says when this record depends on nothing but the frame, and not on what the buffer held
before.
-/
import SmallModbus.Answers

namespace SmallModbus

open SmallModbus.Lib

variable {σ κ : Type} {n : Nat}

/-! ## §1 — `modbus_slave_wait_handle` on an accepted frame. -/

/-- What is rejected is stored, and nothing else happens. -/
theorem modbusSlaveWaitHandle_rejected {smb : Smb σ} {fuel : Nat} {w w₁ : σ} {t ret : Int} (hret : ret < 0)
    {request : Buffer UInt8 modbusMaxAduLength}
    (hwait : modbusSlaveWait fuel smb w smb.readBuff t = .ok (ret, smb, w₁, request))
    (cb : Option (SlaveCallback κ)) (app : κ) (hctx : modbusContextCheck smb = modbusOk) :
    modbusSlaveWaitHandle fuel smb w cb app t = .ok (ret, { smb with readBuff := request }, w₁, app) := by
  unfold modbusSlaveWaitHandle
  rw [hctx, if_neg (not_not.mpr rfl), hwait, exec_ok_bind]
  exact if_pos hret

section Handled

variable {smb : Smb σ} {core : Core} {port : Port σ} (h : Ready smb core port) {fuel : Nat} {w w₁ : σ}
  {t : Int} {tid : UInt16} {frame : List UInt8}
  (hwait : modbusSlaveWait fuel smb w smb.readBuff t =
    .ok ((frame.length : Nat), core.adopt smb tid, w₁, smb.readBuff.fill frame))
  {q : Query} (hin : q.In core (smb.readBuff.fill frame)) (cb : Option (SlaveCallback κ)) (app : κ) {r : Int}
  {data : List UInt8} {app' : κ}
  (hcall : q.call core (core.adopt smb tid) (smb.readBuff.fill frame) cb app = (r, data, app'))

include h hwait hin hcall

/-- What has been received is handled: the callback gets the call of the query in the buffer, and the port
the reply. -/
theorem modbusSlaveWaitHandle_handled (hfits : q.Fits r) {reply : List UInt8}
    (hreply : reply = core.adu tid smb.slaveAddr (q.reply smb.slaveAddr r data)) :
    ∃ readBuff' writeBuff', modbusSlaveWaitHandle fuel smb w cb app t =
      .ok ((modbusWrite smb w₁ reply).1,
        { core.adopt smb tid with readBuff := readBuff', writeBuff := writeBuff' },
        (modbusWrite smb w₁ reply).2, app') := by
  have hready : Ready { core.adopt smb tid with readBuff := smb.readBuff.fill frame } core port := by
    have hr := adopt_ready h core tid
    exact hr.congr rfl rfl rfl
  have hreply' : reply = core.adu (core.adopt smb tid).transferId (core.adopt smb tid).slaveAddr
      (q.reply (core.adopt smb tid).slaveAddr r data) := by
    rw [adu_adopt, adopt_slaveAddr, hreply]
  obtain ⟨writeBuff', request', hrun⟩ := modbusSlaveHandle_run hin le_rfl cb app hready w₁
    (toU16 (frame.length : Nat)) hcall hfits hreply'
  refine ⟨request', writeBuff', ?_⟩
  unfold modbusSlaveWaitHandle
  simp only [h.contextCheck, ne_eq, not_true, if_false]
  rw [hwait, exec_ok_bind]
  dsimp only
  rw [if_neg (by omega), hrun, exec_ok_bind]
  cases core <;> rfl

/-- A result that does not fit is not answered. -/
theorem modbusSlaveWaitHandle_overrun (hfits : ¬ q.Fits r) (x : Int × Smb σ × σ × κ) :
    modbusSlaveWaitHandle fuel smb w cb app t ≠ .ok x := by
  intro hrun
  have hready : Ready { core.adopt smb tid with readBuff := smb.readBuff.fill frame } core port := by
    have hr := adopt_ready h core tid
    exact hr.congr rfl rfl rfl
  unfold modbusSlaveWaitHandle at hrun
  simp only [h.contextCheck, ne_eq, not_true, if_false] at hrun
  rw [hwait, exec_ok_bind] at hrun
  dsimp only at hrun
  rw [if_neg (by omega)] at hrun
  obtain ⟨y, hhandle, -⟩ := bind_eq_ok.mp hrun
  exact modbusSlaveHandle_overrun hin cb app hready w₁ _ hcall hfits _ hhandle

end Handled

/-- **An accepted request is handled**: the callback gets the call of the query in the received frame, and
the port the reply. -/
theorem modbusSlaveWaitHandle_accepted {smb : Smb σ} {core : Core} {port : Port σ}
    (h : Ready smb core port) (L : Line port) {tid : UInt16} {a : UInt8} {q : Query}
    {tail rest frame : List UInt8} (hframe : frame = core.adu tid a (q.echoReply ++ tail))
    (hsize : slaveFormat.Sized (q.echoReply ++ tail)) (hlen : frame.length ≤ modbusMaxAduLength) {w : σ}
    (hrem : L.rem w = frame ++ rest) {fuel : Nat} {t : Int}
    {y : Int × Smb σ × σ × Buffer UInt8 modbusMaxAduLength}
    (hwait : modbusSlaveWait fuel smb w smb.readBuff t = .ok y) (hy : 0 ≤ y.1)
    (cb : Option (SlaveCallback κ)) (app : κ) {r : Int} {data : List UInt8} {app' : κ}
    (hcall : q.call core (core.adopt smb tid) (smb.readBuff.fill frame) cb app = (r, data, app'))
    (hfits : q.Fits r) {reply : List UInt8}
    (hreply : reply = core.adu tid smb.slaveAddr (q.reply smb.slaveAddr r data)) :
    L.rem y.2.2.1 = rest ∧ ∃ readBuff' writeBuff', modbusSlaveWaitHandle fuel smb w cb app t =
      .ok ((modbusWrite smb y.2.2.1 reply).1,
        { core.adopt smb tid with readBuff := readBuff', writeBuff := writeBuff' },
        (modbusWrite smb y.2.2.1 reply).2, app') := by
  obtain ⟨ret, smb₁, w₁, request⟩ := y
  have hin : q.In core (smb.readBuff.fill frame) := Query.in_adu smb.readBuff hframe hlen
  subst hframe
  obtain ⟨rfl, rfl, rfl, hrest⟩ := modbusSlaveWait_accepted L h smb.readBuff le_rfl hsize hlen hrem hwait hy
  exact ⟨hrest, modbusSlaveWaitHandle_handled h hwait hin cb app hcall hfits hreply⟩

/-! ## §2 — watched callbacks. -/

/-- The bytes that hold the items a callback is asked for. -/
def callBytes (function num : Int) : Nat :=
  if function = modbusFcReadHoldingCoils ∨ function = modbusFcReadInputsCoils ∨
      function = modbusFcWriteSingleCoil ∨ function = modbusFcWriteMultipleCoils
  then byteCount num.toNat
  else 2 * num.toNat

/-- One call: the arguments, and the bytes of the items behind the data pointer. -/
structure Call where
  function : Int
  addr : Int
  num : Int
  data : List UInt8
  deriving DecidableEq, Repr

/-- The callback with a record of its calls. -/
def SlaveCallback.watched (cb : SlaveCallback κ) : SlaveCallback (κ × List Call) where
  call s f a num data :=
    ((cb.call s.1 f a num data).1, (cb.call s.1 f a num data).2.1, (cb.call s.1 f a num data).2.2,
      s.2 ++ [⟨f, a, num, data.take (callBytes f num)⟩])
  size_eq s f a num data := cb.size_eq s.1 f a num data

/-- The multiple write a query asks its callback for, when the request is in this buffer. -/
def Query.calls (core : Core) (request : Buffer UInt8 n) (q : Query) (k : Kind) : List Call :=
  if 0 < q.num.toNat ∧ q.num.toNat ≤ k.maxWrite then
    [⟨q.function.toNat, q.address.toNat, q.num.toNat,
      k.conv ((request.toList.drop (core.lenHeader + 6)).take (k.bytes q.num.toNat))⟩]
  else []

/-- A watched callback records the multiple write of the query. -/
theorem call_watched {k : Kind} {q : Query} (hwrite : serviceOf q.function = .writeMultiple k) {core : Core}
    (smb : Smb σ) {request : Buffer UInt8 n} (hn : modbusMaxAduLength ≤ n) (cb : SlaveCallback κ) (app : κ) :
    (q.call core smb request (some cb.watched) (app, [])).2.2.2 = q.calls core request k := by
  have hh := core.lenHeader_le
  have hmax : modbusMaxAduLength = 260 := rfl
  unfold Query.call Query.items Query.cells Query.calls
  rw [hwrite]
  dsimp only
  split_ifs with hnum
  · have hbytes : k.bytes q.num.toNat ≤ 246 := k.bytes_maxWrite ▸ k.bytes_mono hnum.2
    have hcount : callBytes q.function.toNat q.num.toNat = k.bytes q.num.toNat := by
      rw [serviceOf_writeMultiple q.function hwrite]
      cases k <;> rfl
    have hlen : (k.conv ((request.toList.drop (core.lenHeader + 6)).take (k.bytes q.num.toNat))).length =
        k.bytes q.num.toNat := by
      rw [Kind.length_conv, List.length_take_of_le (by simp; omega)]
    show [_] = [_]
    unfold Query.hostCells
    rw [hcount, List.take_left' hlen]
  · rfl

/-- The frame in front of the stream was accepted and the callback got these calls, `old` being what the
buffer held before. -/
def Hands (core : Core) (slaveAddr : UInt8) (frame : List UInt8)
    (old : Buffer UInt8 modbusMaxAduLength) (calls : List Call) : Prop :=
  ∃ (σ κ : Type) (port : Port σ) (L : Line port) (smb : Smb σ) (w : σ) (cb : SlaveCallback κ) (app : κ)
    (t : Int) (fuel : Nat) (rest : List UInt8) (y : _) (x : _),
    Ready smb core port ∧ smb.slaveAddr = slaveAddr ∧ smb.readBuff = old ∧ L.rem w = frame ++ rest ∧
      modbusSlaveWait fuel smb w smb.readBuff t = .ok y ∧ 0 ≤ y.1 ∧
      modbusSlaveWaitHandle fuel smb w (some cb.watched) (app, []) t = .ok x ∧ x.2.2.2.2 = calls

section Frame

variable {core : Core} {slaveAddr a : UInt8} {tid : UInt16} {q : Query} {k : Kind}
  (hwrite : serviceOf q.function = .writeMultiple k) {count : UInt8} {data : List UInt8}
  (hdata : data.length = count.toNat) {frame : List UInt8}
  (hframe : frame = core.adu tid a (q.echoReply ++ count :: data))
  (hlen : frame.length ≤ modbusMaxAduLength)

include hwrite hdata

/-- A multiple write with as many bytes as its byte count says is delimited as it is. -/
theorem writeMultiple_sized : slaveFormat.Sized (q.echoReply ++ count :: data) := by
  have hf := serviceOf_writeMultiple q.function hwrite
  have hfixed : slaveFormat.fixed q.function = 5 := by
    rw [hf]
    cases k <;> rfl
  have hcounted : slaveFormat.counted q.function = some 5 := by
    rw [hf]
    cases k <;> rfl
  have hannounced : slaveFormat.dataLength (q.echoReply ++ count :: data) = count.toNat := by
    rw [Format.dataLength_of_counted hcounted]
    rfl
  show (q.echoReply ++ count :: data).length = 1 + slaveFormat.fixed q.function + _
  rw [hannounced, hfixed, List.length_append, List.length_cons, hdata]
  show 5 + (count.toNat + 1) = _
  omega

include hframe hlen

/-- **The calls a frame leads to** are those of its query in the buffer it was received in. -/
theorem hands_iff (ha : a = slaveAddr ∨ a = modbusBroadcastAddress)
    (old : Buffer UInt8 modbusMaxAduLength) (calls : List Call) :
    Hands core slaveAddr frame old calls ↔ calls = q.calls core (old.fill frame) k := by
  have hsize := writeMultiple_sized hwrite hdata
  have hfits : ∀ r, q.Fits r := by
    intro r k' hread
    rw [hwrite] at hread
    cases hread
  constructor
  · -- every accepting run makes the call of the query in its buffer
    rintro ⟨σ, κ, port, L, smb, w, cb, app, t, fuel, rest, y, x, h, -, rfl, hrem, hwait, hy, hrun, rfl⟩
    obtain ⟨-, rb, wb, hrun'⟩ := modbusSlaveWaitHandle_accepted h L hframe hsize hlen hrem hwait hy
      (some cb.watched) (app, []) rfl (hfits _) rfl
    rw [hrun] at hrun'
    cases hrun'
    exact call_watched hwrite _ le_rfl cb app
  · -- a wire that holds the frame hands it over at once
    rintro rfl
    have h : Ready { newContext core Wire.port slaveAddr with readBuff := old } core Wire.port :=
      ⟨rfl, rfl, rfl⟩
    obtain ⟨y, hwait⟩ := modbusSlaveWait_returns Wire.line h old le_rfl Wire.fair (-1) (w := ⟨frame, [], []⟩)
      (show 0 + 2 * 260 + 1 < 522 by decide)
    have hrem : Wire.line.rem ⟨frame, [], []⟩ = frame ++ [] := (List.append_nil frame).symm
    obtain ⟨hy, -⟩ := modbusSlaveWait_adu Wire.line h old le_rfl Wire.steady.prompt ha hsize
      (hframe ▸ hlen) (by rw [hrem, hframe]) hwait
    have hy' : 0 ≤ y.1 := hy ▸ Int.natCast_nonneg _
    obtain ⟨-, rb, wb, hrun⟩ := modbusSlaveWaitHandle_accepted h Wire.line hframe hsize hlen hrem hwait hy'
      (some (returning 0).watched) ((), []) rfl (hfits _) rfl
    exact ⟨Wire, Unit, Wire.port, Wire.line, _, _, returning 0, (), -1, 522, [], y, _, h, rfl, rfl, hrem,
      hwait, hy', hrun, call_watched hwrite _ le_rfl _ _⟩

/-- **The callback of a multiple write gets data of the frame alone** exactly when it is not called, or
when the quantity needs no more bytes than the byte count announces and the checksum adds. On the left: any
two runs that accept the frame, whatever their buffers held before, give the callback the same. -/
theorem write_data_iff (ha : a = slaveAddr ∨ a = modbusBroadcastAddress) :
    (∀ (old old' : Buffer UInt8 modbusMaxAduLength) (calls calls' : List Call),
      Hands core slaveAddr frame old calls → Hands core slaveAddr frame old' calls' → calls = calls') ↔
      (0 < q.num.toNat ∧ q.num.toNat ≤ k.maxWrite →
        k.bytes q.num.toNat ≤ count.toNat + core.lenChecksum) := by
  have hh := core.lenHeader_le
  have hmax : modbusMaxAduLength = 260 := rfl
  have hsum : frame.length = core.lenHeader + 6 + (count.toNat + core.lenChecksum) := by
    rw [hframe, Core.length_adu, List.length_append, List.length_cons, hdata]
    show _ + (5 + (count.toNat + 1)) + _ = _
    omega
  have hrest : ∀ old : Buffer UInt8 modbusMaxAduLength, (old.fill frame).toList.drop (core.lenHeader + 6) =
      frame.drop (core.lenHeader + 6) ++ old.toList.drop frame.length := by
    intro old
    rw [Buffer.toList_fill old hlen, List.drop_append_of_le_length (by omega)]
  have htail : (frame.drop (core.lenHeader + 6)).length = count.toNat + core.lenChecksum := by
    rw [List.length_drop, hsum]
    omega
  simp only [hands_iff hwrite hdata hframe hlen ha]
  constructor
  · intro hsame hnum
    by_contra hover
    -- two buffers that differ everywhere differ in the first byte behind the frame
    have hcalls := hsame (Buffer.replicate _ 0) (Buffer.replicate _ 1) _ _ rfl rfl
    unfold Query.calls at hcalls
    rw [if_pos hnum, if_pos hnum] at hcalls
    have hdiff := congrArg k.conv (Call.mk.inj (List.cons.inj hcalls).1).2.2.2
    rw [k.conv_conv, k.conv_conv, hrest, hrest] at hdiff
    have hbytes : k.bytes q.num.toNat ≤ 246 := k.bytes_maxWrite ▸ k.bytes_mono hnum.2
    have hat : ∀ b : UInt8, ((frame.drop (core.lenHeader + 6) ++ (Buffer.replicate modbusMaxAduLength
        b).toList.drop frame.length).take (k.bytes q.num.toNat))[count.toNat + core.lenChecksum]? = some b := by
      intro b
      rw [List.getElem?_take_of_lt (by omega), List.getElem?_append_right (by omega), htail, Nat.sub_self,
        List.getElem?_drop, Nat.add_zero]
      exact List.getElem?_replicate_of_lt (by omega)
    have h01 := (hat 0).symm.trans (hdiff ▸ hat 1)
    exact absurd h01 (by decide)
  · rintro hcond old old' calls calls' rfl rfl
    unfold Query.calls
    split_ifs with hnum
    · -- the items end inside the frame, so what lies behind it is cut off
      have hle := hcond hnum
      rw [hrest, hrest, List.take_append_of_le_length (by omega), List.take_append_of_le_length (by omega)]
    · rfl

end Frame

/-- Two registers with their four bytes of data, after two different histories. -/
theorem write_data_iff_two :
    ∃ calls calls', Hands .tcp 1 [0, 9, 0, 0, 0, 11, 1, 16, 0, 0, 0, 2, 4, 1, 2, 3, 4] (Buffer.replicate _ 0) calls ∧
      Hands .tcp 1 [0, 9, 0, 0, 0, 11, 1, 16, 0, 0, 0, 2, 4, 1, 2, 3, 4] (Buffer.replicate _ 255) calls' ∧
      calls = calls' := by
  have hframe : [0, 9, 0, 0, 0, 11, 1, 16, 0, 0, 0, 2, 4, 1, 2, 3, 4] =
      Core.tcp.adu 9 1 (Query.echoReply ⟨16, 0, 2⟩ ++ 4 :: [1, 2, 3, 4]) := by decide
  have hwrite : serviceOf (⟨16, 0, 2⟩ : Query).function = .writeMultiple .register := rfl
  have hlen : [0, 9, 0, 0, 0, 11, 1, 16, 0, 0, 0, 2, 4, 1, 2, 3, (4 : UInt8)].length ≤ modbusMaxAduLength := by
    decide
  have hfirst := (hands_iff hwrite rfl hframe hlen (Or.inl rfl) (Buffer.replicate _ 0) _).mpr rfl
  have hsecond := (hands_iff hwrite rfl hframe hlen (Or.inl rfl) (Buffer.replicate _ 255) _).mpr rfl
  exact ⟨_, _, hfirst, hsecond, (write_data_iff hwrite rfl hframe hlen (Or.inl rfl)).mpr
    (fun _ => by decide) _ _ _ _ hfirst hsecond⟩

/-- Two registers with a byte count of 0: the callback gets four bytes that an earlier frame left. -/
theorem write_data_leftover :
    (modbusSlaveWaitHandle 600 { newContext .tcp Wire.port 1 with readBuff := Buffer.replicate _ 0 }
        ⟨[0, 9, 0, 0, 0, 7, 1, 16, 0, 0, 0, 2, 0], [], []⟩ (some (returning 2).watched) ((), []) (-1)).map
        (fun x => x.2.2.2.2) = .ok [⟨16, 0, 2, [0, 0, 0, 0]⟩] ∧
      (modbusSlaveWaitHandle 600 { newContext .tcp Wire.port 1 with readBuff := Buffer.replicate _ 255 }
        ⟨[0, 9, 0, 0, 0, 7, 1, 16, 0, 0, 0, 2, 0], [], []⟩ (some (returning 2).watched) ((), []) (-1)).map
        (fun x => x.2.2.2.2) = .ok [⟨16, 0, 2, [255, 255, 255, 255]⟩] :=
  ⟨by decide +kernel, by decide +kernel⟩

end SmallModbus
