/-
# `SmallModbus.WriteEcho` — a normal reply to a write repeats the request as it was received.

The dispatcher converts the data of a write where they are, in the request buffer, and hands the callback
this buffer from the value on, which is what the reply has to repeat. Each branch has read address and
value (or quantity) before, so that neither the conversion nor the callback changes what goes out.
-/
import SmallModbus.Gating

namespace SmallModbus

open SmallModbus.Lib

variable {σ κ : Type} {n : Nat}

/-- The functions that write. -/
def WriteFunction (f : UInt8) : Prop := f = 0x05 ∨ f = 0x06 ∨ f = 0x0F ∨ f = 0x10

theorem WriteFunction.service {f : UInt8} (hf : WriteFunction f) :
    ((∃ k, serviceOf f = .writeSingle k) ∨ ∃ k, serviceOf f = .writeMultiple k) ∧ 4 ≤ slaveFormat.fixed f := by
  rcases hf with rfl | rfl | rfl | rfl
  · exact ⟨Or.inl ⟨.coil, rfl⟩, le_rfl⟩
  · exact ⟨Or.inl ⟨.register, rfl⟩, le_rfl⟩
  · exact ⟨Or.inr ⟨.coil, rfl⟩, show 4 ≤ 5 by omega⟩
  · exact ⟨Or.inr ⟨.register, rfl⟩, show 4 ≤ 5 by omega⟩

/-- A query that writes is answered with its own first five bytes, or with an exception. -/
theorem Query.reply_write {q : Query} (hq : WriteFunction q.function) (slaveAddr : UInt8) (r : Int)
    (data : List UInt8) :
    q.reply slaveAddr r data = q.echoReply ∨ ∃ code, q.reply slaveAddr r data = q.exceptionReply r code := by
  unfold Query.reply
  rcases hq.service.1 with ⟨k, hk⟩ | ⟨k, hk⟩
  · rw [hk]
    dsimp only
    split_ifs
    · exact Or.inl rfl
    · exact Or.inr ⟨_, rfl⟩
  · rw [hk]
    dsimp only
    split_ifs
    · exact Or.inl rfl
    · exact Or.inr ⟨_, rfl⟩
    · exact Or.inr ⟨_, rfl⟩

/-- The query of a received write is its first five bytes. -/
theorem Query.In.echoReply_eq {core : Core} {tid : UInt16} {a : UInt8} {pdu : List UInt8} {old : Buffer UInt8 n}
    {q : Query} (hin : q.In core (old.fill (core.adu tid a pdu))) (hn : (core.adu tid a pdu).length ≤ n)
    (hsize : slaveFormat.Sized pdu) (hq : WriteFunction q.function) : q.echoReply = pdu.take 5 := by
  obtain ⟨f, l, rfl, hl⟩ := hsize.exists_cons
  obtain rfl := hin.function_adu hn
  have hfixed := hq.service.2
  obtain ⟨q', tail, hpdu⟩ := exists_query (show 5 ≤ (q.function :: l).length by rw [List.length_cons]; omega)
  obtain rfl : q = q' := hin.unique (Query.in_adu old (by rw [hpdu]) hn)
  rw [hpdu]
  exact (List.take_left' rfl).symm

/-- **Normal replies to writes are echoes.** Whatever the port hands over and whatever the callback does, a
write that the slave accepts is a frame, and the one frame sent back is an exception or carries the first
five bytes of its PDU as they were received: function code, address, and value or quantity. -/
theorem write_echo {smb : Smb σ} {core : Core} {port : Port σ} (h : Ready smb core port) {F : Feed port}
    (hF : F.Clean) (T : Tap port) {fuel : Nat} {w w₁ : σ} {t len : Int} {smb₁ : Smb σ}
    {request : Buffer UInt8 modbusMaxAduLength}
    (hwait : modbusSlaveWait fuel smb w smb.readBuff t = .ok (len, smb₁, w₁, request)) (hlen : 0 ≤ len) {f : UInt8}
    (hf : request.load core.lenHeader = .ok f) (hwrite : WriteFunction f) (cb : Option (SlaveCallback κ)) (app : κ) :
    ∃ tid a pdu, F.Session w (core.adu tid a pdu) w₁ ∧ smb.Admits a ∧ slaveFormat.Sized pdu ∧
      ∃ ret smb' w' app' reply, modbusSlaveWaitHandle fuel smb w cb app t = .ok (ret, smb', w', app') ∧
        T.sent w' = T.sent w₁ ++ [reply] ∧
          (¬ ExceptionReply core f reply → reply = core.adu tid smb.slaveAddr (pdu.take 5)) := by
  rcases slaveStep_cases hF h cb app fuel w t with
    ⟨hout, -⟩ | ⟨ret, w₂, taken, hneg, -, hok, -⟩ | ⟨tid, a, pdu, w₂, q, ha, hsize, hadu, hs, hok, hin⟩
  · rw [hout] at hwait
    cases hwait
  · rw [hok] at hwait
    cases hwait
    omega
  · obtain ⟨⟨r, data, app'⟩, hcall⟩ : ∃ x, q.call core (core.adopt smb tid)
        (smb.readBuff.fill (core.adu tid a pdu)) cb app = x := ⟨_, rfl⟩
    rw [hok] at hwait
    cases hwait
    obtain rfl : q.function = f := Except.ok.inj (hin.function_eq.symm.trans hf)
    have hfits : q.Fits r := by
      intro k hread
      rcases hwrite.service.1 with ⟨k', hk'⟩ | ⟨k', hk'⟩ <;> rw [hk'] at hread <;> cases hread
    obtain ⟨rb, wb, hrun⟩ := modbusSlaveWaitHandle_handled h hok hin cb app hcall hfits rfl
    refine ⟨tid, a, pdu, hs, ha, hsize, _, _, _, _, core.adu tid smb.slaveAddr (q.reply smb.slaveAddr r data), hrun,
      ?_, ?_⟩
    · rw [h.write T.writeFn]
      exact T.sent_write _ _
    · intro hnormal
      rcases q.reply_write hwrite smb.slaveAddr r data with hecho | ⟨code, hexc⟩
      · rw [hecho, hin.echoReply_eq hadu hsize hwrite]
      · rw [hexc] at hnormal
        exact absurd (exceptionReply_adu.mpr rfl) hnormal

/-- A callback that takes what it is given and overwrites it. -/
def overwriting : SlaveCallback Unit where
  call app _ _ num data := (num, List.replicate data.length 0xEE, app)
  size_eq _ _ _ _ _ := List.length_replicate

/-- A register, written through a callback that overwrites its buffer. -/
theorem write_echo_overwriting :
    ∃ w₁ w' reply tid a pdu, Wire.line.feed.Session ⟨[0, 1, 0, 0, 0, 6, 17, 6, 0, 5, 0x12, 0x34], [], []⟩
        (Core.tcp.adu tid a pdu) w₁ ∧ Wire.tap.sent w' = Wire.tap.sent w₁ ++ [reply] ∧
      (¬ ExceptionReply .tcp 6 reply → reply = Core.tcp.adu tid 17 (pdu.take 5)) := by
  obtain ⟨⟨len, smb₁, w₁, request⟩, hwait, hview⟩ := map_eq_ok.mp (show (modbusSlaveWait 30
    (newContext .tcp Wire.port 17) ⟨[0, 1, 0, 0, 0, 6, 17, 6, 0, 5, 0x12, 0x34], [], []⟩
    (newContext .tcp Wire.port 17).readBuff 5).map (fun x => (x.1, x.2.2.2.toList[7]?)) = .ok (12, some 6) by
      decide +kernel)
  obtain ⟨hlen, hf⟩ := Prod.mk.inj hview
  dsimp only at hlen hf
  obtain ⟨tid, a, pdu, hs, -, -, ret, smb', w', app', reply, -, hsent, hecho⟩ :=
    write_echo (newContext_ready .tcp Wire.port 17) Wire.line.clean Wire.tap hwait (by omega)
      (Buffer.load_eq_ok_iff.mpr hf) (Or.inr (Or.inl rfl)) (some overwriting) ()
  exact ⟨w₁, w', reply, tid, a, pdu, hs, hsent, hecho⟩

end SmallModbus
