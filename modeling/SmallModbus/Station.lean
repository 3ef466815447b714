/-
# `SmallModbus.Station` — a slave with everything its step depends on.

A `Station` is a slave with its end of the line, a callback and a budget for its loops, about to wait for
a request and to handle it. `Station.step_cases` says that it rejects what arrives or that a request frame
for it arrives, and `Station.handles` what it then does.
-/
import SmallModbus.Gating
import SmallModbus.System

namespace SmallModbus

open SmallModbus.Lib

/-! ## §1 — stations. -/

/-- A slave about to wait for a request and to handle it. Its port hands over without interruption what
arrives, and the budget of its loops is enough for this. -/
structure Station (core : Core) where
  σ : Type
  κ : Type
  port : Port σ
  line : Line port
  prompt : line.Prompt
  rank : σ → Nat
  fair : line.Fair rank
  tap : Tap port
  quiet : ∀ frames, line.Preserves (fun w => tap.sent w = frames)
  smb : Smb σ
  ready : Ready smb core port
  cb : Option (SlaveCallback κ)
  app : κ
  device : σ
  time : Int
  fuel : Nat
  fuel_lt : rank device + 2 * modbusMaxAduLength + 1 < fuel

/-- The stream begins with a request frame to this address, of the length the slave's table gives it. -/
def Delivers (core : Core) (a : UInt8) (stream : List UInt8) : Prop :=
  ∃ tid pdu rest, slaveFormat.Sized pdu ∧ (core.adu tid a pdu).length ≤ modbusMaxAduLength ∧
    stream = core.adu tid a pdu ++ rest

namespace Station

variable {core : Core}

/-- What is on its way to the station. -/
def stream (s : Station core) : List UInt8 := s.line.rem s.device

/-- `modbus_slave_wait`, into the buffer of the context. -/
def wait (s : Station core) : Exec (Int × Smb s.σ × s.σ × Buffer UInt8 modbusMaxAduLength) :=
  modbusSlaveWait s.fuel s.smb s.device s.smb.readBuff s.time

/-- `modbus_slave_wait_handle`. -/
def step (s : Station core) : Exec (Int × Smb s.σ × s.σ × s.κ) :=
  modbusSlaveWaitHandle s.fuel s.smb s.device s.cb s.app s.time

/-- The step ends and has written nothing. -/
def Silent (s : Station core) : Prop := ∃ x, s.step = .ok x ∧ s.tap.sent x.2.2.1 = s.tap.sent s.device

/-- The step ends and has written this frame. -/
def Sends (s : Station core) (frame : List UInt8) : Prop :=
  ∃ x, s.step = .ok x ∧ s.tap.sent x.2.2.1 = s.tap.sent s.device ++ [frame]

/-- The step ends with an error code and has written nothing. It would have ended like this with any
callback, which was not called. -/
def Rejects (s : Station core) : Prop :=
  ∃ ret smb' w', ret < 0 ∧ s.tap.sent w' = s.tap.sent s.device ∧
    ∀ {κ : Type} (cb : Option (SlaveCallback κ)) (app : κ),
      modbusSlaveWaitHandle s.fuel s.smb s.device cb app s.time = .ok (ret, smb', w', app)

theorem Rejects.silent {s : Station core} (h : s.Rejects) : s.Silent := by
  obtain ⟨ret, smb', w', -, hsent, hrun⟩ := h
  exact ⟨_, hrun s.cb s.app, hsent⟩

theorem Sends.not_silent {s : Station core} {frame : List UInt8} (h : s.Sends frame) : ¬ s.Silent := by
  rintro ⟨x, hstep, hsent⟩
  obtain ⟨x', hstep', hsent'⟩ := h
  rw [hstep'] at hstep
  obtain rfl := Except.ok.inj hstep
  rw [hsent'] at hsent
  have hlen := congrArg List.length hsent
  rw [List.length_append, List.length_singleton] at hlen
  omega

theorem Sends.unique {s : Station core} {frame frame' : List UInt8} (h : s.Sends frame)
    (h' : s.Sends frame') : frame = frame' := by
  obtain ⟨x, hstep, hsent⟩ := h
  obtain ⟨x', hstep', hsent'⟩ := h'
  rw [hstep] at hstep'
  obtain rfl := Except.ok.inj hstep'
  rw [hsent] at hsent'
  exact List.singleton_injective (List.append_cancel_left hsent')

theorem wait_returns (s : Station core) : ∃ x, s.wait = .ok x :=
  modbusSlaveWait_returns s.line s.ready s.smb.readBuff le_rfl s.fair s.time s.fuel_lt

/-- **What a station does**: it rejects what arrives, or what arrives begins with a request frame to an
address it admits. -/
theorem step_cases (s : Station core) :
    s.Rejects ∨ ∃ a, s.smb.Admits a ∧ Delivers core a s.stream := by
  obtain ⟨y, hwait⟩ := s.wait_returns
  rcases slaveStep_cases s.line.clean s.ready s.cb s.app s.fuel s.device s.time with
    ⟨hout, -⟩ | ⟨ret, w₁, taken, hneg, hs, hrun, -⟩ | ⟨tid, a, pdu, w₁, q, ha, hsize, hlen, hs, -, -⟩
  · -- the wait returns
    rw [show modbusSlaveWait _ _ _ _ _ = _ from hwait] at hout
    cases hout
  · left
    refine ⟨ret, { s.smb with readBuff := s.smb.readBuff.fill taken }, w₁, hneg,
      hs.preserves (s.quiet (s.tap.sent s.device)).feed rfl, fun cb app => ?_⟩
    exact modbusSlaveWaitHandle_rejected hneg hrun cb app s.ready.contextCheck
  · right
    exact ⟨a, ha, tid, pdu, _, hsize, hlen, s.line.rem_session hs⟩

/-- **A frame for the station is handled**: it is answered when the result of the callback fits, and else
the step ends in a fault. -/
theorem handles (s : Station core) {tid : UInt16} {a : UInt8} {pdu rest : List UInt8} (ha : s.smb.Admits a)
    (hsize : slaveFormat.Sized pdu) (hlen : (core.adu tid a pdu).length ≤ modbusMaxAduLength)
    (hstream : s.stream = core.adu tid a pdu ++ rest) {q : Query}
    (hin : q.In core (s.smb.readBuff.fill (core.adu tid a pdu))) {r : Int} {data : List UInt8} {app' : s.κ}
    (hcall : q.call core (core.adopt s.smb tid) (s.smb.readBuff.fill (core.adu tid a pdu)) s.cb s.app =
      (r, data, app')) :
    (q.Fits r → ∃ ret smb' w', s.step = .ok (ret, smb', w', app') ∧
      s.tap.sent w' = s.tap.sent s.device ++ [core.adu tid s.smb.slaveAddr (q.reply s.smb.slaveAddr r data)]) ∧
    (¬ q.Fits r → ∀ x, s.step ≠ .ok x) := by
  obtain ⟨⟨ret, smb₁, w₁, request⟩, hwait⟩ := s.wait_returns
  obtain ⟨rfl, rfl, rfl, -⟩ := modbusSlaveWait_adu s.line s.ready s.smb.readBuff le_rfl s.prompt ha hsize hlen
    hstream hwait
  have hquiet : s.tap.sent w₁ = s.tap.sent s.device :=
    modbusSlaveWait_preserves s.line s.ready s.smb.readBuff le_rfl (s.quiet _) hwait rfl
  constructor
  · intro hfits
    obtain ⟨rb, wb, hrun⟩ := modbusSlaveWaitHandle_handled s.ready hwait hin s.cb s.app hcall hfits rfl
    refine ⟨_, _, _, hrun, ?_⟩
    rw [s.ready.write s.tap.writeFn, s.tap.sent_write, hquiet]
  · exact fun hfits x => modbusSlaveWaitHandle_overrun s.ready hwait hin s.cb s.app hcall hfits x

/-- What a station admits and can read is never passed over in silence. -/
theorem not_silent (s : Station core) {a : UInt8} (ha : s.smb.Admits a) (h : Delivers core a s.stream) :
    ¬ s.Silent := by
  intro hsilent
  obtain ⟨tid, pdu, rest, hsize, hlen, hstream⟩ := h
  obtain ⟨q, hin⟩ := Query.exists_in core (s.smb.readBuff.fill (core.adu tid a pdu)) le_rfl
  obtain ⟨hfits, hover⟩ := s.handles ha hsize hlen hstream hin rfl
  by_cases hq : q.Fits (q.call core (core.adopt s.smb tid) (s.smb.readBuff.fill (core.adu tid a pdu)) s.cb
      s.app).1
  · obtain ⟨ret, smb', w', hstep, hsent⟩ := hfits hq
    exact Sends.not_silent ⟨_, hstep, hsent⟩ hsilent
  · obtain ⟨x, hstep, -⟩ := hsilent
    exact hover hq x hstep

/-- A new slave on a wire, with a callback that returns `r`. -/
def onWire (core : Core) (slaveAddr : UInt8) (r : Int) (rx : List UInt8) : Station core where
  σ := Wire
  κ := Unit
  port := Wire.port
  line := Wire.line
  prompt := Wire.steady.prompt
  rank w := w.grants.length
  fair := Wire.fair
  tap := Wire.tap
  quiet := Wire.preserves_tx
  smb := newContext core Wire.port slaveAddr
  ready := newContext_ready core Wire.port slaveAddr
  cb := some (returning r)
  app := ()
  device := ⟨rx, [], []⟩
  time := modbusWaitForever
  fuel := 600
  fuel_lt := show 0 + 2 * 260 + 1 < 600 by decide

end Station

end SmallModbus
