/-
# `SmallModbus.Win32device` — the serial port of `small_modbus_port_win32.c`, and when it loses nothing.

The port has the shape of the socket port: `ReadFile` fills a staging buffer, the bytes go through a ring, the
waits come when the ring is empty. But the staging buffer holds 512 bytes and the ring 256, and the put stores
what fits and drops the rest without a word. So what the parsers get is what `ReadFile` delivered exactly as
long as no `ReadFile` delivers more than 256 bytes (`win32device_lossless_iff`).

The calls of the Win32 API are the functions of `CommApi`. `_modbus_win32device_open` and
`_modbus_win32device_close`, which nothing here calls, are parameters of the port.
-/
import SmallModbus.Ringbuffer
import SmallModbus.Rtsocket

namespace SmallModbus

open SmallModbus.Lib

variable {ρ ω : Type}

/-! ## §1 — the ring of the port as a buffer. -/

/-- The ring of the port: 256 bytes, the indices in order. -/
abbrev Win32ring : Type := {rb : Win32deviceRingbuffer 256 // rb.Valid}

/-- The ring after `win32device_ringbuffer_put(rb, ptr, length)`. -/
def ringAfterPut (rb : Win32deviceRingbuffer 256) (ptr : List UInt8) (length : UInt16) : Win32deviceRingbuffer 256 :=
  match win32deviceRingbufferPut rb ptr length with
  | .ok (_, rb') => rb'
  | .error _ => rb

/-- The bytes that `win32device_ringbuffer_get(rb, ptr, length)` stores, and the ring after it. -/
def ringAfterGet (rb : Win32deviceRingbuffer 256) (length : UInt16) : List UInt8 × Win32deviceRingbuffer 256 :=
  match win32deviceRingbufferGet rb (Buffer.replicate length.toNat 0) length with
  | .ok (count, ptr, rb') => (ptr.toList.take count, rb')
  | .error _ => ([], rb)

/-- The longest length the two functions can be passed, for a number of bytes. -/
def ringLength (k : Nat) : UInt16 := toU16 (min k 65535 : Nat)

theorem toNat_ringLength (k : Nat) : (ringLength k).toNat = min k 65535 := by
  rw [ringLength, toNat_toU16_natCast (by omega)]

theorem ringAfterPut_spec {rb : Win32deviceRingbuffer 256} (h : rb.Valid) {ptr : List UInt8} {length : UInt16}
    (hptr : length.toNat ≤ ptr.length) :
    (ringAfterPut rb ptr length).Valid ∧
      (ringAfterPut rb ptr length).held = rb.held ++ ptr.take (min length.toNat (256 - rb.held.length)) := by
  obtain ⟨rb', hvalid, hput, hheld⟩ := win32deviceRingbufferPut_ok h hptr
  unfold ringAfterPut
  rw [hput]
  exact ⟨hvalid, hheld⟩

theorem ringAfterGet_spec {rb : Win32deviceRingbuffer 256} (h : rb.Valid) (length : UInt16) :
    (ringAfterGet rb length).1 = rb.held.take length.toNat ∧ (ringAfterGet rb length).2.Valid ∧
      (ringAfterGet rb length).2.held = rb.held.drop length.toNat := by
  obtain ⟨rb', hvalid, hget, hheld⟩ := win32deviceRingbufferGet_ok h (Buffer.replicate length.toNat 0) le_rfl
  unfold ringAfterGet
  rw [hget]
  refine ⟨?_, hvalid, hheld⟩
  show (Buffer.fill _ _).toList.take _ = _
  rw [← List.length_take, Buffer.take_fill _ (by rw [List.length_take]; omega)]

/-- The ring as a buffer of 256 bytes. -/
def win32Fifo : Fifo Win32ring UInt8 256 where
  content r := r.1.held
  dataLen r := win32deviceRingbufferDataLen r.1
  put r as := ⟨ringAfterPut r.1 as (ringLength as.length),
    (ringAfterPut_spec r.2 (by rw [toNat_ringLength]; omega)).1⟩
  get r k := ((ringAfterGet r.1 (ringLength k)).1, ⟨(ringAfterGet r.1 (ringLength k)).2,
    (ringAfterGet_spec r.2 _).2.1⟩)
  reset r := ⟨win32deviceRingbufferReset r.1, (win32deviceRingbufferReset_ok r.2).1⟩
  content_le r := Win32deviceRingbuffer.length_held_le r.2
  dataLen_eq r := win32deviceRingbufferDataLen_eq r.2
  content_put r as := by
    have hle := Win32deviceRingbuffer.length_held_le r.2
    have htake : as.take (min (min as.length 65535) (256 - r.1.held.length)) = as.take (256 - r.1.held.length) := by
      rw [List.take_eq_take_iff]
      omega
    show (ringAfterPut r.1 as (ringLength as.length)).held = _
    rw [(ringAfterPut_spec r.2 (by rw [toNat_ringLength]; omega)).2, toNat_ringLength, htake]
  get_items r k := by
    have hle := Win32deviceRingbuffer.length_held_le r.2
    show (ringAfterGet r.1 (ringLength k)).1 = _
    rw [(ringAfterGet_spec r.2 _).1, toNat_ringLength, List.take_eq_take_iff]
    omega
  content_get r k := by
    have hle := Win32deviceRingbuffer.length_held_le r.2
    show (ringAfterGet r.1 (ringLength k)).2.held = _
    rw [(ringAfterGet_spec r.2 _).2.2, toNat_ringLength]
    rcases Nat.le_total k 65535 with hk | hk
    · rw [Nat.min_eq_left hk]
    · rw [List.drop_of_length_le (by omega), List.drop_of_length_le (by omega)]
  content_reset r := (win32deviceRingbufferReset_ok r.2).2

/-- A put of a block as long as a `uint16_t` can say is the function of the source on the ring. -/
theorem win32Fifo_put (r : Win32ring) {as : List UInt8} (h : as.length ≤ 65535) :
    ∃ count, win32deviceRingbufferPut r.1 as (toU16 as.length) = .ok (count, (win32Fifo.put r as).1) := by
  have hlength : ringLength as.length = toU16 as.length := by
    rw [ringLength, Nat.min_eq_left h]
  have hle : (toU16 (as.length : Int)).toNat ≤ as.length := by
    rw [← hlength, toNat_ringLength]
    omega
  obtain ⟨rb', -, hput, -⟩ := win32deviceRingbufferPut_ok r.2 hle
  have hring : (win32Fifo.put r as).1 = rb' := by
    show ringAfterPut r.1 as (ringLength as.length) = rb'
    rw [ringAfterPut, hlength, hput]
  rw [hring]
  exact ⟨_, hput⟩

/-! ## §2 — the port. -/

/-- The calls of the Win32 API on the state `ω` of the line. -/
structure CommApi (ω : Type) where
  /-- `ReadFile`: the bytes it stored, or `none` when it fails -/
  readFile : ω → (maxLen : Nat) → Option (List UInt8) × ω
  writeFile : ω → List UInt8 → ω
  /-- `SetCommTimeouts`, with the five fields of a `COMMTIMEOUTS` -/
  setCommTimeouts : ω → (readInterval readMultiplier readConstant writeMultiplier writeConstant : UInt32) → ω
  /-- `PurgeComm` with `PURGE_RXCLEAR` -/
  purgeComm : ω → ω
  /-- the callback `rts_set`, if there is one -/
  rtsSet : Option (ω → (on : Int) → ω)
  readFile_le : ∀ comm maxLen data, (readFile comm maxLen).1 = some data → data.length ≤ maxLen

/-- A record of deliveries after one more `ReadFile`, which may have delivered nothing. -/
def addDelivery (log : List (List UInt8)) (data : Option (List UInt8)) : List (List UInt8) :=
  match data with
  | some data => if data.length > 0 then log ++ [data] else log
  | none => log

/-- The same calls with a record of what each `ReadFile` delivered. -/
def CommApi.traced (C : CommApi ω) : CommApi (ω × List (List UInt8)) where
  readFile comm maxLen :=
    ((C.readFile comm.1 maxLen).1, (C.readFile comm.1 maxLen).2,
      addDelivery comm.2 (C.readFile comm.1 maxLen).1)
  writeFile comm data := (C.writeFile comm.1 data, comm.2)
  setCommTimeouts comm a b c d e := (C.setCommTimeouts comm.1 a b c d e, comm.2)
  purgeComm comm := (C.purgeComm comm.1, comm.2)
  rtsSet := C.rtsSet.map fun f comm on => (f comm.1 on, comm.2)
  readFile_le comm := C.readFile_le comm.1

/-- `struct _small_modbus_port_win32device` with the line behind it. What the staging buffer `read_buff` holds
between two calls is never read. -/
structure Win32device (ρ ω : Type) where
  rxRingbuff : ρ
  readBuffPos : UInt16
  readBuffLen : UInt16
  comm : ω

/-- `PY_BUF_SIZE`. -/
def pyBufSize : Nat := 512

section Port

variable (R : Fifo ρ UInt8 256) (C : CommApi ω)

/-- `_modbus_win32device_write`. -/
def modbusWin32deviceWrite (w : Win32device ρ ω) (data : List UInt8) : Int × Win32device ρ ω :=
  let rts (on : Int) (comm : ω) : ω := C.rtsSet.elim comm fun f => f comm on
  (data.length, { w with comm := rts 0 (C.writeFile (rts 1 w.comm) data) })

/-- `_modbus_win32device_read`. -/
def modbusWin32deviceRead (w : Win32device ρ ω) (length : UInt16) : Int × List UInt8 × Win32device ρ ω :=
  ((ringRead R w.rxRingbuff length).1, (ringRead R w.rxRingbuff length).2.1,
    { w with rxRingbuff := (ringRead R w.rxRingbuff length).2.2 })

/-- `_modbus_win32device_flush`. -/
def modbusWin32deviceFlush (w : Win32device ρ ω) : Int × Win32device ρ ω :=
  (0, { w with rxRingbuff := R.reset w.rxRingbuff, readBuffLen := 0, readBuffPos := 0, comm := C.purgeComm w.comm })

/-- The timeouts `_modbus_win32device_wait` sets before it reads. -/
def commAfterTimeouts (comm : ω) (timeout : Int) : ω :=
  let msec : UInt32 :=
    if timeout ≤ modbusWaitForever then 0xFFFFFFFF
    else if timeout = 0 then 0
    else toU32 timeout
  if timeout ≠ 0 then C.setCommTimeouts comm msec 0 msec 0 1000 else comm

/-- `_modbus_win32device_wait`. -/
def modbusWin32deviceWait (w : Win32device ρ ω) (timeout : Int) : Int × Win32device ρ ω :=
  if w.readBuffLen > 0 then (1, w)
  else
    match C.readFile (commAfterTimeouts C w.comm timeout) pyBufSize with
    | (some readBuff, comm) =>
      if readBuff.length > 0 then
        (1, { w with comm := comm, rxRingbuff := R.put w.rxRingbuff readBuff })
      else (modbusTimeout, { w with comm := comm })
    | (none, comm) => (modbusErrorRead, { w with comm := comm })

/-- The port that `modbus_port_win32device_init` sets up. -/
def win32devicePort (openFn closeFn : Win32device ρ ω → Int × Win32device ρ ω) : Port (Win32device ρ ω) where
  openFn := some openFn
  closeFn := some closeFn
  readFn := some (modbusWin32deviceRead R)
  writeFn := some (modbusWin32deviceWrite C)
  flushFn := some (modbusWin32deviceFlush R C)
  waitFn := some (modbusWin32deviceWait R C)

variable (openFn closeFn : Win32device ρ ω → Int × Win32device ρ ω)

/-- A wait on a port whose staging buffer is marked empty, as it always is: it fails and leaves the ring alone,
or what `ReadFile` delivered is put into the ring. -/
theorem modbusWin32deviceWait_cases {w : Win32device ρ ω} (hlen : w.readBuffLen = 0) (timeout : Int) :
    ∃ data comm, C.readFile (commAfterTimeouts C w.comm timeout) pyBufSize = (data, comm) ∧
      ((data.getD [] = [] ∧ ∃ code, code < 0 ∧ modbusWin32deviceWait R C w timeout = (code, { w with comm := comm })) ∨
        ∃ readBuff, data = some readBuff ∧ 0 < readBuff.length ∧ modbusWin32deviceWait R C w timeout =
          (1, { w with comm := comm, rxRingbuff := R.put w.rxRingbuff readBuff })) := by
  obtain ⟨⟨data, comm⟩, hread⟩ : ∃ r, C.readFile (commAfterTimeouts C w.comm timeout) pyBufSize = r := ⟨_, rfl⟩
  refine ⟨data, comm, hread, ?_⟩
  unfold modbusWin32deviceWait
  rw [hlen, if_neg (by decide), hread]
  cases data with
  | none => exact Or.inl ⟨rfl, _, by decide, rfl⟩
  | some readBuff =>
    by_cases hpos : readBuff.length > 0
    · exact Or.inr ⟨readBuff, rfl, hpos, if_pos hpos⟩
    · have hnil : readBuff = [] := List.eq_nil_of_length_eq_zero (by omega)
      exact Or.inl ⟨hnil, modbusTimeout, by decide, if_neg hpos⟩

/-- The port as a feed. -/
def win32deviceFeed : Feed (win32devicePort R C openFn closeFn) where
  read := modbusWin32deviceRead R
  wait := modbusWin32deviceWait R C
  readFn := rfl
  waitFn := rfl
  read_le w := ringRead_le R w.rxRingbuff
  length_bytes w := length_ringRead R w.rxRingbuff

theorem win32deviceFeed_clean : (win32deviceFeed R C openFn closeFn).Clean := fun w => ringRead_nonneg R w.rxRingbuff

end Port

/-! ## §3 — when nothing is lost. -/

section Lossless

variable {R : Fifo ρ UInt8 256} {C : CommApi ω} {openFn closeFn : Win32device (ρ × List (Fifo.Event UInt8))
    (ω × List (List UInt8)) → Int × Win32device (ρ × List (Fifo.Event UInt8)) (ω × List (List UInt8))}

/-- What holds of the records of a port whose ring was empty at the start: the staging buffer is marked empty,
every put found the ring empty, and the puts are what was delivered. -/
structure Staged (R : Fifo ρ UInt8 256) (w : Win32device (ρ × List (Fifo.Event UInt8)) (ω × List (List UInt8))) :
    Prop where
  unstaged : w.readBuffLen = 0
  supplied : R.Supplied w.rxRingbuff w.comm.2

variable {w : Win32device (ρ × List (Fifo.Event UInt8)) (ω × List (List UInt8))}

theorem Staged.flush (h : Staged R w) : Staged R (modbusWin32deviceFlush R.traced C.traced w).2 :=
  ⟨rfl, h.supplied.reset⟩

theorem Staged.write (h : Staged R w) (frame : List UInt8) :
    Staged R (modbusWin32deviceWrite C.traced w frame).2 := by
  refine ⟨h.unstaged, ?_⟩
  have hlog : (modbusWin32deviceWrite C.traced w frame).2.comm.2 = w.comm.2 := by
    unfold modbusWin32deviceWrite CommApi.traced
    cases C.rtsSet <;> rfl
  rw [hlog]
  exact h.supplied

theorem commAfterTimeouts_traced (comm : ω × List (List UInt8)) (timeout : Int) :
    (commAfterTimeouts C.traced comm timeout).2 = comm.2 := by
  unfold commAfterTimeouts
  dsimp only
  split
  · rfl
  · rfl

/-- A wait on an empty ring. -/
theorem Staged.wait (h : Staged R w) (hdry : R.content w.rxRingbuff.1 = []) (t : Int) :
    Staged R (modbusWin32deviceWait R.traced C.traced w t).2 := by
  obtain ⟨data, comm, hread, hcases⟩ := modbusWin32deviceWait_cases R.traced C.traced h.unstaged t
  have hlog : comm.2 = addDelivery w.comm.2 data := by
    have h₁ := congrArg (fun x => x.1) hread
    have h₂ := congrArg (fun x => x.2.2) hread
    dsimp only at h₁ h₂
    rw [← h₁, ← h₂, ← commAfterTimeouts_traced w.comm t]
    rfl
  rcases hcases with ⟨hnone, code, -, hrun⟩ | ⟨readBuff, rfl, hpos, hrun⟩
  · have hsame : comm.2 = w.comm.2 := by
      rw [hlog]
      cases data with
      | none => rfl
      | some data =>
        obtain rfl : data = [] := hnone
        rfl
    rw [hrun]
    refine ⟨h.unstaged, ?_⟩
    show R.Supplied w.rxRingbuff comm.2
    rw [hsame]
    exact h.supplied
  · rw [hrun]
    refine ⟨h.unstaged, ?_⟩
    show R.Supplied (R.traced.put w.rxRingbuff readBuff) comm.2
    have hlog : comm.2 = w.comm.2 ++ [readBuff] := hlog.trans (if_pos hpos)
    rw [hlog]
    exact h.supplied.put hdry readBuff

theorem staged_kept : Kept (win32deviceFeed R.traced C.traced openFn closeFn) (Staged R)
    (fun w => R.content w.rxRingbuff.1 = []) where
  read h len := ⟨h.unstaged, ringRead_supplied R h.supplied len⟩
  short _ _ hshort := ringRead_short R.traced hshort
  wait h hdry t := h.wait hdry t

end Lossless

/-- The record of the ring is a log of what the port handed over. -/
def win32deviceLog (R : Fifo ρ UInt8 256) (C : CommApi ω)
    (openFn closeFn : Win32device (ρ × List (Fifo.Event UInt8)) ω → Int × Win32device (ρ × List (Fifo.Event UInt8)) ω) :
    (win32deviceFeed R.traced C openFn closeFn).Log where
  seen w := takenFrom w.rxRingbuff
  seen_read w len := takenFrom_read R w.rxRingbuff len
  seen_wait w t := by
    show takenFrom (modbusWin32deviceWait R.traced C w t).2.rxRingbuff = takenFrom w.rxRingbuff
    unfold modbusWin32deviceWait
    split
    · rfl
    · split
      · split
        · exact takenFrom_put R w.rxRingbuff _
        · rfl
      · rfl

/-! ### A line driven by a schedule -/

/-- The line delivers these blocks, one with each `ReadFile`, as far as they fit its buffer. -/
def scheduledComm : CommApi (List (List UInt8)) where
  readFile blocks maxLen := (some ((blocks.headD []).take maxLen), blocks.tail)
  writeFile blocks _ := blocks
  setCommTimeouts blocks _ _ _ _ _ := blocks
  purgeComm blocks := blocks
  rtsSet := none
  readFile_le blocks maxLen data h := by
    obtain rfl := Option.some.inj h
    exact List.length_take_le _ _

/-- The ring of a port that was zeroed and initialised. -/
def Win32ring.new : Win32ring :=
  ⟨win32deviceRingbufferInit (Buffer.replicate 256 0) (Int16.ofNat 256),
    (win32deviceRingbufferInit_ok (by decide) (by decide) _).1⟩

/-- The port on a scheduled line. -/
def scheduledPort : Port (Win32device (Win32ring × List (Fifo.Event UInt8)) (List (List UInt8) × List (List UInt8))) :=
  win32devicePort win32Fifo.traced scheduledComm.traced (fun w => (0, w)) (fun w => (0, w))

/-! ### Runs -/

/-- **When the serial port loses nothing.** In any run of waits, writes and flushes from an empty ring: what
`ReadFile` delivered is what the reads took and the flushes threw away, in order, and what is still in the
ring, exactly if no `ReadFile` delivered more than 256 bytes. And the buffer of a caller gets what its reads
took. -/
theorem win32device_lossless_iff (C : CommApi ω)
    {openFn closeFn : Win32device (Win32ring × List (Fifo.Event UInt8)) (ω × List (List UInt8)) →
      Int × Win32device (Win32ring × List (Fifo.Event UInt8)) (ω × List (List UInt8))} {core : Core}
    {smb₀ smb : Smb (Win32device (Win32ring × List (Fifo.Event UInt8)) (ω × List (List UInt8)))}
    {w₀ w : Win32device (Win32ring × List (Fifo.Event UInt8)) (ω × List (List UInt8))}
    (h : Ready smb₀ core (win32devicePort win32Fifo.traced C.traced openFn closeFn))
    (hempty : w₀.rxRingbuff.1.1.held = []) (hlen : w₀.readBuffLen = 0) (hring : w₀.rxRingbuff.2 = [])
    (hcomm : w₀.comm.2 = []) (hrun : PortRun (smb₀, w₀) (smb, w)) :
    (w.comm.2.flatten = w.rxRingbuff.2.flatMap Fifo.Event.out ++ w.rxRingbuff.1.1.held ↔
        ∀ delivery ∈ w.comm.2, delivery.length ≤ 256) ∧
      ∀ {n : Nat} {old : Buffer UInt8 n}, modbusMaxAduLength ≤ n →
        (∀ {fuel t ret smb' w' request}, modbusSlaveWait fuel smb w old t = .ok (ret, smb', w', request) →
          ∃ taken, request = old.fill taken ∧ takenFrom w'.rxRingbuff = takenFrom w.rxRingbuff ++ taken) ∧
        ∀ {fuel ret w' response}, modbusWaitConfirm fuel smb w old = .ok (ret, w', response) →
          ∃ taken, response = old.fill taken ∧ takenFrom w'.rxRingbuff = takenFrom w.rxRingbuff ++ taken := by
  have hF := win32deviceFeed_clean win32Fifo.traced C.traced openFn closeFn
  have hstaged : Staged win32Fifo w₀ := by
    obtain ⟨⟨ring, events⟩, pos, len, ⟨comm, log⟩⟩ := w₀
    obtain rfl : events = [] := hring
    obtain rfl : log = [] := hcomm
    exact ⟨hlen, Fifo.Supplied.empty hempty⟩
  obtain ⟨hready, hw⟩ := staged_kept.run hF rfl rfl (fun _ hv => hv.flush) (fun _ frame hv => hv.write frame) hrun h
    hstaged
  refine ⟨hw.supplied.lossless_iff, fun hn => ⟨fun hok => ?_, fun hok => ?_⟩⟩
  · exact (win32deviceLog win32Fifo C.traced openFn closeFn).slaveWait hF hready hn hok
  · exact (win32deviceLog win32Fifo C.traced openFn closeFn).waitConfirm hF hready hn hok

/-- Eight bytes in two deliveries, then a flush. -/
theorem win32device_lossless_iff_small :
    ∃ smb w, PortRun (newContext .rtu scheduledPort 1, ⟨(Win32ring.new, []), 0, 0, ([[9, 9, 0], [0, 5, 6, 7, 8]], [])⟩)
        (smb, w) ∧
      w.comm.2 = [[9, 9, 0], [0, 5, 6, 7, 8]] ∧
      w.comm.2.flatten = w.rxRingbuff.2.flatMap Fifo.Event.out ++ w.rxRingbuff.1.1.held := by
  have hwait : (modbusSlaveWait 600 (newContext .rtu scheduledPort 1)
      ⟨(Win32ring.new, []), 0, 0, ([[9, 9, 0], [0, 5, 6, 7, 8]], [])⟩ (Buffer.replicate 260 0) 5).map
      (fun x => x.2.2.1.comm.2) = .ok [[9, 9, 0], [0, 5, 6, 7, 8]] := by decide +kernel
  obtain ⟨⟨ret, smb, w, request⟩, hx, hlog⟩ := map_eq_ok.mp hwait
  have hrun := (Relation.ReflTransGen.single (PortStep.slaveWait hx)).tail (PortStep.flush smb w)
  have h := newContext_ready .rtu scheduledPort 1
  have hflush : (modbusFlush smb w).2.comm.2 = [[9, 9, 0], [0, 5, 6, 7, 8]] := by
    rw [Ready.flush (modbusSlaveWait_ready h hx) rfl]
    exact hlog
  refine ⟨_, _, hrun, hflush, ?_⟩
  apply (win32device_lossless_iff scheduledComm h rfl rfl rfl rfl hrun).1.mpr
  rw [hflush]
  decide

/-- One delivery of 300 bytes: 44 of them are gone. -/
theorem win32device_loses :
    ∃ smb w, PortRun (newContext .rtu scheduledPort 1, ⟨(Win32ring.new, []), 0, 0, ([List.replicate 300 9], [])⟩)
        (smb, w) ∧
      w.comm.2.flatten.length = 300 ∧
      (w.rxRingbuff.2.flatMap Fifo.Event.out ++ w.rxRingbuff.1.1.held).length = 256 := by
  have hwait : (modbusSlaveWait 600 (newContext .rtu scheduledPort 1)
      ⟨(Win32ring.new, []), 0, 0, ([List.replicate 300 9], [])⟩ (Buffer.replicate 260 0) 5).map
      (fun x => (x.2.2.1.comm.2.flatten.length,
        (x.2.2.1.rxRingbuff.2.flatMap Fifo.Event.out ++ x.2.2.1.rxRingbuff.1.1.held).length)) =
      .ok (300, 256) := by decide +kernel
  obtain ⟨⟨ret, smb, w, request⟩, hx, hlengths⟩ := map_eq_ok.mp hwait
  obtain ⟨hdelivered, hout⟩ := Prod.mk.inj hlengths
  exact ⟨smb, w, .single (.slaveWait hx), hdelivered, hout⟩

end SmallModbus
