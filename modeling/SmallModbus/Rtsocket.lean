/-
# `SmallModbus.Rtsocket` — the socket port of `small_modbus_port_rtthread.c`, and that it loses nothing.

The port receives into a staging buffer of 256 bytes, puts what came into a ring of 256 bytes, and reads from
the ring. The ring is the one of RT-Thread, and the calls on the socket are those of its socket layer: both
are parameters, a `Fifo` of 256 bytes and the functions of `Sockets`.

A put into the ring drops what does not fit. It never does: a wait comes only after a read that returned less
than it was asked for, so the ring is empty then, and one `recv` fits (`rtsocket_lossless`).
-/
import SmallModbus.Lib.Fifo
import SmallModbus.Lockstep
import SmallModbus.Wire

namespace SmallModbus

open SmallModbus.Lib

variable {ρ ω : Type}

/-! ## §1 — a read from a ring. -/

section RingRead

variable (R : Fifo ρ UInt8 256)

/-- The read that `_modbus_rtsocket_read` and `_modbus_win32device_read` share: as many bytes as are asked for,
or all there are. -/
def ringRead (ring : ρ) (length : UInt16) : Int × List UInt8 × ρ :=
  let readLen := R.dataLen ring
  let readLen := if readLen > length.toNat then length.toNat else readLen
  if readLen > 0 then (readLen, R.get ring readLen)
  else (readLen, [], ring)

/-- In other words, a get of as many bytes as are asked for, made only if there are any. -/
theorem ringRead_cases (ring : ρ) (length : UInt16) :
    ∃ k, k = min (R.content ring).length length.toNat ∧
      (0 < k ∧ ringRead R ring length = ((k : Int), R.get ring k) ∨
        k = 0 ∧ ringRead R ring length = (0, [], ring)) := by
  obtain ⟨k, hk⟩ : ∃ k, k = if R.dataLen ring > length.toNat then length.toNat else R.dataLen ring := ⟨_, rfl⟩
  have hmin : k = min (R.content ring).length length.toNat := by
    rw [hk, R.dataLen_eq]
    split <;> omega
  refine ⟨k, hmin, ?_⟩
  unfold ringRead
  dsimp only
  rw [← hk]
  rcases Nat.eq_zero_or_pos k with h0 | hpos
  · exact Or.inr ⟨h0, by rw [if_neg (by omega), h0]; rfl⟩
  · exact Or.inl ⟨hpos, if_pos hpos⟩

theorem ringRead_spec (ring : ρ) (length : UInt16) :
    (ringRead R ring length).1 = min (R.content ring).length length.toNat ∧
      (ringRead R ring length).2.1 = (R.content ring).take length.toNat ∧
      R.content (ringRead R ring length).2.2 = (R.content ring).drop length.toNat := by
  obtain ⟨k, hk, ⟨-, hread⟩ | ⟨h0, hread⟩⟩ := ringRead_cases R ring length
  · have htake : (R.content ring).take k = (R.content ring).take length.toNat := by
      rw [hk, Nat.min_comm]
      exact List.take_eq_take_min.symm
    have hdrop : (R.content ring).drop k = (R.content ring).drop length.toNat := by
      rw [hk, Nat.min_comm]
      exact List.drop_eq_drop_min.symm
    rw [hread]
    exact ⟨by rw [hk], (R.get_items ring k).trans htake, (R.content_get ring k).trans hdrop⟩
  · rw [hread]
    have hor : (R.content ring).length = 0 ∨ length.toNat = 0 := by omega
    rcases hor with hnil | hnone
    · have hnil := List.eq_nil_of_length_eq_zero hnil
      rw [hnil, List.take_nil, List.drop_nil]
      exact ⟨by simp, rfl, rfl⟩
    · rw [hnone]
      exact ⟨by simp, rfl, rfl⟩

/-- A read returns no more than was asked for. -/
theorem ringRead_le (ring : ρ) (length : UInt16) : (ringRead R ring length).1 ≤ length.toNat := by
  rw [(ringRead_spec R ring length).1]
  omega

theorem ringRead_nonneg (ring : ρ) (length : UInt16) : 0 ≤ (ringRead R ring length).1 := by
  rw [(ringRead_spec R ring length).1]
  omega

theorem length_ringRead (ring : ρ) (length : UInt16) :
    (ringRead R ring length).2.1.length = (ringRead R ring length).1.toNat := by
  obtain ⟨hcount, hbytes, -⟩ := ringRead_spec R ring length
  rw [hcount, hbytes, List.length_take]
  omega

/-- A read of less than was asked for leaves the ring empty. -/
theorem ringRead_short {ring : ρ} {length : UInt16} (hshort : (ringRead R ring length).1 < length.toNat) :
    R.content (ringRead R ring length).2.2 = [] := by
  obtain ⟨hcount, -, hrest⟩ := ringRead_spec R ring length
  rw [hcount] at hshort
  rw [hrest]
  exact List.drop_of_length_le (by omega)

/-- On a ring that keeps a record a read is no put. -/
theorem ringRead_supplied {r : ρ × List (Fifo.Event UInt8)} {blocks : List (List UInt8)} (h : R.Supplied r blocks)
    (length : UInt16) : R.Supplied (ringRead R.traced r length).2.2 blocks := by
  obtain ⟨k, -, ⟨-, hread⟩ | ⟨-, hread⟩⟩ := ringRead_cases R.traced r length
  · rw [hread]
    exact h.get k
  · rw [hread]
    exact h

/-- A read adds its bytes to what the record says of gets. -/
theorem flatMap_ringRead {f : Fifo.Event UInt8 → List UInt8} (hf : ∀ items, f (.get items) = items)
    (r : ρ × List (Fifo.Event UInt8)) (length : UInt16) :
    (ringRead R.traced r length).2.2.2.flatMap f = r.2.flatMap f ++ (ringRead R.traced r length).2.1 := by
  obtain ⟨k, -, ⟨-, hread⟩ | ⟨-, hread⟩⟩ := ringRead_cases R.traced r length
  · rw [hread]
    exact R.flatMap_get hf r k
  · rw [hread]
    exact (List.append_nil _).symm

/-- The bytes that reads took out of a ring. -/
def takenFrom (r : ρ × List (Fifo.Event UInt8)) : List UInt8 := r.2.flatMap Fifo.Event.taken

theorem takenFrom_read (r : ρ × List (Fifo.Event UInt8)) (length : UInt16) :
    takenFrom (ringRead R.traced r length).2.2 = takenFrom r ++ (ringRead R.traced r length).2.1 :=
  flatMap_ringRead R (fun _ => rfl) r length

theorem takenFrom_put (r : ρ × List (Fifo.Event UInt8)) (data : List UInt8) :
    takenFrom (R.traced.put r data) = takenFrom r := R.flatMap_put (fun _ _ => rfl) r data

end RingRead

/-! ## §2 — the socket layer. -/

/-- The calls of the socket layer on the state `ω` of the network, and the three codes of `errno.h` that the
port looks for. -/
structure Sockets (ω : Type) where
  send : ω → (fd : Int) → List UInt8 → ω
  /-- the result of `recv`, and the bytes it stored -/
  recv : ω → (fd : Int) → (len : Nat) → Int × List UInt8 × ω
  /-- `setsockopt` with `SO_RCVTIMEO` -/
  setRcvTimeout : ω → (fd sec usec : Int) → ω
  /-- `getsockopt` with `SO_ERROR` -/
  soError : ω → (fd : Int) → Int × ω
  closesocket : ω → (fd : Int) → ω
  /-- `getaddrinfo` and the loop over the addresses: its code, or the descriptor the loop ends with -/
  connect : ω → Except Int Int × ω
  eintr : Int
  ewouldblock : Int
  eagain : Int
  recv_le : ∀ os fd len, (recv os fd len).1 ≤ len
  length_recv : ∀ os fd len, (recv os fd len).2.1.length = (recv os fd len).1.toNat

/-- The same calls with a record of what each successful `recv` got, and on which socket. -/
def Sockets.traced (S : Sockets ω) : Sockets (ω × List (Int × List UInt8)) where
  send os fd data := (S.send os.1 fd data, os.2)
  recv os fd len :=
    ((S.recv os.1 fd len).1, (S.recv os.1 fd len).2.1, (S.recv os.1 fd len).2.2,
      if 0 < (S.recv os.1 fd len).1 then os.2 ++ [(fd, (S.recv os.1 fd len).2.1)] else os.2)
  setRcvTimeout os fd sec usec := (S.setRcvTimeout os.1 fd sec usec, os.2)
  soError os fd := ((S.soError os.1 fd).1, (S.soError os.1 fd).2, os.2)
  closesocket os fd := (S.closesocket os.1 fd, os.2)
  connect os := ((S.connect os.1).1, (S.connect os.1).2, os.2)
  eintr := S.eintr
  ewouldblock := S.ewouldblock
  eagain := S.eagain
  recv_le os := S.recv_le os.1
  length_recv os := S.length_recv os.1

/-! ## §3 — the port. -/

/-- `struct small_modbus_port_rtsocket` with the network behind it. What the staging buffer `rx_temp` holds
between two calls is never read. -/
structure Rtsocket (ρ ω : Type) where
  socketFd : Int
  rxRingbuff : ρ
  os : ω

section Port

variable (R : Fifo ρ UInt8 256) (S : Sockets ω)

/-- `modbus_tcp_connect`. -/
def modbusTcpConnect (w : Rtsocket ρ ω) : Int × Rtsocket ρ ω :=
  if w.socketFd < 0 then
    match S.connect w.os with
    | (.error ret, os) => (ret, { w with os := os })
    | (.ok fd, os) => (fd, { w with socketFd := fd, os := os })
  else (w.socketFd, w)

/-- `modbus_tcp_disconnect`. -/
def modbusTcpDisconnect (w : Rtsocket ρ ω) : Int × Rtsocket ρ ω :=
  if w.socketFd ≥ 0 then (0, { w with socketFd := -1, os := S.closesocket w.os w.socketFd })
  else (0, w)

/-- `modbus_tcp_set_socket`, on the port of a context. -/
def modbusTcpSetSocket (w : Rtsocket ρ ω) (socket : Int) : Rtsocket ρ ω :=
  { w with socketFd := socket }

/-- `_modbus_rtsocket_open`. -/
def modbusRtsocketOpen (w : Rtsocket ρ ω) : Int × Rtsocket ρ ω := modbusTcpConnect S w

/-- `_modbus_rtsocket_close`. -/
def modbusRtsocketClose (w : Rtsocket ρ ω) : Int × Rtsocket ρ ω := modbusTcpDisconnect S w

/-- `_modbus_rtsocket_write`. -/
def modbusRtsocketWrite (w : Rtsocket ρ ω) (data : List UInt8) : Int × Rtsocket ρ ω :=
  (data.length, { w with os := S.send w.os w.socketFd data })

/-- `_modbus_rtsocket_read`. -/
def modbusRtsocketRead (w : Rtsocket ρ ω) (length : UInt16) : Int × List UInt8 × Rtsocket ρ ω :=
  ((ringRead R w.rxRingbuff length).1, (ringRead R w.rxRingbuff length).2.1,
    { w with rxRingbuff := (ringRead R w.rxRingbuff length).2.2 })

/-- `_modbus_rtsocket_flush`: the ring only, nothing of what waits in the socket. -/
def modbusRtsocketFlush (w : Rtsocket ρ ω) : Int × Rtsocket ρ ω :=
  let readLen := R.dataLen w.rxRingbuff
  (readLen, { w with rxRingbuff := R.reset w.rxRingbuff })

/-- The `struct timeval` that `_modbus_rtsocket_wait` makes of its timeout: seconds and microseconds. -/
def rcvTimeval (timeout : Int) : Int × Int :=
  let tvSec := timeout.tdiv 1000
  let tvUsec := timeout.tmod 1000 * 1000
  if tvSec = 0 ∧ tvUsec ≤ 0 then (0, 1000 * 10) else (tvSec, tvUsec)

/-- `_modbus_rtsocket_wait`. -/
def modbusRtsocketWait (w : Rtsocket ρ ω) (timeout : Int) : Int × Rtsocket ρ ω :=
  match S.recv (S.setRcvTimeout w.os w.socketFd (rcvTimeval timeout).1 (rcvTimeval timeout).2) w.socketFd 256 with
  | (rc, rxTemp, os) =>
    if rc = 0 then (modbusErrorRead, { w with os := os })
    else if rc < 0 then
      match S.soError os w.socketFd with
      | (socketStatus, os) =>
        if socketStatus = 0 ∨ socketStatus = S.eintr ∨ socketStatus = S.ewouldblock ∨ socketStatus = S.eagain then
          (modbusTimeout, { w with os := os })
        else (modbusErrorRead, { w with os := os })
    else (rc, { w with os := os, rxRingbuff := R.put w.rxRingbuff rxTemp })

/-- The port that `modbus_port_rtsocket_init` sets up. -/
def rtsocketPort : Port (Rtsocket ρ ω) where
  openFn := some (modbusRtsocketOpen S)
  closeFn := some (modbusRtsocketClose S)
  readFn := some (modbusRtsocketRead R)
  writeFn := some (modbusRtsocketWrite S)
  flushFn := some (modbusRtsocketFlush R)
  waitFn := some (modbusRtsocketWait R S)

/-- A wait makes one `recv`: it fails and leaves the ring alone, or what came is put into the ring. -/
theorem modbusRtsocketWait_cases (w : Rtsocket ρ ω) (timeout : Int) :
    ∃ sec usec rc rxTemp os,
      S.recv (S.setRcvTimeout w.os w.socketFd sec usec) w.socketFd 256 = (rc, rxTemp, os) ∧
        (rc ≤ 0 ∧ (∃ code os', code < 0 ∧ (os' = os ∨ os' = (S.soError os w.socketFd).2) ∧
            modbusRtsocketWait R S w timeout = (code, { w with os := os' })) ∨
          0 < rc ∧ modbusRtsocketWait R S w timeout =
            (rc, { w with os := os, rxRingbuff := R.put w.rxRingbuff rxTemp })) := by
  obtain ⟨⟨rc, rxTemp, os⟩, hrecv⟩ : ∃ r, S.recv (S.setRcvTimeout w.os w.socketFd (rcvTimeval timeout).1
      (rcvTimeval timeout).2) w.socketFd 256 = r := ⟨_, rfl⟩
  refine ⟨_, _, rc, rxTemp, os, hrecv, ?_⟩
  unfold modbusRtsocketWait
  rw [hrecv]
  dsimp only
  split
  · exact Or.inl ⟨by omega, _, _, by decide, Or.inl rfl, rfl⟩
  · split
    · split
      · exact Or.inl ⟨by omega, _, _, by decide, Or.inr rfl, rfl⟩
      · exact Or.inl ⟨by omega, _, _, by decide, Or.inr rfl, rfl⟩
    · exact Or.inr ⟨by omega, rfl⟩

/-- The port as a feed. -/
def rtsocketFeed : Feed (rtsocketPort R S) where
  read := modbusRtsocketRead R
  wait := modbusRtsocketWait R S
  readFn := rfl
  waitFn := rfl
  read_le w := ringRead_le R w.rxRingbuff
  length_bytes w := length_ringRead R w.rxRingbuff

theorem rtsocketFeed_clean : (rtsocketFeed R S).Clean := fun w => ringRead_nonneg R w.rxRingbuff

/-- A wait that succeeds leaves something to read. -/
theorem rtsocketFeed_responsive : (rtsocketFeed R S).Responsive := by
  intro w t len hwait hlen
  have hwait : 0 ≤ (modbusRtsocketWait R S w t).1 := hwait
  show 0 < (ringRead R (modbusRtsocketWait R S w t).2.rxRingbuff len).1
  rw [(ringRead_spec R _ len).1]
  obtain ⟨sec, usec, rc, rxTemp, os, hrecv, ⟨-, code, os', hcode, -, hrun⟩ | ⟨hrc, hrun⟩⟩ :=
    modbusRtsocketWait_cases R S w t
  · rw [hrun] at hwait
    omega
  · have hlength := S.length_recv (S.setRcvTimeout w.os w.socketFd sec usec) w.socketFd 256
    rw [hrecv] at hlength
    have hlength : rxTemp.length = rc.toNat := hlength
    rw [hrun]
    show 0 < ((min (R.content (R.put w.rxRingbuff rxTemp)).length len.toNat : Nat) : Int)
    rw [R.content_put, List.length_append, List.length_take]
    omega

/-- Every wait on the port returns: one round more than there are bytes to read is enough. -/
theorem rtsocket_returns {smb : Smb (Rtsocket ρ ω)} {core : Core} (h : Ready smb core (rtsocketPort R S)) {n : Nat}
    (old : Buffer UInt8 n) (hn : modbusMaxAduLength ≤ n) (w : Rtsocket ρ ω) {fuel : Nat} (hfuel : 2 * n + 2 < fuel) :
    (∀ t, ∃ x, modbusSlaveWait fuel smb w old t = .ok x) ∧ ∃ x, modbusWaitConfirm fuel smb w old = .ok x := by
  have hF := rtsocketFeed_clean R S
  have hpat := (rtsocketFeed_responsive R S).patient hF w
  constructor
  · intro t
    rcases modbusSlaveWait_feed hF h old hn fuel w t with hout | ⟨o, ret, smb', w', hok, -⟩
    · exact absurd hout (modbusSlaveWait_patient hF h old hn hpat t (by omega))
    · exact ⟨_, hok⟩
  · rcases modbusWaitConfirm_feed hF h old hn fuel w with hout | ⟨o, ret, w', hok, -⟩
    · exact absurd hout (modbusWaitConfirm_patient hF h old hn hpat (by omega))
    · exact ⟨_, hok⟩

end Port

/-! ## §4 — nothing is lost. -/

/-- The bytes that `recv` got, in the order in which it got them. -/
def received (w : Rtsocket ρ (ω × List (Int × List UInt8))) : List UInt8 := (w.os.2.map Prod.snd).flatten

/-- A wait on a port that keeps records: it fails, and nothing changes, or what `recv` got is recorded and put
into the ring. -/
theorem modbusRtsocketWait_traced (R : Fifo ρ UInt8 256) (S : Sockets ω)
    (w : Rtsocket ρ (ω × List (Int × List UInt8))) (timeout : Int) :
    (modbusRtsocketWait R S.traced w timeout).2.socketFd = w.socketFd ∧
      ((modbusRtsocketWait R S.traced w timeout).2.os.2 = w.os.2 ∧
          (modbusRtsocketWait R S.traced w timeout).2.rxRingbuff = w.rxRingbuff ∨
        ∃ data, data.length ≤ 256 ∧
          (modbusRtsocketWait R S.traced w timeout).2.os.2 = w.os.2 ++ [(w.socketFd, data)] ∧
          (modbusRtsocketWait R S.traced w timeout).2.rxRingbuff = R.put w.rxRingbuff data) := by
  obtain ⟨sec, usec, rc, rxTemp, os, hrecv, hcases⟩ := modbusRtsocketWait_cases R S.traced w timeout
  have hle := S.traced.recv_le (S.traced.setRcvTimeout w.os w.socketFd sec usec) w.socketFd 256
  have hlength := S.traced.length_recv (S.traced.setRcvTimeout w.os w.socketFd sec usec) w.socketFd 256
  have hos : os.2 = if 0 < rc then w.os.2 ++ [(w.socketFd, rxTemp)] else w.os.2 := by
    have h₁ := congrArg (fun x => x.1) hrecv
    have h₂ := congrArg (fun x => x.2.1) hrecv
    have h₃ := congrArg (fun x => x.2.2.2) hrecv
    dsimp only at h₁ h₂ h₃
    rw [← h₁, ← h₂, ← h₃]
    rfl
  rw [hrecv] at hle hlength
  have hle : rc ≤ (256 : Nat) := hle
  have hlength : rxTemp.length = rc.toNat := hlength
  rcases hcases with ⟨hrc, code, os', -, hos', hrun⟩ | ⟨hrc, hrun⟩
  · rw [if_neg (by omega)] at hos
    have hlog : os'.2 = os.2 := by
      rcases hos' with rfl | rfl
      · rfl
      · rfl
    rw [hrun]
    exact ⟨rfl, Or.inl ⟨hlog.trans hos, rfl⟩⟩
  · rw [if_pos hrc] at hos
    rw [hrun]
    exact ⟨rfl, Or.inr ⟨rxTemp, by omega, hos, rfl⟩⟩

/-- What holds of the records of a port whose ring was empty at the start: every put found it empty, the puts
are what was received, and each of them fits. -/
structure Intact (R : Fifo ρ UInt8 256)
    (w : Rtsocket (ρ × List (Fifo.Event UInt8)) (ω × List (Int × List UInt8))) : Prop where
  supplied : R.Supplied w.rxRingbuff (w.os.2.map Prod.snd)
  fits : ∀ c ∈ w.os.2.map Prod.snd, c.length ≤ 256

section Intact

variable {R : Fifo ρ UInt8 256} {S : Sockets ω}
  {w : Rtsocket (ρ × List (Fifo.Event UInt8)) (ω × List (Int × List UInt8))}

/-- What was received came out of the ring, in order, or is still there. -/
theorem Intact.received_eq (h : Intact R w) :
    received w = w.rxRingbuff.2.flatMap Fifo.Event.out ++ R.content w.rxRingbuff.1 :=
  h.supplied.lossless_iff.mpr h.fits

theorem Intact.read (h : Intact R w) (len : UInt16) : Intact R (modbusRtsocketRead R.traced w len).2.2 :=
  ⟨ringRead_supplied R h.supplied len, h.fits⟩

theorem Intact.flush (h : Intact R w) : Intact R (modbusRtsocketFlush R.traced w).2 :=
  ⟨h.supplied.reset, h.fits⟩

theorem Intact.write (h : Intact R w) (frame : List UInt8) : Intact R (modbusRtsocketWrite S.traced w frame).2 :=
  ⟨h.supplied, h.fits⟩

/-- A wait on an empty ring: what it puts fits. -/
theorem Intact.wait (h : Intact R w) (hdry : R.content w.rxRingbuff.1 = []) (t : Int) :
    Intact R (modbusRtsocketWait R.traced S.traced w t).2 := by
  rcases (modbusRtsocketWait_traced R.traced S w t).2 with ⟨hlog, hring⟩ | ⟨data, hle, hlog, hring⟩
  · exact ⟨by rw [hlog, hring]; exact h.supplied, by rw [hlog]; exact h.fits⟩
  · refine ⟨?_, ?_⟩
    · rw [hlog, hring, List.map_append]
      exact h.supplied.put hdry data
    · rw [hlog, List.map_append]
      intro c hc
      rcases List.mem_append.mp hc with hc | hc
      · exact h.fits c hc
      · rw [List.mem_singleton.mp hc]
        exact hle

theorem intact_kept : Kept (rtsocketFeed R.traced S.traced) (Intact R) (fun w => R.content w.rxRingbuff.1 = []) where
  read h len := h.read len
  short _ _ hshort := ringRead_short R.traced hshort
  wait h hdry t := h.wait hdry t

end Intact

/-- The record of the ring is a log of what the port handed over. -/
def rtsocketLog (R : Fifo ρ UInt8 256) (S : Sockets ω) : (rtsocketFeed R.traced S).Log where
  seen w := takenFrom w.rxRingbuff
  seen_read w len := takenFrom_read R w.rxRingbuff len
  seen_wait w t := by
    show takenFrom (modbusRtsocketWait R.traced S w t).2.rxRingbuff = takenFrom w.rxRingbuff
    obtain ⟨sec, usec, rc, rxTemp, os, -, ⟨-, code, os', -, -, hrun⟩ | ⟨-, hrun⟩⟩ :=
      modbusRtsocketWait_cases R.traced S w t
    · rw [hrun]
    · rw [hrun]
      exact takenFrom_put R w.rxRingbuff rxTemp

/-! ### A socket driven by a schedule -/

/-- One socket: the bytes that have arrived on it, how many of them each of the next `recv` hands over at
most, what arrives after each of the next sends, and what was sent. -/
structure Link where
  queue : List UInt8
  grants : List Nat
  replies : List (List UInt8)
  sent : List (List UInt8)
  deriving DecidableEq, Repr

namespace Link

/-- How many bytes the next `recv` hands over. -/
def count (l : Link) (len : Nat) : Nat := min (min (max 1 (l.grants.headD len)) len) l.queue.length

/-- The socket layer with this one socket. A `recv` with nothing to hand over times out. -/
def sockets : Sockets Link where
  send l _ data :=
    { l with queue := l.queue ++ l.replies.headD [], replies := l.replies.tail, sent := l.sent ++ [data] }
  recv l _ len :=
    if l.queue = [] then (-1, [], l)
    else (l.count len, l.queue.take (l.count len),
      { l with queue := l.queue.drop (l.count len), grants := l.grants.tail })
  setRcvTimeout l _ _ _ := l
  soError l _ := (11, l)
  closesocket l _ := l
  connect l := (.ok 0, l)
  eintr := 4
  ewouldblock := 11
  eagain := 11
  recv_le l fd len := by
    split
    · show (-1 : Int) ≤ len
      omega
    · show ((l.count len : Nat) : Int) ≤ len
      unfold count
      omega
  length_recv l fd len := by
    split
    · rfl
    · show (l.queue.take (l.count len)).length = ((l.count len : Nat) : Int).toNat
      rw [List.length_take, Int.toNat_natCast]
      unfold count
      omega

end Link

/-! ### Runs -/

/-- **Nothing is lost in the socket port**, in any run of waits, writes and flushes from an empty ring, however
the socket groups what it hands over. Every put finds the ring empty and is stored whole; what was received
is what the reads took and the flushes threw away, in order, and what is still in the ring. Every wait
returns, and the buffer of the caller gets exactly what its reads took. -/
theorem rtsocket_lossless (R : Fifo ρ UInt8 256) (S : Sockets ω) {core : Core}
    {smb₀ smb : Smb (Rtsocket (ρ × List (Fifo.Event UInt8)) (ω × List (Int × List UInt8)))}
    {w₀ w : Rtsocket (ρ × List (Fifo.Event UInt8)) (ω × List (Int × List UInt8))}
    (h : Ready smb₀ core (rtsocketPort R.traced S.traced)) (hempty : R.content w₀.rxRingbuff.1 = [])
    (hring : w₀.rxRingbuff.2 = []) (hos : w₀.os.2 = []) (hrun : PortRun (smb₀, w₀) (smb, w)) :
    (∀ e ∈ w.rxRingbuff.2, e.held = [] ∧ e.stored 256 = e.offered) ∧
      received w = w.rxRingbuff.2.flatMap Fifo.Event.out ++ R.content w.rxRingbuff.1 ∧
      ∀ {n : Nat} (old : Buffer UInt8 n), modbusMaxAduLength ≤ n → ∀ {fuel : Nat}, 2 * n + 2 < fuel →
        (∀ t, ∃ ret smb' w' taken, modbusSlaveWait fuel smb w old t = .ok (ret, smb', w', old.fill taken) ∧
          takenFrom w'.rxRingbuff = takenFrom w.rxRingbuff ++ taken) ∧
        ∃ ret w' taken, modbusWaitConfirm fuel smb w old = .ok (ret, w', old.fill taken) ∧
          takenFrom w'.rxRingbuff = takenFrom w.rxRingbuff ++ taken := by
  have hF := rtsocketFeed_clean R.traced S.traced
  have hintact : Intact R w₀ := by
    obtain ⟨fd, ⟨ring, events⟩, ⟨os, log⟩⟩ := w₀
    obtain rfl : events = [] := hring
    obtain rfl : log = [] := hos
    exact ⟨Fifo.Supplied.empty hempty, by simp⟩
  obtain ⟨hready, hw⟩ := intact_kept.run hF rfl rfl (fun _ hv => hv.flush) (fun _ frame hv => hv.write frame) hrun h
    hintact
  refine ⟨hw.supplied.stored_eq hw.fits, hw.received_eq, ?_⟩
  intro n old hn fuel hfuel
  obtain ⟨hslave, hconfirm⟩ := rtsocket_returns R.traced S.traced hready old hn w hfuel
  constructor
  · intro t
    obtain ⟨⟨ret, smb', w', request⟩, hok⟩ := hslave t
    obtain ⟨taken, rfl, hseen⟩ := (rtsocketLog R S.traced).slaveWait hF hready hn hok
    exact ⟨ret, smb', w', taken, hok, hseen⟩
  · obtain ⟨⟨ret, w', response⟩, hok⟩ := hconfirm
    obtain ⟨taken, rfl, hseen⟩ := (rtsocketLog R S.traced).waitConfirm hF hready hn hok
    exact ⟨ret, w', taken, hok, hseen⟩

/-- A request and two more bytes in one `recv`, then a flush. -/
theorem rtsocket_lossless_flush :
    ∃ smb w, PortRun
        (newContext .tcp (rtsocketPort (Fifo.ofList UInt8 256).traced Link.sockets.traced) 17,
          ⟨3, (⟨[], Nat.zero_le 256⟩, []), (⟨[0, 1, 0, 0, 0, 2, 17, 0x11, 8, 9], [], [], []⟩, [])⟩) (smb, w) ∧
      received w = [0, 1, 0, 0, 0, 2, 17, 0x11, 8, 9] ∧
      received w = w.rxRingbuff.2.flatMap Fifo.Event.out ++ (Fifo.ofList UInt8 256).content w.rxRingbuff.1 := by
  have hwait : (modbusSlaveWait 600
      (newContext .tcp (rtsocketPort (Fifo.ofList UInt8 256).traced Link.sockets.traced) 17)
      ⟨3, (⟨[], Nat.zero_le 256⟩, []), (⟨[0, 1, 0, 0, 0, 2, 17, 0x11, 8, 9], [], [], []⟩, [])⟩
      (Buffer.replicate 260 0) 5).map (fun x => received x.2.2.1) = .ok [0, 1, 0, 0, 0, 2, 17, 0x11, 8, 9] := by
    decide +kernel
  obtain ⟨⟨ret, smb, w, request⟩, hx, hrec⟩ := map_eq_ok.mp hwait
  have hrun := (Relation.ReflTransGen.single (PortStep.slaveWait hx)).tail (PortStep.flush smb w)
  have h := newContext_ready .tcp (rtsocketPort (Fifo.ofList UInt8 256).traced Link.sockets.traced) 17
  obtain ⟨-, heq, -⟩ := rtsocket_lossless (Fifo.ofList UInt8 256) Link.sockets h rfl rfl rfl hrun
  refine ⟨_, _, hrun, ?_, heq⟩
  rw [Ready.flush (modbusSlaveWait_ready h hx) rfl]
  exact hrec

end SmallModbus
