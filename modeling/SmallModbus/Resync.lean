/-
# `SmallModbus.Resync` — what error recovery leaves in front of the next reply.

`_modbus_rtsocket_flush` empties the ring of the port. What waits in the queue of the socket stays there, and
the next `recv` hands it over in front of the reply to the next request.

`Pipe` says what the port is for: what was received and not read, and the socket. Its buffer has no bound, so
it is a line, and the port is in lockstep with it (`rtsocket_lockstep`). On a pipe an operation depends on the
bytes that are still to come, however `recv` groups them (`Pipe.operation_congr`). From these comes
`resync_iff`: recovery makes up for what was left behind exactly if the queue of the socket was empty.
-/
import SmallModbus.Rtsocket
import SmallModbus.Confirm

namespace SmallModbus

open SmallModbus.Lib

variable {ρ : Type} {n : Nat}

/-! ## §1 — the socket port without a bound. -/

/-- What was received from a socket and not read yet, and the socket. -/
structure Pipe where
  buffer : List UInt8
  link : Link
  deriving DecidableEq, Repr

namespace Pipe

/-- How many bytes the next read hands over. -/
def count (p : Pipe) (len : UInt16) : Nat := min p.buffer.length len.toNat

def read (p : Pipe) (len : UInt16) : Int × List UInt8 × Pipe :=
  (p.count len, p.buffer.take (p.count len), { p with buffer := p.buffer.drop (p.count len) })

/-- The pipe after a `recv` into its empty buffer. -/
def filled (l : Link) : Pipe where
  buffer := l.queue.take (l.count 256)
  link := { l with queue := l.queue.drop (l.count 256), grants := l.grants.tail }

/-- A wait receives if there is nothing to read. -/
def wait (p : Pipe) (_timeout : Int) : Int × Pipe :=
  if p.buffer ≠ [] then (modbusOk, p)
  else if p.link.queue = [] then (modbusTimeout, p)
  else (p.link.count 256, filled p.link)

def write (p : Pipe) (frame : List UInt8) : Int × Pipe :=
  (frame.length, { p with link := Link.sockets.send p.link 0 frame })

/-- The port of a pipe. -/
def port : Port Pipe where
  openFn := none
  closeFn := none
  readFn := some read
  writeFn := some write
  flushFn := none
  waitFn := some wait

/-- The bytes still to come. -/
def rem (p : Pipe) : List UInt8 := p.buffer ++ p.link.queue

/-- A `recv` from a queue that is not empty hands over something. -/
theorem count_pos {l : Link} (hqueue : l.queue ≠ []) : 0 < l.count 256 := by
  have hlen := List.length_pos_of_ne_nil hqueue
  unfold Link.count
  omega

theorem length_filled {l : Link} (hqueue : l.queue ≠ []) : 0 < (filled l).buffer.length := by
  have hpos := count_pos hqueue
  have hlen := List.length_pos_of_ne_nil hqueue
  show 0 < (l.queue.take _).length
  rw [List.length_take]
  omega

theorem wait_cases (p : Pipe) (t : Int) :
    p.buffer ≠ [] ∧ p.wait t = (modbusOk, p) ∨
      p.buffer = [] ∧ p.link.queue = [] ∧ p.wait t = (modbusTimeout, p) ∨
      p.buffer = [] ∧ p.link.queue ≠ [] ∧ p.wait t = (((p.link.count 256 : Nat) : Int), filled p.link) := by
  by_cases hbuffer : p.buffer = []
  · by_cases hqueue : p.link.queue = []
    · exact Or.inr (Or.inl ⟨hbuffer, hqueue, by simp [wait, hbuffer, hqueue]⟩)
    · exact Or.inr (Or.inr ⟨hbuffer, hqueue, by simp [wait, hbuffer, hqueue]⟩)
  · exact Or.inl ⟨hbuffer, if_pos hbuffer⟩

/-- The line of a pipe. -/
def line : Line port where
  read := read
  wait := wait
  readFn := rfl
  waitFn := rfl
  rem := rem
  count := count
  read_count _ _ := rfl
  read_bytes p len := (List.take_append_of_le_length (Nat.min_le_left _ _)).symm
  count_le _ _ := Nat.min_le_right _ _
  count_le_rem p len := by
    unfold rem count
    rw [List.length_append]
    omega
  rem_read p len := (List.drop_append_of_le_length (Nat.min_le_left _ _)).symm
  rem_wait p t := by
    show (p.wait t).2.rem = p.rem
    rcases p.wait_cases t with ⟨-, hwait⟩ | ⟨-, -, hwait⟩ | ⟨hbuffer, -, hwait⟩
    · rw [hwait]
    · rw [hwait]
    · rw [hwait, rem, rem, hbuffer]
      exact List.take_append_drop _ _

theorem rem_write (p : Pipe) (frame : List UInt8) :
    (p.write frame).2.rem = p.rem ++ p.link.replies.headD [] := (List.append_assoc _ _ _).symm

/-- The same bytes are to come, and the same replies. -/
def Alike (p p₂ : Pipe) : Prop := p.rem = p₂.rem ∧ p.link.replies = p₂.link.replies

theorem Alike.write {p p₂ : Pipe} (h : p.Alike p₂) (frame : List UInt8) :
    (p.write frame).2.Alike (p₂.write frame).2 :=
  ⟨by rw [rem_write, rem_write, h.1, h.2], congrArg List.tail h.2⟩

theorem steady : line.Steady modbusTimeout where
  code_neg := by decide
  prompt p t hrem := by
    show 0 ≤ (p.wait t).1
    rcases p.wait_cases t with ⟨-, hwait⟩ | ⟨hbuffer, hqueue, -⟩ | ⟨-, -, hwait⟩
    · rw [hwait]
      exact le_rfl
    · exact absurd (List.append_eq_nil_iff.mpr ⟨hbuffer, hqueue⟩) hrem
    · rw [hwait]
      exact Int.natCast_nonneg _
  wait_dry p t hrem := by
    obtain ⟨hbuffer, hqueue⟩ := List.append_eq_nil_iff.mp hrem
    show (p.wait t).1 = modbusTimeout
    rw [wait, if_neg (not_not.mpr hbuffer), if_pos hqueue]

/-- A wait that succeeds leaves something to read. -/
theorem responsive : line.feed.Responsive := by
  intro p t len hwait hlen
  have hwait : 0 ≤ (p.wait t).1 := hwait
  show 0 < (((p.wait t).2.count len : Nat) : Int)
  suffices hbuffer : 0 < (p.wait t).2.buffer.length by
    unfold count
    omega
  rcases p.wait_cases t with ⟨hbuffer, hrun⟩ | ⟨-, -, hrun⟩ | ⟨-, hqueue, hrun⟩
  · rw [hrun]
    exact List.length_pos_of_ne_nil hbuffer
  · have hneg : ¬ (0 : Int) ≤ modbusTimeout := by decide
    rw [hrun] at hwait
    exact absurd hwait hneg
  · rw [hrun]
    exact length_filled hqueue

theorem fair : line.Fair (fun p => p.link.queue.length) where
  rank_read _ _ := le_rfl
  rank_wait p t := by
    show (p.wait t).2.link.queue.length ≤ p.link.queue.length
    rcases p.wait_cases t with ⟨-, hrun⟩ | ⟨-, -, hrun⟩ | ⟨-, -, hrun⟩
    · rw [hrun]
    · rw [hrun]
    · rw [hrun]
      show (p.link.queue.drop _).length ≤ _
      rw [List.length_drop]
      omega
  rank_stall p len t hlen hcount hwait := by
    have hcount : min p.buffer.length len.toNat = 0 := hcount
    have hwait : 0 ≤ ((p.read len).2.2.wait t).1 := hwait
    show ((p.read len).2.2.wait t).2.link.queue.length < p.link.queue.length
    rcases (p.read len).2.2.wait_cases t with ⟨hbuffer, -⟩ | ⟨-, -, hrun⟩ | ⟨-, hqueue, hrun⟩
    · -- nothing was read, so there was nothing to read
      have hnil : p.buffer = [] := List.eq_nil_of_length_eq_zero (by omega)
      have hdrop : (p.read len).2.2.buffer = p.buffer.drop (p.count len) := rfl
      rw [hdrop, hnil, List.drop_nil] at hbuffer
      exact absurd rfl hbuffer
    · have hneg : ¬ (0 : Int) ≤ modbusTimeout := by decide
      rw [hrun] at hwait
      exact absurd hwait hneg
    · have hqueue : p.link.queue ≠ [] := hqueue
      have hpos := count_pos hqueue
      have hlen := List.length_pos_of_ne_nil hqueue
      rw [hrun]
      show (p.link.queue.drop _).length < _
      rw [List.length_drop]
      exact Nat.sub_lt hlen hpos

end Pipe

/-! ### The port is in lockstep with a pipe -/

/-- A wait on an empty ring. -/
theorem modbusRtsocketWait_link (R : Fifo ρ UInt8 256) (w : Rtsocket ρ Link) (hdry : R.content w.rxRingbuff = [])
    (t : Int) :
    (modbusRtsocketWait R Link.sockets w t).1 = (Pipe.wait ⟨[], w.os⟩ t).1 ∧
      R.content (modbusRtsocketWait R Link.sockets w t).2.rxRingbuff = (Pipe.wait ⟨[], w.os⟩ t).2.buffer ∧
      (modbusRtsocketWait R Link.sockets w t).2.os = (Pipe.wait ⟨[], w.os⟩ t).2.link := by
  rcases Pipe.wait_cases ⟨[], w.os⟩ t with ⟨hbuffer, -⟩ | ⟨-, hqueue, hpipe⟩ | ⟨-, hqueue, hpipe⟩
  · exact absurd rfl hbuffer
  · have hrecv : Link.sockets.recv (Link.sockets.setRcvTimeout w.os w.socketFd (rcvTimeval t).1 (rcvTimeval t).2)
        w.socketFd 256 = (-1, [], w.os) := if_pos hqueue
    have hrun : modbusRtsocketWait R Link.sockets w t = (modbusTimeout, w) := by
      unfold modbusRtsocketWait
      rw [hrecv]
      rfl
    rw [hrun, hpipe]
    exact ⟨rfl, hdry, rfl⟩
  · have hrecv : Link.sockets.recv (Link.sockets.setRcvTimeout w.os w.socketFd (rcvTimeval t).1 (rcvTimeval t).2)
        w.socketFd 256 = (((w.os.count 256 : Nat) : Int), (Pipe.filled w.os).buffer, (Pipe.filled w.os).link) :=
      if_neg hqueue
    have hpos : 0 < w.os.count 256 := Pipe.count_pos hqueue
    have hrun : modbusRtsocketWait R Link.sockets w t = (((w.os.count 256 : Nat) : Int),
        { w with os := (Pipe.filled w.os).link, rxRingbuff := R.put w.rxRingbuff (Pipe.filled w.os).buffer }) := by
      unfold modbusRtsocketWait
      rw [hrecv]
      dsimp only
      rw [if_neg (by omega), if_neg (by omega)]
    have hfits : (Pipe.filled w.os).buffer.length ≤ 256 := by
      show (w.os.queue.take (w.os.count 256)).length ≤ 256
      rw [List.length_take]
      unfold Link.count
      omega
    rw [hrun, hpipe]
    exact ⟨rfl, R.content_put_empty hdry hfits, rfl⟩

/-- The port holds what the pipe holds. -/
def Piped (R : Fifo ρ UInt8 256) (w : Rtsocket ρ Link) (p : Pipe) : Prop :=
  R.content w.rxRingbuff = p.buffer ∧ w.os = p.link

/-- A read takes the same bytes from both. -/
theorem Piped.read {R : Fifo ρ UInt8 256} {w : Rtsocket ρ Link} {p : Pipe} (h : Piped R w p) (len : UInt16) :
    Piped R (modbusRtsocketRead R w len).2.2 (Pipe.line.feed.read p len).2.2 := by
  refine ⟨?_, h.2⟩
  show R.content (ringRead R w.rxRingbuff len).2.2 = p.buffer.drop (p.count len)
  rw [(ringRead_spec R _ len).2.2, h.1, Pipe.count, Nat.min_comm]
  exact List.drop_eq_drop_min

theorem rtsocket_lockstep (R : Fifo ρ UInt8 256) :
    Lockstep (rtsocketFeed R Link.sockets) Pipe.line.feed (Piped R)
      (fun w p => Piped R w p ∧ R.content w.rxRingbuff = []) where
  count_eq := by
    rintro w p ⟨hbuffer, -⟩ len
    show ((p.count len : Nat) : Int) = (ringRead R w.rxRingbuff len).1
    rw [(ringRead_spec R _ len).1, hbuffer]
    rfl
  bytes_eq := by
    rintro w p ⟨hbuffer, -⟩ len
    show p.buffer.take (p.count len) = (ringRead R w.rxRingbuff len).2.1
    rw [(ringRead_spec R _ len).2.1, hbuffer, Pipe.count, Nat.min_comm]
    exact List.take_eq_take_min.symm
  rel_read h len := h.read len
  dry_read h len hshort := ⟨h.read len, ringRead_short R hshort⟩
  code_eq := by
    rintro w ⟨_, _⟩ ⟨⟨rfl, rfl⟩, hdry⟩ t
    show (Pipe.wait ⟨R.content w.rxRingbuff, w.os⟩ t).1 = _
    rw [hdry]
    exact (modbusRtsocketWait_link R w hdry t).1.symm
  rel_wait := by
    rintro w ⟨_, _⟩ ⟨⟨rfl, rfl⟩, hdry⟩ t
    show Piped R (modbusRtsocketWait R Link.sockets w t).2 (Pipe.wait ⟨R.content w.rxRingbuff, w.os⟩ t).2
    rw [hdry]
    exact (modbusRtsocketWait_link R w hdry t).2

/-! ## §2 — an operation on a pipe. -/

/-- What the caller of an operation gets: its result, and the object it reads into. -/
def operationResult {σ : Type} (x : Int × Smb σ × σ × Buffer UInt8 n) : Int × Buffer UInt8 n := (x.1, x.2.2.2)

section Operation

variable {smb : Smb Pipe} {core : Core} (h : Ready smb core Pipe.port)

include h

/-- Every wait for a confirmation on a pipe returns. -/
theorem Pipe.waitConfirm_returns (p : Pipe) (old : Buffer UInt8 modbusMaxAduLength) {fuel : Nat}
    (hfuel : 2 * modbusMaxAduLength + 2 < fuel) : ∃ x, modbusWaitConfirm fuel smb p old = .ok x := by
  have hpat := Pipe.responsive.patient Pipe.line.clean p
  rcases modbusWaitConfirm_feed Pipe.line.clean h old le_rfl fuel p with hout | ⟨o, ret, p', hok, -⟩
  · exact absurd hout (modbusWaitConfirm_patient Pipe.line.clean h old le_rfl hpat (by omega))
  · exact ⟨_, hok⟩

/-- **On a pipe an operation depends on the bytes to come**, those that are there and those that answer it, and
not on how many of them a `recv` hands over. -/
theorem Pipe.operation_congr {p p₂ : Pipe} (halike : p.Alike p₂) {fuel fuel₂ : Nat}
    (hfuel : 2 * modbusMaxAduLength + 2 < fuel) (hfuel₂ : 2 * modbusMaxAduLength + 2 < fuel₂)
    (function addr num : Int) (writeData : List UInt8) (readData : Buffer UInt8 n) :
    (masterOperation fuel smb p function addr num writeData readData).map operationResult =
      (masterOperation fuel₂ smb p₂ function addr num writeData readData).map operationResult := by
  have hstart : Exec.Rel (fun x y => SameWith Pipe.port Pipe.Alike x y ∧ Ready x.2.1 core Pipe.port)
      (modbusStartRequest smb p smb.writeBuff function addr num writeData)
      (modbusStartRequest (smb.onPort Pipe.port) p₂ smb.writeBuff function addr num writeData) :=
    startRequest_lockstep h rfl rfl (fun frame halike => ⟨rfl, halike.write frame⟩) smb.writeBuff function addr num
      writeData halike
  rw [h.onPort_self] at hstart
  refine Exec.Rel.map_eq (r := fun x y => operationResult x = operationResult y) ?_ (fun _ _ heq => heq)
  unfold masterOperation
  simp only [h.contextCheck, ne_eq, not_true, if_false]
  refine hstart.bind ?_
  rintro ⟨ret, smb', p', request⟩ ⟨ret₂, smb₂', p₂', request₂⟩ ⟨⟨hret, hsmb, ⟨hrem', -⟩, hreq⟩, h'⟩
  obtain rfl : ret = ret₂ := hret
  obtain rfl : request = request₂ := hreq
  obtain rfl : smb₂' = smb' := hsmb.trans h'.onPort_self
  dsimp only
  split
  · exact .ok rfl
  · have h₁ : Ready { smb₂' with writeBuff := request } core Pipe.port := h'.congr rfl rfl rfl
    obtain ⟨⟨ret₁, q, response⟩, hwait⟩ := Pipe.waitConfirm_returns h₁ p' smb₂'.readBuff hfuel
    obtain ⟨⟨ret₂, q₂, response₂⟩, hwait₂⟩ := Pipe.waitConfirm_returns h₁ p₂' smb₂'.readBuff hfuel₂
    obtain ⟨rfl, rfl, -⟩ := modbusWaitConfirm_sameStream Pipe.steady Pipe.steady h₁ h₁ rfl rfl le_rfl hrem' hwait
      hwait₂
    rw [hwait, hwait₂, exec_ok_bind, exec_ok_bind]
    dsimp only
    split
    · exact .ok rfl
    · apply Exec.Rel.bind_same
      rintro ⟨ret₂, readData'⟩
      exact .ok rfl

end Operation

/-! ## §3 — recovery. -/

/-- The answer or the exception that the slave gives to the next request of this function. -/
def OwnReply {σ : Type} (smb : Smb σ) (function : Int) (reply : List UInt8) : Prop :=
  ∃ pdu, reply = Core.tcp.adu (smb.transferId + 1) smb.slaveAddr pdu ∧ confirmFormat.Sized pdu ∧
    reply.length ≤ modbusMaxAduLength ∧
    (pdu.head? = some (toU8 function) ∨ pdu.head? = some (toU8 (function + 0x80)))

/-- With this in the ring and that in the queue of the socket when it is called, recovery brings the port into
step: every operation whose own reply comes right after its request returns what it returns on a port that has
nothing in its ring and nothing in its queue, however the bytes are handed over. -/
def Resyncs (R : Fifo ρ UInt8 256) (smb : Smb (Rtsocket ρ Link)) (ring : ρ) (queue : List UInt8) : Prop :=
  ∀ (fd : Int) (grants grants₀ : List Nat) (ring₀ : ρ) (function addr num : Int) (writeData reply : List UInt8)
    (n : Nat) (readData : Buffer UInt8 n) (fuel fuel₀ : Nat),
    R.content ring₀ = [] → OwnReply smb function reply → 2 * modbusMaxAduLength + 2 < fuel →
    2 * modbusMaxAduLength + 2 < fuel₀ →
    (masterOperation fuel smb (modbusErrorRecovery smb ⟨fd, ring, ⟨queue, grants, [reply], []⟩⟩).2 function addr num
        writeData readData).map operationResult =
      (masterOperation fuel₀ smb ⟨fd, ring₀, ⟨[], grants₀, [reply], []⟩⟩ function addr num writeData
        readData).map operationResult

section Recovery

variable {R : Fifo ρ UInt8 256} {smb : Smb (Rtsocket ρ Link)} (h : Ready smb .tcp (rtsocketPort R Link.sockets))

include h

/-- An operation on the port returns what it returns on the pipe. -/
theorem rtsocket_operation (w : Rtsocket ρ Link) (fuel : Nat) (function addr num : Int) (writeData : List UInt8)
    (readData : Buffer UInt8 n) :
    (masterOperation fuel smb w function addr num writeData readData).map operationResult =
      (masterOperation fuel (smb.onPort Pipe.port) ⟨R.content w.rxRingbuff, w.os⟩ function addr num writeData
        readData).map operationResult := by
  have hrel := (rtsocket_lockstep R).operation (rtsocketFeed_clean R Link.sockets) h rfl rfl
    (fun frame hpiped => ⟨rfl, hpiped.1, congrArg (fun l => Link.sockets.send l 0 frame) hpiped.2⟩)
    fuel function addr num writeData readData (show Piped R w ⟨R.content w.rxRingbuff, w.os⟩ from ⟨rfl, rfl⟩)
  exact hrel.map_eq (fun x y hsame => Prod.ext hsame.1 hsame.2.2.2)

/-- A read of one register over a pipe with these bytes in its queue. -/
theorem Pipe.read_register {queue reply : List UInt8} {b : UInt8} (hb : b ≠ 0) {fuel : Nat}
    (hrun : (masterOperation fuel (smb.onPort Pipe.port) ⟨[], ⟨queue, [], [reply], []⟩⟩ 3 0 1 []
      (Buffer.replicate 2 0)).map operationResult = .ok (modbusOk, (Buffer.replicate 2 0).fill [b, 0])) :
    (queue ++ reply)[10]? = some b := by
  obtain ⟨⟨ret, smb', p', out⟩, hrun, hresult⟩ := map_eq_ok.mp hrun
  obtain ⟨rfl, rfl⟩ := Prod.mk.inj hresult
  have hrun' := (ReadOp.registers.run_eq fuel (smb.onPort Pipe.port) ⟨[], ⟨queue, [], [reply], []⟩⟩ 0 1
    (Buffer.replicate 2 0)).trans hrun
  obtain ⟨data, ⟨a, c, -, -, ⟨rest, hrest⟩, -⟩, hout⟩ :=
    ReadOp.registers.response_of_ok (h.onPort Pipe.port) Pipe.line 0
      (show 0 < 1 ∧ 1 ≤ ReadOp.registers.kind.maxRead by decide) hrun' le_rfl
  rw [(h.onPort Pipe.port).write (f := Pipe.write) rfl] at hrest
  have hrest : Core.tcp.adu (smb.transferId + 1) a (3 :: c :: data) ++ rest = queue ++ reply := hrest
  have hfill : ((Buffer.replicate 2 0).fill [b, 0]).toList = [b, 0] := Buffer.toList_fill _ le_rfl
  split at hout
  · rename_i hlen
    have hlen : data.length = 2 := hlen
    obtain ⟨x, y, rfl⟩ := List.length_eq_two.mp hlen
    have hswap := congrArg Buffer.toList hout.2
    have hfill₂ : ((Buffer.replicate 2 0).fill [y, x]).toList = [y, x] := Buffer.toList_fill _ le_rfl
    obtain ⟨rfl, -⟩ := List.cons.inj ((hfill.symm.trans hswap).trans hfill₂)
    have hbyte : (Core.tcp.adu (smb.transferId + 1) a (3 :: c :: [x, b]))[10]? = some b :=
      adu_getElem? .tcp _ a (show 3 < (3 :: c :: [x, b]).length by simp)
    rw [← hrest, List.getElem?_append_left (List.getElem?_eq_some_iff.mp hbyte).1]
    exact hbyte
  · -- the object is as it was
    have hsame := congrArg Buffer.toList hout
    rw [hfill] at hsame
    exact absurd (List.cons.inj hsame).1 hb

/-- The same read with its own reply only. -/
theorem Pipe.read_register_prompt (b : UInt8) :
    (masterOperation 1000 (smb.onPort Pipe.port)
      ⟨[], ⟨[], [], [Core.tcp.adu (smb.transferId + 1) smb.slaveAddr [3, 2, 0, b]], []⟩⟩ 3 0 1 []
      (Buffer.replicate 2 0)).map operationResult = .ok (modbusOk, (Buffer.replicate 2 0).fill [b, 0]) := by
  obtain ⟨reply, hreply⟩ : ∃ reply, reply = Core.tcp.adu (smb.transferId + 1) smb.slaveAddr [3, 2, 0, b] := ⟨_, rfl⟩
  have hlength : reply.length = 11 := by
    rw [hreply]
    rfl
  have hwrite : ∀ frame, modbusWrite (smb.onPort Pipe.port) ⟨[], ⟨[], [], [reply], []⟩⟩ frame =
      Pipe.write ⟨[], ⟨[], [], [reply], []⟩⟩ frame := (h.onPort Pipe.port).write rfl _
  have hresp : ReadOp.registers.Response .tcp smb.slaveAddr (smb.transferId + 1) reply [0, b] :=
    ⟨smb.slaveAddr, 2, Or.inl rfl, rfl, hreply ▸ List.prefix_rfl, show 11 ≤ 260 by omega⟩
  have hprompt : ∃ smb' w', ReadOp.registers.run 1000 (smb.onPort Pipe.port) ⟨[], ⟨[], [], [reply], []⟩⟩ 0 1
      (Buffer.replicate 2 0) = .ok (modbusOk, smb', w', (Buffer.replicate 2 0).fill [b, 0]) := by
    refine ReadOp.registers.ok_of_response (h.onPort Pipe.port) Pipe.line 0
      (show 0 < 1 ∧ 1 ≤ ReadOp.registers.kind.maxRead by decide) Pipe.steady.prompt Pipe.fair ?_
      (show ReadOp.registers.Response _ _ _ _ [0, b] from ?_) ⟨le_rfl, rfl⟩ ?_
    · rw [hwrite]
      exact Int.natCast_nonneg _
    · rw [hwrite]
      exact hresp
    · rw [hwrite]
      show reply.length + 2 * 260 + 1 < 1000
      omega
  obtain ⟨smb', w', hrun⟩ := hprompt
  rw [ReadOp.registers.run_eq] at hrun
  exact map_eq_ok.mpr ⟨_, hreply ▸ hrun, rfl⟩

/-- **Recovery brings the port into step exactly if nothing waited in the socket**, whatever was in the ring. -/
theorem resync_iff (ring : ρ) (queue : List UInt8) : Resyncs R smb ring queue ↔ queue = [] := by
  constructor
  · intro hsync
    by_contra hne
    -- the last byte of the reply to a read of one register, another than what now stands in its place
    obtain ⟨hd, hhd⟩ : ∃ hd, hd = Core.tcp.header (smb.transferId + 1) smb.slaveAddr 4 ++ [3, 2, 0] := ⟨_, rfl⟩
    obtain ⟨b, hb, hdiffers⟩ : ∃ b : UInt8, b ≠ 0 ∧ (queue ++ hd)[10]? ≠ some b := by
      by_cases hone : (queue ++ hd)[10]? = some 1
      · exact ⟨2, by decide, by rw [hone]; decide⟩
      · exact ⟨1, by decide, hone⟩
    have hreply : Core.tcp.adu (smb.transferId + 1) smb.slaveAddr [3, 2, 0, b] = hd ++ [b] := by
      rw [hhd]
      rfl
    have hlength : (queue ++ hd).length = queue.length + 10 := by
      rw [List.length_append, hhd]
      rfl
    have hpos := List.length_pos_of_ne_nil hne
    have hown : OwnReply smb 3 (Core.tcp.adu (smb.transferId + 1) smb.slaveAddr [3, 2, 0, b]) :=
      ⟨_, rfl, rfl, show 11 ≤ 260 by omega, Or.inl rfl⟩
    have hresult := hsync 0 [] [] (R.reset ring) 3 0 1 [] _ 2 (Buffer.replicate 2 0) 1000 1000
      (R.content_reset ring) hown (by decide) (by decide)
    rw [h.errorRecovery rfl, rtsocket_operation h, rtsocket_operation h] at hresult
    dsimp only [modbusRtsocketFlush] at hresult
    rw [R.content_reset, Pipe.read_register_prompt h b] at hresult
    have hbyte := Pipe.read_register h hb hresult
    rw [hreply, ← List.append_assoc, List.getElem?_append_left (by omega)] at hbyte
    exact hdiffers hbyte
  · rintro rfl
    intro fd grants grants₀ ring₀ function addr num writeData reply n readData fuel fuel₀ hring₀ _ hfuel hfuel₀
    have halike : Pipe.Alike ⟨R.content (R.reset ring), ⟨[], grants, [reply], []⟩⟩
        ⟨R.content ring₀, ⟨[], grants₀, [reply], []⟩⟩ := by
      rw [R.content_reset, hring₀]
      exact ⟨rfl, rfl⟩
    rw [h.errorRecovery rfl, rtsocket_operation h, rtsocket_operation h]
    exact Pipe.operation_congr (h.onPort Pipe.port) halike hfuel hfuel₀ function addr num writeData readData

end Recovery

/-- Three bytes in the ring and none in the socket. -/
theorem resync_iff_ring : Resyncs (Fifo.ofList UInt8 256)
    (newContext .tcp (rtsocketPort (Fifo.ofList UInt8 256) Link.sockets) 17) ⟨[0, 1, 0], by decide⟩ [] :=
  (resync_iff (newContext_ready .tcp (rtsocketPort (Fifo.ofList UInt8 256) Link.sockets) 17) _ []).mpr rfl

/-- Recovery and a read of one register, twice, on a socket with this in its queue. Each read is answered at once,
and a `recv` hands over one reply. The master gave up its first request before. -/
def recoverAndReadTwice (queue : List UInt8) : Exec (Int × Int) := do
  let smb := { newContext .tcp (rtsocketPort (Fifo.ofList UInt8 256) Link.sockets) 17 with transferId := 1 }
  let replies := [Core.tcp.adu 2 17 [3, 2, 0, 8], Core.tcp.adu 3 17 [3, 2, 0, 9]]
  let w : Rtsocket {l : List UInt8 // l.length ≤ 256} Link :=
    ⟨3, ⟨[], by decide⟩, ⟨queue, [11, 11, 11], replies, []⟩⟩
  let (ret, smb, w, _) ← modbusReadRegisters 600 smb (modbusErrorRecovery smb w).2 0 1 (Buffer.replicate 2 0)
  let (ret₂, _, _, _) ← modbusReadRegisters 600 smb (modbusErrorRecovery smb w).2 0 1 (Buffer.replicate 2 0)
  return (ret, ret₂)

/-- The late reply to the request that was given up: the read after recovery takes it for its own and fails the
check of the transaction id, and so does the next with the reply to the first. -/
theorem resync_late_reply :
    ¬ Resyncs (Fifo.ofList UInt8 256)
        { newContext .tcp (rtsocketPort (Fifo.ofList UInt8 256) Link.sockets) 17 with transferId := 1 }
        ⟨[], Nat.zero_le 256⟩ (Core.tcp.adu 1 17 [3, 2, 0, 7]) ∧
      recoverAndReadTwice (Core.tcp.adu 1 17 [3, 2, 0, 7]) = .ok (modbusFailCheck, modbusFailCheck) ∧
      recoverAndReadTwice [] = .ok (modbusOk, modbusOk) := by
  refine ⟨fun hsync => ?_, by decide +kernel, by decide +kernel⟩
  have hown : OwnReply
      { newContext .tcp (rtsocketPort (Fifo.ofList UInt8 256) Link.sockets) 17 with transferId := 1 } 3
      (Core.tcp.adu 2 17 [3, 2, 0, 8]) := ⟨_, rfl, rfl, by decide, Or.inl rfl⟩
  have hresult := hsync 3 [] [] ⟨[], Nat.zero_le 256⟩ 3 0 1 [] _ 2 (Buffer.replicate 2 0) 600 600 rfl hown
    (by decide) (by decide)
  exact absurd hresult (by decide +kernel)

end SmallModbus
