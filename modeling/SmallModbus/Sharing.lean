/-
# `SmallModbus.Sharing` — masters that share the slave.

The slave of `test_modbus_tcp_slave.c` serves all its clients from one context, one port and one ring, a turn at a
time. Each client is a master with a connection of its own. What the masters do comes in any order with the turns of
the slave and with the updates of its inputs, and the network hands over the bytes of a connection in any pieces.

A connection carries its bytes like a `Pipe`, so a frame on it is received whole and alone (`Sockets.Linked`). A master
has at most one request under way, and so the ring is empty when a turn begins. Hence the board of the slave is an
atomic memory of the masters (`shared_board`): every run comes to the effects of single operations, one after the other,
each between its call and its return, and what a master waits for it gets.
-/
import SmallModbus.Lib.Atomic
import SmallModbus.Plant
import SmallModbus.Isolation
import SmallModbus.Resync

namespace SmallModbus

open SmallModbus.Lib

variable {ρ ω σ η : Type} {n : Nat}

/-! ## §1 — a frame on a connection. -/

/-- A network in which each socket receives from a link of its own. -/
structure Sockets.Linked (S : Sockets ω) where
  link : ω → Int → Link
  set : ω → Int → Link → ω
  link_set : ∀ os fd l, link (set os fd l) fd = l
  set_link : ∀ os fd, set os fd (link os fd) = os
  set_set : ∀ os fd l l', set (set os fd l) fd l' = set os fd l'
  recv_eq : ∀ os fd len, S.recv os fd len = ((Link.sockets.recv (link os fd) fd len).1,
    (Link.sockets.recv (link os fd) fd len).2.1, set os fd (Link.sockets.recv (link os fd) fd len).2.2)
  setRcvTimeout_eq : ∀ os fd sec usec, S.setRcvTimeout os fd sec usec = os
  soError_eq : ∀ os fd, S.soError os fd = (S.eagain, os)

namespace Sockets.Linked

variable {S : Sockets ω} (K : S.Linked) (R : Fifo ρ UInt8 256)

/-- A wait is a wait on the link of the socket. -/
theorem wait_eq (w : Rtsocket ρ ω) (t : Int) :
    modbusRtsocketWait R S w t =
      ((modbusRtsocketWait R Link.sockets ⟨w.socketFd, w.rxRingbuff, K.link w.os w.socketFd⟩ t).1,
        ⟨w.socketFd, (modbusRtsocketWait R Link.sockets ⟨w.socketFd, w.rxRingbuff, K.link w.os w.socketFd⟩ t).2.rxRingbuff,
          K.set w.os w.socketFd
            (modbusRtsocketWait R Link.sockets ⟨w.socketFd, w.rxRingbuff, K.link w.os w.socketFd⟩ t).2.os⟩) := by
  unfold modbusRtsocketWait
  rw [K.setRcvTimeout_eq, K.recv_eq]
  obtain ⟨⟨rc, data, l⟩, hrecv⟩ : ∃ x, x = Link.sockets.recv (K.link w.os w.socketFd) w.socketFd 256 := ⟨_, rfl⟩
  have hset : ∀ sec usec, Link.sockets.setRcvTimeout (K.link w.os w.socketFd) w.socketFd sec usec =
    K.link w.os w.socketFd := fun _ _ => rfl
  have herror : Link.sockets.soError l w.socketFd = (11, l) := rfl
  rw [hset, ← hrecv]
  simp only [K.soError_eq, herror]
  by_cases hzero : rc = 0
  · rw [if_pos hzero, if_pos hzero]
  · rw [if_neg hzero, if_neg hzero]
    by_cases hneg : rc < 0
    · rw [if_pos hneg, if_pos hneg]
      simp [Link.sockets]
    · rw [if_neg hneg, if_neg hneg]

/-- The port has what the pipe has, in its ring and on the link of its socket, and the rest of the network is as in
`os`. -/
def Carries (fd : Int) (os : ω) (w : Rtsocket ρ ω) (p : Pipe) : Prop :=
  w.socketFd = fd ∧ R.content w.rxRingbuff = p.buffer ∧ w.os = K.set os fd p.link

/-- The port is in lockstep with the pipe. -/
theorem lockstep (fd : Int) (os : ω) :
    Lockstep (rtsocketFeed R S) Pipe.line.feed (K.Carries R fd os)
      (fun w p => K.Carries R fd os w p ∧ R.content w.rxRingbuff = []) where
  count_eq := by
    rintro w p ⟨-, hbuffer, -⟩ len
    exact (rtsocket_lockstep R).count_eq (w := ⟨fd, w.rxRingbuff, p.link⟩) ⟨hbuffer, rfl⟩ len
  bytes_eq := by
    rintro w p ⟨-, hbuffer, -⟩ len
    exact (rtsocket_lockstep R).bytes_eq (w := ⟨fd, w.rxRingbuff, p.link⟩) ⟨hbuffer, rfl⟩ len
  rel_read := by
    rintro w p ⟨hfd, hbuffer, hos⟩ len
    have hread := Piped.read (w := ⟨fd, w.rxRingbuff, p.link⟩) ⟨hbuffer, rfl⟩ len
    exact ⟨hfd, hread.1, hos⟩
  dry_read := by
    rintro w p ⟨hfd, hbuffer, hos⟩ len hshort
    have hread := Piped.read (w := ⟨fd, w.rxRingbuff, p.link⟩) ⟨hbuffer, rfl⟩ len
    exact ⟨⟨hfd, hread.1, hos⟩, ringRead_short R hshort⟩
  code_eq := by
    rintro w ⟨buffer, l⟩ ⟨⟨rfl, hbuffer, hos⟩, hdry⟩ t
    obtain rfl : [] = buffer := hdry.symm.trans hbuffer
    have hlink : K.link w.os w.socketFd = l := by rw [hos, K.link_set]
    show _ = (modbusRtsocketWait R S w t).1
    rw [K.wait_eq, hlink]
    exact (modbusRtsocketWait_link R ⟨w.socketFd, w.rxRingbuff, l⟩ hdry t).1.symm
  rel_wait := by
    rintro w ⟨buffer, l⟩ ⟨⟨rfl, hbuffer, hos⟩, hdry⟩ t
    obtain rfl : [] = buffer := hdry.symm.trans hbuffer
    have hlink : K.link w.os w.socketFd = l := by rw [hos, K.link_set]
    obtain ⟨-, hring, hqueue⟩ := modbusRtsocketWait_link R ⟨w.socketFd, w.rxRingbuff, l⟩ hdry t
    show K.Carries R w.socketFd os (modbusRtsocketWait R S w t).2 _
    rw [K.wait_eq, hlink]
    refine ⟨rfl, hring, ?_⟩
    show K.set w.os _ _ = _
    rw [hqueue, hos, K.set_set]
    rfl

end Sockets.Linked

section Frame

variable {S : Sockets ω} (K : S.Linked) {R : Fifo ρ UInt8 256} {smb : Smb (Rtsocket ρ ω)} {core : Core}
  (h : Ready smb core (rtsocketPort R S)) {ring : ρ} (hdry : R.content ring = []) {os : ω} {fd : Int}
  {frame : List UInt8} (hqueue : (K.link os fd).queue = frame) (old : Buffer UInt8 n) (hn : modbusMaxAduLength ≤ n)
  {fuel : Nat} (hfuel : 2 * n + 2 < fuel)

include h hdry hqueue hn hfuel

/-- **A request on a connection** is received whole and alone. -/
theorem modbusSlaveWait_linked {tid : UInt16} {a : UInt8} {pdu : List UInt8} (hframe : frame = core.adu tid a pdu)
    (ha : smb.Admits a) (hsize : slaveFormat.Sized pdu) (hlen : frame.length ≤ modbusMaxAduLength) (t : Int) :
    ∃ ring' l, modbusSlaveWait fuel smb ⟨fd, ring, os⟩ old t =
        .ok ((frame.length : Nat), core.adopt smb tid, ⟨fd, ring', K.set os fd l⟩, old.fill frame) ∧
      R.content ring' = [] ∧ l.queue = [] := by
  subst hframe
  have hcarries : K.Carries R fd os ⟨fd, ring, os⟩ ⟨[], K.link os fd⟩ := ⟨rfl, hdry, (K.set_link os fd).symm⟩
  obtain ⟨⟨ret, smb', w', request⟩, hrun⟩ := (rtsocket_returns R S h old hn ⟨fd, ring, os⟩ hfuel).1 t
  have hrel := (K.lockstep R fd os).slaveWait (rtsocketFeed_clean R S) h fuel old t hcarries
  rw [hrun] at hrel
  obtain ⟨⟨ret₂, smb₂, p, request₂⟩, hpipe, hret, hsmb, ⟨hfd, hring, hos⟩, hrequest⟩ := hrel.of_ok
  obtain rfl : ret = ret₂ := hret
  obtain rfl : request = request₂ := hrequest
  have hrem : Pipe.line.rem ⟨[], K.link os fd⟩ = core.adu tid a pdu ++ [] := hqueue.trans (List.append_nil _).symm
  obtain ⟨rfl, hadopt, rfl, hrest⟩ := modbusSlaveWait_adu Pipe.line (h.onPort Pipe.port) old hn Pipe.steady.prompt ha
    hsize hlen hrem hpipe
  obtain ⟨hbuffer, hnil⟩ := List.append_eq_nil_iff.mp hrest
  -- the slave's own context is the one that the pipe's corresponds to
  have hsmb' : smb' = core.adopt smb tid := by
    have hsame : smb'.onPort Pipe.port = (core.adopt smb tid).onPort Pipe.port := by
      rw [← hsmb, hadopt]
      cases core <;> rfl
    calc smb' = (smb'.onPort Pipe.port).onPort (rtsocketPort R S) := (modbusSlaveWait_ready h hrun).onPort_self.symm
      _ = ((core.adopt smb tid).onPort Pipe.port).onPort (rtsocketPort R S) := by rw [hsame]
      _ = core.adopt smb tid := (adopt_ready h core tid).onPort_self
  subst hsmb'
  refine ⟨w'.rxRingbuff, p.link, ?_, hring.trans hbuffer, hnil⟩
  rw [hrun, ← hos, ← hfd]

/-- **A reply on a connection** is received whole and alone, if it is of this transaction. -/
theorem modbusWaitConfirm_linked {a : UInt8} {pdu : List UInt8} (hframe : frame = core.adu smb.transferId a pdu)
    (ha : smb.Admits a) (hsize : confirmFormat.Sized pdu) (hlen : frame.length ≤ modbusMaxAduLength) :
    ∃ ring' l, modbusWaitConfirm fuel smb ⟨fd, ring, os⟩ old =
        .ok ((frame.length : Nat), ⟨fd, ring', K.set os fd l⟩, old.fill frame) ∧
      R.content ring' = [] ∧ l.queue = [] := by
  subst hframe
  have hcarries : K.Carries R fd os ⟨fd, ring, os⟩ ⟨[], K.link os fd⟩ := ⟨rfl, hdry, (K.set_link os fd).symm⟩
  obtain ⟨⟨ret, w', response⟩, hrun⟩ := (rtsocket_returns R S h old hn ⟨fd, ring, os⟩ hfuel).2
  have hrel := (K.lockstep R fd os).waitConfirm (rtsocketFeed_clean R S) h fuel old hcarries
  rw [hrun] at hrel
  obtain ⟨⟨ret₂, p, response₂⟩, hpipe, hret, ⟨hfd, hring, hos⟩, hresponse⟩ := hrel.of_ok
  obtain rfl : ret = ret₂ := hret
  obtain rfl : response = response₂ := hresponse
  have hrem : Pipe.line.rem ⟨[], K.link os fd⟩ = core.adu smb.transferId a pdu ++ [] :=
    hqueue.trans (List.append_nil _).symm
  obtain ⟨rfl, rfl, hrest⟩ := modbusWaitConfirm_adu Pipe.line (h.onPort Pipe.port) old hn Pipe.steady.prompt ha
    hsize hlen hrem hpipe
  obtain ⟨hbuffer, hnil⟩ := List.append_eq_nil_iff.mp hrest
  refine ⟨w'.rxRingbuff, p.link, ?_, hring.trans hbuffer, hnil⟩
  rw [hrun, ← hos, ← hfd]
  rfl

end Frame

/-! ## §2 — the connections. -/

/-- Bytes that were sent on a link. -/
def Link.arrive (l : Link) (data : List UInt8) : Link := { l with queue := l.queue ++ data }

/-- The connections of the slave, by the descriptors it has for them: what comes in from the master at the other end,
and what goes out to it. -/
structure Lines where
  toSlave : Int → Link
  toMaster : Int → Link

namespace Lines

/-- The socket layer of the slave. -/
def slave : Sockets Lines where
  send net fd data := { net with toMaster := Function.update net.toMaster fd ((net.toMaster fd).arrive data) }
  recv net fd len :=
    ((Link.sockets.recv (net.toSlave fd) fd len).1, (Link.sockets.recv (net.toSlave fd) fd len).2.1,
      { net with toSlave := Function.update net.toSlave fd (Link.sockets.recv (net.toSlave fd) fd len).2.2 })
  setRcvTimeout net _ _ _ := net
  soError net _ := (11, net)
  closesocket net _ := net
  connect net := (.ok 0, net)
  eintr := 4
  ewouldblock := 11
  eagain := 11
  recv_le net fd len := Link.sockets.recv_le (net.toSlave fd) fd len
  length_recv net fd len := Link.sockets.length_recv (net.toSlave fd) fd len

/-- The socket layer of the master at the other end of a connection, which is the only one it has. -/
def master (i : Int) : Sockets Lines where
  send net _ data := { net with toSlave := Function.update net.toSlave i ((net.toSlave i).arrive data) }
  recv net fd len :=
    ((Link.sockets.recv (net.toMaster i) fd len).1, (Link.sockets.recv (net.toMaster i) fd len).2.1,
      { net with toMaster := Function.update net.toMaster i (Link.sockets.recv (net.toMaster i) fd len).2.2 })
  setRcvTimeout net _ _ _ := net
  soError net _ := (11, net)
  closesocket net _ := net
  connect net := (.ok 0, net)
  eintr := 4
  ewouldblock := 11
  eagain := 11
  recv_le net fd len := Link.sockets.recv_le (net.toMaster i) fd len
  length_recv net fd len := Link.sockets.length_recv (net.toMaster i) fd len

def slaveLinked : slave.Linked where
  link net fd := net.toSlave fd
  set net fd l := { net with toSlave := Function.update net.toSlave fd l }
  link_set net fd l := Function.update_self fd l net.toSlave
  set_link net fd := by simp
  set_set net fd l l' := by simp
  recv_eq _ _ _ := rfl
  setRcvTimeout_eq _ _ _ _ := rfl
  soError_eq _ _ := rfl

def masterLinked (i : Int) : (master i).Linked where
  link net _ := net.toMaster i
  set net _ l := { net with toMaster := Function.update net.toMaster i l }
  link_set net _ l := Function.update_self i l net.toMaster
  set_link net _ := by simp
  set_set net _ l l' := by simp
  recv_eq _ _ _ := rfl
  setRcvTimeout_eq _ _ _ _ := rfl
  soError_eq _ _ := rfl

end Lines

/-! ## §3 — the halves of an operation. -/

namespace Operation

/-- The first half: the request is sent. -/
def ask (o : Operation) (smb : Smb σ) (w : σ) : Exec (Int × Smb σ × σ) := do
  let (ret, smb, w, request) ← modbusStartRequest smb w smb.writeBuff o.function o.addr o.num o.writeData
  return (ret, { smb with writeBuff := request }, w)

/-- The second half: the reply to a request of this length is waited for and handled. -/
def collect (o : Operation) (fuel : Nat) (smb : Smb σ) (w : σ) (requestLen : UInt16) :
    Exec (Int × Smb σ × σ × Buffer UInt8 o.n) := do
  let (ret, w, response) ← modbusWaitConfirm fuel smb w smb.readBuff
  let smb := { smb with readBuff := response }
  if 0 ≥ ret then
    return (ret, smb, w, o.readData)
  else
    let (ret, readData) ← modbusHandleConfirm smb smb.writeBuff requestLen smb.readBuff (toU16 ret) o.readData
    return (ret, smb, w, readData)

/-- An operation is the one after the other. -/
theorem run_halves {smb : Smb σ} (hctx : modbusContextCheck smb = modbusOk) (o : Operation) (fuel : Nat) (w : σ) :
    o.run fuel smb w = (o.ask smb w >>= fun x =>
      if 0 > x.1 then .ok (x.1, x.2.1, x.2.2, o.readData) else o.collect fuel x.2.1 x.2.2 (toU16 x.1)) := by
  unfold run ask masterOperation
  simp only [hctx, ne_eq, not_true, if_false]
  rw [bind_assoc]
  rfl

variable {smb : Smb σ} {core : Core} {port : Port σ} (h : Ready smb core port)

include h

/-- The request is handed to the port, and the context waits for its reply. -/
theorem ask_eq {o : Operation} (hs : Sendable o.function o.addr o.num o.writeData) (w : σ) {frame : List UInt8}
    (hframe : frame = requestFrame core smb o.function o.addr o.num o.writeData) :
    o.ask smb w = .ok ((modbusWrite smb w frame).1, waitingContext core smb frame, (modbusWrite smb w frame).2) := by
  subst hframe
  unfold ask
  rw [modbusStartRequest_run h w smb.writeBuff le_rfl hs, exec_ok_bind]
  cases core <;> rfl

end Operation

section Collect

variable {S : Sockets ω} (K : S.Linked) {R : Fifo ρ UInt8 256} {smb : Smb (Rtsocket ρ ω)} {core : Core}
  (h : Ready smb core (rtsocketPort R S)) {ring : ρ} (hdry : R.content ring = []) {os : ω} {fd : Int}
  {fuel : Nat} (hfuel : 2 * modbusMaxAduLength + 2 < fuel)

include h hdry hfuel

/-- With the reply on the connection the operation comes to its end. -/
theorem Operation.collect_linked {o : Operation} {request reply : List UInt8} {pdu : List UInt8}
    (hqueue : (K.link os fd).queue = reply)
    (hreply : reply = core.adu (core.requestContext smb).transferId smb.slaveAddr pdu)
    (hsize : confirmFormat.Sized pdu) (hlen : reply.length ≤ modbusMaxAduLength) {ret : Int} {out : Buffer UInt8 o.n}
    (hconfirm : ∀ smb₁ requestLen, Ready smb₁ core (rtsocketPort R S) →
      modbusHandleConfirm smb₁ (smb.writeBuff.fill request) requestLen (smb.readBuff.fill reply)
        (toU16 (reply.length : Nat)) o.readData = .ok (ret, out)) (requestLen : UInt16) :
    ∃ ring' l, o.collect fuel (waitingContext core smb request) ⟨fd, ring, os⟩ requestLen =
        .ok (ret, confirmedContext core smb request reply, ⟨fd, ring', K.set os fd l⟩, out) ∧
      R.content ring' = [] ∧ l.queue = [] := by
  obtain ⟨ring', l, hwait, hdry', hnil⟩ := modbusWaitConfirm_linked K (waitingContext_ready h request) hdry hqueue
    smb.readBuff le_rfl hfuel hreply (Or.inl (requestContext_slaveAddr core smb).symm) hsize hlen
  have hpos : 0 < reply.length := by
    have := core.lenHeader_pos
    rw [hreply, Core.length_adu]
    omega
  refine ⟨ring', l, ?_, hdry', hnil⟩
  have hbuff : (waitingContext core smb request).readBuff = smb.readBuff := by cases core <;> rfl
  unfold Operation.collect
  rw [hbuff, hwait, exec_ok_bind]
  dsimp only
  rw [if_neg (by omega)]
  show (modbusHandleConfirm (confirmedContext core smb request reply) (smb.writeBuff.fill request) _
    (smb.readBuff.fill reply) _ _ >>= _) = _
  rw [hconfirm _ _ (confirmedContext_ready h request reply), exec_ok_bind]
  rfl

end Collect

/-! ## §4 — the slave and its masters. -/

/-- A master: its context, its port but for the network, and the operation it waits for with the length of its
request. -/
structure MasterEnd (ρ : Type) where
  smb : Smb (Rtsocket ρ Lines)
  socketFd : Int
  rxRingbuff : ρ
  waiting : Option (MasterCall × UInt16)

/-- The slave, whose device has the network, and for each of its descriptors the master at the other end. -/
structure Sharing (ρ η : Type) where
  slave : SlaveState (Rtsocket ρ Lines) (Vio η)
  master : Int → MasterEnd ρ

/-- An update of a table from the hardware. -/
structure LowlevelUpdate where
  op : ReadOp
  addr : UInt16
  num : UInt16
  buffer : List UInt8

def LowlevelUpdate.call (u : LowlevelUpdate) : PlantCall := .lowlevelUpdate u.op u.addr u.num u.buffer

/-- What happens: a master starts an operation, the slave serves a client, a master ends its operation, the inputs are
updated, or the network hands over the bytes of its connections in other pieces. -/
inductive Move
  | ask (i : Int) (call : MasterCall)
  | turn (i : Int)
  | collect (i : Int)
  | update (u : LowlevelUpdate)
  | cut (toSlave toMaster : Int → List Nat)

namespace Sharing

/-- What the masters and the hardware see. -/
abbrev Seen := Event Int MasterCall (Int × List UInt8) LowlevelUpdate

abbrev net (s : Sharing ρ η) : Lines := s.slave.device.os

/-- The device of a master. -/
def device (s : Sharing ρ η) (i : Int) : Rtsocket ρ Lines := ⟨(s.master i).socketFd, (s.master i).rxRingbuff, s.net⟩

/-- A master has done something. -/
def put (s : Sharing ρ η) (i : Int) (smb : Smb (Rtsocket ρ Lines)) (w : Rtsocket ρ Lines)
    (waiting : Option (MasterCall × UInt16)) : Sharing ρ η where
  slave := { s.slave with device := { s.slave.device with os := w.os } }
  master := Function.update s.master i ⟨smb, w.socketFd, w.rxRingbuff, waiting⟩

/-- What comes of a move, and what is seen of it. An operation whose request is not sent returns at once. -/
def step (vioLowlevelUpdate : Vio η → Vio η) (fuel : Nat) : Move → Sharing ρ η → Exec (Sharing ρ η × List Seen)
  | .ask i call, s => do
      let (ret, smb, w) ← call.operation.ask (s.master i).smb (s.device i)
      if 0 > ret then
        return (s.put i smb w none, [.call i call, .ret i (ret, call.operation.readData.toList)])
      else
        return (s.put i smb w (some (call, toU16 ret)), [.call i call])
  | .turn i, s => do
      let (_, slave) ← serveClient Lines.slave fuel (some (testModbusSlaveCallback vioLowlevelUpdate))
        modbusWaitForever i s.slave
      return ({ s with slave := slave }, [.serve i])
  | .collect i, s =>
      match (s.master i).waiting with
      | none => .ok (s, [])
      | some (call, requestLen) => do
          let (ret, smb, w, readData) ← call.operation.collect fuel (s.master i).smb (s.device i) requestLen
          return (s.put i smb w none, [.ret i (ret, readData.toList)])
  | .update u, s => do
      let (_, board) ← s.slave.app.board.lowlevelUpdate u.op u.addr u.num u.buffer
      return ({ s with slave := { s.slave with app := { s.slave.app with board := board } } }, [.update u])
  | .cut toSlave toMaster, s =>
      .ok ({ s with slave := { s.slave with device := { s.slave.device with os :=
        { toSlave := fun i => { s.net.toSlave i with grants := toSlave i },
          toMaster := fun i => { s.net.toMaster i with grants := toMaster i } } } } }, [])

/-- A master makes one call at a time. The slave serves a client that has something to read, and a master ends an
operation when there is something to read for it. -/
def Enabled (s : Sharing ρ η) : Move → Prop
  | .ask i call => (s.master i).waiting = none ∧ (PlantCall.master call).Admissible
  | .turn i => (s.net.toSlave i).queue ≠ []
  | .collect i => (s.master i).waiting ≠ none ∧ (s.net.toMaster i).queue ≠ []
  | .update u => u.call.Admissible
  | .cut _ _ => True

instance (s : Sharing ρ η) : DecidablePred s.Enabled
  | .ask _ _ => inferInstanceAs (Decidable (_ ∧ _))
  | .turn _ => inferInstanceAs (Decidable (_ ≠ _))
  | .collect _ => inferInstanceAs (Decidable (_ ∧ _))
  | .update u => inferInstanceAs (Decidable u.call.Admissible)
  | .cut _ _ => inferInstanceAs (Decidable True)

/-- A move that can be made, and returns. -/
def Makes (vioLowlevelUpdate : Vio η → Vio η) (fuel : Nat) (s : Sharing ρ η) (es : List Seen) (s' : Sharing ρ η) :
    Prop :=
  ∃ m, s.Enabled m ∧ step vioLowlevelUpdate fuel m s = .ok (s', es)

/-- The moves one after the other, but for those that cannot be made. -/
def moves (vioLowlevelUpdate : Vio η → Vio η) (fuel : Nat) : List Move → Sharing ρ η → Exec (Sharing ρ η × List Seen)
  | [], s => .ok (s, [])
  | m :: ms, s =>
      if s.Enabled m then do
        let (s, es) ← step vioLowlevelUpdate fuel m s
        let (s, es') ← moves vioLowlevelUpdate fuel ms s
        return (s, es ++ es')
      else moves vioLowlevelUpdate fuel ms s

theorem trace_of_moves {vioLowlevelUpdate : Vio η → Vio η} {fuel : Nat} {ms : List Move} {s s' : Sharing ρ η}
    {es : List Seen} (h : moves vioLowlevelUpdate fuel ms s = .ok (s', es)) :
    Trace (Makes vioLowlevelUpdate fuel) s es s' := by
  induction ms generalizing s es with
  | nil =>
    cases h
    exact .refl _
  | cons m ms ih =>
    rw [moves] at h
    split at h
    · rename_i henabled
      obtain ⟨⟨s₁, es₁⟩, hstep, h⟩ := bind_eq_ok.mp h
      obtain ⟨⟨s₂, es₂⟩, hmoves, h⟩ := bind_eq_ok.mp h
      cases h
      have hmakes : Makes vioLowlevelUpdate fuel s es₁ s₁ := ⟨m, henabled, hstep⟩
      exact (Trace.single hmakes).trans (ih hmoves)
    · exact ih h

end Sharing

/-! ## §5 — where the masters are. -/

/-- The master is bound to its connection and addresses the slave, and nothing is in its ring. -/
structure MasterEnd.Bound (R : Fifo ρ UInt8 256) (core : Core) (i : Int) (slaveAddr : UInt8) (e : MasterEnd ρ) :
    Prop where
  ready : Ready e.smb core (rtsocketPort R (Lines.master i))
  addr_eq : e.smb.slaveAddr = slaveAddr
  dry : R.content e.rxRingbuff = []

/-- The frame of the request of a call. -/
def MasterCall.frame (core : Core) (smb : Smb σ) (call : MasterCall) : List UInt8 :=
  requestFrame core smb call.operation.function call.operation.addr call.operation.num call.operation.writeData

/-- From the context `smb` on the master has made this call. -/
structure MasterEnd.Asked (R : Fifo ρ UInt8 256) (core : Core) (i : Int) (e : MasterEnd ρ)
    (smb : Smb (Rtsocket ρ Lines)) (call : MasterCall) : Prop where
  ready : Ready smb core (rtsocketPort R (Lines.master i))
  admissible : (PlantCall.master call).Admissible
  smb_eq : e.smb = waitingContext core smb (call.frame core smb)
  waiting : ∃ requestLen, e.waiting = some (call, requestLen)

/-- This reply is one with which the master comes to this result. -/
structure MasterCall.Concludes (R : Fifo ρ UInt8 256) (core : Core) (i : Int) (smb : Smb (Rtsocket ρ Lines))
    (call : MasterCall) (reply : List UInt8) (result : Int × List UInt8) : Prop where
  adu : ∃ pdu, reply = core.adu (core.requestContext smb).transferId smb.slaveAddr pdu ∧ confirmFormat.Sized pdu
  length_le : reply.length ≤ modbusMaxAduLength
  confirm : ∃ out, result = (result.1, out.toList) ∧
    ∀ smb₁ requestLen, Ready smb₁ core (rtsocketPort R (Lines.master i)) →
      modbusHandleConfirm smb₁ (smb.writeBuff.fill (call.frame core smb)) requestLen (smb.readBuff.fill reply)
        (toU16 (reply.length : Nat)) call.operation.readData = .ok (result.1, out)

/-- What the master is at, with these bytes on their way to the slave and to it. -/
def MasterEnd.Stands (R : Fifo ρ UInt8 256) (core : Core) (i : Int) (e : MasterEnd ρ) (toSlave toMaster : List UInt8) :
    Status MasterCall (Int × List UInt8) → Prop
  | .idle => e.waiting = none ∧ toSlave = [] ∧ toMaster = []
  | .asked call => ∃ smb, e.Asked R core i smb call ∧ toSlave = call.frame core smb ∧ toMaster = []
  | .answered result => ∃ smb call, e.Asked R core i smb call ∧ toSlave = [] ∧
      call.Concludes R core i smb toMaster result

namespace Sharing

/-- The atomic object of the board. -/
abbrev Plant (η : Type) := AtomicObject Int MasterCall (Int × List UInt8) (Vio η)

/-- The effect of a call of a master on the board. -/
def serves (vioLowlevelUpdate : Vio η → Vio η) (v : Vio η) (call : MasterCall) (result : Int × List UInt8)
    (v' : Vio η) : Prop :=
  PlantCall.serves vioLowlevelUpdate v (.master call) result v'

/-- The effect of an update from the hardware. -/
def acts (vioLowlevelUpdate : Vio η → Vio η) (v : Vio η) (u : LowlevelUpdate) (v' : Vio η) : Prop :=
  ∃ result, PlantCall.serves vioLowlevelUpdate v u.call result v'

/-- The slave is between two turns, and what the masters are at is what the object says. -/
structure Explained (R : Fifo ρ UInt8 256) (core : Core) (s : Sharing ρ η) (a : Plant η) : Prop where
  memory : a.memory = s.slave.app
  slave : Ready s.slave.smb core (rtsocketPort R Lines.slave)
  dry : R.content s.slave.device.rxRingbuff = []
  bound : ∀ i, (s.master i).Bound R core i s.slave.smb.slaveAddr
  stands : ∀ i, (s.master i).Stands R core i (s.net.toSlave i).queue (s.net.toMaster i).queue (a.status i)

/-- No master has made a call yet, and nothing is on its way. -/
structure Fresh (R : Fifo ρ UInt8 256) (core : Core) (s : Sharing ρ η) : Prop where
  slave : Ready s.slave.smb core (rtsocketPort R Lines.slave)
  dry : R.content s.slave.device.rxRingbuff = []
  bound : ∀ i, (s.master i).Bound R core i s.slave.smb.slaveAddr
  idle : ∀ i, (s.master i).waiting = none ∧ (s.net.toSlave i).queue = [] ∧ (s.net.toMaster i).queue = []

theorem Fresh.explained {R : Fifo ρ UInt8 256} {core : Core} {s : Sharing ρ η} (h : s.Fresh R core) :
    s.Explained R core ⟨s.slave.app, fun _ => .idle⟩ := ⟨rfl, h.slave, h.dry, h.bound, h.idle⟩

section Moves

variable {R : Fifo ρ UInt8 256} {core : Core} {s : Sharing ρ η} {a : Plant η}
  {vioLowlevelUpdate : Vio η → Vio η} {fuel : Nat}

/-- A master that has done something on its own connection leaves the others as they are. -/
theorem Explained.put (h : s.Explained R core a) {i : Int} {smb : Smb (Rtsocket ρ Lines)} {w : Rtsocket ρ Lines}
    {waiting : Option (MasterCall × UInt16)} {status : Status MasterCall (Int × List UInt8)}
    (hbound : MasterEnd.Bound R core i s.slave.smb.slaveAddr ⟨smb, w.socketFd, w.rxRingbuff, waiting⟩)
    (hstands : MasterEnd.Stands R core i ⟨smb, w.socketFd, w.rxRingbuff, waiting⟩ (w.os.toSlave i).queue
      (w.os.toMaster i).queue status)
    (hothers : ∀ j ≠ i, w.os.toSlave j = s.net.toSlave j ∧ w.os.toMaster j = s.net.toMaster j) :
    (s.put i smb w waiting).Explained R core ⟨a.memory, Function.update a.status i status⟩ := by
  refine ⟨h.memory, h.slave, h.dry, ?_, ?_⟩
  · intro j
    by_cases hij : j = i
    · subst hij
      simpa [Sharing.put] using hbound
    · simpa [Sharing.put, hij] using h.bound j
  · intro j
    by_cases hij : j = i
    · subst hij
      simpa [Sharing.put] using hstands
    · obtain ⟨htoSlave, htoMaster⟩ := hothers j hij
      simpa [Sharing.put, Sharing.net, hij, htoSlave, htoMaster] using h.stands j

/-- A master that does not wait for anything is idle. -/
theorem Explained.status_idle (h : s.Explained R core a) {i : Int} (hwaiting : (s.master i).waiting = none) :
    a.status i = .idle ∧ (s.net.toSlave i).queue = [] ∧ (s.net.toMaster i).queue = [] := by
  have hstands := h.stands i
  cases hstatus : a.status i with
  | idle =>
    rw [hstatus] at hstands
    exact ⟨rfl, hstands.2⟩
  | asked call =>
    rw [hstatus] at hstands
    obtain ⟨smb, hasked, -⟩ := hstands
    obtain ⟨requestLen, hsome⟩ := hasked.waiting
    simp [hwaiting] at hsome
  | answered result =>
    rw [hstatus] at hstands
    obtain ⟨smb, call, hasked, -⟩ := hstands
    obtain ⟨requestLen, hsome⟩ := hasked.waiting
    simp [hwaiting] at hsome

/-- A call is on its way. -/
theorem Explained.ask (h : s.Explained R core a) {i : Int} {call : MasterCall} (henabled : s.Enabled (.ask i call)) :
    ∃ s', step vioLowlevelUpdate fuel (.ask i call) s = .ok (s', [.call i call]) ∧
      a.status i = .idle ∧ s'.Explained R core ⟨a.memory, Function.update a.status i (.asked call)⟩ := by
  obtain ⟨hwaiting, hadmissible⟩ := henabled
  obtain ⟨hidle, htoSlave, htoMaster⟩ := h.status_idle hwaiting
  obtain ⟨hready, haddr, hdry⟩ := h.bound i
  have hs := (MasterCall.exchanged vioLowlevelUpdate core (rtsocketPort R (Lines.master i)) (s.master i).smb s.slave.smb
    s.slave.app hadmissible).1
  obtain ⟨frame, hframe⟩ : ∃ frame, frame = call.frame core (s.master i).smb := ⟨_, rfl⟩
  have hask := Operation.ask_eq hready hs (s.device i) hframe
  have hwrite : modbusWrite (s.master i).smb (s.device i) frame = modbusRtsocketWrite (Lines.master i) (s.device i) frame :=
    hready.write rfl (s.device i) frame
  have hnn : ¬ (0 : Int) > (modbusRtsocketWrite (Lines.master i) (s.device i) frame).1 := by
    show ¬ (0 : Int) > (frame.length : Nat)
    omega
  refine ⟨s.put i (waitingContext core (s.master i).smb frame)
    (modbusRtsocketWrite (Lines.master i) (s.device i) frame).2 (some (call, toU16 (frame.length : Nat))), ?_, hidle,
    h.put ?_ ?_ ?_⟩
  · rw [Sharing.step, hask, hwrite, exec_ok_bind]
    dsimp only
    rw [if_neg hnn]
    rfl
  · exact ⟨waitingContext_ready hready frame, (requestContext_slaveAddr core _).trans haddr, hdry⟩
  · refine ⟨(s.master i).smb, ⟨hready, hadmissible, by rw [hframe], _, rfl⟩, ?_, htoMaster⟩
    show (Function.update s.net.toSlave i ((s.net.toSlave i).arrive frame) i).queue = _
    rw [Function.update_self]
    show (s.net.toSlave i).queue ++ frame = _
    rw [htoSlave, hframe]
    rfl
  · intro j hij
    refine ⟨?_, rfl⟩
    show Function.update s.net.toSlave i _ j = _
    rw [Function.update_of_ne hij]

/-- What is in the request of a master is in the queue of its connection, and a turn serves it. -/
theorem Explained.turn (h : s.Explained R core a) (hfuel : 2 * modbusMaxAduLength + 2 < fuel) {i : Int}
    (henabled : s.Enabled (.turn i)) :
    ∃ s' call result v', step vioLowlevelUpdate fuel (.turn i) s = .ok (s', [.serve i]) ∧
      a.status i = .asked call ∧ serves vioLowlevelUpdate a.memory call result v' ∧
      s'.Explained R core ⟨v', Function.update a.status i (.answered result)⟩ := by
  have hqueue : (s.net.toSlave i).queue ≠ [] := henabled
  have hstands := h.stands i
  obtain ⟨call, hstatus⟩ : ∃ call, a.status i = .asked call := by
    cases hstatus : a.status i with
    | idle =>
      rw [hstatus] at hstands
      exact absurd hstands.2.1 hqueue
    | asked call => exact ⟨call, rfl⟩
    | answered result =>
      rw [hstatus] at hstands
      obtain ⟨smb, call, -, hnil, -⟩ := hstands
      exact absurd hnil hqueue
  rw [hstatus] at hstands
  obtain ⟨smb, hasked, hframe, hnil⟩ := hstands
  have haddr : s.slave.smb.slaveAddr = smb.slaveAddr := by
    rw [← (h.bound i).addr_eq, hasked.smb_eq]
    exact requestContext_slaveAddr core smb
  obtain ⟨hs, reply, ret, out, v', hexchanged, hserves⟩ := MasterCall.exchanged vioLowlevelUpdate core
    (rtsocketPort R (Lines.master i)) smb s.slave.smb s.slave.app hasked.admissible
  obtain ⟨pdu, hreply, hsize, hlen⟩ := hexchanged.reply_adu hs haddr
  -- the turn receives the request and sends the reply
  have hlink : (Lines.slaveLinked.link s.net i).queue = call.frame core smb := hframe
  obtain ⟨ring', l, hwait, hdry, hlnil⟩ := modbusSlaveWait_linked Lines.slaveLinked h.slave h.dry hlink
    s.slave.smb.readBuff le_rfl hfuel rfl (Or.inl haddr.symm) hs.sized.1 (hs.length_adu_le core _ _)
    modbusWaitForever
  obtain ⟨readBuff', writeBuff', hhandle⟩ := hexchanged.handled hs haddr h.slave rfl hwait
  obtain ⟨slave', hslave'⟩ : ∃ slave' : Smb (Rtsocket ρ Lines), slave' =
      { core.adopt s.slave.smb (core.requestContext smb).transferId with
        readBuff := readBuff', writeBuff := writeBuff' } := ⟨_, rfl⟩
  obtain ⟨w', hw'⟩ : ∃ w', w' =
      (modbusRtsocketWrite Lines.slave ⟨i, ring', Lines.slaveLinked.set s.net i l⟩ reply).2 := ⟨_, rfl⟩
  have hsent : modbusWrite s.slave.smb ⟨i, ring', Lines.slaveLinked.set s.net i l⟩ reply =
      (((reply.length : Nat) : Int), w') := by
    rw [h.slave.write rfl, hw']
    rfl
  rw [hsent, ← hslave'] at hhandle
  have hserve : serveClient Lines.slave fuel (some (testModbusSlaveCallback vioLowlevelUpdate)) modbusWaitForever i
      s.slave = .ok ((reply.length : Nat), ⟨slave', w', v'⟩) := by
    have hpos : 0 < reply.length := by
      have := core.lenHeader_pos
      rw [hreply, Core.length_adu]
      omega
    unfold serveClient
    dsimp only
    rw [show modbusTcpSetSocket s.slave.device i = ⟨i, s.slave.device.rxRingbuff, s.net⟩ from rfl, hhandle, exec_ok_bind]
    dsimp only
    rw [if_pos (by omega)]
    rfl
  have haddr' : slave'.slaveAddr = s.slave.smb.slaveAddr := by
    rw [hslave']
    exact adopt_slaveAddr core s.slave.smb _
  refine ⟨{ s with slave := ⟨slave', w', v'⟩ }, call, (ret, out.toList), v', ?_, hstatus, ?_, ⟨rfl, ?_, ?_, ?_, ?_⟩⟩
  · rw [Sharing.step, hserve, exec_ok_bind]
    rfl
  · rw [h.memory]
    exact hserves
  · rw [hslave']
    exact (adopt_ready h.slave core _).congr rfl rfl rfl
  · rw [hw']
    exact hdry
  · intro j
    show (s.master j).Bound R core j slave'.slaveAddr
    rw [haddr']
    exact h.bound j
  · intro j
    show (s.master j).Stands R core j (w'.os.toSlave j).queue (w'.os.toMaster j).queue
      (Function.update a.status i (.answered (ret, out.toList)) j)
    have htoSlave : w'.os.toSlave = Function.update s.net.toSlave i l := by
      rw [hw']
      rfl
    have htoMaster : w'.os.toMaster = Function.update s.net.toMaster i ((s.net.toMaster i).arrive reply) := by
      rw [hw']
      rfl
    rw [htoSlave, htoMaster]
    by_cases hij : j = i
    · subst hij
      rw [Function.update_self, Function.update_self, Function.update_self]
      have hin : ((s.net.toMaster j).arrive reply).queue = reply := by
        show (s.net.toMaster j).queue ++ reply = reply
        rw [hnil, List.nil_append]
      rw [hin]
      obtain ⟨q, tail, r, data, -, -, -, -, hconfirm⟩ := hexchanged
      exact ⟨smb, call, hasked, hlnil, ⟨pdu, hreply, hsize⟩, hlen, out, rfl, hconfirm⟩
    · rw [Function.update_of_ne hij, Function.update_of_ne hij, Function.update_of_ne hij]
      exact h.stands j

/-- With its reply on the connection a master ends its operation. -/
theorem Explained.collect (h : s.Explained R core a) (hfuel : 2 * modbusMaxAduLength + 2 < fuel) {i : Int}
    (henabled : s.Enabled (.collect i)) :
    ∃ s' result, step vioLowlevelUpdate fuel (.collect i) s = .ok (s', [.ret i result]) ∧
      a.status i = .answered result ∧ s'.Explained R core ⟨a.memory, Function.update a.status i .idle⟩ := by
  obtain ⟨-, hqueue⟩ := henabled
  have hstands := h.stands i
  obtain ⟨result, hstatus⟩ : ∃ result, a.status i = .answered result := by
    cases hstatus : a.status i with
    | idle =>
      rw [hstatus] at hstands
      exact absurd hstands.2.2 hqueue
    | asked call =>
      rw [hstatus] at hstands
      obtain ⟨smb, -, -, hnil⟩ := hstands
      exact absurd hnil hqueue
    | answered result => exact ⟨result, rfl⟩
  rw [hstatus] at hstands
  obtain ⟨smb, call, hasked, htoSlave, ⟨pdu, hreply, hsize⟩, hlen, out, hresult, hconfirm⟩ := hstands
  obtain ⟨hready, haddr, hdry⟩ := h.bound i
  obtain ⟨requestLen, hwaiting⟩ := hasked.waiting
  have hlink : ((Lines.masterLinked i).link s.net (s.master i).socketFd).queue = (s.net.toMaster i).queue := rfl
  obtain ⟨ring', l, hcollect, hdry', hnil⟩ := Operation.collect_linked (Lines.masterLinked i) hasked.ready hdry hfuel
    hlink hreply hsize hlen hconfirm requestLen
  refine ⟨s.put i (confirmedContext core smb (call.frame core smb) (s.net.toMaster i).queue)
    ⟨(s.master i).socketFd, ring', (Lines.masterLinked i).set s.net (s.master i).socketFd l⟩ none, result, ?_, hstatus,
    h.put ?_ ?_ ?_⟩
  · rw [Sharing.step, hwaiting]
    dsimp only
    rw [show s.device i = ⟨(s.master i).socketFd, (s.master i).rxRingbuff, s.net⟩ from rfl, hasked.smb_eq, hcollect,
      exec_ok_bind, hresult]
    rfl
  · refine ⟨confirmedContext_ready hasked.ready _ _, ?_, hdry'⟩
    rw [← haddr, hasked.smb_eq]
    rfl
  · refine ⟨rfl, htoSlave, ?_⟩
    show (Function.update s.net.toMaster i l i).queue = []
    rw [Function.update_self, hnil]
  · intro j hij
    refine ⟨rfl, ?_⟩
    show Function.update s.net.toMaster i l j = _
    rw [Function.update_of_ne hij]

/-- An update reaches the board only. -/
theorem Explained.lowlevelUpdate (h : s.Explained R core a) {u : LowlevelUpdate} (henabled : s.Enabled (.update u)) :
    ∃ s' v', step vioLowlevelUpdate fuel (.update u) s = .ok (s', [.update u]) ∧
      acts vioLowlevelUpdate a.memory u v' ∧ s'.Explained R core ⟨v', a.status⟩ := by
  obtain ⟨b, hupdate, hbank⟩ := s.slave.app.board.lowlevelUpdate_eq u.op u.addr u.num henabled
  refine ⟨{ s with slave := { s.slave with app := { s.slave.app with board := b } } }, _, ?_, ?_,
    ⟨rfl, h.slave, h.dry, h.bound, h.stands⟩⟩
  · rw [Sharing.step, hupdate, exec_ok_bind]
    rfl
  · rw [h.memory]
    exact ⟨(_, []), rfl, b, rfl, hbank⟩

/-- How the network cuts the bytes does not matter. -/
theorem Explained.cut (h : s.Explained R core a) (toSlave toMaster : Int → List Nat) :
    ∃ s', step vioLowlevelUpdate fuel (.cut toSlave toMaster) s = .ok (s', []) ∧ s'.Explained R core a :=
  ⟨_, rfl, h.memory, h.slave, h.dry, h.bound, h.stands⟩

/-- **Every move returns, and is one of the atomic object.** -/
theorem Explained.move (h : s.Explained R core a) (hfuel : 2 * modbusMaxAduLength + 2 < fuel) {m : Move}
    (henabled : s.Enabled m) :
    ∃ s' es a', step vioLowlevelUpdate fuel m s = .ok (s', es) ∧
      Trace (AtomicObject.Step (serves vioLowlevelUpdate) (acts vioLowlevelUpdate)) a es a' ∧
      s'.Explained R core a' := by
  cases m with
  | ask i call =>
    obtain ⟨s', hstep, hidle, h'⟩ := h.ask henabled
    exact ⟨s', _, _, hstep, .single (.call hidle), h'⟩
  | turn i =>
    obtain ⟨s', call, result, v', hstep, hasked, hserves, h'⟩ := h.turn hfuel henabled
    exact ⟨s', _, _, hstep, .single (.serve hasked hserves), h'⟩
  | collect i =>
    obtain ⟨s', result, hstep, hanswered, h'⟩ := h.collect hfuel henabled
    exact ⟨s', _, _, hstep, .single (.ret hanswered), h'⟩
  | update u =>
    obtain ⟨s', v', hstep, hacts, h'⟩ := h.lowlevelUpdate henabled
    exact ⟨s', _, _, hstep, .single (.update hacts), h'⟩
  | cut toSlave toMaster =>
    obtain ⟨s', hstep, h'⟩ := h.cut toSlave toMaster
    exact ⟨s', _, _, hstep, .refl a, h'⟩

/-- A master that waits can be served, or has been. -/
theorem Explained.waiting_enabled (h : s.Explained R core a) {i : Int} (hwaiting : (s.master i).waiting ≠ none) :
    s.Enabled (.turn i) ∨ s.Enabled (.collect i) := by
  have hstands := h.stands i
  have hpos : ∀ {tid : UInt16} {b : UInt8} {pdu : List UInt8}, core.adu tid b pdu ≠ [] := by
    intro tid b pdu hnil
    have hlen := congrArg List.length hnil
    have := core.lenHeader_pos
    rw [Core.length_adu, List.length_nil] at hlen
    omega
  cases hstatus : a.status i with
  | idle =>
    rw [hstatus] at hstands
    exact absurd hstands.1 hwaiting
  | asked call =>
    rw [hstatus] at hstands
    obtain ⟨smb, -, htoSlave, -⟩ := hstands
    left
    show (s.net.toSlave i).queue ≠ []
    rw [htoSlave]
    exact hpos
  | answered result =>
    rw [hstatus] at hstands
    obtain ⟨smb, call, -, -, ⟨pdu, hreply, -⟩, -⟩ := hstands
    right
    refine ⟨hwaiting, ?_⟩
    rw [hreply]
    exact hpos

end Moves

/-- **The slave is an atomic memory of its masters.** -/
theorem shared_board {R : Fifo ρ UInt8 256} {core : Core} {vioLowlevelUpdate : Vio η → Vio η} {fuel : Nat}
    (hfuel : 2 * modbusMaxAduLength + 2 < fuel) {s₀ s : Sharing ρ η} (hfresh : s₀.Fresh R core) {es : List Seen}
    (hrun : Trace (Makes vioLowlevelUpdate fuel) s₀ es s) :
    (∃ history, Sequential (serves vioLowlevelUpdate) (acts vioLowlevelUpdate) s₀.slave.app history s.slave.app ∧
        Linearizes es history) ∧
      (∀ m, s.Enabled m → ∃ x, step vioLowlevelUpdate fuel m s = .ok x) ∧
      ∀ i, (s.master i).waiting ≠ none → s.Enabled (.turn i) ∨ s.Enabled (.collect i) := by
  have hsim : ∀ (s : Sharing ρ η) (a : Plant η) es s', s.Explained R core a → Makes vioLowlevelUpdate fuel s es s' →
      ∃ a', Trace (AtomicObject.Step (serves vioLowlevelUpdate) (acts vioLowlevelUpdate)) a es a' ∧
        s'.Explained R core a' := by
    rintro s a es s' hrel ⟨m, henabled, hstep⟩
    obtain ⟨s₁, es₁, a', hstep', htrace, hrel'⟩ := hrel.move hfuel henabled
    rw [hstep] at hstep'
    cases hstep'
    exact ⟨a', htrace, hrel'⟩
  obtain ⟨a, htrace, h⟩ := Trace.refines hsim hfresh.explained hrun
  obtain ⟨history, hexplained⟩ := AtomicObject.linearizable (fun _ => rfl) htrace
  refine ⟨⟨history, ?_, hexplained.linearizes⟩, ?_, fun i => h.waiting_enabled⟩
  · rw [← h.memory]
    exact hexplained.sequential
  · intro m henabled
    obtain ⟨s', es', -, hstep, -⟩ := h.move hfuel henabled
    exact ⟨_, hstep⟩

/-- A slave at address 17 and its masters, before the first call. -/
def start (R : Fifo ρ UInt8 256) (ring : ρ) (v : Vio η) : Sharing ρ η where
  slave := ⟨newContext .tcp (rtsocketPort R Lines.slave) 17,
    ⟨-1, ring, ⟨fun _ => ⟨[], [], [], []⟩, fun _ => ⟨[], [], [], []⟩⟩⟩, v⟩
  master i := ⟨newContext .tcp (rtsocketPort R (Lines.master i)) 17, 3, ring, none⟩

theorem start_fresh {R : Fifo ρ UInt8 256} {ring : ρ} (hdry : R.content ring = []) (v : Vio η) :
    (start R ring v).Fresh R .tcp where
  slave := newContext_ready .tcp _ 17
  dry := hdry
  bound _ := ⟨newContext_ready .tcp _ 17, rfl, hdry⟩
  idle _ := ⟨rfl, rfl, rfl⟩

/-- A master reads a register while another writes it. The write gets its turn first, so the read finds it. -/
theorem shared_board_two :
    ∃ (s : Sharing {l : List UInt8 // l.length ≤ 256} Nat) (es : List Seen) (history : List (Effect Int MasterCall
        (Int × List UInt8) LowlevelUpdate)),
      Trace (Makes (fun v : Vio Nat => { v with hardware := v.hardware + 1 }) 600)
        (start (Fifo.ofList UInt8 256) ⟨[], Nat.zero_le 256⟩ ⟨Board.zeroed, 0⟩) es s ∧
      Event.returns 4 es = [(0, [])] ∧ Event.returns 5 es = [(0, [0x34, 0x12])] ∧
      Sequential (serves fun v : Vio Nat => { v with hardware := v.hardware + 1 })
        (acts fun v : Vio Nat => { v with hardware := v.hardware + 1 }) ⟨Board.zeroed, 0⟩ history s.slave.app ∧
      Linearizes es history := by
  obtain ⟨⟨s, es⟩, hmoves, hreturns⟩ := map_eq_ok.mp (show
    (moves (fun v : Vio Nat => { v with hardware := v.hardware + 1 }) 600
      [.ask 5 (.read .registers 40015 1 2 (Buffer.replicate 2 0)), .ask 4 (.write (.register 40015 0x1234)), .turn 6,
        .cut (fun _ => [1, 3]) (fun _ => [2]), .turn 4, .collect 5, .turn 5, .collect 5, .collect 4]
      (start (Fifo.ofList UInt8 256) ⟨[], Nat.zero_le 256⟩ ⟨Board.zeroed, 0⟩)).map
      (fun x => (Event.returns 4 x.2, Event.returns 5 x.2)) = .ok ([(0, [])], [(0, [0x34, 0x12])]) by decide +kernel)
  obtain ⟨hwrite, hread⟩ := Prod.mk.inj hreturns
  have hrun := trace_of_moves hmoves
  obtain ⟨⟨history, hsequential, hlinearizes⟩, -, -⟩ := shared_board (show 2 * 260 + 2 < 600 by decide)
    (start_fresh rfl _) hrun
  exact ⟨s, es, history, hrun, hwrite, hread, hsequential, hlinearizes⟩

end Sharing

end SmallModbus
