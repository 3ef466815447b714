/-
# `SmallModbus.Reconnect` — the master over TCP, its connection, and what becomes of it without one.

The thread of `test_modbus_tcp_matser.c` connects, asks its questions as long as `modbus_tcp_status` is good, and
disconnects when a request fails to read. What `modbus_connect` returned it does not look at. `modbus_tcp_status` is
`SO_ERROR` of `socket_fd`: of a descriptor that is not open there is none, and the status is good.

So there are two kinds of runs. As long as every `modbus_connect` finds an address that answers, the thread holds one
socket and closes it once (`tcp_master_owns`). After the first that does not, it holds nothing and asks forever:
each request of each round times out, no round is broken off, and nobody connects again (`tcp_master_stuck`).
-/
import SmallModbus.MultiDrop
import SmallModbus.Poll
import SmallModbus.Server

namespace SmallModbus

open SmallModbus.Lib

variable {σ ρ ω : Type}

/-! ## §1 — the socket layer. -/

/-- A socket layer with the table of its sockets. On a descriptor that is not open `recv` fails, and `getsockopt`
stores nothing, so that its caller has the 0 it began with. `connect` is the loop of `modbus_tcp_connect` over the
addresses that `getaddrinfo` found, or the code of `getaddrinfo`. -/
structure Sockets.Books (S : Sockets ω) (table : ω → SocketTable) : Prop where
  send : ∀ os fd data, table (S.send os fd data) = table os
  recv : ∀ os fd len, table (S.recv os fd len).2.2 = table os
  setRcvTimeout : ∀ os fd sec usec, table (S.setRcvTimeout os fd sec usec) = table os
  soError : ∀ os fd, table (S.soError os fd).2 = table os
  closesocket : ∀ os fd, table (S.closesocket os fd) = (table os).closesocket fd
  recv_closed : ∀ os fd len, (table os).state fd = none → (S.recv os fd len).1 < 0
  soError_closed : ∀ os fd, (table os).state fd = none → (S.soError os fd).1 = 0
  connect : ∀ os,
    (∃ ret, (S.connect os).1 = .error ret ∧ table (S.connect os).2 = table os) ∨
      ∃ addrList ≠ [], (S.connect os).1 = .ok (Opening.connect.addressLoop addrList (-1) (table os)).1 ∧
        table (S.connect os).2 = (Opening.connect.addressLoop addrList (-1) (table os)).2

/-- With nothing open, the loop over addresses that all fail leaves nothing open. -/
theorem Opening.addressLoop_nothing (o : Opening) {addrList : List Address}
    (hnone : ∀ cur ∈ addrList, ¬ o.Succeeds cur) (socketFd : Int) {os : SocketTable} (hos : ∀ fd, os.state fd = none) :
    ∃ fd os', o.addressLoop addrList socketFd os = (fd, os') ∧ os'.closedTwice = os.closedTwice ∧
      ∀ x, os'.state x = none := by
  induction addrList generalizing socketFd os with
  | nil => exact ⟨socketFd, os, rfl, rfl, hos⟩
  | cons cur rest ih =>
    obtain ⟨hcur, hrest⟩ := List.forall_mem_cons.mp hnone
    rw [addressLoop]
    dsimp only
    by_cases hneg : cur.socket < 0
    · rw [if_pos hneg]
      have hsame : os.socket cur.socket = os := if_pos hneg
      rw [hsame]
      exact ih hrest cur.socket hos
    · rw [if_neg hneg, if_neg fun hret => hcur ⟨by omega, hret⟩]
      have hclosed : ∀ x,
          (((os.socket cur.socket).set cur.socket (o.attempt cur).1).closesocket cur.socket).state x = none := by
        intro x
        by_cases hx : x = cur.socket
        · rw [hx]
          exact SocketTable.state_closesocket_self _ _
        · unfold SocketTable.socket
          rw [if_neg hneg]
          exact (if_neg hx).trans ((if_neg hx).trans ((if_neg hx).trans (hos x)))
      obtain ⟨fd, os', hrun, hlog, hall⟩ := ih hrest cur.socket hclosed
      refine ⟨fd, os', hrun, hlog.trans ?_, hall⟩
      rw [SocketTable.closedTwice_closesocket (by simp)]
      simp

/-! ## §2 — the thread. -/

/-- `modbus_tcp_status`. -/
def modbusTcpStatus (S : Sockets ω) (w : Rtsocket ρ ω) : Int × Rtsocket ρ ω :=
  if w.socketFd ≥ 0 then ((S.soError w.os w.socketFd).1, { w with os := (S.soError w.os w.socketFd).2 })
  else (0, w)

/-- Where the thread is: before `modbus_connect`, at the head of the query loop, or behind it. -/
inductive TcpPhase
  | connecting
  | querying
  | disconnecting
  deriving DecidableEq, Repr

/-- The thread. -/
structure TcpMaster (ρ ω : Type) where
  poller : Poller (Rtsocket ρ ω)
  phase : TcpPhase

namespace TcpMaster

/-- The descriptor of the port. -/
abbrev socketFd (s : TcpMaster ρ ω) : Int := s.poller.device.socketFd

/-- The network behind the port. -/
abbrev os (s : TcpMaster ρ ω) : ω := s.poller.device.os

/-- The thread goes on, with its port in this state. -/
def on (s : TcpMaster ρ ω) (w : Rtsocket ρ ω) (phase : TcpPhase) : TcpMaster ρ ω :=
  ⟨{ s.poller with device := w }, phase⟩

/-- `test_modbus_tcp_master_thread`: a call of `modbus_connect`, a look at the status with a round of requests if it
is good, or a call of `modbus_disconnect`. -/
def step (S : Sockets ω) (fuel : Nat) (s : TcpMaster ρ ω) : Exec (TcpMaster ρ ω) :=
  match s.phase with
  | .connecting => .ok (s.on (modbusConnect s.poller.smb s.poller.device).2 .querying)
  | .querying =>
      let (status, w) := modbusTcpStatus S s.poller.device
      if status = modbusOk then do
        let (through, poller) ← tcpRound fuel tcpPolls { s.poller with device := w }
        return ⟨poller, if through then .querying else .disconnecting⟩
      else .ok (s.on w .disconnecting)
  | .disconnecting => .ok (s.on (modbusDisconnect s.poller.smb s.poller.device).2 .connecting)

/-- The thread takes a step, or anything happens to the network that opens and closes nothing. -/
inductive Step (S : Sockets ω) (table : ω → SocketTable) (fuel : Nat) : TcpMaster ρ ω → TcpMaster ρ ω → Prop
  | thread {s s' : TcpMaster ρ ω} : s.step S fuel = .ok s' → Step S table fuel s s'
  | network (s : TcpMaster ρ ω) (os' : ω) : table os' = table s.os →
      Step S table fuel s (s.on { s.poller.device with os := os' } s.phase)

/-- A run of the thread. -/
abbrev Run (S : Sockets ω) (table : ω → SocketTable) (fuel : Nat) : TcpMaster ρ ω → TcpMaster ρ ω → Prop :=
  Relation.ReflTransGen (Step S table fuel)

/-- So many steps of the thread. -/
def steps (S : Sockets ω) (fuel : Nat) : Nat → TcpMaster ρ ω → Exec (TcpMaster ρ ω)
  | 0, s => .ok s
  | k + 1, s => do
      let s ← s.step S fuel
      steps S fuel k s

theorem run_of_steps {S : Sockets ω} (table : ω → SocketTable) {fuel k : Nat} {s s' : TcpMaster ρ ω}
    (h : steps S fuel k s = .ok s') : Run S table fuel s s' := by
  induction k generalizing s with
  | zero =>
    cases h
    exact .refl
  | succ k ih =>
    rw [steps] at h
    obtain ⟨s₁, hstep, h⟩ := bind_eq_ok.mp h
    exact .head (.thread hstep) (ih h)

end TcpMaster

/-! ## §3 — a request is a run of its port. -/

section PortRuns

/-- Starting a request writes it, or does nothing to the port. -/
theorem modbusStartRequest_portRun {smb smb' : Smb σ} {w w' : σ} {request request' : Buffer UInt8 n}
    {function addr num ret : Int} {writeData : List UInt8}
    (h : modbusStartRequest smb w request function addr num writeData = .ok (ret, smb', w', request')) :
    PortRun (smb, w) (smb', w') := by
  have hconfig := modbusStartRequest_config h
  have hcontext : ∀ w, PortRun (smb, w) (smb', w) := fun w =>
    .single (.context smb smb' w (congrArg Config.modbusMagic hconfig) (congrArg Config.core hconfig)
      (congrArg Config.port hconfig))
  unfold modbusStartRequest at h
  dsimp only at h
  split_ifs at h
  · cases h
    exact hcontext w
  · obtain ⟨core, -, h⟩ := bind_eq_ok.mp h
    obtain ⟨⟨len, smb₁, request₁⟩, -, h⟩ := bind_eq_ok.mp h
    obtain ⟨⟨len', request₂⟩, -, h⟩ := bind_eq_ok.mp h
    obtain ⟨⟨ret', request₃⟩, -, h⟩ := bind_eq_ok.mp h
    dsimp only at h
    split_ifs at h
    · obtain ⟨frame, -, h⟩ := bind_eq_ok.mp h
      cases h
      exact (hcontext w).tail (.write smb' w frame)
    · cases h
      exact hcontext w
  · cases h
    exact hcontext w

/-- **A master operation is a run of its port**: a write and a wait for the confirmation at most. -/
theorem masterOperation_portRun {fuel : Nat} {smb smb' : Smb σ} {w w' : σ} {function addr num ret : Int}
    {writeData : List UInt8} {readData out : Buffer UInt8 n}
    (h : masterOperation fuel smb w function addr num writeData readData = .ok (ret, smb', w', out)) :
    PortRun (smb, w) (smb', w') := by
  unfold masterOperation at h
  dsimp only at h
  split_ifs at h
  · cases h
    exact .refl
  · obtain ⟨⟨ret₁, smb₁, w₁, request⟩, hstart, h⟩ := bind_eq_ok.mp h
    have hsent := (modbusStartRequest_portRun hstart).tail
      (.context smb₁ { smb₁ with writeBuff := request } w₁ rfl rfl rfl)
    dsimp only at h
    split_ifs at h
    · cases h
      exact hsent
    · obtain ⟨⟨ret₂, w₂, response⟩, hwait, h⟩ := bind_eq_ok.mp h
      have hconfirmed := (hsent.tail (.waitConfirm hwait)).tail
        (.context _ { smb₁ with writeBuff := request, readBuff := response } w₂ rfl rfl rfl)
      dsimp only at h
      split_ifs at h
      · cases h
        exact hconfirmed
      · obtain ⟨⟨ret₃, readData'⟩, -, h⟩ := bind_eq_ok.mp h
        cases h
        exact hconfirmed

theorem PollOp.portRun {fuel : Nat} {smb smb' : Smb σ} {w w' : σ} {tempBuff tempBuff' : Buffer UInt8 256} {rc : Int}
    {op : PollOp} (h : op.run fuel smb w tempBuff = .ok (rc, smb', w', tempBuff')) :
    PortRun (smb, w) (smb', w') := by
  cases op with
  | read op addr num =>
    change op.run fuel smb w addr num tempBuff = _ at h
    rw [op.run_eq] at h
    exact masterOperation_portRun h
  | write k addr num =>
    rw [PollOp.run_write] at h
    obtain ⟨⟨rc, smb₁, w₁, out⟩, hrun, heq⟩ := map_eq_ok.mp h
    cases heq
    exact masterOperation_portRun hrun

/-- So are a request and a round of the masters. -/
theorem pollRequest_portRun {fuel : Nat} {op : PollOp} {s s' : Poller σ} {rc : Int}
    (h : pollRequest fuel op s = .ok (rc, s')) : PortRun (s.smb, s.device) (s'.smb, s'.device) := by
  unfold pollRequest at h
  obtain ⟨⟨rc₁, smb₁, w₁, tempBuff⟩, hrun, h⟩ := bind_eq_ok.mp h
  have hflush : PortRun (s.smb, s.device) (s.smb, (modbusErrorRecovery s.smb s.device).2) :=
    .single (.flush s.smb s.device)
  have hslave : PortRun (s.smb, (modbusErrorRecovery s.smb s.device).2)
      ((modbusSetSlave s.smb 1).2, (modbusErrorRecovery s.smb s.device).2) := by
    refine .single (.context _ _ _ ?_ ?_ ?_)
    all_goals
      unfold modbusSetSlave
      dsimp only
      split
      · split
        · rfl
        · rfl
      · rfl
  have hall := (hflush.trans hslave).trans (PollOp.portRun hrun)
  dsimp only at h
  split at h
  · cases h
    exact hall
  · cases h
    exact hall

theorem tcpRound_portRun {fuel : Nat} {ops : List PollOp} {s s' : Poller σ} {through : Bool}
    (h : tcpRound fuel ops s = .ok (through, s')) : PortRun (s.smb, s.device) (s'.smb, s'.device) := by
  induction ops generalizing s with
  | nil =>
    cases h
    exact .refl
  | cons op rest ih =>
    rw [tcpRound] at h
    obtain ⟨⟨rc, s₁⟩, hrequest, h⟩ := bind_eq_ok.mp h
    have hfirst := pollRequest_portRun hrequest
    dsimp only at h
    split at h
    · cases h
      exact hfirst
    · exact hfirst.trans (ih h)

end PortRuns

/-! ## §4 — what a run of the port leaves. -/

section Holds

variable {R : Fifo ρ UInt8 256} {S : Sockets ω} {table : ω → SocketTable} (hS : S.Books table) {core : Core}

/-- The port has this descriptor, and this is open. -/
def Rtsocket.Holds (table : ω → SocketTable) (fd : Int) (sockets : SocketTable) (w : Rtsocket ρ ω) : Prop :=
  w.socketFd = fd ∧ table w.os = sockets

/-- The port holds no open socket, and nothing is left in its ring. -/
def Rtsocket.Idle (R : Fifo ρ UInt8 256) (table : ω → SocketTable) (fd : Int) (w : Rtsocket ρ ω) : Prop :=
  w.socketFd = fd ∧ (table w.os).state fd = none ∧ R.content w.rxRingbuff = []

include hS

theorem modbusRtsocketWait_table (w : Rtsocket ρ ω) (t : Int) :
    (modbusRtsocketWait R S w t).2.socketFd = w.socketFd ∧ table (modbusRtsocketWait R S w t).2.os = table w.os := by
  obtain ⟨sec, usec, rc, rxTemp, os, hrecv, hcases⟩ := modbusRtsocketWait_cases R S w t
  have hos : table os = table w.os := by
    have := hS.recv (S.setRcvTimeout w.os w.socketFd sec usec) w.socketFd 256
    rw [hrecv, hS.setRcvTimeout] at this
    exact this
  rcases hcases with ⟨-, code, os', -, hos', hrun⟩ | ⟨-, hrun⟩
  · rw [hrun]
    refine ⟨rfl, ?_⟩
    rcases hos' with rfl | rfl
    · exact hos
    · exact (hS.soError os w.socketFd).trans hos
  · rw [hrun]
    exact ⟨rfl, hos⟩

/-- On a descriptor that is not open every wait is over at once. -/
theorem modbusRtsocketWait_closed {w : Rtsocket ρ ω} (hclosed : (table w.os).state w.socketFd = none) (t : Int) :
    (modbusRtsocketWait R S w t).1 = modbusTimeout ∧
      (modbusRtsocketWait R S w t).2.rxRingbuff = w.rxRingbuff := by
  have hset := hS.setRcvTimeout w.os w.socketFd (rcvTimeval t).1 (rcvTimeval t).2
  have hneg := hS.recv_closed _ w.socketFd 256 (by rw [hset]; exact hclosed)
  have htable := hS.recv (S.setRcvTimeout w.os w.socketFd (rcvTimeval t).1 (rcvTimeval t).2) w.socketFd 256
  have hzero := hS.soError_closed _ w.socketFd (by rw [htable, hset]; exact hclosed)
  unfold modbusRtsocketWait
  dsimp only
  rw [if_neg hneg.ne, if_pos hneg, if_pos (Or.inl hzero)]
  exact ⟨rfl, rfl⟩

theorem holds_kept (fd : Int) (sockets : SocketTable) :
    Kept (rtsocketFeed R S) (Rtsocket.Holds table fd sockets) (fun _ => True) where
  read h _ := h
  short _ _ _ := trivial
  wait {w} h _ t := by
    obtain ⟨hfd, htable⟩ := modbusRtsocketWait_table (R := R) hS w t
    exact ⟨hfd.trans h.1, htable.trans h.2⟩

theorem idle_kept (fd : Int) : Kept (rtsocketFeed R S) (Rtsocket.Idle R table fd) (fun _ => True) where
  read {w} h len := by
    refine ⟨h.1, h.2.1, ?_⟩
    show R.content (ringRead R w.rxRingbuff len).2.2 = []
    rw [(ringRead_spec R w.rxRingbuff len).2.2, h.2.2, List.drop_nil]
  short _ _ _ := trivial
  wait {w} h _ t := by
    obtain ⟨hfd, htable⟩ := modbusRtsocketWait_table (R := R) hS w t
    obtain ⟨hw, hclosed, hring⟩ := h
    have hsame := (modbusRtsocketWait_closed (R := R) hS (w := w) (hw ▸ hclosed) t).2
    refine ⟨hfd.trans hw, ?_, ?_⟩
    · show (table (modbusRtsocketWait R S w t).2.os).state fd = none
      rw [htable]
      exact hclosed
    · show R.content (modbusRtsocketWait R S w t).2.rxRingbuff = []
      rw [hsame]
      exact hring

variable {smb smb' : Smb (Rtsocket ρ ω)} {w w' : Rtsocket ρ ω} (h : Ready smb core (rtsocketPort R S))

include h

/-- A run of the port opens and closes nothing. -/
theorem portRun_holds {fd : Int} {sockets : SocketTable} (hw : w.Holds table fd sockets)
    (hrun : PortRun (smb, w) (smb', w')) :
    Ready smb' core (rtsocketPort R S) ∧ w'.Holds table fd sockets := by
  refine (holds_kept hS fd sockets).run (rtsocketFeed_clean R S) rfl rfl (fun _ hv => hv) ?_ hrun h hw
  intro v frame hv
  exact ⟨hv.1, (hS.send v.os v.socketFd frame).trans hv.2⟩

omit h in
/-- A port that holds nothing hands over nothing. -/
theorem session_idle {fd : Int} {log : List UInt8} (hw : w.Idle R table fd)
    (hsession : (rtsocketFeed R S).Session w log w') : log = [] ∧ w'.Idle R table fd := by
  induction hsession with
  | refl w => exact ⟨rfl, hw⟩
  | read w len _ ih =>
    obtain ⟨hlog, hidle⟩ := ih ((idle_kept hS fd).read hw len)
    refine ⟨?_, hidle⟩
    have hread : ((rtsocketFeed R S).read w len).2.1 = [] := by
      show (ringRead R w.rxRingbuff len).2.1 = []
      rw [(ringRead_spec R w.rxRingbuff len).2.1, hw.2.2, List.take_nil]
    rw [hread, hlog]
    rfl
  | wait w t _ ih => exact ih ((idle_kept hS fd).wait hw trivial t)

/-- **A confirmation that cannot come** is waited for in vain, and the wait ends as any other that is too long. -/
theorem modbusWaitConfirm_idle {fd : Int} (hw : w.Idle R table fd) (old : Buffer UInt8 n) (hn : modbusMaxAduLength ≤ n)
    {fuel : Nat} (hfuel : 2 * n + 2 < fuel) :
    ∃ w', modbusWaitConfirm fuel smb w old = .ok (modbusTimeout, w', old) := by
  obtain ⟨x, hx⟩ := (rtsocket_returns R S h old hn w hfuel).2
  rcases modbusWaitConfirm_feed (rtsocketFeed_clean R S) h old hn fuel w with hout | ⟨o, ret, w', hok, hrec, hends, -⟩
  · rw [hx] at hout
    cases hout
  obtain ⟨htaken, hidle⟩ := session_idle hS hw hrec.session
  rcases hrec.ends with hdone | ⟨-, code, w₁, t, herror, -, hwait⟩
  · -- the reader wants a header first
    rw [htaken] at hdone
    exact absurd hdone.1 (by simp)
  have hwait : modbusRtsocketWait R S w₁ t = (code, w') := hwait
  obtain ⟨hfd₁, htable₁⟩ := modbusRtsocketWait_table (R := R) hS w₁ t
  rw [hwait] at hfd₁ htable₁
  have hcode : code = modbusTimeout := by
    have hclosed : (table w₁.os).state w₁.socketFd = none := by
      rw [← hfd₁, ← htable₁, hidle.1]
      exact hidle.2.1
    have := (modbusRtsocketWait_closed (R := R) hS hclosed t).1
    rw [hwait] at this
    exact this
  have hret : ret = modbusTimeout := (hends.of_error herror).trans hcode
  rw [htaken, Buffer.fill_nil] at hok
  exact ⟨w', hret ▸ hok⟩

variable {fuel : Nat} (hfuel : 2 * modbusMaxAduLength + 2 < fuel)

include hfuel

/-- Nor can a request that is sent be answered. -/
theorem masterOperation_idle {fd : Int} (hw : w.Idle R table fd) {function addr num : Int} {writeData : List UInt8}
    (hs : Sendable function addr num writeData) (readData : Buffer UInt8 n) :
    ∃ smb' w', masterOperation fuel smb w function addr num writeData readData =
      .ok (modbusTimeout, smb', w', readData) := by
  have hwrite : ∀ frame, modbusWrite smb w frame = modbusRtsocketWrite S w frame := h.write rfl w
  have hsent : ∀ frame, Rtsocket.Idle R table fd (modbusRtsocketWrite S w frame).2 := by
    intro frame
    refine ⟨hw.1, ?_, hw.2.2⟩
    show (table (S.send w.os w.socketFd frame)).state fd = none
    rw [hS.send]
    exact hw.2.1
  rw [masterOperation_eq h hs fuel w readData rfl, hwrite, if_neg (by simp [modbusRtsocketWrite])]
  obtain ⟨w', hwait⟩ := modbusWaitConfirm_idle hS (waitingContext_ready h _) (hsent _) smb.readBuff le_rfl hfuel
  rw [hwait, exec_ok_bind]
  dsimp only
  rw [if_pos (by decide)]
  exact ⟨_, w', rfl⟩

end Holds

/-- The request is in the limits of its operation. -/
def PollOp.Fits : PollOp → Prop
  | .read op _ num => 0 < num ∧ num ≤ op.kind.maxRead
  | .write k _ num => 0 < num ∧ num ≤ k.maxWrite

theorem tcpPolls_fit : ∀ op ∈ tcpPolls, op.Fits := by
  unfold tcpPolls
  simp only [List.forall_mem_cons]
  exact ⟨eight_le_maxRead _, eight_le_maxWrite _, eight_le_maxRead _, eight_le_maxRead _, eight_le_maxWrite _,
    eight_le_maxRead _, by simp⟩

section Unanswered

variable {R : Fifo ρ UInt8 256} {S : Sockets ω} {table : ω → SocketTable} (hS : S.Books table) {core : Core}
  {fuel : Nat} (hfuel : 2 * modbusMaxAduLength + 2 < fuel)

include hS hfuel

theorem PollOp.run_idle {smb : Smb (Rtsocket ρ ω)} {w : Rtsocket ρ ω} (h : Ready smb core (rtsocketPort R S)) {fd : Int}
    (hw : w.Idle R table fd) {op : PollOp} (hop : op.Fits) (tempBuff : Buffer UInt8 256) :
    ∃ smb' w', op.run fuel smb w tempBuff = .ok (modbusTimeout, smb', w', tempBuff) := by
  cases op with
  | read op addr num =>
    show ∃ smb' w', op.run fuel smb w addr num tempBuff = _
    rw [op.run_eq]
    exact masterOperation_idle hS h hfuel hw (op.sendable (op.check_of_num hop addr)) tempBuff
  | write k addr num =>
    have hbytes : k.bytes num ≤ tempBuff.toList.length := by
      have hle : k.bytes num ≤ 246 := k.bytes_maxWrite ▸ k.bytes_mono hop.2
      rw [Buffer.length_toList]
      omega
    obtain ⟨smb', w', hrun⟩ :=
      masterOperation_idle hS h hfuel hw (sendable_writeMultiple k addr hop hbytes) noData
    refine ⟨smb', w', ?_⟩
    rw [PollOp.run_write, hrun]
    rfl

variable {s : Poller (Rtsocket ρ ω)} (h : Ready s.smb core (rtsocketPort R S)) {fd : Int} (hfd : s.device.socketFd = fd)
  (hclosed : (table s.device.os).state fd = none)

include h hfd hclosed

/-- A request without a connection times out, and is counted so. -/
theorem pollRequest_idle {op : PollOp} (hop : op.Fits) :
    ∃ s', pollRequest fuel op s = .ok (modbusTimeout, s') ∧ s'.tempBuff = s.tempBuff ∧
      s'.counters = (s.countOk, s.countErr + 1) := by
  have hflushed : Rtsocket.Idle R table fd (modbusErrorRecovery s.smb s.device).2 := by
    rw [h.errorRecovery rfl]
    exact ⟨hfd, hclosed, R.content_reset s.device.rxRingbuff⟩
  obtain ⟨smb', w', hrun⟩ := PollOp.run_idle hS hfuel (modbusSetSlave_ready h 1) hflushed hop s.tempBuff
  unfold pollRequest
  dsimp only
  rw [hrun, exec_ok_bind]
  dsimp only
  rw [if_neg (by decide)]
  exact ⟨_, rfl, rfl, rfl⟩

/-- **A round without a connection** goes through, and every request in it is an error. -/
theorem tcpRound_idle {ops : List PollOp} (hops : ∀ op ∈ ops, op.Fits) :
    ∃ s', tcpRound fuel ops s = .ok (true, s') ∧
      tcpResults fuel ops s = .ok (List.replicate ops.length modbusTimeout) ∧ s'.tempBuff = s.tempBuff ∧
      s'.counters = (s.countOk, s.countErr + ops.length) := by
  induction ops generalizing s with
  | nil => exact ⟨s, rfl, rfl, rfl, rfl⟩
  | cons op rest ih =>
    obtain ⟨hop, hrest⟩ := List.forall_mem_cons.mp hops
    obtain ⟨s₁, hrequest, htemp, hcounters⟩ := pollRequest_idle hS hfuel h hfd hclosed hop
    obtain ⟨h₁, hfd₁, htable₁⟩ := portRun_holds hS h ⟨hfd, rfl⟩ (pollRequest_portRun hrequest)
    obtain ⟨s', hround, hresults, htemp', hcounters'⟩ := ih h₁ hfd₁ (by rw [htable₁]; exact hclosed) hrest
    obtain ⟨hresults', hround'⟩ := tcpRound_cons hrequest (by decide) ⟨hresults, hround⟩
    refine ⟨s', hround', hresults', htemp'.trans htemp, ?_⟩
    obtain ⟨hok, herr⟩ := Prod.mk.inj hcounters
    rw [hcounters', hok, herr, List.length_cons, Nat.add_assoc, Nat.add_comm 1]

end Unanswered

/-! ## §5 — the thread and its connection. -/

/-- This socket is open and connected, and no other. -/
structure SocketTable.Only (t : SocketTable) (fd : Int) : Prop where
  nonneg : 0 ≤ fd
  state : ∀ x, t.state x = if x = fd then some .connected else none

theorem SocketTable.Only.connected {t : SocketTable} {fd : Int} (h : t.Only fd) : t.state fd = some .connected := by
  rw [h.state, if_pos rfl]

namespace TcpMaster

/-- What the thread has where it is. A thread that asks has a connection, or nothing is open at all. -/
def Has (t : SocketTable) (fd : Int) : TcpPhase → Prop
  | .connecting => fd < 0 ∧ ∀ x, t.state x = none
  | .querying => t.Only fd ∨ ∀ x, t.state x = none
  | .disconnecting => t.Only fd

/-- The invariant of the thread. -/
structure Sound (R : Fifo ρ UInt8 256) (S : Sockets ω) (table : ω → SocketTable) (core : Core) (s : TcpMaster ρ ω) :
    Prop where
  ready : Ready s.poller.smb core (rtsocketPort R S)
  once : (table s.os).closedTwice = []
  has : Has (table s.os) s.socketFd s.phase

/-- The thread asks, there is no connection, and nothing has changed since `s₀` but the count of the errors. -/
structure Stuck (R : Fifo ρ UInt8 256) (S : Sockets ω) (table : ω → SocketTable) (core : Core) (s s₀ : TcpMaster ρ ω) :
    Prop where
  ready : Ready s.poller.smb core (rtsocketPort R S)
  phase : s.phase = .querying
  nothing : ∀ x, (table s.os).state x = none
  socketFd_eq : s.socketFd = s₀.socketFd
  table_eq : table s.os = table s₀.os
  tempBuff_eq : s.poller.tempBuff = s₀.poller.tempBuff
  countOk_eq : s.poller.countOk = s₀.poller.countOk

section Steps

variable {R : Fifo ρ UInt8 256} {S : Sockets ω} {table : ω → SocketTable} (hS : S.Books table) {core : Core}
  {fuel : Nat} (hfuel : 2 * modbusMaxAduLength + 2 < fuel) {s s' : TcpMaster ρ ω}

include hS

/-- The status is asked of the port without a change of what is open. -/
theorem status_holds (w : Rtsocket ρ ω) :
    (modbusTcpStatus S w).2.socketFd = w.socketFd ∧ table (modbusTcpStatus S w).2.os = table w.os := by
  unfold modbusTcpStatus
  split
  · exact ⟨rfl, hS.soError w.os w.socketFd⟩
  · exact ⟨rfl, rfl⟩

/-- Of a descriptor that is not open the status is good. -/
theorem status_closed {w : Rtsocket ρ ω} (hclosed : (table w.os).state w.socketFd = none) :
    (modbusTcpStatus S w).1 = modbusOk := by
  unfold modbusTcpStatus
  split
  · exact hS.soError_closed w.os w.socketFd hclosed
  · rfl

/-- A connection is made, or there is none and nothing is open. -/
theorem connect_has {smb : Smb (Rtsocket ρ ω)} (h : Ready smb core (rtsocketPort R S)) {w : Rtsocket ρ ω}
    (hfd : w.socketFd < 0) (hnone : ∀ x, (table w.os).state x = none) :
    (table (modbusConnect smb w).2.os).closedTwice = (table w.os).closedTwice ∧
      Has (table (modbusConnect smb w).2.os) (modbusConnect smb w).2.socketFd .querying := by
  have hconnect : modbusConnect smb w = modbusTcpConnect S w := by
    unfold modbusConnect
    rw [h.contextCheck, h.port_eq]
    rfl
  rw [hconnect]
  unfold modbusTcpConnect
  rw [if_pos hfd]
  rcases hS.connect w.os with ⟨ret, hret, htable⟩ | ⟨addrList, -, hret, htable⟩
  · -- `getaddrinfo` has failed
    obtain ⟨os', hos'⟩ : ∃ os', S.connect w.os = (.error ret, os') := ⟨_, Prod.ext hret rfl⟩
    rw [hos'] at htable ⊢
    have htable : table os' = table w.os := htable
    show (table os').closedTwice = _ ∧ Has (table os') w.socketFd .querying
    rw [htable]
    exact ⟨rfl, Or.inr hnone⟩
  · obtain ⟨os', hos'⟩ : ∃ os', S.connect w.os = (.ok _, os') := ⟨_, Prod.ext hret rfl⟩
    rw [hos'] at htable ⊢
    have htable : table os' = _ := htable
    show (table os').closedTwice = _ ∧ Has (table os') _ .querying
    rw [htable]
    by_cases hsome : ∃ cur ∈ addrList, Opening.connect.Succeeds cur
    · obtain ⟨fd, sockets, hloop, hpos, hlog, hall⟩ := Opening.connect.addressLoop_only hsome (-1) hnone
      rw [hloop]
      exact ⟨hlog, Or.inl ⟨hpos, hall⟩⟩
    · push Not at hsome
      obtain ⟨fd, sockets, hloop, hlog, hall⟩ := Opening.connect.addressLoop_nothing hsome (-1) hnone
      rw [hloop]
      exact ⟨hlog, Or.inr hall⟩

/-- The connection is closed, and it was open. -/
theorem disconnect_has {smb : Smb (Rtsocket ρ ω)} (h : Ready smb core (rtsocketPort R S)) {w : Rtsocket ρ ω}
    (hopen : (table w.os).Only w.socketFd) :
    (table (modbusDisconnect smb w).2.os).closedTwice = (table w.os).closedTwice ∧
      Has (table (modbusDisconnect smb w).2.os) (modbusDisconnect smb w).2.socketFd .connecting := by
  have hdisconnect : modbusDisconnect smb w = modbusTcpDisconnect S w := by
    unfold modbusDisconnect
    rw [h.contextCheck, h.port_eq]
    rfl
  rw [hdisconnect]
  unfold modbusTcpDisconnect
  rw [if_pos hopen.nonneg]
  show (table (S.closesocket w.os w.socketFd)).closedTwice = _ ∧ (-1 : Int) < 0 ∧
    ∀ x, (table (S.closesocket w.os w.socketFd)).state x = none
  rw [hS.closesocket]
  refine ⟨SocketTable.closedTwice_closesocket (by simp [hopen.connected]), by omega, ?_⟩
  intro x
  by_cases hx : x = w.socketFd
  · rw [hx]
    exact SocketTable.state_closesocket_self _ _
  · refine (if_neg hx).trans ?_
    rw [hopen.state, if_neg hx]

include hfuel

/-- **Without a connection** the thread finds its status good, goes once more around its query loop, and has six
errors more. -/
theorem Stuck.step {s₀ : TcpMaster ρ ω} (h : s.Stuck R S table core s₀) :
    (modbusTcpStatus S s.poller.device).1 = modbusOk ∧
      tcpResults fuel tcpPolls { s.poller with device := (modbusTcpStatus S s.poller.device).2 } =
        .ok (List.replicate 6 modbusTimeout) ∧
      ∃ s', s.step S fuel = .ok s' ∧ s'.Stuck R S table core s₀ ∧ s'.poller.countErr = s.poller.countErr + 6 := by
  obtain ⟨hfd, htable⟩ := status_holds hS s.poller.device
  have hstatus := status_closed hS (w := s.poller.device) (h.nothing _)
  have hclosed : (table (modbusTcpStatus S s.poller.device).2.os).state s.socketFd = none := by
    rw [htable]
    exact h.nothing s.socketFd
  obtain ⟨poller, hround, hresults, htemp, hcounters⟩ := tcpRound_idle hS hfuel
    (s := { s.poller with device := (modbusTcpStatus S s.poller.device).2 }) h.ready hfd hclosed tcpPolls_fit
  obtain ⟨hready, hfd', htable'⟩ := portRun_holds hS (w := (modbusTcpStatus S s.poller.device).2) h.ready
    ⟨hfd, htable⟩ (tcpRound_portRun hround)
  obtain ⟨hok, herr⟩ := Prod.mk.inj hcounters
  have hnothing : ∀ x, (table poller.device.os).state x = none := by
    rw [htable']
    exact h.nothing
  refine ⟨hstatus, hresults, ⟨poller, .querying⟩, ?_, ⟨hready, rfl, hnothing, hfd'.trans h.socketFd_eq,
    htable'.trans h.table_eq, htemp.trans h.tempBuff_eq, hok.trans h.countOk_eq⟩, herr⟩
  unfold TcpMaster.step
  rw [h.phase]
  dsimp only
  rw [if_pos hstatus, hround, exec_ok_bind]
  rfl

/-- **What a step keeps.** -/
theorem Sound.step (h : s.Sound R S table core) (hstep : s.step S fuel = .ok s') : s'.Sound R S table core := by
  have hhas := h.has
  obtain ⟨hfd, htable⟩ := status_holds hS s.poller.device
  cases hphase : s.phase with
  | connecting =>
    rw [hphase] at hhas
    unfold TcpMaster.step at hstep
    rw [hphase] at hstep
    cases hstep
    obtain ⟨hlog, hhas'⟩ := connect_has hS h.ready hhas.1 hhas.2
    exact ⟨h.ready, hlog.trans h.once, hhas'⟩
  | disconnecting =>
    rw [hphase] at hhas
    unfold TcpMaster.step at hstep
    rw [hphase] at hstep
    cases hstep
    obtain ⟨hlog, hhas'⟩ := disconnect_has hS h.ready hhas
    exact ⟨h.ready, hlog.trans h.once, hhas'⟩
  | querying =>
    rw [hphase] at hhas
    rcases hhas with hopen | hnone
    · unfold TcpMaster.step at hstep
      rw [hphase] at hstep
      dsimp only at hstep
      split at hstep
      · obtain ⟨⟨through, poller⟩, hround, hstep⟩ := bind_eq_ok.mp hstep
        cases hstep
        obtain ⟨hready, hfd', htable'⟩ := portRun_holds hS (w := (modbusTcpStatus S s.poller.device).2) h.ready
          ⟨hfd, htable⟩ (tcpRound_portRun hround)
        have hopen' : (table poller.device.os).Only poller.device.socketFd := by
          rw [hfd', htable']
          exact hopen
        refine ⟨hready, (congrArg SocketTable.closedTwice htable').trans h.once, ?_⟩
        cases through with
        | false => exact hopen'
        | true => exact Or.inl hopen'
      · cases hstep
        refine ⟨h.ready, (congrArg SocketTable.closedTwice htable).trans h.once, ?_⟩
        show (table (modbusTcpStatus S s.poller.device).2.os).Only (modbusTcpStatus S s.poller.device).2.socketFd
        rw [hfd, htable]
        exact hopen
    · -- no connection: the thread asks on
      have hstuck : s.Stuck R S table core s := ⟨h.ready, hphase, hnone, rfl, rfl, rfl, rfl⟩
      obtain ⟨-, -, s₁, hstep₁, hstuck₁, -⟩ := hstuck.step hS hfuel
      rw [hstep] at hstep₁
      cases hstep₁
      refine ⟨hstuck₁.ready, (congrArg SocketTable.closedTwice hstuck₁.table_eq).trans h.once, ?_⟩
      rw [hstuck₁.phase]
      exact Or.inr hstuck₁.nothing

/-- **What a run keeps.** -/
theorem Sound.run (h : s.Sound R S table core) (hrun : Run S table fuel s s') : s'.Sound R S table core := by
  induction hrun with
  | refl => exact h
  | tail _ hstep ih =>
    cases hstep with
    | thread hstep => exact ih.step hS hfuel hstep
    | network os' htable =>
      refine ⟨ih.ready, (congrArg SocketTable.closedTwice htable).trans ih.once, ?_⟩
      show Has (table os') _ _
      rw [htable]
      exact ih.has

theorem Stuck.run {s₀ : TcpMaster ρ ω} (h : s.Stuck R S table core s₀) (hrun : Run S table fuel s s') :
    s'.Stuck R S table core s₀ := by
  induction hrun with
  | refl => exact h
  | tail _ hstep ih =>
    cases hstep with
    | thread hstep =>
      obtain ⟨-, -, s₁, hstep₁, hstuck₁, -⟩ := ih.step hS hfuel
      rw [hstep] at hstep₁
      cases hstep₁
      exact hstuck₁
    | network os' htable =>
      refine ⟨ih.ready, ih.phase, ?_, ih.socketFd_eq, htable.trans ih.table_eq, ih.tempBuff_eq, ih.countOk_eq⟩
      show ∀ x, (table os').state x = none
      rw [htable]
      exact ih.nothing

end Steps

/-- The thread before its first call. -/
def start (poller : Poller (Rtsocket ρ ω)) : TcpMaster ρ ω := ⟨poller, .connecting⟩

end TcpMaster

section Results

variable {R : Fifo ρ UInt8 256} {S : Sockets ω} {table : ω → SocketTable} (hS : S.Books table) {core : Core}
  {fuel : Nat} (hfuel : 2 * modbusMaxAduLength + 2 < fuel) {poller : Poller (Rtsocket ρ ω)}
  (h : Ready poller.smb core (rtsocketPort R S)) (hfd : poller.device.socketFd < 0)
  (htable : table poller.device.os = ⟨fun _ => none, []⟩) {s s₁ s₂ : TcpMaster ρ ω}
  (hrun : TcpMaster.Run S table fuel (.start poller) s)

include hS hfuel h hfd htable hrun

/-- Every state of a run from the beginning is sound. -/
theorem tcpMaster_sound : s.Sound R S table core := by
  have hstart : (TcpMaster.start poller).Sound R S table core := by
    refine ⟨h, ?_, hfd, ?_⟩
    · show (table poller.device.os).closedTwice = []
      rw [htable]
    · show ∀ x, (table poller.device.os).state x = none
      rw [htable]
      exact fun _ => rfl
  exact hstart.run hS hfuel hrun

/-- **One connection at a time.** In every state of every run nothing is open but the socket of the port, and this
one is connected; before `modbus_connect` nothing is open, and what `modbus_disconnect` closes is open. No descriptor
is closed that is not open: not even the stale one that a `modbus_connect` in vain leaves in the port. -/
theorem tcp_master_owns :
    (table s.os).closedTwice = [] ∧
      (∀ fd, (table s.os).state fd ≠ none →
        fd = s.socketFd ∧ (table s.os).state fd = some .connected ∧ s.phase ≠ .connecting) ∧
      (s.phase = .disconnecting → (table s.os).state s.socketFd = some .connected) := by
  have hs := tcpMaster_sound hS hfuel h hfd htable hrun
  have hhas := hs.has
  have honly : (table s.os).Only s.socketFd → ∀ fd, (table s.os).state fd ≠ none →
      fd = s.socketFd ∧ (table s.os).state fd = some .connected := by
    intro hopen fd hfd
    have hstate := hopen.state fd
    by_cases heq : fd = s.socketFd
    · rw [if_pos heq] at hstate
      exact ⟨heq, hstate⟩
    · rw [if_neg heq] at hstate
      exact absurd hstate hfd
  refine ⟨hs.once, ?_, ?_⟩
  · intro fd hopen
    cases hphase : s.phase with
    | connecting =>
      rw [hphase] at hhas
      exact absurd (hhas.2 fd) hopen
    | querying =>
      rw [hphase] at hhas
      rcases hhas with hhas | hnone
      · obtain ⟨heq, hstate⟩ := honly hhas fd hopen
        exact ⟨heq, hstate, by simp⟩
      · exact absurd (hnone fd) hopen
    | disconnecting =>
      rw [hphase] at hhas
      obtain ⟨heq, hstate⟩ := honly hhas fd hopen
      exact ⟨heq, hstate, by simp⟩
  · intro hphase
    rw [hphase] at hhas
    exact hhas.connected

/-- **A master that is refused once asks forever.** After a `modbus_connect` that leaves the port without a connection,
in whatever run and however the network goes on, the thread never disconnects and never connects again: in every later
state it is in its query loop with the same descriptor and the same successes, `modbus_tcp_status` is good, the six
requests of the next round time out, and the round comes to its end with six more errors. -/
theorem tcp_master_stuck (hphase : s.phase = .connecting) (hstep : s.step S fuel = .ok s₁)
    (hfail : (table s₁.os).state s₁.socketFd = none) (hrun' : TcpMaster.Run S table fuel s₁ s₂) :
    s₂.phase = .querying ∧ s₂.socketFd = s₁.socketFd ∧ s₂.poller.countOk = s₁.poller.countOk ∧
      s₂.poller.tempBuff = s₁.poller.tempBuff ∧ (modbusTcpStatus S s₂.poller.device).1 = modbusOk ∧
      tcpResults fuel tcpPolls { s₂.poller with device := (modbusTcpStatus S s₂.poller.device).2 } =
        .ok (List.replicate 6 modbusTimeout) ∧
      ∃ s₃, s₂.step S fuel = .ok s₃ ∧ s₃.phase = .querying ∧ s₃.poller.countErr = s₂.poller.countErr + 6 := by
  have hs₁ := (tcpMaster_sound hS hfuel h hfd htable hrun).step hS hfuel hstep
  have hquerying : s₁.phase = .querying := by
    unfold TcpMaster.step at hstep
    rw [hphase] at hstep
    cases hstep
    rfl
  have hhas := hs₁.has
  rw [hquerying] at hhas
  rcases hhas with hopen | hnone
  · rw [hopen.connected] at hfail
    cases hfail
  · have hstuck₁ : s₁.Stuck R S table core s₁ := ⟨hs₁.ready, hquerying, hnone, rfl, rfl, rfl, rfl⟩
    have hstuck := hstuck₁.run hS hfuel hrun'
    obtain ⟨hstatus, hresults, s₃, hstep₃, hstuck₃, herr⟩ := hstuck.step hS hfuel
    exact ⟨hstuck.phase, hstuck.socketFd_eq, hstuck.countOk_eq, hstuck.tempBuff_eq, hstatus, hresults,
      s₃, hstep₃, hstuck₃.phase, herr⟩

end Results

/-! ### A run on a network -/

/-- A network in which a peer that accepts a connection closes it at once: the addresses that the coming attempts
get, and what is open. -/
structure Hasty where
  attempts : List Address
  table : SocketTable

/-- Its calls. -/
def Hasty.sockets : Sockets Hasty where
  send os _ _ := os
  recv os fd _ := (if (os.table.state fd).isNone then -1 else 0, [], os)
  setRcvTimeout os _ _ _ := os
  soError os _ := (0, os)
  closesocket os fd := { os with table := os.table.closesocket fd }
  connect os :=
    match os.attempts with
    | [] => (.error (-1), os)
    | cur :: rest =>
      (.ok (Opening.connect.addressLoop [cur] (-1) os.table).1,
        ⟨rest, (Opening.connect.addressLoop [cur] (-1) os.table).2⟩)
  eintr := 4
  ewouldblock := 11
  eagain := 11
  recv_le os fd len := by
    dsimp only
    split <;> omega
  length_recv os fd len := by
    dsimp only
    split <;> rfl

theorem Hasty.books : Hasty.sockets.Books Hasty.table where
  send _ _ _ := rfl
  recv _ _ _ := rfl
  setRcvTimeout _ _ _ _ := rfl
  soError _ _ := rfl
  closesocket _ _ := rfl
  recv_closed os fd len h := by
    show (if (os.table.state fd).isNone then (-1 : Int) else 0) < 0
    rw [h]
    decide
  soError_closed _ _ _ := rfl
  connect := by
    rintro ⟨attempts, table⟩
    cases attempts with
    | nil => exact Or.inl ⟨-1, rfl, rfl⟩
    | cons cur rest => exact Or.inr ⟨[cur], List.cons_ne_nil cur [], rfl, rfl⟩

/-- The master in front of this network: the first attempt is accepted, the second is not. -/
def Hasty.poller : Poller (Rtsocket {l : List UInt8 // l.length ≤ 256} Hasty) where
  smb := newContext .tcp (rtsocketPort (Fifo.ofList UInt8 256) Hasty.sockets) 1
  device := ⟨-1, (Net.server fun _ => []).device.rxRingbuff.1, ⟨[⟨3, 0, 0, 0⟩, ⟨4, -1, 0, 0⟩], ⟨fun _ => none, []⟩⟩⟩
  tempBuff := Buffer.replicate 256 0
  countOk := 0
  countErr := 0

theorem Hasty.poller_ready :
    Ready Hasty.poller.smb .tcp (rtsocketPort (Fifo.ofList UInt8 256) Hasty.sockets) :=
  newContext_ready .tcp _ 1

/-- A thread in front of this network. -/
abbrev Hasty.Thread := TcpMaster {l : List UInt8 // l.length ≤ 256} Hasty

/-- The thread before its second attempt, after it, and a round later. -/
def Hasty.refused : Exec (Hasty.Thread × Hasty.Thread × Hasty.Thread) := do
  let s ← TcpMaster.steps Hasty.sockets 600 3 (.start Hasty.poller)
  let s₁ ← s.step Hasty.sockets 600
  let s₂ ← s₁.step Hasty.sockets 600
  return (s, s₁, s₂)

/-- The thread has its first connection. -/
theorem tcp_master_owns_first :
    ∃ s, TcpMaster.Run Hasty.sockets Hasty.table 600 (.start Hasty.poller) s ∧ s.socketFd = 3 ∧
      s.os.table.closedTwice = [] ∧
      (∀ fd, s.os.table.state fd ≠ none →
        fd = s.socketFd ∧ s.os.table.state fd = some .connected ∧ s.phase ≠ .connecting) ∧
      (s.phase = .disconnecting → s.os.table.state s.socketFd = some .connected) := by
  obtain ⟨s, hsteps, hfd⟩ := map_eq_ok.mp (show (TcpMaster.steps Hasty.sockets 600 1 (.start Hasty.poller)).map
    TcpMaster.socketFd = .ok 3 by decide +kernel)
  have hrun := TcpMaster.run_of_steps Hasty.table hsteps
  exact ⟨s, hrun, hfd, tcp_master_owns Hasty.books (by decide) Hasty.poller_ready (show (-1 : Int) < 0 by decide) rfl hrun⟩

/-- It loses this connection in its first request, gets no second, and has asked six times since. -/
theorem tcp_master_stuck_second :
    ∃ s s₁ s₂ : Hasty.Thread, TcpMaster.Run Hasty.sockets Hasty.table 600 (.start Hasty.poller) s ∧
      s.step Hasty.sockets 600 = .ok s₁ ∧ s₁.poller.countErr = 1 ∧
      TcpMaster.Run Hasty.sockets Hasty.table 600 s₁ s₂ ∧ s₂.poller.countErr = 7 ∧
      s₂.phase = .querying ∧ s₂.socketFd = s₁.socketFd ∧ s₂.poller.countOk = s₁.poller.countOk ∧
      s₂.poller.tempBuff = s₁.poller.tempBuff ∧ (modbusTcpStatus Hasty.sockets s₂.poller.device).1 = modbusOk ∧
      tcpResults 600 tcpPolls { s₂.poller with device := (modbusTcpStatus Hasty.sockets s₂.poller.device).2 } =
        .ok (List.replicate 6 modbusTimeout) ∧
      ∃ s₃, s₂.step Hasty.sockets 600 = .ok s₃ ∧ s₃.phase = .querying ∧
        s₃.poller.countErr = s₂.poller.countErr + 6 := by
  obtain ⟨⟨s, s₁, s₂⟩, hall, hfacts⟩ := map_eq_ok.mp (show Hasty.refused.map (fun x =>
    (x.1.phase, x.2.1.os.table.state x.2.1.socketFd, x.2.1.poller.countErr, x.2.2.poller.countErr)) =
      .ok (.connecting, none, 1, 7) by decide +kernel)
  simp only [Prod.mk.injEq] at hfacts
  obtain ⟨hphase, hfail, herr₁, herr₂⟩ := hfacts
  unfold Hasty.refused at hall
  obtain ⟨s', hsteps, hall⟩ := bind_eq_ok.mp hall
  obtain ⟨s₁', hstep, hall⟩ := bind_eq_ok.mp hall
  obtain ⟨s₂', hround, hall⟩ := bind_eq_ok.mp hall
  cases hall
  have hrun := TcpMaster.run_of_steps Hasty.table hsteps
  have hrun' : TcpMaster.Run Hasty.sockets Hasty.table 600 s₁ s₂ := .single (.thread hround)
  exact ⟨s, s₁, s₂, hrun, hstep, herr₁, hrun', herr₂, tcp_master_stuck Hasty.books (by decide) Hasty.poller_ready
    (show (-1 : Int) < 0 by decide) rfl hrun hphase hstep hfail hrun'⟩

end SmallModbus
