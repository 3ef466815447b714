/-
# `SmallModbus.Server` — the TCP slave holds what is open, and nothing else.

The server of `test_modbus_tcp_slave.c` keeps a listening socket and a slot for each of its clients. In a round of
its loop `select` says what is ready: a new connection takes the first free slot, or is closed again; every client
that has something to read gets its turn, and loses its slot when its `recv` fails. When `select` itself fails,
everything is closed and the server listens anew.

The one port of the slave is passed around for all this: `socket_fd` is set before each use, and whoever closes a
socket closes the one that is set. `Owned` says what that has to amount to: each open socket is the listening one or
in exactly one slot, and each slot that is taken has an open socket. Every step of every run keeps it (`server_owns`),
whatever the network hands over and the callback does, as long as `modbus_tcp_listen` finds an address it can listen
on: after a `bind` in vain the loop goes on with a descriptor that is closed (`Opening.addressLoop`).
-/
import Mathlib.Data.List.Perm.Subperm
import SmallModbus.Isolation
import SmallModbus.Descriptors

namespace SmallModbus

open SmallModbus.Lib

variable {ρ ω κ : Type}

/-! ## §1 — the port, with the table of its sockets. -/

/-- The same calls with the table of open sockets. Of them `closesocket` changes it. -/
def Sockets.booked (S : Sockets ω) : Sockets (ω × SocketTable) where
  send os fd data := (S.send os.1 fd data, os.2)
  recv os fd len := ((S.recv os.1 fd len).1, (S.recv os.1 fd len).2.1, (S.recv os.1 fd len).2.2, os.2)
  setRcvTimeout os fd sec usec := (S.setRcvTimeout os.1 fd sec usec, os.2)
  soError os fd := ((S.soError os.1 fd).1, (S.soError os.1 fd).2, os.2)
  closesocket os fd := (S.closesocket os.1 fd, os.2.closesocket fd)
  connect os := ((S.connect os.1).1, (S.connect os.1).2, os.2)
  eintr := S.eintr
  ewouldblock := S.ewouldblock
  eagain := S.eagain
  recv_le os := S.recv_le os.1
  length_recv os := S.length_recv os.1

/-- A socket port over such a network. -/
abbrev Booked (ρ ω : Type) := Rtsocket ρ (ω × SocketTable)

/-- The open sockets behind the port. -/
abbrev Rtsocket.table (w : Booked ρ ω) : SocketTable := w.os.2

/-- `modbus_tcp_listen`, `ret` being the result of `getaddrinfo`. -/
def modbusTcpListen (w : Booked ρ ω) (ret : Int) (addrList : List Address) : Int × Booked ρ ω :=
  let (fd, port) := TcpPort.modbusTcpListen ⟨w.socketFd, w.table⟩ ret addrList
  (fd, { w with socketFd := port.socketFd, os := (w.os.1, port.os) })

/-- `modbus_tcp_accept`, `ret` being the result of `accept`. -/
def modbusTcpAccept (S : Sockets ω) (w : Booked ρ ω) (socketFd ret : Int) : Int × Booked ρ ω :=
  if socketFd ≥ 0 then
    if ret < 0 then (ret, { w with os := S.booked.closesocket w.os ret })
    else (ret, { w with os := (w.os.1, w.table.set ret .connected) })
  else (-1, w)

/-- Setting a socket and disconnecting it closes it. -/
theorem table_disconnect (S : Sockets ω) (w : Booked ρ ω) {fd : Int} (h : 0 ≤ fd) :
    (modbusTcpDisconnect S.booked (modbusTcpSetSocket w fd)).2.table = w.table.closesocket fd := by
  unfold modbusTcpDisconnect
  rw [if_pos (show (modbusTcpSetSocket w fd).socketFd ≥ 0 from h)]
  rfl

/-- And then the port has none. -/
theorem socketFd_disconnect (S : Sockets ω) (w : Booked ρ ω) (fd : Int) :
    (modbusTcpDisconnect S.booked (modbusTcpSetSocket w fd)).2.socketFd < 0 := by
  unfold modbusTcpDisconnect
  split
  · show (-1 : Int) < 0
    omega
  · rename_i h
    exact not_le.mp h

/-! ## §2 — the server. -/

/-- The context of the slave with its port, the listening socket, and the slots of the clients. A slot that is free
is negative. -/
structure Server (ρ ω κ : Type) where
  slave : SlaveState (Booked ρ ω) κ
  serverSocket : Int
  clientSocket : List Int

/-- What a round of the loop gets from the system: `select` fails, and then the next `modbus_tcp_listen` gets this
from `getaddrinfo` and from the calls on the addresses; or its second is over; or it says which sockets are ready,
and then `accept` returns this if it is called. -/
inductive Selected
  | failed (ret : Int) (addrList : List Address)
  | idle
  | ready (isset : Int → Bool) (accepted : Int)

/-- The turn of a slot: it is free, or has nothing to read, or is served. -/
def serveSlot (S : Sockets ω) (fuel : Nat) (cb : Option (SlaveCallback κ)) (readset : List Int) (clientSocket : Int)
    (s : SlaveState (Booked ρ ω) κ) : Exec (Int × SlaveState (Booked ρ ω) κ) :=
  if clientSocket ≥ 0 ∧ clientSocket ∈ readset then do
    let (rc, s) ← serveClient S.booked fuel cb modbusWaitForever clientSocket s
    return (if rc = modbusErrorRead then -1 else clientSocket, s)
  else .ok (clientSocket, s)

/-- The loop over the slots. -/
def serveClients (S : Sockets ω) (fuel : Nat) (cb : Option (SlaveCallback κ)) (readset : List Int) :
    List Int → SlaveState (Booked ρ ω) κ → Exec (List Int × SlaveState (Booked ρ ω) κ)
  | [], s => .ok ([], s)
  | clientSocket :: rest, s => do
      let (clientSocket, s) ← serveSlot S fuel cb readset clientSocket s
      let (rest, s) ← serveClients S fuel cb readset rest s
      return (clientSocket :: rest, s)

/-- The loop that closes the clients. -/
def closeClients (S : Sockets ω) : List Int → Booked ρ ω → List Int × Booked ρ ω
  | [], w => ([], w)
  | clientSocket :: rest, w =>
      let (clientSocket, w) :=
        if clientSocket ≥ 0 then (-1, (modbusTcpDisconnect S.booked (modbusTcpSetSocket w clientSocket)).2)
        else (clientSocket, w)
      let (rest, w) := closeClients S rest w
      (clientSocket :: rest, w)

namespace Server

/-- The server in its first round: no slot is taken, and the port has a socket to listen on. -/
def start (slave : SlaveState (Booked ρ ω) κ) (maxClientNum : Nat) (ret : Int) (addrList : List Address) :
    Server ρ ω κ :=
  let (serverSocket, w) := modbusTcpListen slave.device ret addrList
  ⟨{ slave with device := w }, serverSocket, List.replicate maxClientNum (-1)⟩

/-- A connection is accepted. It takes the first free slot, or is closed. -/
def acceptClient (S : Sockets ω) (s : Server ρ ω κ) (accepted : Int) : Server ρ ω κ :=
  let (clientSockFd, w) := modbusTcpAccept S s.slave.device s.serverSocket accepted
  if clientSockFd ≥ 0 then
    match s.clientSocket.findIdx? (fun fd => fd < 0) with
    | some index =>
      { s with slave := { s.slave with device := w }, clientSocket := s.clientSocket.set index clientSockFd }
    | none =>
      let w := (modbusTcpDisconnect S.booked (modbusTcpSetSocket w clientSockFd)).2
      { s with slave := { s.slave with device := w } }
  else { s with slave := { s.slave with device := w } }

/-- What is done after `select` has failed: the clients and the server are closed, and the outer loop listens anew. -/
def restart (S : Sockets ω) (s : Server ρ ω κ) (ret : Int) (addrList : List Address) : Server ρ ω κ :=
  let (clientSocket, w) := closeClients S s.clientSocket s.slave.device
  let w := (modbusTcpDisconnect S.booked (modbusTcpSetSocket w s.serverSocket)).2
  let (serverSocket, w) := modbusTcpListen w ret addrList
  ⟨{ s.slave with device := w }, serverSocket, clientSocket⟩

/-- What `select` leaves in the set: those sockets that were put into it and are ready. -/
def readset (s : Server ρ ω κ) (isset : Int → Bool) : List Int :=
  (s.serverSocket :: s.clientSocket.filter (fun fd => 0 ≤ fd)).filter isset

/-- The first part of a round: a connection is accepted if there is one. -/
def acceptReady (S : Sockets ω) (s : Server ρ ω κ) (isset : Int → Bool) (accepted : Int) : Server ρ ω κ :=
  if s.serverSocket ∈ s.readset isset then s.acceptClient S accepted else s

/-- A round of the loop. -/
def round (S : Sockets ω) (fuel : Nat) (cb : Option (SlaveCallback κ)) (s : Server ρ ω κ) :
    Selected → Exec (Server ρ ω κ)
  | .failed ret addrList => .ok (s.restart S ret addrList)
  | .idle => .ok s
  | .ready isset accepted => do
      let readset := s.readset isset
      let s := s.acceptReady S isset accepted
      let (clientSocket, slave) ← serveClients S fuel cb readset s.clientSocket s.slave
      return { s with slave := slave, clientSocket := clientSocket }

theorem server_mem_readset {s : Server ρ ω κ} {isset : Int → Bool} :
    s.serverSocket ∈ s.readset isset ↔ isset s.serverSocket = true := by
  unfold readset
  simp [List.mem_filter]

theorem mem_readset {s : Server ρ ω κ} {isset : Int → Bool} {fd : Int} (h : fd ∈ s.readset isset) :
    (fd = s.serverSocket ∨ fd ∈ s.clientSocket) ∧ isset fd = true := by
  unfold readset at h
  obtain ⟨hmem, hset⟩ := List.mem_filter.mp h
  refine ⟨?_, hset⟩
  rcases List.mem_cons.mp hmem with heq | hmem
  · exact Or.inl heq
  · exact Or.inr (List.mem_of_mem_filter hmem)

end Server

/-! ## §3 — what the server holds. -/

/-- The listening socket and the slots are the open sockets: each is in one place, and nothing but an attempt to
close a negative descriptor has gone wrong. -/
structure Owned (os : SocketTable) (serverSocket : Int) (clientSocket : List Int) : Prop where
  server : 0 ≤ serverSocket
  listening : os.state serverSocket = some .listening
  apart : serverSocket ∉ clientSocket
  slot : ∀ fd, 0 ≤ fd → fd ≠ serverSocket →
    clientSocket.count fd = 1 ∧ os.state fd = some .connected ∨ clientSocket.count fd = 0 ∧ os.state fd = none
  negative : ∀ fd < 0, os.state fd = none
  once : ∀ fd ∈ os.closedTwice, fd < 0

namespace Owned

variable {os : SocketTable} {server : Int} {slots before after : List Int} {fd c : Int}

/-- A slot that is taken has a connection. -/
theorem connected (h : Owned os server slots) (hfd : 0 ≤ fd) (hmem : fd ∈ slots) : os.state fd = some .connected := by
  have hne : fd ≠ server := fun heq => h.apart (heq ▸ hmem)
  rcases h.slot fd hfd hne with ⟨-, hstate⟩ | ⟨hcount, -⟩
  · exact hstate
  · exact absurd hmem (List.count_eq_zero.mp hcount)

/-- What is open is held. -/
theorem held (h : Owned os server slots) (hopen : os.state fd ≠ none) : 0 ≤ fd ∧ (fd = server ∨ fd ∈ slots) := by
  have hfd : 0 ≤ fd := by
    by_contra hneg
    exact hopen (h.negative fd (by omega))
  refine ⟨hfd, ?_⟩
  by_contra hnot
  push Not at hnot
  rcases h.slot fd hfd hnot.1 with ⟨hcount, -⟩ | ⟨-, hnone⟩
  · exact hnot.2 (List.count_pos_iff.mp (by omega))
  · exact hopen hnone

/-- The client of a slot is closed, and the slot is free. -/
theorem close (h : Owned os server (before ++ c :: after)) (hc : 0 ≤ c) :
    Owned (os.closesocket c) server (before ++ -1 :: after) := by
  have hserver := h.server
  have hne : c ≠ server := fun heq => h.apart (heq ▸ by simp)
  have hopen := h.connected hc (by simp)
  have hstate : ∀ {fd}, fd ≠ c → (os.closesocket c).state fd = os.state fd := fun hfd => if_neg hfd
  refine ⟨hserver, (hstate hne.symm).trans h.listening, ?_, ?_, ?_, ?_⟩
  · have := h.apart
    simp only [List.mem_append, List.mem_cons, not_or] at this ⊢
    exact ⟨this.1, by omega, this.2.2⟩
  · intro fd hfd hfds
    have hslot := h.slot fd hfd hfds
    by_cases heq : fd = c
    · -- it was in this slot only
      subst heq
      right
      rw [hopen] at hslot
      simp only [List.count_append, List.count_cons_self, reduceCtorEq, and_false, or_false, and_true] at hslot
      refine ⟨?_, SocketTable.state_closesocket_self os fd⟩
      rw [List.count_append, List.count_cons_of_ne (by omega)]
      omega
    · rw [hstate heq]
      rw [List.count_append, List.count_cons_of_ne (by omega)] at hslot ⊢
      exact hslot
  · intro fd hfd
    rw [hstate (by omega)]
    exact h.negative fd hfd
  · rw [SocketTable.closedTwice_closesocket (by simp [hopen])]
    exact h.once

/-- A new connection takes a free slot. -/
theorem accept (h : Owned os server slots) (hfd : 0 ≤ fd) (hfresh : os.state fd = none) {i : Nat}
    (hi : i < slots.length) (hfree : slots[i] < 0) : Owned (os.set fd .connected) server (slots.set i fd) := by
  have hserver := h.server
  have hne : fd ≠ server := by
    rintro rfl
    have := h.listening
    simp [hfresh] at this
  have hstate : ∀ {x}, x ≠ fd → (os.set fd .connected).state x = os.state x := fun hx => if_neg hx
  refine ⟨hserver, (hstate hne.symm).trans h.listening, ?_, ?_, ?_, h.once⟩
  · intro hmem
    rcases List.mem_or_eq_of_mem_set hmem with hmem | heq
    · exact h.apart hmem
    · exact hne heq.symm
  · intro x hx hxs
    have hslot := h.slot x hx hxs
    rw [List.count_set hi, if_neg (by simp; omega), Nat.sub_zero]
    by_cases heq : x = fd
    · subst heq
      left
      rw [hfresh] at hslot
      simp only [reduceCtorEq, and_false, false_or, and_true] at hslot
      rw [hslot]
      simp
    · rw [hstate heq, if_neg (by simp; omega)]
      exact hslot
  · intro x hx
    rw [hstate (by omega)]
    exact h.negative x hx

/-- A new connection is closed again. -/
theorem refuse (h : Owned os server slots) (hfd : 0 ≤ fd) (hfresh : os.state fd = none) :
    Owned ((os.set fd .connected).closesocket fd) server slots := by
  have hstate : ((os.set fd .connected).closesocket fd).state = os.state := by
    funext x
    by_cases hx : x = fd
    · subst hx
      simp [hfresh]
    · exact (if_neg hx).trans (if_neg hx)
  refine ⟨h.server, by rw [hstate, h.listening], h.apart, ?_, ?_, ?_⟩
  · rw [hstate]
    exact h.slot
  · rw [hstate]
    exact h.negative
  · rw [SocketTable.closedTwice_closesocket (by simp)]
    exact h.once

/-- A negative descriptor is closed. -/
theorem closeNegative (h : Owned os server slots) (hfd : fd < 0) : Owned (os.closesocket fd) server slots := by
  have hstate : (os.closesocket fd).state = os.state := by
    funext x
    by_cases hx : x = fd
    · subst hx
      simp [h.negative x hfd]
    · exact if_neg hx
  refine ⟨h.server, by rw [hstate, h.listening], h.apart, ?_, ?_, ?_⟩
  · rw [hstate]
    exact h.slot
  · rw [hstate]
    exact h.negative
  · intro x hx
    unfold SocketTable.closesocket at hx
    dsimp only at hx
    split at hx
    · rcases List.mem_append.mp hx with hx | hx
      · exact h.once x hx
      · rw [List.mem_singleton.mp hx]
        exact hfd
    · exact h.once x hx

/-- With no client left, nothing is open once the server is closed. -/
theorem closeServer (h : Owned os server slots) (hslots : ∀ fd ∈ slots, fd < 0) :
    (∀ fd, (os.closesocket server).state fd = none) ∧ ∀ fd ∈ (os.closesocket server).closedTwice, fd < 0 := by
  constructor
  · intro fd
    by_cases hfd : fd = server
    · rw [hfd]
      exact SocketTable.state_closesocket_self os server
    · rw [show (os.closesocket server).state fd = os.state fd from if_neg hfd]
      by_contra hopen
      obtain ⟨hpos, heq | hmem⟩ := h.held hopen
      · exact hfd heq
      · have := hslots fd hmem
        omega
  · rw [SocketTable.closedTwice_closesocket (by simp [h.listening])]
    exact h.once

/-- At most as many sockets are open as there are slots, and one more. -/
theorem open_le (h : Owned os server slots) {l : List Int} (hnodup : l.Nodup) (hopen : ∀ fd ∈ l, os.state fd ≠ none) :
    l.length ≤ slots.length + 1 := by
  have hsub : l ⊆ server :: slots := by
    intro fd hfd
    rcases (h.held (hopen fd hfd)).2 with rfl | hmem
    · exact List.mem_cons_self
    · exact List.mem_cons_of_mem server hmem
  exact (List.subperm_of_subset hnodup hsub).length_le

end Owned

/-! ## §4 — the loops keep it. -/

section Loops

variable {R : Fifo ρ UInt8 256} {S : Sockets ω} {core : Core} {fuel : Nat} {cb : Option (SlaveCallback κ)}
  {server : Int} {readset slots slots' : List Int} {s s' : SlaveState (Booked ρ ω) κ}

/-- The table stays as it is where nothing is closed. -/
theorem table_kept (os : SocketTable) :
    Kept (rtsocketFeed R S.booked) (fun w : Booked ρ ω => w.table = os) (fun _ => True) where
  read h _ := h
  short _ _ _ := trivial
  wait {w} h _ t := by
    obtain ⟨sec, usec, rc, rxTemp, os₁, hrecv, hcases⟩ := modbusRtsocketWait_cases R S.booked w t
    have hos : os₁.2 = os := by
      have := congrArg (fun x => x.2.2.2) hrecv
      exact this.symm.trans h
    show (modbusRtsocketWait R S.booked w t).2.os.2 = os
    rcases hcases with ⟨-, code, os', -, hos', hrun⟩ | ⟨-, hrun⟩
    · rw [hrun]
      rcases hos' with rfl | rfl
      · exact hos
      · exact hos
    · rw [hrun]
      exact hos

/-- A turn closes the socket of its client if its wait fails to read, and no other. -/
theorem serveClient_table (h : Ready s.smb core (rtsocketPort R S.booked)) {t fd rc : Int} (hfd : 0 ≤ fd)
    (hrun : serveClient S.booked fuel cb t fd s = .ok (rc, s')) :
    Ready s'.smb core (rtsocketPort R S.booked) ∧
      s'.device.table = if rc = modbusErrorRead then s.device.table.closesocket fd else s.device.table := by
  unfold serveClient at hrun
  obtain ⟨⟨rc₁, smb', w', app'⟩, hhandle, hrun⟩ := bind_eq_ok.mp hrun
  have h' := modbusSlaveWaitHandle_ready h hhandle
  obtain ⟨ret, smb₁, w₁, request, hwait, hcases⟩ :=
    modbusSlaveWaitHandle_cases h (show _ = some (modbusRtsocketWrite S.booked) from rfl) hhandle
  have hset : (modbusTcpSetSocket s.device fd).table = s.device.table := rfl
  have hw₁ := (table_kept s.device.table).slaveWait (rtsocketFeed_clean R S.booked) h hset hwait
  -- a frame that is sent leaves the table alone
  have hw' : w'.table = s.device.table := by
    rcases hcases with ⟨-, -, rfl⟩ | ⟨-, pdu, hwritten⟩
    · exact hw₁
    · rw [(Prod.mk.inj hwritten).2]
      exact hw₁
  dsimp only at hrun
  split at hrun
  · rename_i hpos
    cases hrun
    refine ⟨h', ?_⟩
    rw [if_neg (by intro heq; rw [heq] at hpos; exact absurd hpos (by decide))]
    exact hw'
  · rw [h'.errorRecovery rfl] at hrun
    cases hrun
    refine ⟨h', ?_⟩
    show Rtsocket.table (if rc = modbusErrorRead then _ else w') = _
    split
    · rw [table_disconnect S w' hfd, hw']
    · exact hw'

/-- What the turns of the slots keep: the context is bound, the slots are as many, and what is open is held. -/
theorem serveClients_owned (before : List Int) (h : Ready s.smb core (rtsocketPort R S.booked))
    (hown : Owned s.device.table server (before ++ slots))
    (hrun : serveClients S fuel cb readset slots s = .ok (slots', s')) :
    Ready s'.smb core (rtsocketPort R S.booked) ∧ Owned s'.device.table server (before ++ slots') ∧
      slots'.length = slots.length := by
  induction slots generalizing before slots' s with
  | nil =>
    cases hrun
    exact ⟨h, hown, rfl⟩
  | cons c rest ih =>
    obtain ⟨⟨c', s₁⟩, hslot, hrun⟩ := bind_eq_ok.mp hrun
    obtain ⟨⟨rest', s₂⟩, hrest, hrun⟩ := bind_eq_ok.mp hrun
    cases hrun
    have hfirst : Ready s₁.smb core (rtsocketPort R S.booked) ∧
        Owned s₁.device.table server (before ++ c' :: rest) := by
      unfold serveSlot at hslot
      split at hslot
      · rename_i hturn
        obtain ⟨⟨rc, s₃⟩, hserve, hslot⟩ := bind_eq_ok.mp hslot
        cases hslot
        obtain ⟨h₁, htable⟩ := serveClient_table h hturn.1 hserve
        refine ⟨h₁, ?_⟩
        rw [htable]
        split
        · exact hown.close hturn.1
        · exact hown
      · cases hslot
        exact ⟨h, hown⟩
    obtain ⟨h₂, hown₂, hlen⟩ := ih (before ++ [c']) hfirst.1 (by simpa using hfirst.2) hrest
    exact ⟨h₂, by simpa using hown₂, by simp [hlen]⟩

/-- Closing the clients frees every slot. -/
theorem closeClients_owned (before : List Int) {w : Booked ρ ω} (hown : Owned w.table server (before ++ slots)) :
    Owned (closeClients S slots w).2.table server (before ++ (closeClients S slots w).1) ∧
      (closeClients S slots w).1.length = slots.length ∧ ∀ fd ∈ (closeClients S slots w).1, fd < 0 := by
  induction slots generalizing before w with
  | nil => exact ⟨hown, rfl, by simp [closeClients]⟩
  | cons c rest ih =>
    rw [closeClients]
    by_cases hc : c ≥ 0
    · rw [if_pos hc]
      have hfirst : Owned (modbusTcpDisconnect S.booked (modbusTcpSetSocket w c)).2.table server
          ((before ++ [-1]) ++ rest) := by
        rw [table_disconnect S w hc]
        simpa using hown.close hc
      obtain ⟨hown', hlen, hneg⟩ := ih (before ++ [-1]) hfirst
      exact ⟨by simpa using hown', by simp [hlen], List.forall_mem_cons.mpr ⟨by omega, hneg⟩⟩
    · rw [if_neg hc]
      obtain ⟨hown', hlen, hneg⟩ := ih (before ++ [c]) (by simpa using hown)
      exact ⟨by simpa using hown', by simp [hlen], List.forall_mem_cons.mpr ⟨not_le.mp hc, hneg⟩⟩

end Loops

/-! ### Listening -/

/-- With nothing open, the loop over the addresses leaves open what it ends with, if one of them works. -/
theorem Opening.addressLoop_only (o : Opening) {addrList : List Address} (hsome : ∃ cur ∈ addrList, o.Succeeds cur)
    (socketFd : Int) {os : SocketTable} (hos : ∀ fd, os.state fd = none) :
    ∃ fd os', o.addressLoop addrList socketFd os = (fd, os') ∧ 0 ≤ fd ∧ os'.closedTwice = os.closedTwice ∧
      ∀ x, os'.state x = if x = fd then some o.goal else none := by
  induction addrList generalizing socketFd os with
  | nil =>
    obtain ⟨cur, hmem, -⟩ := hsome
    cases hmem
  | cons cur rest ih =>
    rw [addressLoop]
    dsimp only
    have hrest : ¬ o.Succeeds cur → ∃ cur ∈ rest, o.Succeeds cur := by
      intro hfail
      obtain ⟨cur', hmem, hcur'⟩ := hsome
      rcases List.mem_cons.mp hmem with rfl | hmem
      · exact absurd hcur' hfail
      · exact ⟨cur', hmem, hcur'⟩
    by_cases hneg : cur.socket < 0
    · rw [if_pos hneg]
      have hsame : os.socket cur.socket = os := if_pos hneg
      rw [hsame]
      exact ih (hrest fun h => by have := h.1; omega) cur.socket hos
    · rw [if_neg hneg]
      have hstate : ∀ x, x ≠ cur.socket → ((os.socket cur.socket).set cur.socket (o.attempt cur).1).state x = none := by
        intro x hx
        unfold SocketTable.socket
        rw [if_neg hneg]
        exact (if_neg hx).trans ((if_neg hx).trans (hos x))
      by_cases hret : (o.attempt cur).2 = 0
      · rw [if_pos hret]
        refine ⟨_, _, rfl, by omega, by simp, ?_⟩
        intro x
        split
        · rename_i heq
          rw [heq, SocketTable.state_set_self, o.attempt_goal hret]
        · rename_i hx
          exact hstate x hx
      · rw [if_neg hret]
        have hclosed : ∀ x,
            (((os.socket cur.socket).set cur.socket (o.attempt cur).1).closesocket cur.socket).state x = none := by
          intro x
          by_cases hx : x = cur.socket
          · rw [hx]
            exact SocketTable.state_closesocket_self _ _
          · exact (if_neg hx).trans (hstate x hx)
        obtain ⟨fd, os', hrun, hfd, hlog, hall⟩ := ih (hrest fun h => hret h.2) cur.socket hclosed
        refine ⟨fd, os', hrun, hfd, hlog.trans ?_, hall⟩
        rw [SocketTable.closedTwice_closesocket (by simp)]
        simp

/-- A server that begins to listen with nothing open holds what is open then. -/
theorem modbusTcpListen_owned {w : Booked ρ ω} (hfd : w.socketFd < 0) (hos : ∀ fd, w.table.state fd = none)
    (honce : ∀ fd ∈ w.table.closedTwice, fd < 0) {addrList : List Address}
    (hsome : ∃ cur ∈ addrList, Opening.listen.Succeeds cur) {slots : List Int} (hslots : ∀ fd ∈ slots, fd < 0) :
    Owned (modbusTcpListen w 0 addrList).2.table (modbusTcpListen w 0 addrList).1 slots := by
  obtain ⟨fd, os', hrun, hpos, hlog, hall⟩ := Opening.listen.addressLoop_only hsome w.socketFd hos
  have hlisten : modbusTcpListen w 0 addrList = (fd, { w with socketFd := fd, os := (w.os.1, os') }) := by
    unfold modbusTcpListen TcpPort.modbusTcpListen TcpPort.openSocket
    rw [if_pos hfd, if_neg (by simp), hrun]
  rw [hlisten]
  refine ⟨hpos, ?_, ?_, ?_, ?_, ?_⟩
  · show os'.state fd = _
    rw [hall, if_pos rfl]
    rfl
  · intro hmem
    have := hslots fd hmem
    omega
  · intro x hx hne
    right
    refine ⟨List.count_eq_zero.mpr fun hmem => ?_, ?_⟩
    · have := hslots x hmem
      omega
    · show os'.state x = _
      rw [hall, if_neg hne]
  · intro x hx
    show os'.state x = _
    rw [hall, if_neg (by omega)]
  · rw [show Rtsocket.table _ = os' from rfl, hlog]
    exact honce

/-! ## §5 — runs of the server. -/

namespace Server

/-- What a round may get from the system: `accept` returns a descriptor that is not open, and when the server listens
anew the name is resolved and one of the addresses works. -/
def Allows (s : Server ρ ω κ) : Selected → Prop
  | .failed ret addrList => ret = 0 ∧ ∃ cur ∈ addrList, Opening.listen.Succeeds cur
  | .idle => True
  | .ready _ accepted => 0 ≤ accepted → s.slave.device.table.state accepted = none

/-- What is true of the server between two rounds. -/
structure Sound (R : Fifo ρ UInt8 256) (S : Sockets ω) (core : Core) (maxClientNum : Nat) (s : Server ρ ω κ) : Prop where
  ready : Ready s.slave.smb core (rtsocketPort R S.booked)
  owned : Owned s.slave.device.table s.serverSocket s.clientSocket
  slots : s.clientSocket.length = maxClientNum

variable {R : Fifo ρ UInt8 256} {S : Sockets ω} {core : Core} {maxClientNum : Nat} {s s' : Server ρ ω κ}

theorem sound_start (maxClientNum : Nat) {slave : SlaveState (Booked ρ ω) κ} (h : Ready slave.smb core (rtsocketPort R S.booked))
    (hfd : slave.device.socketFd < 0) (hos : slave.device.table = ⟨fun _ => none, []⟩) {addrList : List Address}
    (hsome : ∃ cur ∈ addrList, Opening.listen.Succeeds cur) : (start slave maxClientNum 0 addrList).Sound R S core maxClientNum where
  ready := h
  owned := by
    refine modbusTcpListen_owned hfd ?_ ?_ hsome ?_
    · simp [hos]
    · simp [hos]
    · intro fd hmem
      rw [List.eq_of_mem_replicate hmem]
      omega
  slots := List.length_replicate

/-- A connection that is accepted gets a slot, or is closed, or was none. -/
theorem Sound.acceptClient (h : s.Sound R S core maxClientNum) {accepted : Int}
    (hfresh : 0 ≤ accepted → s.slave.device.table.state accepted = none) :
    (s.acceptClient S accepted).Sound R S core maxClientNum := by
  have hown := h.owned
  unfold Server.acceptClient modbusTcpAccept
  rw [if_pos (show s.serverSocket ≥ 0 from hown.server)]
  by_cases hneg : accepted < 0
  · -- no connection: a negative descriptor is closed
    rw [if_pos hneg]
    dsimp only
    rw [if_neg (by omega)]
    exact ⟨h.ready, hown.closeNegative hneg, h.slots⟩
  · rw [if_neg hneg]
    dsimp only
    rw [if_pos (by omega)]
    have hfresh := hfresh (by omega)
    cases hindex : s.clientSocket.findIdx? (fun fd => decide (fd < 0)) with
    | some index =>
      obtain ⟨hlt, hfree, -⟩ := List.findIdx?_eq_some_iff_getElem.mp hindex
      refine ⟨h.ready, hown.accept (by omega) hfresh hlt (of_decide_eq_true hfree), ?_⟩
      simp [h.slots]
    | none =>
      refine ⟨h.ready, ?_, h.slots⟩
      dsimp only
      rw [table_disconnect S _ (by omega)]
      exact hown.refuse (by omega) hfresh

/-- After a failed `select` the server holds its new socket only. -/
theorem Sound.restart (h : s.Sound R S core maxClientNum) {addrList : List Address}
    (hsome : ∃ cur ∈ addrList, Opening.listen.Succeeds cur) :
    (s.restart S 0 addrList).Sound R S core maxClientNum ∧ ∀ fd ∈ (s.restart S 0 addrList).clientSocket, fd < 0 := by
  obtain ⟨hown, hlen, hneg⟩ := closeClients_owned (S := S) [] (w := s.slave.device) h.owned
  obtain ⟨hos, honce⟩ := hown.closeServer hneg
  have htable := table_disconnect S (closeClients S s.clientSocket s.slave.device).2 hown.server
  refine ⟨⟨h.ready, ?_, hlen.trans h.slots⟩, hneg⟩
  exact modbusTcpListen_owned (socketFd_disconnect S _ _) (by rwa [htable]) (by rwa [htable]) hsome hneg

/-- **A round** keeps it. -/
theorem Sound.round (h : s.Sound R S core maxClientNum) {fuel : Nat} {cb : Option (SlaveCallback κ)}
    {selected : Selected} (hallows : s.Allows selected) (hrun : s.round S fuel cb selected = .ok s') :
    s'.Sound R S core maxClientNum := by
  cases selected with
  | failed ret addrList =>
    obtain ⟨rfl, hsome⟩ := hallows
    cases hrun
    exact (h.restart hsome).1
  | idle =>
    cases hrun
    exact h
  | ready isset accepted =>
    unfold Server.round at hrun
    dsimp only at hrun
    have hs : (s.acceptReady S isset accepted).Sound R S core maxClientNum := by
      unfold Server.acceptReady
      split
      · exact h.acceptClient hallows
      · exact h
    obtain ⟨⟨slots, slave⟩, hserve, hrun⟩ := bind_eq_ok.mp hrun
    cases hrun
    obtain ⟨hready, hown, hlen⟩ := serveClients_owned [] hs.ready hs.owned hserve
    exact ⟨hready, hown, hlen.trans hs.slots⟩

/-- A step of the server: a round, with any budget and whatever the system returns in it; or anything happens to the
network and to the application. -/
inductive Step (S : Sockets ω) (cb : Option (SlaveCallback κ)) : Server ρ ω κ → Server ρ ω κ → Prop
  | round {s s' : Server ρ ω κ} {fuel : Nat} {selected : Selected} :
      s.Allows selected → s.round S fuel cb selected = .ok s' → Step S cb s s'
  | other (s : Server ρ ω κ) (os' : ω) (app' : κ) :
      Step S cb s
        { s with slave := { s.slave with
          device := { s.slave.device with os := (os', s.slave.device.table) }
          app := app' } }

/-- A run of the server. -/
abbrev Run (S : Sockets ω) (cb : Option (SlaveCallback κ)) : Server ρ ω κ → Server ρ ω κ → Prop :=
  Relation.ReflTransGen (Step S cb)

theorem Step.sound {cb : Option (SlaveCallback κ)} (hstep : Step S cb s s') (h : s.Sound R S core maxClientNum) :
    s'.Sound R S core maxClientNum := by
  cases hstep with
  | round hallows hrun => exact h.round hallows hrun
  | other os' app' => exact ⟨h.ready, h.owned, h.slots⟩

theorem Run.sound {cb : Option (SlaveCallback κ)} (hrun : Run S cb s s') (h : s.Sound R S core maxClientNum) :
    s'.Sound R S core maxClientNum := by
  induction hrun with
  | refl => exact h
  | tail _ hstep ih => exact hstep.sound ih

/-! ### Who has a slot -/

/-- When its turn comes in this loop, the client is served, and its read fails. -/
def ReadFails (S : Sockets ω) (fuel : Nat) (cb : Option (SlaveCallback κ)) (readset slots : List Int)
    (t : SlaveState (Booked ρ ω) κ) (fd : Int) : Prop :=
  fd ∈ readset ∧ ∃ before after before' t₁ t₂, slots = before ++ fd :: after ∧
    serveClients S fuel cb readset before t = .ok (before', t₁) ∧
    serveClient S.booked fuel cb modbusWaitForever fd t₁ = .ok (modbusErrorRead, t₂)

/-- After the turns of the slots a client has its slot still, unless its read failed; and no slot is taken anew. -/
theorem mem_serveClients {fuel : Nat} {cb : Option (SlaveCallback κ)} {readset slots slots' : List Int}
    {t t' : SlaveState (Booked ρ ω) κ} (hrun : serveClients S fuel cb readset slots t = .ok (slots', t')) :
    (∀ fd ∈ slots, fd ∈ slots' ∨ ReadFails S fuel cb readset slots t fd) ∧ ∀ fd ∈ slots', 0 ≤ fd → fd ∈ slots := by
  induction slots generalizing slots' t with
  | nil =>
    cases hrun
    simp
  | cons c rest ih =>
    obtain ⟨⟨c', t₁⟩, hslot, hrun⟩ := bind_eq_ok.mp hrun
    obtain ⟨⟨rest', t₂⟩, hrest, hrun⟩ := bind_eq_ok.mp hrun
    cases hrun
    obtain ⟨hkept, hold⟩ := ih hrest
    have hfirst : c' = c ∨ c' = -1 ∧ ReadFails S fuel cb readset (c :: rest) t c := by
      unfold serveSlot at hslot
      split at hslot
      · rename_i hturn
        obtain ⟨⟨rc, t₃⟩, hserve, hslot⟩ := bind_eq_ok.mp hslot
        cases hslot
        by_cases hrc : rc = modbusErrorRead
        · subst hrc
          exact Or.inr ⟨if_pos rfl, hturn.2, [], rest, [], t, t₁, rfl, rfl, hserve⟩
        · exact Or.inl (if_neg hrc)
      · cases hslot
        exact Or.inl rfl
    constructor
    · intro fd hfd
      rcases List.mem_cons.mp hfd with rfl | hfd
      · rcases hfirst with rfl | ⟨-, hlost⟩
        · exact Or.inl List.mem_cons_self
        · exact Or.inr hlost
      · rcases hkept fd hfd with hmem | ⟨hset, before, after, before', t₃, t₄, rfl, hbefore, hserve⟩
        · exact Or.inl (List.mem_cons_of_mem c' hmem)
        · refine Or.inr ⟨hset, c :: before, after, c' :: before', t₃, t₄, rfl, ?_, hserve⟩
          rw [serveClients, hslot, exec_ok_bind]
          dsimp only
          rw [hbefore]
          rfl
    · intro fd hfd hpos
      rcases List.mem_cons.mp hfd with rfl | hfd
      · rcases hfirst with rfl | ⟨hneg, -⟩
        · exact List.mem_cons_self
        · omega
      · exact List.mem_cons_of_mem c (hold fd hfd hpos)

/-- A connection takes a slot exactly if one is free, and whoever had a slot has it still. -/
theorem mem_acceptClient (h : s.Sound R S core maxClientNum) {accepted : Int} (hpos : 0 ≤ accepted)
    (hfresh : s.slave.device.table.state accepted = none) :
    (∀ fd ∈ s.clientSocket, 0 ≤ fd → fd ∈ (s.acceptClient S accepted).clientSocket) ∧
      (∀ fd ∈ (s.acceptClient S accepted).clientSocket, fd ∈ s.clientSocket ∨ fd = accepted) ∧
      (accepted ∈ (s.acceptClient S accepted).clientSocket ↔ ∃ fd ∈ s.clientSocket, fd < 0) := by
  have hnew : accepted ∉ s.clientSocket := by
    intro hmem
    have := h.owned.connected hpos hmem
    simp [hfresh] at this
  unfold acceptClient modbusTcpAccept
  rw [if_pos (show s.serverSocket ≥ 0 from h.owned.server), if_neg (by omega)]
  dsimp only
  rw [if_pos (by omega)]
  cases hindex : s.clientSocket.findIdx? (fun fd => decide (fd < 0)) with
  | none =>
    have hfull := List.findIdx?_eq_none_iff.mp hindex
    refine ⟨fun fd hfd _ => hfd, fun fd hfd => Or.inl hfd, iff_of_false hnew ?_⟩
    rintro ⟨fd, hfd, hneg⟩
    simpa [hneg] using hfull fd hfd
  | some index =>
    obtain ⟨hlt, hfree, -⟩ := List.findIdx?_eq_some_iff_getElem.mp hindex
    have hfree := of_decide_eq_true hfree
    refine ⟨?_, fun fd hfd => List.mem_or_eq_of_mem_set hfd,
      iff_of_true (List.mem_set hlt accepted) ⟨_, List.getElem_mem hlt, hfree⟩⟩
    intro fd hfd hfdpos
    -- it is in another slot than the free one
    obtain ⟨i, hi, rfl⟩ := List.mem_iff_getElem.mp hfd
    have hne : index ≠ i := by
      rintro rfl
      omega
    exact List.mem_iff_getElem.mpr ⟨i, by simpa using hi, List.getElem_set_ne hne _⟩

/-- After the first part of a round. -/
theorem mem_acceptReady (h : s.Sound R S core maxClientNum) (isset : Int → Bool) {accepted : Int}
    (hfresh : 0 ≤ accepted → s.slave.device.table.state accepted = none) :
    (∀ fd ∈ s.clientSocket, 0 ≤ fd → fd ∈ (s.acceptReady S isset accepted).clientSocket) ∧
      (isset s.serverSocket = true → 0 ≤ accepted →
        (accepted ∈ (s.acceptReady S isset accepted).clientSocket ↔ ∃ fd ∈ s.clientSocket, fd < 0)) ∧
      ∀ fd ∈ (s.acceptReady S isset accepted).clientSocket, 0 ≤ fd →
        fd ∈ s.clientSocket ∨ isset s.serverSocket = true ∧ fd = accepted := by
  unfold acceptReady
  by_cases hset : isset s.serverSocket = true
  · rw [if_pos (server_mem_readset.mpr hset)]
    by_cases hpos : 0 ≤ accepted
    · obtain ⟨hkept, hnew, hiff⟩ := mem_acceptClient (S := S) h hpos (hfresh hpos)
      exact ⟨hkept, fun _ _ => hiff, fun fd hfd _ => (hnew fd hfd).imp_right fun heq => ⟨hset, heq⟩⟩
    · -- no connection
      have hsame : (s.acceptClient S accepted).clientSocket = s.clientSocket := by
        unfold acceptClient modbusTcpAccept
        rw [if_pos (show s.serverSocket ≥ 0 from h.owned.server), if_pos (by omega)]
        dsimp only
        rw [if_neg (by omega)]
      rw [hsame]
      exact ⟨fun fd hfd _ => hfd, fun _ h => absurd h hpos, fun fd hfd _ => Or.inl hfd⟩
  · rw [if_neg fun hmem => hset (server_mem_readset.mp hmem)]
    exact ⟨fun fd hfd _ => hfd, fun h => absurd h hset, fun fd hfd _ => Or.inl hfd⟩

end Server

/-! ### The results -/

section Results

variable {R : Fifo ρ UInt8 256} {S : Sockets ω} {core : Core} {maxClientNum : Nat} {cb : Option (SlaveCallback κ)}
  {slave : SlaveState (Booked ρ ω) κ} {addrList : List Address} {s s' : Server ρ ω κ}
  (h : Ready slave.smb core (rtsocketPort R S.booked)) (hfd : slave.device.socketFd < 0)
  (hos : slave.device.table = ⟨fun _ => none, []⟩) (hsome : ∃ cur ∈ addrList, Opening.listen.Succeeds cur)

include h hfd hos hsome

/-- **The server holds what is open**, as long as it finds an address to listen on each time. In every state of every
such run the listening socket listens, each slot that is taken has a connection of its own, nothing else is open, so no
more than a socket for each slot and one to listen on, and no socket was ever closed that was not open, other than a
negative descriptor. -/
theorem server_owns (hrun : Server.Run S cb (.start slave maxClientNum 0 addrList) s) :
    Owned s.slave.device.table s.serverSocket s.clientSocket ∧ s.clientSocket.length = maxClientNum ∧
      ∀ l : List Int, l.Nodup → (∀ fd ∈ l, s.slave.device.table.state fd ≠ none) → l.length ≤ maxClientNum + 1 := by
  have hs := hrun.sound (R := R) (Server.sound_start maxClientNum h hfd hos hsome)
  refine ⟨hs.owned, hs.slots, ?_⟩
  intro l hnodup hopen
  rw [← hs.slots]
  exact hs.owned.open_le hnodup hopen

/-- **Who is a client after a round.** In every state of such a run a client keeps its slot through a round in which
`select` does not fail, unless it is its turn and its read fails. A new connection becomes a client exactly if a slot
is free, and nobody else does. -/
theorem server_turns (hrun : Server.Run S cb (.start slave maxClientNum 0 addrList) s) {fuel : Nat}
    {isset : Int → Bool} {accepted : Int} (hfresh : 0 ≤ accepted → s.slave.device.table.state accepted = none)
    (hround : s.round S fuel cb (.ready isset accepted) = .ok s') :
    (∀ fd ∈ s.clientSocket, 0 ≤ fd → fd ∈ s'.clientSocket ∨
        Server.ReadFails S fuel cb (s.readset isset) (s.acceptReady S isset accepted).clientSocket
          (s.acceptReady S isset accepted).slave fd) ∧
      (isset s.serverSocket = true → 0 ≤ accepted →
        (accepted ∈ s'.clientSocket ↔ ∃ fd ∈ s.clientSocket, fd < 0)) ∧
      ∀ fd ∈ s'.clientSocket, 0 ≤ fd → fd ∈ s.clientSocket ∨ isset s.serverSocket = true ∧ fd = accepted := by
  have hs := hrun.sound (R := R) (Server.sound_start maxClientNum h hfd hos hsome)
  unfold Server.round at hround
  dsimp only at hround
  obtain ⟨⟨slots, slave₁⟩, hserve, hround⟩ := bind_eq_ok.mp hround
  cases hround
  obtain ⟨hkept, hold⟩ := Server.mem_serveClients hserve
  obtain ⟨hstay, hnew, honly⟩ := Server.mem_acceptReady (S := S) hs isset hfresh
  refine ⟨fun fd hmem hpos => hkept fd (hstay fd hmem hpos), ?_, fun fd hmem hpos => honly fd (hold fd hmem hpos) hpos⟩
  intro hset hpos
  rw [← hnew hset hpos]
  constructor
  · intro hmem
    exact hold accepted hmem hpos
  · intro hmem
    -- `select` does not know the new connection yet, so it is not its turn
    rcases hkept accepted hmem with hmem' | ⟨hturn, -⟩
    · exact hmem'
    · have hfresh := hfresh hpos
      rcases (Server.mem_readset hturn).1 with rfl | hold
      · simp [hs.owned.listening] at hfresh
      · simp [hs.owned.connected hpos hold] at hfresh

end Results

/-! ### A run on a network -/

/-- A slave in front of this network, with no socket open. -/
def Net.slave (pieces : Int → List (List UInt8)) :
    SlaveState (Booked {l : List UInt8 // l.length ≤ 256} Net) Unit where
  smb := newContext .tcp (rtsocketPort (Fifo.ofList UInt8 256) Net.sockets.booked) 17
  device := ⟨-1, (Net.server pieces).device.rxRingbuff.1, (⟨pieces, []⟩, ⟨fun _ => none, []⟩)⟩
  app := ()

theorem Net.slave_ready (pieces : Int → List (List UInt8)) :
    Ready (Net.slave pieces).smb .tcp (rtsocketPort (Fifo.ofList UInt8 256) Net.sockets.booked) :=
  newContext_ready .tcp _ 17

/-- A server in front of this network. -/
abbrev Net.TcpServer := Server {l : List UInt8 // l.length ≤ 256} Net Unit

/-- Two addresses: the first gets no socket, the second works. -/
def Net.addrList : List Address := [⟨-1, 0, 0, 0⟩, ⟨3, 0, 0, 0⟩]

theorem Net.addrList_succeeds : ∃ cur ∈ Net.addrList, Opening.listen.Succeeds cur :=
  ⟨⟨3, 0, 0, 0⟩, List.mem_cons_of_mem _ List.mem_cons_self, by decide, rfl⟩

/-- A server with one slot. -/
def Net.oneSlot (pieces : Int → List (List UInt8)) : Net.TcpServer := .start (Net.slave pieces) 1 0 Net.addrList

/-- Two rounds of it. -/
def Net.twoRounds (pieces : Int → List (List UInt8)) (first second : Selected) :
    Exec (Net.TcpServer × Net.TcpServer) := do
  let s₁ ← (Net.oneSlot pieces).round Net.sockets 40 none first
  let s₂ ← s₁.round Net.sockets 40 none second
  return (s₁, s₂)

theorem Net.twoRounds_run {pieces : Int → List (List UInt8)} {first second : Selected} {s₁ s₂ : Net.TcpServer}
    (hall : Net.twoRounds pieces first second = .ok (s₁, s₂)) (hfirst : (Net.oneSlot pieces).Allows first)
    (hsecond : s₁.Allows second) :
    Server.Run Net.sockets none (Net.oneSlot pieces) s₁ ∧ s₁.round Net.sockets 40 none second = .ok s₂ ∧
      Server.Run Net.sockets none (Net.oneSlot pieces) s₂ := by
  unfold Net.twoRounds at hall
  obtain ⟨s, hround₁, hall⟩ := bind_eq_ok.mp hall
  obtain ⟨s', hround₂, hall⟩ := bind_eq_ok.mp hall
  cases hall
  have hrun := Relation.ReflTransGen.single (Server.Step.round hfirst hround₁)
  exact ⟨hrun, hround₂, hrun.tail (.round hsecond hround₂)⟩

/-- Client 4 gets the slot. In the next round it is answered, and client 5 is closed. -/
theorem server_owns_full :
    ∃ s, Server.Run Net.sockets none
        (Net.oneSlot fun fd => if fd = 4 then [[0, 1, 0, 0, 0, 2, 17, 0x11]] else []) s ∧
      s.clientSocket = [4] ∧ s.slave.device.os.1.sent.map Prod.fst = [4] ∧
      Owned s.slave.device.table s.serverSocket s.clientSocket := by
  obtain ⟨⟨s₁, s₂⟩, hall, hfacts⟩ := map_eq_ok.mp (show (Net.twoRounds
    (fun fd => if fd = 4 then [[0, 1, 0, 0, 0, 2, 17, 0x11]] else []) (.ready (fun fd => fd = 3) 4)
    (.ready (fun fd => fd = 3 ∨ fd = 4) 5)).map (fun x =>
      (x.1.slave.device.table.state 5, x.2.clientSocket, x.2.slave.device.os.1.sent.map Prod.fst)) =
      .ok (none, [4], [4]) by decide +kernel)
  simp only [Prod.mk.injEq] at hfacts
  obtain ⟨hfresh, hslots, hsent⟩ := hfacts
  obtain ⟨-, -, hrun⟩ := Net.twoRounds_run hall (fun _ => rfl) (fun _ => hfresh)
  refine ⟨s₂, hrun, hslots, hsent, ?_⟩
  exact (server_owns (Net.slave_ready _) (show (-1 : Int) < 0 by decide) rfl Net.addrList_succeeds hrun).1

/-- Client 4 has the slot and has closed its connection. Its read fails, and it loses the slot; client 5, which was
accepted before this, gets none. -/
theorem server_turns_closed :
    ∃ s s' : Net.TcpServer, s.round Net.sockets 40 none (.ready (fun fd => fd = 3 ∨ fd = 4) 5) = .ok s' ∧
      s.clientSocket = [4] ∧ s'.clientSocket = [-1] ∧ (5 ∈ s'.clientSocket ↔ ∃ fd ∈ s.clientSocket, fd < 0) ∧
      (4 ∈ s'.clientSocket ∨ Server.ReadFails Net.sockets 40 none (s.readset fun fd => fd = 3 ∨ fd = 4)
        (s.acceptReady Net.sockets (fun fd => fd = 3 ∨ fd = 4) 5).clientSocket
        (s.acceptReady Net.sockets (fun fd => fd = 3 ∨ fd = 4) 5).slave 4) := by
  obtain ⟨⟨s₁, s₂⟩, hall, hfacts⟩ := map_eq_ok.mp (show (Net.twoRounds
    (fun fd => if fd = 4 then [[]] else []) (.ready (fun fd => fd = 3) 4)
    (.ready (fun fd => fd = 3 ∨ fd = 4) 5)).map (fun x =>
      (x.1.slave.device.table.state 5, x.1.serverSocket, x.1.clientSocket, x.2.clientSocket)) =
      .ok (none, 3, [4], [-1]) by decide +kernel)
  simp only [Prod.mk.injEq] at hfacts
  obtain ⟨hfresh, hserver, hbefore, hafter⟩ := hfacts
  obtain ⟨hrun, hround, -⟩ := Net.twoRounds_run hall (fun _ => rfl) (fun _ => hfresh)
  obtain ⟨hkept, hnew, -⟩ := server_turns (Net.slave_ready _) (show (-1 : Int) < 0 by decide) rfl
    Net.addrList_succeeds hrun (fun _ => hfresh) hround
  exact ⟨s₁, s₂, hround, hbefore, hafter, hnew (by simp [hserver]) (by decide), hkept 4 (by simp [hbefore]) (by decide)⟩

end SmallModbus
