/-
# `SmallModbus.Descriptors` — what `socket_fd` denotes after `modbus_tcp_connect` and `modbus_tcp_listen`.

Both functions try the addresses of a list one after the other. The loop stores each new descriptor in the
port before it knows whether the socket works, closes it when it does not, and goes on. When the last address
fails so, `socket_fd` is left with the descriptor that was closed: the guard of the next call takes it for a
connection, and `modbus_tcp_disconnect` closes it again. `descriptors_iff` says for whole runs on which calls
the field denotes a working socket and nothing is closed twice.

The results of the socket layer are arguments here: an `Address` is an entry of the list with what the calls
made on it return. The state of the socket layer is the table of its open sockets.
-/
import SmallModbus.Rtsocket

namespace SmallModbus

open SmallModbus.Lib

/-! ## §1 — the sockets. -/

/-- What an open socket is good for. -/
inductive SocketState
  | opened
  | bound
  | listening
  | connected
  deriving DecidableEq, Repr

/-- The open sockets, and the descriptors that were closed when they were not open. -/
structure SocketTable where
  state : Int → Option SocketState
  closedTwice : List Int

namespace SocketTable

/-- The socket is in this state now. -/
def set (os : SocketTable) (fd : Int) (state : SocketState) : SocketTable :=
  { os with state := fun x => if x = fd then some state else os.state x }

/-- `socket` has returned `fd`. -/
def socket (os : SocketTable) (fd : Int) : SocketTable := if fd < 0 then os else os.set fd .opened

/-- `closesocket`. -/
def closesocket (os : SocketTable) (fd : Int) : SocketTable where
  state := fun x => if x = fd then none else os.state x
  closedTwice := if os.state fd = none then os.closedTwice ++ [fd] else os.closedTwice

@[simp] theorem state_set_self (os : SocketTable) (fd : Int) (state : SocketState) :
    (os.set fd state).state fd = some state := if_pos rfl

@[simp] theorem closedTwice_set (os : SocketTable) (fd : Int) (state : SocketState) :
    (os.set fd state).closedTwice = os.closedTwice := rfl

@[simp] theorem closedTwice_socket (os : SocketTable) (fd : Int) : (os.socket fd).closedTwice = os.closedTwice := by
  unfold socket
  split
  · rfl
  · rfl

@[simp] theorem state_closesocket_self (os : SocketTable) (fd : Int) : (os.closesocket fd).state fd = none :=
  if_pos rfl

theorem closedTwice_closesocket {os : SocketTable} {fd : Int} (h : os.state fd ≠ none) :
    (os.closesocket fd).closedTwice = os.closedTwice := if_neg h

end SocketTable

/-- An entry of the list of `getaddrinfo` with what `socket`, `connect`, `bind` and `listen` return on it. -/
structure Address where
  socket : Int
  connect : Int
  bind : Int
  listen : Int
  deriving DecidableEq, Repr

/-! ## §2 — the port. -/

/-- The two functions that open a socket. -/
inductive Opening
  | connect
  | listen
  deriving DecidableEq, Repr

namespace Opening

/-- What is done with a new socket: the state it is in then, and `ret`. -/
def attempt : Opening → Address → SocketState × Int
  | .connect, cur => if cur.connect = 0 then (.connected, 0) else (.opened, cur.connect)
  | .listen, cur =>
      if cur.bind = 0 then
        if cur.listen = 0 then (.listening, 0) else (.bound, cur.listen)
      else (.opened, cur.bind)

/-- What a socket has to be good for. -/
def goal : Opening → SocketState
  | .connect => .connected
  | .listen => .listening

theorem attempt_goal (o : Opening) {cur : Address} (h : (o.attempt cur).2 = 0) : (o.attempt cur).1 = o.goal := by
  cases o with
  | connect =>
    unfold attempt at h ⊢
    dsimp only at h ⊢
    split_ifs at h ⊢ with h1
    · rfl
    · exact absurd h h1
  | listen =>
    unfold attempt at h ⊢
    dsimp only at h ⊢
    split_ifs at h ⊢ with h1 h2
    · rfl
    · exact absurd h h2
    · exact absurd h h1

/-- The loop over the addresses. It ends with the descriptor that is then in `socket_fd`. -/
def addressLoop (o : Opening) : List Address → (socketFd : Int) → SocketTable → Int × SocketTable
  | [], socketFd, os => (socketFd, os)
  | cur :: rest, _, os =>
      let socketFd := cur.socket
      let os := os.socket socketFd
      if socketFd < 0 then
        addressLoop o rest socketFd os
      else
        let (state, ret) := o.attempt cur
        let os := os.set socketFd state
        if ret = 0 then
          (socketFd, os)
        else
          addressLoop o rest socketFd (os.closesocket socketFd)

end Opening

/-- The descriptor of a socket port and the sockets behind it. -/
structure TcpPort where
  socketFd : Int
  os : SocketTable

namespace TcpPort

/-- The common body of `modbus_tcp_connect` and `modbus_tcp_listen`, `ret` being the result of `getaddrinfo`. -/
def openSocket (o : Opening) (s : TcpPort) (ret : Int) (addrList : List Address) : Int × TcpPort :=
  if s.socketFd < 0 then
    if ret ≠ 0 then
      (ret, s)
    else
      let (socketFd, os) := o.addressLoop addrList s.socketFd s.os
      (socketFd, ⟨socketFd, os⟩)
  else
    (s.socketFd, s)

/-- `modbus_tcp_connect`. -/
def modbusTcpConnect : TcpPort → (ret : Int) → (addrList : List Address) → Int × TcpPort := openSocket .connect

/-- `modbus_tcp_listen`. -/
def modbusTcpListen : TcpPort → (ret : Int) → (addrList : List Address) → Int × TcpPort := openSocket .listen

/-- `modbus_tcp_disconnect`. -/
def modbusTcpDisconnect (s : TcpPort) : Int × TcpPort :=
  if s.socketFd ≥ 0 then (0, ⟨-1, s.os.closesocket s.socketFd⟩)
  else (0, s)

/-- A port after `modbus_port_rtsocket_init`, with no socket open. -/
def init : TcpPort := ⟨-1, ⟨fun _ => none, []⟩⟩

/-- The connection of a whole rtsocket port is this one, over a network that answers with the loop. -/
theorem modbusTcpConnect_rtsocket {ρ : Type} {S : Sockets SocketTable} {w : Rtsocket ρ SocketTable} {ret : Int}
    {addrList : List Address}
    (hconnect : S.connect w.os =
      if ret ≠ 0 then (.error ret, w.os)
      else (.ok (Opening.connect.addressLoop addrList w.socketFd w.os).1,
        (Opening.connect.addressLoop addrList w.socketFd w.os).2)) :
    SmallModbus.modbusTcpConnect S w =
      ((modbusTcpConnect ⟨w.socketFd, w.os⟩ ret addrList).1,
        { w with
          socketFd := (modbusTcpConnect ⟨w.socketFd, w.os⟩ ret addrList).2.socketFd
          os := (modbusTcpConnect ⟨w.socketFd, w.os⟩ ret addrList).2.os }) := by
  unfold SmallModbus.modbusTcpConnect modbusTcpConnect openSocket
  by_cases hfd : w.socketFd < 0
  · rw [if_pos hfd, hconnect, if_pos hfd]
    by_cases hret : ret ≠ 0
    · rw [if_pos hret, if_pos hret]
    · rw [if_neg hret, if_neg hret]
  · rw [if_neg hfd, if_neg hfd]

/-- And so is its end. -/
theorem modbusTcpDisconnect_rtsocket {ρ : Type} {S : Sockets SocketTable}
    (hclose : S.closesocket = SocketTable.closesocket) (w : Rtsocket ρ SocketTable) :
    SmallModbus.modbusTcpDisconnect S w =
      (0, { w with
        socketFd := (modbusTcpDisconnect ⟨w.socketFd, w.os⟩).2.socketFd
        os := (modbusTcpDisconnect ⟨w.socketFd, w.os⟩).2.os }) := by
  unfold SmallModbus.modbusTcpDisconnect modbusTcpDisconnect
  by_cases hfd : w.socketFd ≥ 0
  · rw [if_pos hfd, if_pos hfd, hclose]
  · rw [if_neg hfd, if_neg hfd]

end TcpPort

/-! ## §3 — what the loop leaves. -/

namespace Opening

variable (o : Opening)

/-- The calls on an entry open a socket that does what it is opened for. -/
def Succeeds (cur : Address) : Prop := 0 ≤ cur.socket ∧ (o.attempt cur).2 = 0

/-- What the last `socket` returned, or what was there before. -/
def lastSocket (addrList : List Address) (socketFd : Int) : Int := (addrList.getLast?.map Address.socket).getD socketFd

theorem lastSocket_cons (cur : Address) (rest : List Address) (socketFd : Int) :
    lastSocket (cur :: rest) socketFd = lastSocket rest cur.socket := by
  unfold lastSocket
  rw [List.getLast?_cons]
  cases rest.getLast? <;> rfl

/-- What the loop leaves: a socket that works, or the descriptor of the last address, which is not open. -/
def Leaves (addrList : List Address) (socketFd fd : Int) (os : SocketTable) : Prop :=
  (∃ cur ∈ addrList, o.Succeeds cur) ∧ 0 ≤ fd ∧ os.state fd = some o.goal ∨
    (∀ cur ∈ addrList, ¬ o.Succeeds cur) ∧ fd = lastSocket addrList socketFd ∧ (0 ≤ fd → os.state fd = none)

variable {o} in
/-- An address in vain leaves what the rest of the list leaves. -/
theorem Leaves.cons {cur : Address} {rest : List Address} {fd : Int} {os : SocketTable}
    (h : o.Leaves rest cur.socket fd os) (hfail : ¬ o.Succeeds cur) (socketFd : Int) :
    o.Leaves (cur :: rest) socketFd fd os := by
  rcases h with ⟨⟨cur', hmem, hcur'⟩, hlive⟩ | ⟨hall, hlast, hnone⟩
  · exact Or.inl ⟨⟨cur', List.mem_cons_of_mem cur hmem, hcur'⟩, hlive⟩
  · exact Or.inr ⟨List.forall_mem_cons.mpr ⟨hfail, hall⟩, hlast.trans (lastSocket_cons cur rest socketFd).symm,
      hnone⟩

/-- **The loop** closes no descriptor twice. The induction is on the addresses, with a field that denotes no open
socket. -/
theorem addressLoop_leaves (addrList : List Address) {socketFd : Int} {os : SocketTable}
    (hclosed : 0 ≤ socketFd → os.state socketFd = none) :
    ∃ fd os', o.addressLoop addrList socketFd os = (fd, os') ∧ os'.closedTwice = os.closedTwice ∧
      o.Leaves addrList socketFd fd os' := by
  induction addrList generalizing socketFd os with
  | nil => exact ⟨socketFd, os, rfl, rfl, Or.inr ⟨by simp, rfl, hclosed⟩⟩
  | cons cur rest ih =>
    rw [addressLoop]
    dsimp only
    -- a socket that fails leaves the rest of the list to decide
    have hrest : ¬ o.Succeeds cur → ∀ {os₁ : SocketTable}, os₁.closedTwice = os.closedTwice →
        (0 ≤ cur.socket → os₁.state cur.socket = none) →
        ∃ fd os', o.addressLoop rest cur.socket os₁ = (fd, os') ∧ os'.closedTwice = os.closedTwice ∧
          o.Leaves (cur :: rest) socketFd fd os' := by
      intro hfail os₁ hlog h₁
      obtain ⟨fd, os', hrun, hlog', hleaves⟩ := ih h₁
      exact ⟨fd, os', hrun, hlog'.trans hlog, hleaves.cons hfail socketFd⟩
    by_cases hneg : cur.socket < 0
    · rw [if_pos hneg]
      exact hrest (fun h => by have := h.1; omega) (SocketTable.closedTwice_socket os _) (fun h => by omega)
    · rw [if_neg hneg]
      by_cases hret : (o.attempt cur).2 = 0
      · rw [if_pos hret]
        refine ⟨_, _, rfl, by simp, Or.inl ⟨⟨cur, List.mem_cons_self, by omega, hret⟩, by omega, ?_⟩⟩
        rw [SocketTable.state_set_self, o.attempt_goal hret]
      · rw [if_neg hret]
        -- the descriptor is closed, and it was open
        apply hrest (fun h => hret h.2)
        · rw [SocketTable.closedTwice_closesocket (by simp)]
          simp
        · exact fun _ => SocketTable.state_closesocket_self _ _

end Opening

/-! ## §4 — runs. -/

/-- A call on the port. -/
inductive TcpCall
  | opening (o : Opening) (ret : Int) (addrList : List Address)
  | disconnect

namespace TcpCall

/-- The result of a call, and the port after it. -/
def run : TcpCall → TcpPort → Int × TcpPort
  | .opening .connect ret addrList, s => s.modbusTcpConnect ret addrList
  | .opening .listen ret addrList, s => s.modbusTcpListen ret addrList
  | .disconnect, s => s.modbusTcpDisconnect

theorem run_opening (o : Opening) (ret : Int) (addrList : List Address) (s : TcpPort) :
    (TcpCall.opening o ret addrList).run s = s.openSocket o ret addrList := by cases o <;> rfl

/-- What a call has to leave: a descriptor in `socket_fd` is of an open socket that does what the call opens
sockets for, an attempt in vain has a negative result, and nothing has been closed twice. -/
structure Keeps (s : TcpPort) (c : TcpCall) : Prop where
  live : ∀ o ret addrList, c = .opening o ret addrList → 0 ≤ (c.run s).2.socketFd →
    (c.run s).2.os.state (c.run s).2.socketFd = some o.goal
  retry : ∀ o addrList, c = .opening o 0 addrList → s.socketFd < 0 → (∀ cur ∈ addrList, ¬ o.Succeeds cur) →
    (c.run s).1 < 0
  once : (c.run s).2.os.closedTwice = []

/-- A call that cannot go wrong: the port has a socket of this call already, or one of the addresses works, or
the last `socket` fails, or there is no address. -/
def Fits (s : TcpPort) : TcpCall → Prop
  | .opening o ret addrList =>
      if s.socketFd < 0 then
        ret ≠ 0 ∨ (∃ cur ∈ addrList, o.Succeeds cur) ∨ ∀ last, addrList.getLast? = some last → last.socket < 0
      else s.os.state s.socketFd = some o.goal
  | .disconnect => True

end TcpCall

/-- Every call of a run has the property in the state it is made in. -/
def Along (P : TcpPort → TcpCall → Prop) : TcpPort → List TcpCall → Prop
  | _, [] => True
  | s, c :: calls => P s c ∧ Along P (c.run s).2 calls

/-- What is true of the port between two calls. -/
structure TcpPort.Sound (s : TcpPort) : Prop where
  live : 0 ≤ s.socketFd → s.os.state s.socketFd ≠ none
  once : s.os.closedTwice = []

namespace TcpPort

theorem sound_init : init.Sound := ⟨fun h => absurd h (by decide), rfl⟩

/-- With a descriptor in the port nothing is done. -/
theorem openSocket_ready (o : Opening) {s : TcpPort} (h : ¬ s.socketFd < 0) (ret : Int) (addrList : List Address) :
    s.openSocket o ret addrList = (s.socketFd, s) := if_neg h

/-- `getaddrinfo` fails, and the port stays as it is. -/
theorem openSocket_unresolved (o : Opening) {s : TcpPort} (h : s.socketFd < 0) {ret : Int} (hret : ret ≠ 0)
    (addrList : List Address) : s.openSocket o ret addrList = (ret, s) := by
  unfold openSocket
  rw [if_pos h, if_pos hret]

/-- **Opening a socket** leaves in the port what the loop leaves. -/
theorem openSocket_leaves (o : Opening) {s : TcpPort} (h : s.socketFd < 0) (addrList : List Address) :
    ∃ fd os, s.openSocket o 0 addrList = (fd, ⟨fd, os⟩) ∧ os.closedTwice = s.os.closedTwice ∧
      o.Leaves addrList s.socketFd fd os := by
  obtain ⟨fd, os, hrun, hlog, hleaves⟩ := o.addressLoop_leaves addrList fun h0 => absurd h (not_lt.mpr h0)
  refine ⟨fd, os, ?_, hlog, hleaves⟩
  unfold openSocket
  rw [if_pos h, if_neg (by simp), hrun]

end TcpPort

/-- A descriptor that the loop ends with in vain is negative exactly when there is no address or the last
`socket` fails. -/
theorem Opening.lastSocket_neg {socketFd : Int} (h : socketFd < 0) (addrList : List Address) :
    lastSocket addrList socketFd < 0 ↔ ∀ last, addrList.getLast? = some last → last.socket < 0 := by
  unfold lastSocket
  cases hlast : addrList.getLast? with
  | none => simp [h]
  | some last => simp

namespace TcpCall

theorem keeps_opening_iff {o : Opening} {ret : Int} {addrList : List Address} {s s' : TcpPort} {res : Int}
    (hrun : s.openSocket o ret addrList = (res, s')) :
    (TcpCall.opening o ret addrList).Keeps s ↔
      (0 ≤ s'.socketFd → s'.os.state s'.socketFd = some o.goal) ∧
        (ret = 0 → s.socketFd < 0 → (∀ cur ∈ addrList, ¬ o.Succeeds cur) → res < 0) ∧ s'.os.closedTwice = [] := by
  have hrun := (run_opening o ret addrList s).trans hrun
  constructor
  · intro h
    have hlive := h.live o ret addrList rfl
    have honce := h.once
    rw [hrun] at hlive honce
    refine ⟨hlive, ?_, honce⟩
    rintro rfl
    have hretry := h.retry o addrList rfl
    rw [hrun] at hretry
    exact hretry
  · rintro ⟨hlive, hretry, honce⟩
    refine ⟨?_, ?_, ?_⟩
    · rintro o ret addrList ⟨⟩
      rw [hrun]
      exact hlive
    · rintro o addrList ⟨⟩
      rw [hrun]
      exact hretry rfl
    · rw [hrun]
      exact honce

/-- A disconnect from a sound port closes a socket that is open. -/
theorem keeps_disconnect {s : TcpPort} (hs : s.Sound) : TcpCall.disconnect.Keeps s := by
  refine ⟨(fun o ret addrList h => nomatch h), (fun o addrList h => nomatch h), ?_⟩
  show s.modbusTcpDisconnect.2.os.closedTwice = []
  unfold TcpPort.modbusTcpDisconnect
  split_ifs with h
  · rw [SocketTable.closedTwice_closesocket (hs.live h), hs.once]
  · exact hs.once

/-- **A call that tries the addresses.** -/
theorem keeps_search_iff {s : TcpPort} (hs : s.Sound) (hfd : s.socketFd < 0) (o : Opening) (addrList : List Address) :
    (TcpCall.opening o 0 addrList).Keeps s ↔
      (∃ cur ∈ addrList, o.Succeeds cur) ∨ ∀ last, addrList.getLast? = some last → last.socket < 0 := by
  obtain ⟨fd, os, hrun, hlog, ⟨hsome, -, hstate⟩ | ⟨hall, hlast, -⟩⟩ := s.openSocket_leaves o hfd addrList
  · -- one of the addresses works
    refine iff_of_true ((keeps_opening_iff hrun).mpr ⟨fun _ => hstate, ?_, hlog.trans hs.once⟩) (Or.inl hsome)
    intro _ _ hall
    obtain ⟨cur, hmem, hcur⟩ := hsome
    exact absurd hcur (hall cur hmem)
  · -- none does, and the sign of the last descriptor decides
    rw [keeps_opening_iff hrun, or_iff_right (by simpa using hall), ← Opening.lastSocket_neg hfd, ← hlast]
    constructor
    · rintro ⟨-, hretry, -⟩
      exact hretry rfl hfd hall
    · intro hneg
      exact ⟨fun h => absurd hneg (not_lt.mpr h), fun _ _ _ => hneg, hlog.trans hs.once⟩

/-- **One call.** From a sound port it keeps what is asked of it exactly when it cannot go wrong. -/
theorem keeps_iff {s : TcpPort} (hs : s.Sound) (c : TcpCall) : c.Keeps s ↔ Fits s c := by
  cases c with
  | disconnect => exact iff_of_true (keeps_disconnect hs) trivial
  | opening o ret addrList =>
    unfold Fits
    dsimp only
    by_cases hfd : s.socketFd < 0
    · rw [if_pos hfd]
      by_cases hret : ret = 0
      · subst hret
        rw [keeps_search_iff hs hfd]
        exact (or_iff_right (not_not.mpr rfl)).symm
      · -- `getaddrinfo` fails and the port stays as it is
        refine iff_of_true ((keeps_opening_iff (TcpPort.openSocket_unresolved o hfd hret addrList)).mpr ?_) (Or.inl hret)
        exact ⟨fun h => absurd hfd (not_lt.mpr h), fun h => absurd h hret, hs.once⟩
    · -- the guard lets the socket be
      rw [if_neg hfd, keeps_opening_iff (TcpPort.openSocket_ready o hfd ret addrList)]
      constructor
      · rintro ⟨hlive, -, -⟩
        exact hlive (not_lt.mp hfd)
      · intro hstate
        exact ⟨fun _ => hstate, fun _ h => absurd h hfd, hs.once⟩

/-- A call that keeps what is asked of it leaves a sound port. -/
theorem Keeps.sound {s : TcpPort} {c : TcpCall} (h : c.Keeps s) : (c.run s).2.Sound := by
  refine ⟨?_, h.once⟩
  cases c with
  | opening o ret addrList =>
    intro hpos
    rw [h.live o ret addrList rfl hpos]
    exact Option.some_ne_none _
  | disconnect =>
    intro hpos
    -- the field is negative after a disconnect
    have hneg : s.modbusTcpDisconnect.2.socketFd < 0 := by
      unfold TcpPort.modbusTcpDisconnect
      split_ifs with h
      · show (-1 : Int) < 0
        omega
      · exact not_le.mp h
    exact absurd hneg (not_lt.mpr hpos)

end TcpCall

theorem along_keeps_iff {s : TcpPort} (hs : s.Sound) (calls : List TcpCall) :
    Along (fun s c => c.Keeps s) s calls ↔ Along TcpCall.Fits s calls := by
  induction calls generalizing s with
  | nil => exact Iff.rfl
  | cons c calls ih =>
    show c.Keeps s ∧ _ ↔ TcpCall.Fits s c ∧ _
    rw [← TcpCall.keeps_iff hs c]
    exact and_congr_right fun h => ih h.sound

/-- **Which runs keep the descriptor.** In a run of calls on a port with no socket, every call leaves in
`socket_fd` either nothing or a socket that is good for the call, fails with a negative result and closes
nothing twice, exactly when every call has a socket already, or cannot resolve the name, or finds an address
that works, or fails to open a socket for the last one. -/
theorem descriptors_iff (calls : List TcpCall) :
    Along (fun s c => c.Keeps s) TcpPort.init calls ↔ Along TcpCall.Fits TcpPort.init calls :=
  along_keeps_iff TcpPort.sound_init calls

/-- One address, a socket with descriptor 3, and a `connect` that fails: the result is 3 and so is `socket_fd`,
which is closed; the next call returns it without an attempt, and `modbus_tcp_disconnect` closes it again. -/
theorem descriptors_stale :
    let connect := TcpCall.opening .connect 0 [⟨3, -1, 0, 0⟩]
    let s := (connect.run TcpPort.init).2
    (connect.run TcpPort.init).1 = 3 ∧ s.socketFd = 3 ∧ s.os.state 3 = none ∧
      (∀ ret addrList, s.modbusTcpConnect ret addrList = (3, s)) ∧
      s.modbusTcpDisconnect.2.os.closedTwice = [3] ∧
      ¬ Along (fun s c => c.Keeps s) TcpPort.init [connect, .disconnect] := by
  refine ⟨rfl, rfl, rfl, fun ret addrList => rfl, rfl, ?_⟩
  rintro ⟨hconnect, -⟩
  have hlive := hconnect.live .connect 0 _ rfl (by decide)
  exact absurd hlive (by decide)

end SmallModbus
