/-
# `SmallModbus.Isolation` — whose bytes the slave answers when it serves several sockets.

The loop of the TCP slave sets the socket of its port and calls `modbus_slave_wait_handle`, one client after the
other. The port has one ring for all of them. After an answered request the loop does not flush it, so what a
`recv` handed over behind the request is what the next client is served with.

Each byte that was received is followed with the socket it came from (`arrivals`). A wait receives only into an
empty ring, so at any time the ring holds the bytes of one socket (`Sourced`). Hence an answer goes to the
socket its request came from exactly if the ring held nothing of another socket when the client's turn came
(`isolation_iff`).
-/
import SmallModbus.Echo
import SmallModbus.Rtsocket

namespace SmallModbus

open SmallModbus.Lib

variable {ρ ω κ : Type} {n : Nat}

/-! ## §1 — the loop of the TCP slave. -/

/-- The turn of a client that has something to read. -/
def serveClient (S : Sockets ω) (fuel : Nat) (cb : Option (SlaveCallback κ)) (waitTime clientSocket : Int)
    (s : SlaveState (Rtsocket ρ ω) κ) : Exec (Int × SlaveState (Rtsocket ρ ω) κ) := do
  let w := modbusTcpSetSocket s.device clientSocket
  let (rc, smb, w, app) ← modbusSlaveWaitHandle fuel s.smb w cb s.app waitTime
  if rc > 0 then
    return (rc, ⟨smb, w, app⟩)
  else
    let w := if rc = modbusErrorRead then (modbusTcpDisconnect S (modbusTcpSetSocket w clientSocket)).2 else w
    return (rc, ⟨smb, (modbusErrorRecovery smb w).2, app⟩)

/-- A turn ends with an answer, written to the socket of the client, or with the error of the wait, and then the
ring is flushed. -/
theorem serveClient_cases {R : Fifo ρ UInt8 256} {S : Sockets ω} {core : Core} {fuel : Nat}
    {cb : Option (SlaveCallback κ)} {t fd rc : Int} {s s' : SlaveState (Rtsocket ρ ω) κ}
    (h : Ready s.smb core (rtsocketPort R S)) (hrun : serveClient S fuel cb t fd s = .ok (rc, s')) :
    Ready s'.smb core (rtsocketPort R S) ∧
      ∃ ret smb₁ w₁ request,
        modbusSlaveWait fuel s.smb (modbusTcpSetSocket s.device fd) s.smb.readBuff t =
            .ok (ret, smb₁, w₁, request) ∧
          (ret < 0 ∧ rc = ret ∧ (∃ w₂, s'.device = (modbusRtsocketFlush R w₂).2 ∧
              w₂.rxRingbuff = w₁.rxRingbuff ∧ (w₂.os = w₁.os ∨ w₂.os = S.closesocket w₁.os fd)) ∨
            0 ≤ ret ∧ 0 < rc ∧ ∃ frame, s'.device = (modbusRtsocketWrite S w₁ frame).2) := by
  unfold serveClient at hrun
  obtain ⟨⟨rc₁, smb', w', app'⟩, hhandle, hrun⟩ := bind_eq_ok.mp hrun
  have h' := modbusSlaveWaitHandle_ready h hhandle
  obtain ⟨ret, smb₁, w₁, request, hwait, hcases⟩ :=
    modbusSlaveWaitHandle_cases h (show _ = some (modbusRtsocketWrite S) from rfl) hhandle
  rcases hcases with ⟨hneg, rfl, rfl⟩ | ⟨hpos, pdu, hwritten⟩
  · dsimp only at hrun
    rw [if_neg (by omega), h'.errorRecovery rfl] at hrun
    cases hrun
    refine ⟨h', rc, smb₁, w', request, hwait, Or.inl ⟨hneg, rfl, _, rfl, ?_⟩⟩
    split
    · unfold modbusTcpDisconnect
      split
      · exact ⟨rfl, Or.inr rfl⟩
      · exact ⟨rfl, Or.inl rfl⟩
    · exact ⟨rfl, Or.inl rfl⟩
  · obtain ⟨hlen, hdevice⟩ := Prod.mk.inj hwritten
    have hrc : 0 < rc₁ := by
      rw [hlen]
      show (0 : Int) < ((core.adu smb₁.transferId smb₁.slaveAddr pdu).length : Nat)
      have := core.lenHeader_pos
      rw [Core.length_adu]
      omega
    dsimp only at hrun
    rw [if_pos hrc] at hrun
    cases hrun
    exact ⟨h', ret, smb₁, w₁, request, hwait, Or.inr ⟨hpos, hrc, _, hdevice⟩⟩

/-! ## §2 — where the bytes in the ring came from. -/

/-- A port that keeps records. -/
abbrev Recorded (ρ ω : Type) := Rtsocket (ρ × List (Fifo.Event UInt8)) (ω × List (Int × List UInt8))

/-- The bytes received, each with the socket it came from. -/
def arrivals (w : Recorded ρ ω) : List (Int × UInt8) := w.os.2.flatMap (fun r => r.2.map (Prod.mk r.1))

/-- The bytes that left the ring. -/
def departed (w : Recorded ρ ω) : List UInt8 := w.rxRingbuff.2.flatMap Fifo.Event.out

/-- The bytes in the ring, each with the socket it came from. -/
def pending (w : Recorded ρ ω) : List (Int × UInt8) := (arrivals w).drop (departed w).length

/-- The bytes that left the ring from one state to another, each with the socket it came from. -/
def handedOver (w w' : Recorded ρ ω) : List (Int × UInt8) :=
  ((arrivals w').drop (departed w).length).take ((departed w').length - (departed w).length)

theorem arrivals_snd (w : Recorded ρ ω) : (arrivals w).map Prod.snd = received w := by
  unfold arrivals received
  rw [List.map_flatMap, ← List.flatMap_def]
  apply List.flatMap_congr
  intro r _
  rw [List.map_map]
  exact List.map_id _

section Records

variable {R : Fifo ρ UInt8 256} {S : Sockets ω} {w w' : Recorded ρ ω}

theorem Intact.pending_snd (h : Intact R w) : (pending w).map Prod.snd = R.content w.rxRingbuff.1 := by
  unfold pending
  rw [List.map_drop, arrivals_snd, h.received_eq]
  exact List.drop_left

/-- An empty ring has nothing pending. -/
theorem Intact.pending_eq_nil (h : Intact R w) (hdry : R.content w.rxRingbuff.1 = []) : pending w = [] :=
  List.map_eq_nil_iff.mp (h.pending_snd.trans hdry)

theorem departed_read (w : Recorded ρ ω) (len : UInt16) :
    departed (modbusRtsocketRead R.traced w len).2.2 = departed w ++ (modbusRtsocketRead R.traced w len).2.1 :=
  flatMap_ringRead R (fun _ => rfl) w.rxRingbuff len

/-- A wait lets nothing out of the ring, and what it receives comes from the socket of the port. -/
theorem records_wait (w : Recorded ρ ω) (t : Int) :
    (modbusRtsocketWait R.traced S.traced w t).2.socketFd = w.socketFd ∧
      departed (modbusRtsocketWait R.traced S.traced w t).2 = departed w ∧
      ∃ new, arrivals (modbusRtsocketWait R.traced S.traced w t).2 = arrivals w ++ new ∧
        ∀ b ∈ new, b.1 = w.socketFd := by
  obtain ⟨hfd, ⟨hlog, hring⟩ | ⟨data, -, hlog, hring⟩⟩ := modbusRtsocketWait_traced R.traced S w t
  · refine ⟨hfd, ?_, [], ?_, by simp⟩
    · unfold departed
      rw [hring]
    · unfold arrivals
      rw [hlog, List.append_nil]
  · refine ⟨hfd, ?_, data.map (Prod.mk w.socketFd), ?_, ?_⟩
    · unfold departed
      rw [hring]
      exact R.flatMap_put (fun _ _ => rfl) w.rxRingbuff data
    · unfold arrivals
      rw [hlog, List.flatMap_append, List.flatMap_singleton]
    · intro b hb
      obtain ⟨c, -, rfl⟩ := List.mem_map.mp hb
      rfl

/-- What left the ring is a log of what the port handed over. -/
def departedLog (R : Fifo ρ UInt8 256) (S : Sockets ω) : (rtsocketFeed R.traced S.traced).Log where
  seen := departed
  seen_read w len := departed_read w len
  seen_wait w t := (records_wait w t).2.1

/-! ### One source at a time -/

/-- The records are in order, and what is in the ring came from one socket. -/
structure Sourced (R : Fifo ρ UInt8 256) (w : Recorded ρ ω) : Prop where
  intact : Intact R w
  source : ∃ fd, ∀ b ∈ pending w, b.1 = fd

theorem Sourced.of_empty (h : Intact R w) (hdry : R.content w.rxRingbuff.1 = []) : Sourced R w :=
  ⟨h, 0, by simp [h.pending_eq_nil hdry]⟩

/-- Only the ring and the record of what was received matter. -/
theorem Sourced.congr (h : Sourced R w) (hring : w'.rxRingbuff = w.rxRingbuff) (hos : w'.os.2 = w.os.2) :
    Sourced R w' := by
  obtain ⟨⟨hsupplied, hfits⟩, hsource⟩ := h
  refine ⟨⟨?_, ?_⟩, ?_⟩
  · rw [hring, hos]
    exact hsupplied
  · rw [hos]
    exact hfits
  · unfold pending arrivals departed at hsource ⊢
    rw [hring, hos]
    exact hsource

theorem Sourced.flush (h : Sourced R w) : Sourced R (modbusRtsocketFlush R.traced w).2 :=
  .of_empty h.intact.flush (R.content_reset w.rxRingbuff.1)

theorem sourced_kept :
    Kept (rtsocketFeed R.traced S.traced) (Sourced R) (fun w => R.content w.rxRingbuff.1 = []) where
  read {w} h len := by
    refine ⟨h.intact.read len, ?_⟩
    obtain ⟨fd, hfd⟩ := h.source
    refine ⟨fd, fun b hb => hfd b ?_⟩
    have hdrop : pending (modbusRtsocketRead R.traced w len).2.2 =
        (pending w).drop (modbusRtsocketRead R.traced w len).2.1.length := by
      unfold pending
      rw [departed_read, List.length_append, ← List.drop_drop]
      rfl
    exact List.mem_of_mem_drop (hdrop ▸ hb)
  short _ _ hshort := ringRead_short R.traced hshort
  wait {w} h hdry t := by
    refine ⟨h.intact.wait hdry t, w.socketFd, ?_⟩
    obtain ⟨-, hdeparted, new, harrivals, hnew⟩ := records_wait (R := R) (S := S) w t
    have hall : (arrivals w).length ≤ (departed w).length :=
      List.drop_eq_nil_iff.mp (h.intact.pending_eq_nil hdry)
    intro b hb
    change b ∈ pending (modbusRtsocketWait R.traced S.traced w t).2 at hb
    rw [pending, harrivals, hdeparted, List.drop_append, List.drop_eq_nil_of_le hall, List.nil_append] at hb
    exact hnew b (List.mem_of_mem_drop hb)

end Records

/-! ## §3 — one turn. -/

section Turn

variable {R : Fifo ρ UInt8 256} {S : Sockets ω} {core : Core} {w w' : Recorded ρ ω}

/-- Since `w₀` bytes came from this socket only, and it is the socket of the port. -/
def ReceivedOn (fd : Int) (w₀ w : Recorded ρ ω) : Prop :=
  w.socketFd = fd ∧ ∃ new, arrivals w = arrivals w₀ ++ new ∧ ∀ b ∈ new, b.1 = fd

theorem receivedOn_kept (fd : Int) (w₀ : Recorded ρ ω) :
    Kept (rtsocketFeed R.traced S.traced) (ReceivedOn fd w₀) (fun _ => True) where
  read h _ := h
  short _ _ _ := trivial
  wait {w} h _ t := by
    obtain ⟨rfl, new, harrivals, hnew⟩ := h
    obtain ⟨hfd, -, more, hmore, hfrom⟩ := records_wait (R := R) (S := S) w t
    refine ⟨hfd, new ++ more, ?_, ?_⟩
    · show arrivals (modbusRtsocketWait R.traced S.traced w t).2 = _
      rw [hmore, harrivals, List.append_assoc]
    · intro b hb
      rcases List.mem_append.mp hb with hb | hb
      · exact hnew b hb
      · exact hfrom b hb

/-- The bytes handed over between two states begin with those that were pending. They are all of one socket, if
there are any and all that came in between is, exactly if those that were pending are. -/
theorem handedOver_iff (hw : Sourced R w) {fd : Int} (hon : ReceivedOn fd w w')
    (hlen : (departed w).length < (departed w').length) :
    (∀ b ∈ handedOver w w', b.1 = fd) ↔ ∀ b ∈ pending w, b.1 = fd := by
  obtain ⟨-, new, harrivals, hnew⟩ := hon
  have hover : handedOver w w' = (pending w ++ new.drop ((departed w).length - (arrivals w).length)).take
      ((departed w').length - (departed w).length) := by
    unfold handedOver pending
    rw [harrivals, List.drop_append]
  constructor
  · intro hall
    cases hp : pending w with
    | nil => simp
    | cons x rest =>
      -- the first of them is handed over, and the others came from where it came from
      obtain ⟨source, hsource⟩ := hw.source
      obtain ⟨k, hk⟩ : ∃ k, (departed w').length - (departed w).length = k + 1 :=
        ⟨_, (Nat.succ_pred (by omega)).symm⟩
      have hx : x.1 = fd := by
        apply hall
        rw [hover, hp, hk]
        exact List.mem_cons_self
      rw [hp] at hsource
      intro b hb
      rw [hsource b hb, ← hsource x List.mem_cons_self, hx]
  · intro hall b hb
    rw [hover] at hb
    rcases List.mem_append.mp (List.mem_of_mem_take hb) with hb | hb
    · exact hall b hb
    · exact hnew b (List.mem_of_mem_drop hb)

/-- What a wait that accepts a request took: as many bytes as it says, which are in the buffer of the caller. -/
theorem modbusSlaveWait_handedOver {smb smb' : Smb (Recorded ρ ω)}
    (h : Ready smb core (rtsocketPort R.traced S.traced)) (hw : Sourced R w) {fuel : Nat} {old request : Buffer UInt8 n} (hn : modbusMaxAduLength ≤ n) {t ret : Int}
    (hrun : modbusSlaveWait fuel smb w old t = .ok (ret, smb', w', request)) (hret : 0 ≤ ret) :
    Sourced R w' ∧ ReceivedOn w.socketFd w w' ∧ (departed w).length < (departed w').length ∧
      request = old.fill ((handedOver w w').map Prod.snd) ∧ ret = ((handedOver w w').length : Nat) := by
  have hF := rtsocketFeed_clean R.traced S.traced
  have hw' := sourced_kept.slaveWait hF h hw hrun
  have hon := (receivedOn_kept w.socketFd w).slaveWait hF h ⟨rfl, [], (List.append_nil _).symm, by simp⟩ hrun
  rcases modbusSlaveWait_feed hF h old hn fuel w t with hout | ⟨o, ret₁, smb₁, w₁, hok, hrec, hends, -⟩
  · rw [hrun] at hout
    cases hout
  rw [hrun] at hok
  cases hok
  have hseen : departed w' = departed w ++ o.taken := hrec.session.seen (departedLog R S)
  have hlen : (departed w').length = (departed w).length + o.taken.length := by rw [hseen, List.length_append]
  have hsnd : (handedOver w w').map Prod.snd = o.taken := by
    have hall : received w' = (departed w ++ o.taken) ++ R.content w'.rxRingbuff.1 := hseen ▸ hw'.intact.received_eq
    unfold handedOver
    rw [List.map_take, List.map_drop, arrivals_snd, hall, hlen, Nat.add_sub_cancel_left, List.append_assoc,
      List.drop_left, List.take_left]
  have htaken : ret = (o.taken.length : Nat) ∧ 0 < o.taken.length := by
    rcases hends with ⟨e, -, hneg, rfl, -⟩ | ⟨-, ⟨hlength, a, tid, pdu, -, -, hadu, -⟩ | ⟨hneg, -⟩⟩
    · omega
    · refine ⟨hlength, ?_⟩
      have := core.lenHeader_pos
      rw [hadu, Core.length_adu]
      omega
    · omega
  refine ⟨hw', hon, by omega, by rw [hsnd], ?_⟩
  rw [← List.length_map Prod.snd, hsnd]
  exact htaken.1

end Turn

/-! ## §4 — runs of the server. -/

/-- An answer: the socket it was written to, and the bytes of its request, each with the socket it came from. -/
structure Exchange where
  socket : Int
  request : List (Int × UInt8)
  deriving DecidableEq, Repr

/-- Every byte of the request came from the socket that got the answer. -/
def Exchange.Isolated (e : Exchange) : Prop := ∀ b ∈ e.request, b.1 = e.socket

instance (e : Exchange) : Decidable e.Isolated := inferInstanceAs (Decidable (∀ b ∈ e.request, b.1 = e.socket))

/-- When it is the turn of this client, the ring holds nothing of another. -/
def OwnPending (fd : Int) (s : SlaveState (Recorded ρ ω) κ) : Prop := ∀ b ∈ pending s.device, b.1 = fd

/-- The answer given in a turn that returned `rc`. -/
def answer (fd rc : Int) (s s' : SlaveState (Recorded ρ ω) κ) : List Exchange :=
  if 0 < rc then [⟨fd, handedOver s.device s'.device⟩] else []

theorem answer_socket {fd rc : Int} {s s' : SlaveState (Recorded ρ ω) κ} {e : Exchange}
    (he : e ∈ answer fd rc s s') : e.socket = fd := by
  unfold answer at he
  split at he
  · rw [List.mem_singleton.mp he]
  · cases he

/-- From `s` to `s'` a request of these bytes was accepted while `fd` was the socket of the port, and a frame was
written to it. -/
def Answered (S : Sockets ω) (s s' : SlaveState (Recorded ρ ω) κ) (e : Exchange) : Prop :=
  ∃ (fuel : Nat) (t : Int) (smb₁ : Smb (Recorded ρ ω)) (w₁ : Recorded ρ ω) (frame : List UInt8),
    modbusSlaveWait fuel s.smb (modbusTcpSetSocket s.device e.socket) s.smb.readBuff t =
        .ok ((e.request.length : Nat), smb₁, w₁, s.smb.readBuff.fill (e.request.map Prod.snd)) ∧
      w₁.socketFd = e.socket ∧ s'.device = (modbusRtsocketWrite S.traced w₁ frame).2

/-- In this turn nothing was accepted: what it returned is the error of the wait. -/
def Silent (fuel : Nat) (t fd rc : Int) (s : SlaveState (Recorded ρ ω) κ) : Prop :=
  rc < 0 ∧ ∃ smb₁ w₁ request,
    modbusSlaveWait fuel s.smb (modbusTcpSetSocket s.device fd) s.smb.readBuff t = .ok (rc, smb₁, w₁, request)

/-- A run of the loop, with the answers given in it. Turns come in any order and as long as `meets` allows them,
each with any budget, callback and timeout; a client is disconnected, as one too many is; and anything happens
to the network, to the application and to the fields of the context that do not bind it. -/
inductive ServerRun (S : Sockets ω) (meets : Int → SlaveState (Recorded ρ ω) κ → Prop)
    (s₀ : SlaveState (Recorded ρ ω) κ) : List Exchange → SlaveState (Recorded ρ ω) κ → Prop
  | start : ServerRun S meets s₀ [] s₀
  | turn {log : List Exchange} {s s' : SlaveState (Recorded ρ ω) κ} {fuel : Nat} {cb : Option (SlaveCallback κ)}
      {t fd rc : Int} :
      ServerRun S meets s₀ log s → meets fd s → serveClient S.traced fuel cb t fd s = .ok (rc, s') →
      ServerRun S meets s₀ (log ++ answer fd rc s s') s'
  | disconnect {log : List Exchange} {s : SlaveState (Recorded ρ ω) κ} (fd : Int) :
      ServerRun S meets s₀ log s →
      ServerRun S meets s₀ log
        { s with device := (modbusTcpDisconnect S.traced (modbusTcpSetSocket s.device fd)).2 }
  | other {log : List Exchange} {s : SlaveState (Recorded ρ ω) κ} (smb' : Smb (Recorded ρ ω)) (os' : ω) (app' : κ) :
      ServerRun S meets s₀ log s → smb'.modbusMagic = s.smb.modbusMagic → smb'.core = s.smb.core →
      smb'.port = s.smb.port →
      ServerRun S meets s₀ log ⟨smb', { s.device with os := (os', s.device.os.2) }, app'⟩

section Run

variable {R : Fifo ρ UInt8 256} {S : Sockets ω} {core : Core} {s s' : SlaveState (Recorded ρ ω) κ}

/-- What a turn does to a bound server whose records are in order. -/
theorem serveClient_answers (h : Ready s.smb core (rtsocketPort R.traced S.traced)) (hs : Sourced R s.device)
    {fuel : Nat} {cb : Option (SlaveCallback κ)} {t fd rc : Int}
    (hrun : serveClient S.traced fuel cb t fd s = .ok (rc, s')) :
    (Ready s'.smb core (rtsocketPort R.traced S.traced) ∧ Sourced R s'.device) ∧
      (answer fd rc s s' = [] → Silent fuel t fd rc s) ∧
      ∀ e ∈ answer fd rc s s', Answered S s s' e ∧ (e.Isolated ↔ OwnPending e.socket s) := by
  obtain ⟨h', ret, smb₁, w₁, request, hwait, hcases⟩ := serveClient_cases h hrun
  have hset : Sourced R (modbusTcpSetSocket s.device fd) := hs.congr rfl rfl
  rcases hcases with ⟨hneg, rfl, w₂, hdevice, hring, hos⟩ | ⟨hpos, hrc, frame, hdevice⟩
  · -- the wait failed, and the ring is flushed
    have hw₁ := sourced_kept.slaveWait (rtsocketFeed_clean R.traced S.traced) h hset hwait
    have hw₂ : Sourced R w₂ := by
      refine hw₁.congr hring ?_
      rcases hos with hos | hos
      · rw [hos]
      · rw [hos]
        rfl
    refine ⟨⟨h', hdevice ▸ hw₂.flush⟩, fun _ => ⟨hneg, smb₁, w₁, request, hwait⟩, ?_⟩
    rw [answer, if_neg (by omega)]
    simp
  · obtain ⟨hw₁, hon, hlen, hrequest, hret⟩ := modbusSlaveWait_handedOver h hset le_rfl hwait hpos
    rw [answer, if_pos hrc, List.forall_mem_singleton]
    refine ⟨⟨h', hdevice ▸ hw₁.congr rfl rfl⟩, nofun, ?_⟩
    -- the write does not touch the records
    have hover : handedOver s.device s'.device = handedOver (modbusTcpSetSocket s.device fd) w₁ := by
      rw [hdevice]
      rfl
    rw [hover]
    refine ⟨⟨fuel, t, smb₁, w₁, frame, ?_, hon.1, hdevice⟩, handedOver_iff hset hon hlen⟩
    rw [hwait, hret, hrequest]

/-- Every state of a run is bound and has its records in order. -/
theorem ServerRun.sourced {meets : Int → SlaveState (Recorded ρ ω) κ → Prop} {s₀ : SlaveState (Recorded ρ ω) κ}
    {log : List Exchange} (hrun : ServerRun S meets s₀ log s)
    (h : Ready s₀.smb core (rtsocketPort R.traced S.traced)) (hs : Sourced R s₀.device) : Ready s.smb core (rtsocketPort R.traced S.traced) ∧ Sourced R s.device := by
  induction hrun with
  | start => exact ⟨h, hs⟩
  | turn _ _ hturn ih => exact (serveClient_answers ih.1 ih.2 hturn).1
  | disconnect fd _ ih =>
    refine ⟨ih.1, ih.2.congr ?_ ?_⟩
    · unfold modbusTcpDisconnect
      split <;> rfl
    · unfold modbusTcpDisconnect
      split <;> rfl
  | other smb' os' app' _ hmagic hcore hport ih =>
    exact ⟨ih.1.congr hmagic hcore hport, ih.2.congr rfl rfl⟩

/-- **Answers go where their requests came from**, exactly if the ring holds nothing of another socket when the
turn of a client comes. In a run in which this is so at every turn, every answer is isolated. In any run, a turn
gives no answer if its wait accepts nothing; if it gives one, the request is what the wait took, and the answer is
isolated exactly if the ring held nothing of another socket. The network may group the bytes of a socket in any
way. -/
theorem isolation_iff {s₀ : SlaveState (Recorded ρ ω) κ} (h : Ready s₀.smb core (rtsocketPort R.traced S.traced))
    (hempty : R.content s₀.device.rxRingbuff.1 = []) (hring : s₀.device.rxRingbuff.2 = [])
    (hos : s₀.device.os.2 = []) :
    (∀ log s, ServerRun S OwnPending s₀ log s → ∀ e ∈ log, e.Isolated) ∧
      ∀ log s, ServerRun S (fun _ _ => True) s₀ log s →
        ∀ (fuel : Nat) (cb : Option (SlaveCallback κ)) (t fd rc : Int) (s' : SlaveState (Recorded ρ ω) κ),
        serveClient S.traced fuel cb t fd s = .ok (rc, s') →
        (answer fd rc s s' = [] → Silent fuel t fd rc s) ∧
          ∀ e ∈ answer fd rc s s', Answered S s s' e ∧ (e.Isolated ↔ OwnPending e.socket s) := by
  have hintact : Intact R s₀.device := by
    constructor
    · rw [hos, show s₀.device.rxRingbuff = (s₀.device.rxRingbuff.1, []) from Prod.ext rfl hring]
      exact Fifo.Supplied.empty hempty
    · rw [hos]
      simp
  have hs₀ : Sourced R s₀.device := .of_empty hintact hempty
  constructor
  · intro log s hrun
    induction hrun with
    | start => simp
    | turn hrun hown hturn ih =>
      obtain ⟨hready, hs⟩ := hrun.sourced h hs₀
      intro e he
      rcases List.mem_append.mp he with he | he
      · exact ih e he
      · obtain ⟨-, -, hanswers⟩ := serveClient_answers hready hs hturn
        exact (hanswers e he).2.mpr (answer_socket he ▸ hown)
    | disconnect fd _ ih => exact ih
    | other smb' os' app' _ _ _ _ ih => exact ih
  · intro log s hrun fuel cb t fd rc s' hturn
    obtain ⟨hready, hs⟩ := hrun.sourced h hs₀
    exact (serveClient_answers hready hs hturn).2

end Run

/-! ### A network of sockets -/

/-- For each socket what the next calls of `recv` hand over at most; an empty piece stands for a closed
connection. And what was sent on which socket. -/
structure Net where
  pieces : Int → List (List UInt8)
  sent : List (Int × List UInt8)

/-- The socket layer of this network. A `recv` with nothing to hand over times out. -/
def Net.sockets : Sockets Net where
  send net fd data := { net with sent := net.sent ++ [(fd, data)] }
  recv net fd len :=
    match net.pieces fd with
    | [] => (-1, [], net)
    | piece :: rest =>
      ((piece.take len).length, piece.take len,
        { net with
          pieces := Function.update net.pieces fd (if piece.length ≤ len then rest else piece.drop len :: rest) })
  setRcvTimeout net _ _ _ := net
  soError net _ := (11, net)
  closesocket net _ := net
  connect net := (.ok 0, net)
  eintr := 4
  ewouldblock := 11
  eagain := 11
  recv_le net fd len := by
    split
    · show (-1 : Int) ≤ len
      omega
    · rename_i piece rest _
      show (((piece.take len).length : Nat) : Int) ≤ len
      rw [List.length_take]
      omega
  length_recv net fd len := by
    split
    · rfl
    · rename_i piece rest _
      show (piece.take len).length = (((piece.take len).length : Nat) : Int).toNat
      rw [Int.toNat_natCast]

/-- A slave at address 17 in front of this network. -/
def Net.server (pieces : Int → List (List UInt8)) :
    SlaveState (Recorded {l : List UInt8 // l.length ≤ 256} Net) Unit where
  smb := newContext .tcp (rtsocketPort (Fifo.ofList UInt8 256).traced Net.sockets.traced) 17
  device := ⟨-1, (⟨[], Nat.zero_le 256⟩, []), (⟨pieces, []⟩, [])⟩
  app := ()

/-- A turn of client 4 and then one of client 5: what they return, what is pending in between, and what was answered
and sent. -/
def Net.twoTurns (pieces : Int → List (List UInt8)) :
    Exec (Int × List (Int × UInt8) × Int × List Exchange × List (Int × List UInt8)) := do
  let (rc, s) ← serveClient Net.sockets.traced 40 (none : Option (SlaveCallback Unit)) 5 4 (Net.server pieces)
  let (rc', s') ← serveClient Net.sockets.traced 40 none 5 5 s
  return (rc, pending s.device, rc', answer 4 rc (Net.server pieces) s ++ answer 5 rc' s s', s'.device.os.1.sent)

theorem Net.twoTurns_run {pieces : Int → List (List UInt8)} {rc rc' : Int} {inRing : List (Int × UInt8)}
    {log : List Exchange} {sent : List (Int × List UInt8)}
    (hall : Net.twoTurns pieces = .ok (rc, inRing, rc', log, sent))
    {meets : Int → SlaveState (Recorded {l : List UInt8 // l.length ≤ 256} Net) Unit → Prop}
    (hmeets : ∀ fd s, pending s.device = inRing ∧ fd = 5 ∨ s = Net.server pieces ∧ fd = 4 → meets fd s) :
    ∃ s, ServerRun Net.sockets meets (Net.server pieces) log s ∧ s.device.os.1.sent = sent := by
  unfold Net.twoTurns at hall
  obtain ⟨⟨rc₁, s₁⟩, hfirst, hall⟩ := bind_eq_ok.mp hall
  obtain ⟨⟨rc₂, s₂⟩, hsecond, hall⟩ := bind_eq_ok.mp hall
  simp only [exec_pure, Except.ok.injEq, Prod.mk.injEq] at hall
  obtain ⟨rfl, hpending, rfl, rfl, hsent⟩ := hall
  have hrun := ServerRun.turn .start (hmeets 4 _ (Or.inr ⟨rfl, rfl⟩)) hfirst
  exact ⟨s₂, hrun.turn (hmeets 5 _ (Or.inl ⟨hpending, rfl⟩)) hsecond, hsent⟩

/-- Two clients, each with a request for the report of the slave. -/
theorem isolation_iff_two :
    ∃ log s, ServerRun Net.sockets OwnPending
        (Net.server fun fd =>
          if fd = 4 then [[0, 1, 0, 0, 0, 2, 17, 0x11]] else [[0, 9, 0, 0, 0, 2, 17, 0x11]]) log s ∧
      log.map Exchange.socket = [4, 5] ∧ ∀ e ∈ log, e.Isolated := by
  obtain ⟨⟨rc, inRing, rc', log, sent⟩, hall, hfacts⟩ := map_eq_ok.mp (show (Net.twoTurns fun fd =>
    if fd = 4 then [[0, 1, 0, 0, 0, 2, 17, 0x11]] else [[0, 9, 0, 0, 0, 2, 17, 0x11]]).map
    (fun x => (x.2.1, x.2.2.2.1.map Exchange.socket)) = .ok ([], [4, 5]) by decide +kernel)
  obtain ⟨rfl, hsockets⟩ := Prod.mk.inj hfacts
  have hown : ∀ pieces fd s, pending s.device = [] ∧ fd = 5 ∨ s = Net.server pieces ∧ fd = 4 → OwnPending fd s := by
    rintro pieces fd s (⟨hpending, rfl⟩ | ⟨rfl, rfl⟩)
    · rw [OwnPending, hpending]
      simp
    · exact nofun
  obtain ⟨s, hrun, -⟩ := Net.twoTurns_run hall (hown _)
  have h := newContext_ready .tcp (rtsocketPort (Fifo.ofList UInt8 256).traced Net.sockets.traced) 17
  exact ⟨log, s, hrun, hsockets, (isolation_iff h rfl rfl rfl).1 log s hrun⟩

/-- Client 4 sends two requests in one piece, and client 5 one of its own. The second request of client 4 is
answered to client 5. -/
theorem isolation_pipelined :
    ∃ log s, ServerRun Net.sockets (fun _ _ => True)
        (Net.server fun fd => if fd = 4 then [[0, 1, 0, 0, 0, 2, 17, 0x11, 0, 2, 0, 0, 0, 2, 17, 0x11]]
          else [[0, 9, 0, 0, 0, 2, 17, 0x11]]) log s ∧
      (∃ e ∈ log, ¬ e.Isolated) ∧
      s.device.os.1.sent.map (fun x => (x.1, x.2.take 2)) = [(4, [0, 1]), (5, [0, 2])] := by
  obtain ⟨⟨rc, inRing, rc', log, sent⟩, hall, hfacts⟩ := map_eq_ok.mp (show (Net.twoTurns fun fd =>
    if fd = 4 then [[0, 1, 0, 0, 0, 2, 17, 0x11, 0, 2, 0, 0, 0, 2, 17, 0x11]]
      else [[0, 9, 0, 0, 0, 2, 17, 0x11]]).map
    (fun x => (decide (∃ e ∈ x.2.2.2.1, ¬ e.Isolated), x.2.2.2.2.map (fun y => (y.1, y.2.take 2)))) =
      .ok (true, [(4, [0, 1]), (5, [0, 2])]) by decide +kernel)
  obtain ⟨hleak, hsent⟩ := Prod.mk.inj hfacts
  obtain ⟨s, hrun, rfl⟩ := Net.twoTurns_run hall (fun _ _ _ => trivial)
  exact ⟨log, s, hrun, of_decide_eq_true hleak, hsent⟩

end SmallModbus
