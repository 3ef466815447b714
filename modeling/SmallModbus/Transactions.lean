/-
# `SmallModbus.Transactions` — a TCP master on a network that keeps no order.

A `Network` is a TCP master and the responses on their way to it. It steps when the master starts a request
or waits for a confirmation, and when responses are lost, delayed, repeated or overtaken. `Matching` is what
every step keeps: the transaction id of the context counts the requests, and a response carries the number
of the request it answers. `transaction_match` says what the master then accepts.
-/
import SmallModbus.Station

namespace SmallModbus

open SmallModbus.Lib

variable {σ : Type} {port : Port σ}

/-! ## §1 — what a request sends. -/

/-- The functions `modbus_check_addr_num` lets through are the eight of the master. -/
theorem serviceOf_checked {f : UInt8} {address num : UInt16} (h : modbusCheckAddrNum f address num = true) :
    ∃ k, serviceOf f = .read k ∨ serviceOf f = .writeSingle k ∨ serviceOf f = .writeMultiple k := by
  have hmem : (f.toNat : Int) ∈ requestFunctions := by
    unfold modbusCheckAddrNum at h
    simp only [requestFunctions, List.mem_cons, List.not_mem_nil, or_false]
    grind
  obtain ⟨k, hk⟩ := serviceOf_request hmem
  rw [toU8_toNat] at hk
  exact ⟨k, hk⟩

/-- The PDU of a request for one of the eight functions. -/
def Asks (pdu : List UInt8) : Prop :=
  ∃ (q : Query) (tail : List UInt8), pdu = q.echoReply ++ tail ∧
    ∃ k, serviceOf q.function = .read k ∨ serviceOf q.function = .writeSingle k ∨
      serviceOf q.function = .writeMultiple k

/-- A function that is none of the eight as an `int` gets no data behind its quantity. -/
theorem modbusStartRequest_plain {smb : Smb σ} {core : Core} (h : Ready smb core port) (w : σ)
    (old : Buffer UInt8 modbusMaxAduLength) {function addr num : Int} (hf : function ∉ requestFunctions)
    (hcheck : modbusCheckAddrNum (toU8 function) (toU16 addr) (toU16 num) = true) (writeData : List UInt8)
    {frame : List UInt8} (hframe : frame = core.adu (core.requestContext smb).transferId smb.slaveAddr
      [toU8 function, highByte addr, lowByte addr, highByte num, lowByte num]) :
    modbusStartRequest smb w old function addr num writeData =
      .ok ((modbusWrite smb w frame).1, core.requestContext smb, (modbusWrite smb w frame).2,
        old.fill frame) := by
  have hh := core.lenHeader_le
  have ho := core.lenOverhead_le
  have hmax : modbusMaxAduLength = 260 := rfl
  have hlen : frame.length = core.lenHeader + 5 + core.lenChecksum := by
    rw [hframe, Core.length_adu]
    rfl
  obtain ⟨x, y, hbuild⟩ := buildRequestHeader_fill core smb old (by omega) smb.slaveAddr.toNat function
    addr num
  rw [toU8_toNat] at hbuild
  have hdata : ∀ request : Buffer UInt8 modbusMaxAduLength,
      requestData request (core.lenHeader + 5) function num writeData =
        .ok (core.lenHeader + 5, request) := by
    intro request
    simp only [requestFunctions, List.mem_cons, List.not_mem_nil, or_false, not_or] at hf
    obtain ⟨-, -, -, -, h5, h6, h15, h16⟩ := hf
    unfold requestData
    rw [if_neg h5, if_neg h6, if_neg h15, if_neg h16]
    rfl
  have hsend := checkSendPre_fill core (core.requestContext smb) old le_rfl
    (core.requestContext smb).transferId smb.slaveAddr x y (hframe ▸ hlen.trans_le (by omega))
    (show core.lenHeader + 5 = core.lenHeader + _ from rfl)
  rw [← hframe] at hsend
  have hslice : (old.fill frame).slice (toU16 (frame.length : Nat)).toNat = .ok frame := by
    rw [toNat_toU16_natCast (by omega), Buffer.slice_fill old (by omega)]
  unfold modbusStartRequest
  simp only [h.contextCheck, ne_eq, not_true, if_false, if_pos hcheck, h.coreOf, exec_ok_bind, hbuild, hdata,
    hsend]
  rw [if_pos (by omega), hslice, exec_ok_bind, modbusWrite_requestContext]
  rfl

/-- **A call that returns** refused its quantity and did nothing, or handed the port one request frame. -/
theorem modbusStartRequest_sends {smb : Smb σ} {core : Core} (h : Ready smb core port) (T : Tap port) {w : σ}
    {old : Buffer UInt8 modbusMaxAduLength} {function addr num : Int} {writeData : List UInt8} {ret : Int}
    {smb' : Smb σ} {w' : σ} {buff' : Buffer UInt8 modbusMaxAduLength}
    (hrun : modbusStartRequest smb w old function addr num writeData = .ok (ret, smb', w', buff')) :
    ret = modbusFailRequest ∧ smb' = smb ∧ w' = w ∧ buff' = old ∨
      ∃ pdu frame, frame = core.adu (core.requestContext smb).transferId smb.slaveAddr pdu ∧ Asks pdu ∧
        frame.length ≤ modbusMaxAduLength ∧ smb' = core.requestContext smb ∧
        T.sent w' = T.sent w ++ [frame] := by
  by_cases hf : function ∈ requestFunctions
  · rcases modbusStartRequest_cases h hf hrun with hrefused | hs
    · exact Or.inl hrefused
    · right
      rw [modbusStartRequest_eq h T.writeFn w old le_rfl hs] at hrun
      cases hrun
      obtain ⟨q, tail, hpdu, hqf⟩ := hs.query
      refine ⟨_, _, rfl, ⟨q, tail, hpdu, ?_⟩, hs.length_adu_le core _ _, rfl, T.sent_write w _⟩
      rw [hqf]
      exact serviceOf_request hf
  · by_cases hcheck : modbusCheckAddrNum (toU8 function) (toU16 addr) (toU16 num) = true
    · right
      have ho := core.lenOverhead_le
      rw [modbusStartRequest_plain h w old hf hcheck writeData rfl, h.write T.writeFn] at hrun
      cases hrun
      refine ⟨_, _, rfl, ?_, ?_, rfl, T.sent_write w _⟩
      · obtain ⟨q, tail, hq⟩ := exists_query (show 5 ≤ [toU8 function, highByte addr, lowByte addr,
          highByte num, lowByte num].length from le_rfl)
        refine ⟨q, tail, hq, ?_⟩
        have hqf : toU8 function = q.function := Option.some.inj (congrArg List.head? hq)
        rw [← hqf]
        exact serviceOf_checked hcheck
      · rw [Core.length_adu]
        show core.lenHeader + 5 + core.lenChecksum ≤ 260
        omega
    · left
      rw [modbusStartRequest_refused h.contextCheck hcheck] at hrun
      cases hrun
      exact ⟨rfl, rfl, rfl, rfl⟩

/-! ## §2 — what a slave replies. -/

/-- `modbus_slave_handle`, in a slave that has the transaction id of the request, hands its port this frame
for it. -/
def Replies (request reply : List UInt8) : Prop :=
  ∃ (τ κ : Type) (slavePort : Port τ) (T : Tap slavePort) (slave : Smb τ) (v : τ) (m : Nat)
    (old : Buffer UInt8 m) (cb : Option (SlaveCallback κ)) (app : κ) (x : Int × Smb τ × τ × Buffer UInt8 m × κ),
    Ready slave .tcp slavePort ∧ modbusMaxAduLength ≤ m ∧
      (∃ a pdu, request = Core.tcp.adu slave.transferId a pdu) ∧
      modbusSlaveHandle slave v (old.fill request) (toU16 (request.length : Nat)) cb app = .ok x ∧
      T.sent x.2.2.1 = T.sent v ++ [reply]

section Replies

variable {tid : UInt16} {a : UInt8} {pdu request reply : List UInt8}
  (hrequest : request = Core.tcp.adu tid a pdu) (hasks : Asks pdu)
  (hlen : request.length ≤ modbusMaxAduLength)

include hrequest hasks hlen

/-- **A reply** is a frame of the same transaction, of the length the master's table gives it. -/
theorem Replies.adu (h : Replies request reply) :
    ∃ a' pdu', reply = Core.tcp.adu tid a' pdu' ∧ confirmFormat.Sized pdu' ∧
      reply.length ≤ modbusMaxAduLength := by
  obtain ⟨τ, κ, slavePort, T, slave, v, m, old, cb, app, x, hready, hm, ⟨a₁, pdu₁, hframe⟩, hrun, hsent⟩ := h
  have hid : tid = slave.transferId :=
    congrArg Smb.transferId ((Core.adu_inj (hrequest.symm.trans hframe)).2.2 slave)
  obtain ⟨q, tail, rfl, hserv⟩ := hasks
  have hin : q.In .tcp (old.fill request) := Query.in_adu old hrequest (hlen.trans hm)
  obtain ⟨⟨r, data, app'⟩, hcall⟩ : ∃ y, q.call .tcp slave (old.fill request) cb app = y := ⟨_, rfl⟩
  by_cases hfits : q.Fits r
  · obtain ⟨wb, request', hrun'⟩ := modbusSlaveHandle_eq hin hm cb app hready T.writeFn v
      (toU16 (request.length : Nat)) hcall hfits
    rw [hrun'] at hrun
    cases hrun
    rw [T.sent_write] at hsent
    obtain rfl := List.singleton_injective (List.append_cancel_left hsent)
    rw [hid]
    exact ⟨_, _, rfl, reply_sized hcall hfits hserv, length_replyAdu_le hfits .tcp _ _ _⟩
  · exact absurd hrun (modbusSlaveHandle_overrun hin cb app hready v _ hcall hfits x)

/-- **What a station sends for a request** is such a reply. -/
theorem Station.replies (s : Station .tcp) {rest : List UInt8} (hstream : s.stream = request ++ rest)
    (hsends : s.Sends reply) : Replies request reply := by
  rcases s.step_cases with hrejects | ⟨a₁, ha, tid₁, pdu₁, rest₁, hsize, hlen₁, hstream₁⟩
  · exact absurd hrejects.silent hsends.not_silent
  · -- the frame it takes is the request
    obtain ⟨heq, -⟩ := Core.tcp_adu_prefix (hrequest ▸ hlen) hlen₁ (hrequest ▸ hstream ▸ hstream₁)
    rw [← heq, ← hrequest] at hlen₁ hstream₁
    have hinj := Core.adu_inj (σ := s.σ) heq
    obtain rfl := hinj.1
    obtain rfl := hinj.2.1
    obtain ⟨q, tail, rfl, hserv⟩ := hasks
    have hin : q.In .tcp (s.smb.readBuff.fill request) := Query.in_adu s.smb.readBuff hrequest hlen
    obtain ⟨⟨r, data, app'⟩, hcall⟩ : ∃ y, q.call .tcp (Core.tcp.adopt s.smb tid) (s.smb.readBuff.fill request)
      s.cb s.app = y := ⟨_, rfl⟩
    obtain ⟨hanswers, hfaults⟩ := s.handles ha hsize (hrequest ▸ hlen) (hrequest ▸ hstream) (hrequest ▸ hin)
      (hrequest ▸ hcall)
    have hfits : q.Fits r := by
      by_contra hfits
      obtain ⟨x, hstep, -⟩ := hsends
      exact hfaults hfits x hstep
    obtain ⟨ret, smb', w', hstep, hsent⟩ := hanswers hfits
    obtain rfl := hsends.unique ⟨_, hstep, hsent⟩
    have hready := adopt_ready s.ready .tcp tid
    obtain ⟨wb, request', hrun⟩ := modbusSlaveHandle_eq hin le_rfl s.cb s.app hready s.tap.writeFn s.device
      (toU16 (request.length : Nat)) hcall hfits
    exact ⟨_, _, _, s.tap, _, s.device, _, _, s.cb, s.app, _, hready, le_rfl, ⟨_, _, hrequest⟩, hrun,
      s.tap.sent_write _ _⟩

end Replies

/-! ## §3 — the master and its network. -/

/-- A TCP master and the responses on their way to it, in the order in which they will arrive: each with
the number of the request it answers, counted from 1. -/
structure Network (σ : Type) where
  smb : Smb σ
  device : σ
  coming : List (Nat × List UInt8)

namespace Network

/-- The port hands over whole responses, each of them a reply to a request that was sent. -/
structure Carries (L : Line port) (T : Tap port) (N : Network σ) : Prop where
  rem_eq : L.rem N.device = (N.coming.map Prod.snd).flatten
  answers : ∀ k reply, (k, reply) ∈ N.coming →
    ∃ i request, k = i + 1 ∧ (T.sent N.device)[i]? = some request ∧ Replies request reply

/-- The steps of a master that is not initialised again, and of its network. -/
inductive Step (L : Line port) (T : Tap port) : Network σ → Network σ → Prop
  /-- `modbus_start_request`, with any arguments. The write may fail, and the network go on meanwhile. -/
  | request {N : Network σ} {old buff' : Buffer UInt8 modbusMaxAduLength} {function addr num ret : Int}
      {writeData : List UInt8} {smb' : Smb σ} {device' : σ} {coming' : List (Nat × List UInt8)}
      (hrun : modbusStartRequest N.smb N.device old function addr num writeData =
        .ok (ret, smb', device', buff'))
      (hcarries : Carries L T ⟨smb', device', coming'⟩) : Step L T N ⟨smb', device', coming'⟩
  /-- `modbus_wait_confirm`, whatever it returns: it is over with the first of the responses. -/
  | confirm {N : Network σ} {fuel n : Nat} {response response' : Buffer UInt8 n} {ret : Int} {device' : σ}
      (hn : modbusMaxAduLength ≤ n)
      (hrun : modbusWaitConfirm fuel N.smb N.device response = .ok (ret, device', response')) :
      Step L T N ⟨N.smb, device', N.coming.tail⟩
  /-- The network replaces what is on its way by any other responses to the requests sent: some get lost
  or arrive now, some arrive again, some in another order. -/
  | network {N : Network σ} {device' : σ} {coming' : List (Nat × List UInt8)}
      (hsent : T.sent device' = T.sent N.device) (hcarries : Carries L T ⟨N.smb, device', coming'⟩) :
      Step L T N ⟨N.smb, device', coming'⟩
  /-- A change of other fields of the context: its buffers, the slave address, the timeouts. -/
  | set {N : Network σ} {smb' : Smb σ} (hmagic : smb'.modbusMagic = N.smb.modbusMagic)
      (hcore : smb'.core = N.smb.core) (hport : smb'.port = N.smb.port)
      (hid : smb'.transferId = N.smb.transferId) : Step L T N ⟨smb', N.device, N.coming⟩

/-- Any number of steps. -/
def Run (L : Line port) (T : Tap port) : Network σ → Network σ → Prop := Relation.ReflTransGen (Step L T)

/-- A TCP context that has sent nothing yet, on an empty network. -/
structure Fresh (L : Line port) (T : Tap port) (N : Network σ) : Prop where
  ready : Ready N.smb .tcp port
  sent_eq : T.sent N.device = []
  rem_eq : L.rem N.device = []
  coming_eq : N.coming = []

/-! ## §4 — the transaction id counts the requests. -/

/-- **The invariant.** The transaction id is that of the start and the number of requests, every request
carries the id of its number, and the network carries replies. -/
structure Matching (L : Line port) (T : Tap port) (c : UInt16) (N : Network σ) : Prop where
  ready : Ready N.smb .tcp port
  id_eq : N.smb.transferId = c + UInt16.ofNat (T.sent N.device).length
  requests : ∀ i request, (T.sent N.device)[i]? = some request →
    ∃ a pdu, request = Core.tcp.adu (c + UInt16.ofNat (i + 1)) a pdu ∧ Asks pdu ∧
      request.length ≤ modbusMaxAduLength
  carries : N.Carries L T

variable {L : Line port} {T : Tap port} {c : UInt16} {N N' : Network σ}

theorem Fresh.matching (h : N.Fresh L T) : N.Matching L T N.smb.transferId where
  ready := h.ready
  id_eq := by
    rw [h.sent_eq]
    exact (UInt16.add_zero _).symm
  requests i request hi := by
    rw [h.sent_eq] at hi
    exact (nomatch hi)
  carries := by
    refine ⟨?_, ?_⟩
    · rw [h.rem_eq, h.coming_eq]
      rfl
    · intro k reply hmem
      rw [h.coming_eq] at hmem
      exact (nomatch hmem)

/-- A response carries the id of the number of its request. -/
theorem Matching.reply (h : N.Matching L T c) {k : Nat} {reply : List UInt8} (hmem : (k, reply) ∈ N.coming) :
    k ≤ (T.sent N.device).length ∧ ∃ a pdu, reply = Core.tcp.adu (c + UInt16.ofNat k) a pdu ∧
      confirmFormat.Sized pdu ∧ reply.length ≤ modbusMaxAduLength := by
  obtain ⟨i, request, rfl, hi, hreplies⟩ := h.carries.answers k reply hmem
  obtain ⟨a, pdu, hrequest, hasks, hlen⟩ := h.requests i request hi
  exact ⟨(List.getElem?_eq_some_iff.mp hi).1, hreplies.adu hrequest hasks hlen⟩

/-- A request takes the next id, and is recorded with it. -/
theorem Matching.request (h : N.Matching L T c) {old buff' : Buffer UInt8 modbusMaxAduLength}
    {function addr num ret : Int} {writeData : List UInt8} {smb' : Smb σ} {device' : σ}
    {coming' : List (Nat × List UInt8)}
    (hrun : modbusStartRequest N.smb N.device old function addr num writeData =
      .ok (ret, smb', device', buff'))
    (hcarries : Carries L T ⟨smb', device', coming'⟩) : Matching L T c ⟨smb', device', coming'⟩ := by
  rcases modbusStartRequest_sends h.ready T hrun with ⟨-, rfl, rfl, -⟩ |
    ⟨pdu, frame, hframe, hasks, hlen, rfl, hsent⟩
  · exact ⟨h.ready, h.id_eq, h.requests, hcarries⟩
  · have hid : (Core.tcp.requestContext N.smb).transferId =
        c + UInt16.ofNat ((T.sent N.device).length + 1) := by
      show N.smb.transferId + 1 = _
      rw [h.id_eq, UInt16.ofNat_add, UInt16.add_assoc]
      rfl
    refine ⟨requestContext_ready h.ready .tcp, ?_, ?_, hcarries⟩
    · show _ = c + UInt16.ofNat (T.sent device').length
      rw [hid, hsent, List.length_append, List.length_singleton]
    · intro i request hi
      replace hi : (T.sent device')[i]? = some request := hi
      rw [hsent] at hi
      rcases Nat.lt_or_ge i (T.sent N.device).length with hlt | hge
      · rw [List.getElem?_append_left hlt] at hi
        exact h.requests i request hi
      · -- the request just sent
        rw [List.getElem?_append_right hge, List.getElem?_singleton] at hi
        split_ifs at hi with h0
        obtain rfl := Option.some.inj hi
        obtain rfl : i = (T.sent N.device).length := by omega
        rw [hid] at hframe
        exact ⟨_, pdu, hframe, hasks, hlen⟩

/-- What `modbus_wait_confirm` accepts is the response at the head, and it carries the last id. -/
theorem Matching.accepts (h : N.Matching L T c) (hp : L.Prompt) {fuel n : Nat} (hn : modbusMaxAduLength ≤ n)
    {response response' : Buffer UInt8 n} {ret : Int} {device' : σ}
    (hrun : modbusWaitConfirm fuel N.smb N.device response = .ok (ret, device', response')) :
    L.rem device' = (N.coming.tail.map Prod.snd).flatten ∧
      (0 ≤ ret → ∃ k reply rest, N.coming = (k, reply) :: rest ∧ ret = (reply.length : Nat) ∧
        response' = response.fill reply ∧
        c + UInt16.ofNat k = c + UInt16.ofNat (T.sent N.device).length) := by
  cases hcoming : N.coming with
  | nil =>
    have hrem : L.rem N.device = [] := by
      rw [h.carries.rem_eq, hcoming]
      rfl
    constructor
    · obtain ⟨cut, code, o, -, -, -, -, -, hrem', -, -⟩ :=
        modbusWaitConfirm_line L h.ready response hn (show (-1 : Int) < 0 by decide) hrun
      rw [hrem', hrem, List.drop_nil]
      rfl
    · intro hret
      obtain ⟨a, pdu, frame, rfl, -, -, hpre, -⟩ := modbusWaitConfirm_ok h.ready L hn hrun hret
      rw [hrem, List.prefix_nil] at hpre
      have hlen := congrArg List.length hpre
      rw [Core.length_adu] at hlen
      exact absurd hlen (by simp [Core.lenHeader])
  | cons x rest =>
    obtain ⟨k, reply⟩ := x
    obtain ⟨-, a, pdu, hreply, hsize, hlen⟩ := h.reply (hcoming ▸ List.mem_cons_self)
    have hrem : L.rem N.device = reply ++ (rest.map Prod.snd).flatten := by
      rw [h.carries.rem_eq, hcoming]
      rfl
    obtain ⟨hrest, haccepts⟩ := modbusWaitConfirm_next L h.ready response hn hp hreply hsize hlen hrem hrun
    refine ⟨hrest, fun hret => ?_⟩
    obtain ⟨hlength, hfill, a', pdu', heq⟩ := haccepts hret
    have hid : c + UInt16.ofNat k = N.smb.transferId :=
      congrArg Smb.transferId ((Core.adu_inj (hreply.symm.trans heq)).2.2 N.smb)
    exact ⟨k, reply, rest, rfl, hlength, hfill, hid.trans h.id_eq⟩

/-- **Every step keeps the invariant.** -/
theorem Matching.step (h : N.Matching L T c) (hp : L.Prompt)
    (hquiet : ∀ frames, L.Preserves fun w => T.sent w = frames) (hstep : Step L T N N') :
    N'.Matching L T c := by
  cases hstep with
  | request hrun hcarries => exact h.request hrun hcarries
  | confirm hn hrun =>
    have hsent := modbusWaitConfirm_preserves L h.ready _ hn (hquiet (T.sent N.device)) hrun rfl
    obtain ⟨hrest, -⟩ := h.accepts hp hn hrun
    refine ⟨h.ready, ?_, ?_, hrest, ?_⟩
    · rw [hsent]
      exact h.id_eq
    · rw [hsent]
      exact h.requests
    · intro k reply hmem
      rw [hsent]
      exact h.carries.answers k reply (List.mem_of_mem_tail hmem)
  | network hsent hcarries =>
    refine ⟨h.ready, ?_, ?_, hcarries⟩
    · rw [hsent]
      exact h.id_eq
    · rw [hsent]
      exact h.requests
  | set hmagic hcore hport hid =>
    exact ⟨h.ready.congr hmagic hcore hport,
      hid.trans h.id_eq, h.requests, h.carries.rem_eq, h.carries.answers⟩

/-- **So does every run.** -/
theorem Matching.run (h : N.Matching L T c) (hp : L.Prompt)
    (hquiet : ∀ frames, L.Preserves fun w => T.sent w = frames) (hrun : Run L T N N') :
    N'.Matching L T c := by
  induction hrun with
  | refl => exact h
  | tail _ hstep ih => exact ih.step hp hquiet hstep

/-- Numbers with the same id differ by a multiple of 65536. -/
theorem eq_of_id_eq {j k : Nat} (hle : j ≤ k) (hlt : k < j + 65536)
    (h : c + UInt16.ofNat j = c + UInt16.ofNat k) : j = k := by
  have hmod := congrArg UInt16.toNat ((UInt16.add_right_inj c).mp h)
  rw [UInt16.toNat_ofNat', UInt16.toNat_ofNat'] at hmod
  omega

end Network

/-! ## §5 — the operations of the master are such steps. -/

section Operation

variable {L : Line port} {T : Tap port} {m : Nat}

/-- **A master operation** is at most a request, a confirmation and what it does to the buffers. The network
may bring any responses once the request is sent. -/
theorem masterOperation_run {N : Network σ} (h : Ready N.smb .tcp port) {fuel : Nat}
    {function addr num : Int} {writeData : List UInt8} {readData out : Buffer UInt8 m} {ret : Int}
    {smb' : Smb σ} {device' : σ}
    (hrun : masterOperation fuel N.smb N.device function addr num writeData readData =
      .ok (ret, smb', device', out))
    (hcarries : ∀ ret₁ smb₁ device₁ buff₁,
      modbusStartRequest N.smb N.device N.smb.writeBuff function addr num writeData =
        .ok (ret₁, smb₁, device₁, buff₁) → ∃ coming₁, Network.Carries L T ⟨smb₁, device₁, coming₁⟩) :
    ∃ coming', Network.Run L T N ⟨smb', device', coming'⟩ := by
  unfold masterOperation at hrun
  simp only [h.contextCheck, ne_eq, not_true, if_false] at hrun
  obtain ⟨⟨ret₁, smb₁, device₁, buff₁⟩, hstart, hrun⟩ := bind_eq_ok.mp hrun
  obtain ⟨coming₁, hcarries₁⟩ := hcarries _ _ _ _ hstart
  have hfirst : Network.Run L T N ⟨{ smb₁ with writeBuff := buff₁ }, device₁, coming₁⟩ :=
    (Relation.ReflTransGen.single (.request hstart hcarries₁)).tail
      (.set (N := ⟨smb₁, device₁, coming₁⟩) rfl rfl rfl rfl)
  dsimp only at hrun
  split_ifs at hrun with hneg
  · cases hrun
    exact ⟨coming₁, hfirst⟩
  · obtain ⟨⟨ret₂, device₂, response⟩, hwait, hrun⟩ := bind_eq_ok.mp hrun
    have hsecond : Network.Run L T N
        ⟨{ smb₁ with writeBuff := buff₁, readBuff := response }, device₂, coming₁.tail⟩ := by
      apply Relation.ReflTransGen.tail (hfirst.tail (.confirm le_rfl hwait))
      exact .set (N := ⟨{ smb₁ with writeBuff := buff₁ }, device₂, coming₁.tail⟩) rfl rfl rfl rfl
    dsimp only at hrun
    split_ifs at hrun with hnone
    · cases hrun
      exact ⟨_, hsecond⟩
    · obtain ⟨⟨ret₃, readData'⟩, -, hrun⟩ := bind_eq_ok.mp hrun
      cases hrun
      exact ⟨_, hsecond⟩

end Operation

/-! ## §6 — what the master accepts. -/

/-- **Transaction matching.** In every run of a TCP master, what `modbus_wait_confirm` accepts is the first
response to arrive, and it answers the last request sent, unless it has been overtaken by 65536 requests or
more. A request whose quantity is refused changes nothing. -/
theorem transaction_match {L : Line port} {T : Tap port} (hp : L.Prompt)
    (hquiet : ∀ frames, L.Preserves fun w => T.sent w = frames) {N₀ N : Network σ} (hstart : N₀.Fresh L T)
    (hrun : Network.Run L T N₀ N) :
    (∀ (fuel n : Nat) (response response' : Buffer UInt8 n) (ret : Int) (device' : σ),
      modbusMaxAduLength ≤ n →
      modbusWaitConfirm fuel N.smb N.device response = .ok (ret, device', response') → 0 ≤ ret →
        ∃ k reply rest, N.coming = (k, reply) :: rest ∧ ret = (reply.length : Nat) ∧
          response' = response.fill reply ∧ L.rem device' = (rest.map Prod.snd).flatten ∧
          k ≤ (T.sent N.device).length ∧
          ((T.sent N.device).length < k + 65536 → k = (T.sent N.device).length)) ∧
      ∀ (old : Buffer UInt8 modbusMaxAduLength) (function addr num : Int) (writeData : List UInt8),
        modbusCheckAddrNum (toU8 function) (toU16 addr) (toU16 num) = false →
          modbusStartRequest N.smb N.device old function addr num writeData =
            .ok (modbusFailRequest, N.smb, N.device, old) := by
  have hmatch := hstart.matching.run hp hquiet hrun
  constructor
  · intro fuel n response response' ret device' hn hwait hret
    obtain ⟨hrest, haccepts⟩ := hmatch.accepts hp hn hwait
    obtain ⟨k, reply, rest, hcoming, hlength, hfill, hid⟩ := haccepts hret
    obtain ⟨hk, -⟩ := hmatch.reply (hcoming ▸ List.mem_cons_self)
    rw [hcoming] at hrest
    exact ⟨k, reply, rest, hcoming, hlength, hfill, hrest, hk, fun hlt => Network.eq_of_id_eq hk hlt hid⟩
  · intro old function addr num writeData hcheck
    exact modbusStartRequest_refused hmatch.ready.contextCheck (Bool.eq_false_iff.mp hcheck) _ old writeData

/-- What a slave on a wire sends for a read. -/
theorem replies_onWire {tid : UInt16} {a : UInt8} {addr num : Int} {request reply : List UInt8}
    (hs : Sendable modbusFcReadHoldingRegisters addr num [])
    (hrequest : request = Core.tcp.adu tid a (requestPdu modbusFcReadHoldingRegisters addr num []))
    (hstep : (Station.onWire .tcp a num request).step.map (fun x => x.2.2.1.tx) = .ok [reply]) :
    Replies request reply := by
  obtain ⟨q, tail, hpdu, hqf⟩ := hs.query
  have hasks : Asks (requestPdu modbusFcReadHoldingRegisters addr num []) :=
    ⟨q, tail, hpdu, .register, Or.inl (by rw [hqf]; rfl)⟩
  obtain ⟨x, hstep, hsent⟩ := map_eq_ok.mp hstep
  exact Station.replies hrequest hasks (hrequest ▸ hs.length_adu_le .tcp tid a) (Station.onWire .tcp a num request)
    (List.append_nil request).symm ⟨x, hstep, hsent⟩

/-- Two reads were sent, and the responses to them are on their way in the other order. -/
def Network.reordered : Network Wire where
  smb := Core.tcp.requestContext (Core.tcp.requestContext (newContext .tcp Wire.port 17))
  device := ⟨[0, 2, 0, 0, 0, 5, 17, 3, 2, 0, 0, 0, 1, 0, 0, 0, 7, 17, 3, 4, 0, 0, 0, 0], [],
    [[0, 1, 0, 0, 0, 6, 17, 3, 0, 0, 0, 2], [0, 2, 0, 0, 0, 6, 17, 3, 0, 4, 0, 1]]⟩
  coming := [(2, [0, 2, 0, 0, 0, 5, 17, 3, 2, 0, 0]), (1, [0, 1, 0, 0, 0, 7, 17, 3, 4, 0, 0, 0, 0])]

theorem Network.reordered_run :
    Network.Run Wire.line Wire.tap ⟨newContext .tcp Wire.port 17, ⟨[], [], []⟩, []⟩ Network.reordered := by
  have hready : Ready (newContext .tcp Wire.port 17) .tcp Wire.port := newContext_ready .tcp Wire.port 17
  have hs₁ : Sendable modbusFcReadHoldingRegisters 0 2 [] :=
    ⟨by decide, rfl, fun _ => ⟨by decide, by decide⟩, Nat.zero_le _⟩
  have hs₂ : Sendable modbusFcReadHoldingRegisters 4 1 [] :=
    ⟨by decide, rfl, fun _ => ⟨by decide, by decide⟩, Nat.zero_le _⟩
  have hf₁ : requestFrame .tcp (newContext .tcp Wire.port 17) modbusFcReadHoldingRegisters 0 2 [] =
      [0, 1, 0, 0, 0, 6, 17, 3, 0, 0, 0, 2] := by decide +kernel
  have hf₂ : requestFrame .tcp (Core.tcp.requestContext (newContext .tcp Wire.port 17))
      modbusFcReadHoldingRegisters 4 1 [] = [0, 2, 0, 0, 0, 6, 17, 3, 0, 4, 0, 1] := by decide +kernel
  have hnone : ∀ (smb' : Smb Wire) (tx : List (List UInt8)),
      Network.Carries Wire.line Wire.tap ⟨smb', ⟨[], [], tx⟩, []⟩ :=
    fun _ _ => ⟨rfl, fun _ _ hmem => nomatch hmem⟩
  have hfirst := modbusStartRequest_eq hready Wire.tap.writeFn ⟨[], [], []⟩ (Buffer.replicate 260 0) le_rfl hs₁
  have hsecond := modbusStartRequest_eq (requestContext_ready hready .tcp) Wire.tap.writeFn
    ⟨[], [], [[0, 1, 0, 0, 0, 6, 17, 3, 0, 0, 0, 2]]⟩ (Buffer.replicate 260 0) le_rfl hs₂
  rw [hf₁] at hfirst
  rw [hf₂] at hsecond
  have hcarries : Network.reordered.Carries Wire.line Wire.tap := by
    refine ⟨rfl, fun k reply hmem => ?_⟩
    simp only [Network.reordered, List.mem_cons, List.not_mem_nil, or_false, Prod.mk.injEq] at hmem
    rcases hmem with ⟨rfl, rfl⟩ | ⟨rfl, rfl⟩
    · exact ⟨1, _, rfl, rfl, replies_onWire hs₂ hf₂.symm (by decide +kernel)⟩
    · exact ⟨0, _, rfl, rfl, replies_onWire hs₁ hf₁.symm (by decide +kernel)⟩
  apply Relation.ReflTransGen.tail _
    (.network (N := ⟨reordered.smb, ⟨[], [], reordered.device.tx⟩, []⟩) rfl hcarries)
  apply Relation.ReflTransGen.tail _ (.request (N := ⟨_, _, []⟩) hsecond (hnone _ _))
  exact .single (.request (N := ⟨_, _, []⟩) hfirst (hnone _ _))

/-- The response to the second read is accepted, and the response to the first remains on its way. -/
theorem transaction_match_reordered :
    ∃ device' response' k reply rest, modbusWaitConfirm 600 Network.reordered.smb Network.reordered.device
        (Buffer.replicate 260 0) = .ok (11, device', response') ∧
      Network.reordered.coming = (k, reply) :: rest ∧ response' = (Buffer.replicate 260 0).fill reply ∧
      Wire.line.rem device' = (rest.map Prod.snd).flatten ∧
      k = (Wire.tap.sent Network.reordered.device).length ∧
      modbusStartRequest Network.reordered.smb Network.reordered.device (Buffer.replicate 260 0) 3 0 0 [] =
        .ok (modbusFailRequest, Network.reordered.smb, Network.reordered.device, Buffer.replicate 260 0) := by
  obtain ⟨haccepts, hrefuses⟩ := transaction_match Wire.steady.prompt Wire.preserves_tx
    ⟨newContext_ready .tcp Wire.port 17, rfl, rfl, rfl⟩ Network.reordered_run
  obtain ⟨⟨ret, device', response'⟩, hwait, hret⟩ := map_eq_ok.mp (show (modbusWaitConfirm 600
    Network.reordered.smb Network.reordered.device (Buffer.replicate 260 0)).map (fun x => x.1) = .ok 11 by
      decide +kernel)
  obtain rfl : ret = 11 := hret
  obtain ⟨k, reply, rest, hcoming, -, hfill, hrest, -, hlt⟩ :=
    haccepts 600 260 _ _ 11 device' le_rfl hwait (by decide)
  have hk : k = 2 := (congrArg Prod.fst (List.cons.inj hcoming).1).symm
  have hlast : (Wire.tap.sent Network.reordered.device).length < k + 65536 := by
    rw [hk]
    decide
  exact ⟨device', response', k, reply, rest, hwait, hcoming, hfill, hrest, hlt hlast,
    hrefuses _ 3 0 0 [] rfl⟩

end SmallModbus
