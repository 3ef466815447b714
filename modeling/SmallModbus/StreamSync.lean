/-
# `SmallModbus.StreamSync` — where the slave takes the end of a request to be on a TCP stream.

The MBAP header says how long a request is, but the slave's reader goes by the function code and the byte
count. `stream_sync_iff`: on which requests the two agree, so that the next call starts at the next one.
-/
import SmallModbus.Exceptions
import SmallModbus.Station

namespace SmallModbus

open SmallModbus.Lib

/-! ## §1 — what the wait takes off the line. -/

namespace Station

variable {core : Core}

/-- The wait returns, and leaves these bytes on the line. -/
def Consumes (s : Station core) (more : List UInt8) : Prop :=
  ∃ x, s.wait = .ok x ∧ s.line.rem x.2.2.1 = more

theorem Consumes.unique {s : Station core} {more more' : List UInt8} (h : s.Consumes more)
    (h' : s.Consumes more') : more = more' := by
  obtain ⟨x, hx, rfl⟩ := h
  obtain ⟨x', hx', rfl⟩ := h'
  rw [hx] at hx'
  rw [Except.ok.inj hx']

/-- A word on which the reader ends is taken, accepted or not, and nothing behind it. -/
theorem consumes_of_ends (s : Station core) {word more : List UInt8} {r : Option Int}
    (hends : (framePull core slaveFormat).Ends word r) (hstream : s.stream = word ++ more) :
    s.Consumes more := by
  obtain ⟨⟨ret, smb', w', buff'⟩, hwait⟩ := s.wait_returns
  obtain ⟨-, hrest, -⟩ := modbusSlaveWait_word s.line s.ready s.smb.readBuff le_rfl s.prompt hends hstream hwait
  exact ⟨_, hwait, hrest⟩

/-- A word on which the reader ends with an error is rejected. -/
theorem rejects_of_ends (s : Station core) {word more : List UInt8} {e : Int}
    (hends : (framePull core slaveFormat).Ends word (some e)) (hstream : s.stream = word ++ more) :
    s.Rejects := by
  rcases s.step_cases with hrej | ⟨a, -, tid, pdu, rest, hsize, hlen, hdel⟩
  · exact hrej
  · have hacc : (framePull core slaveFormat).Accepts (core.adu tid a pdu) := framePull_accepts_adu hsize hlen
    have hrun := Pull.run_of_accepts e hacc rest
    rw [← hdel, hstream, Pull.run_of_ends e hends] at hrun
    cases congrArg Outcome.error hrun

/-- **Where the table puts the end of a request**, on a stream that goes on for long enough: behind the data
that the byte count announces, or behind the byte count if this is too much for a frame. -/
theorem consumes_table (s : Station .tcp) {hd rest : List UInt8} {f : UInt8} {len : Nat}
    (hhd : hd.length = Core.tcp.lenHeader) (hlong : modbusMaxAduLength ≤ rest.length)
    (hstream : s.stream = hd ++ f :: rest)
    (hlen : slaveFormat.dataLength (f :: rest.take (slaveFormat.fixed f)) = len) :
    252 < slaveFormat.fixed f + len ∧ s.Rejects ∧ s.Consumes (rest.drop (slaveFormat.fixed f)) ∨
      slaveFormat.fixed f + len ≤ 252 ∧ s.Consumes (rest.drop (slaveFormat.fixed f + len)) := by
  have hfixed := slaveFormat.fixed_le f
  have hmax : modbusMaxAduLength = 260 := rfl
  have hheader : Core.tcp.lenHeader = 7 := rfl
  have hcheck : Core.tcp.lenChecksum = 0 := rfl
  have hfx : (rest.take (slaveFormat.fixed f)).length = slaveFormat.fixed f :=
    List.length_take_of_le (by omega)
  by_cases hover : 252 < slaveFormat.fixed f + len
  · left
    have hends := framePull_ends_over hhd hfx (by omega)
    have hword : s.stream = (hd ++ f :: rest.take (slaveFormat.fixed f)) ++ rest.drop (slaveFormat.fixed f) := by
      rw [hstream, List.append_assoc, List.cons_append, List.take_append_drop]
    exact ⟨hover, s.rejects_of_ends hends hword, s.consumes_of_ends hends hword⟩
  · right
    have hdata : ((rest.drop (slaveFormat.fixed f)).take len).length = len :=
      List.length_take_of_le (by rw [List.length_drop]; omega)
    have hacc := (framePull_accepts_split hhd hfx).mpr
      (show ((rest.drop (slaveFormat.fixed f)).take len).length = _ ∧ _ from ⟨by omega, by
        rw [List.length_append, List.length_cons, List.length_append, hhd, hfx, hdata]
        omega⟩)
    refine ⟨by omega, s.consumes_of_ends (Pull.ends_none_iff.mpr hacc) ?_⟩
    rw [hstream, List.append_assoc, List.cons_append, List.append_assoc, ← List.drop_drop,
      List.take_append_drop, List.take_append_drop]

end Station

/-! ## §2 — requests that keep the stream in step. -/

/-- The slave at this address takes exactly the request off the stream, whatever follows it, and answers it
with an exception if it does not support the function. -/
structure InSync (tid : UInt16) (addr f : UInt8) (l : List UInt8) : Prop where
  consumed : ∀ (s : Station .tcp) (rest : List UInt8), s.smb.slaveAddr = addr →
    s.stream = Core.tcp.adu tid addr (f :: l) ++ rest → s.Consumes rest
  answered : serviceOf f = .unsupported → ∀ (s : Station .tcp) (rest : List UInt8),
    s.smb.slaveAddr = addr → s.stream = Core.tcp.adu tid addr (f :: l) ++ rest →
      ∃ e, s.Sends (Core.tcp.adu tid addr [f ||| 0x80, e])

/-- A function that is served and has a byte count. -/
theorem slaveFormat_counted (f : UInt8) (h : slaveFormat.counted f ≠ none)
    (hserv : serviceOf f ≠ .unsupported) :
    (f = 15 ∨ f = 16) ∧ slaveFormat.counted f = some 5 ∧ slaveFormat.fixed f = 5 := by
  revert f
  exact forall_uint8 (by decide +kernel)

/-- An unsupported function is answered with its sum with the exception bit. -/
theorem Station.sends_unsupported (s : Station .tcp) {tid : UInt16} {f : UInt8} {l rest : List UInt8}
    (hserv : serviceOf f = .unsupported) (hsize : slaveFormat.Sized (f :: l))
    (hlen : (Core.tcp.adu tid s.smb.slaveAddr (f :: l)).length ≤ modbusMaxAduLength)
    (hstream : s.stream = Core.tcp.adu tid s.smb.slaveAddr (f :: l) ++ rest) :
    s.Sends (Core.tcp.adu tid s.smb.slaveAddr
      [toU8 ((f.toNat : Int) + 0x80), toU8 modbusExceptionIllegalFunction]) := by
  obtain ⟨q, hin⟩ := Query.exists_in .tcp (s.smb.readBuff.fill (Core.tcp.adu tid s.smb.slaveAddr (f :: l)))
    le_rfl
  obtain rfl := hin.function_adu hlen
  have hcall : q.call .tcp (Core.tcp.adopt s.smb tid)
      (s.smb.readBuff.fill (Core.tcp.adu tid s.smb.slaveAddr (q.function :: l))) s.cb s.app =
        (0, [], s.app) := by
    unfold Query.call Query.items
    rw [hserv]
  have hexc : q.exception 0 = some modbusExceptionIllegalFunction := by
    unfold Query.exception
    rw [hserv]
    rfl
  obtain ⟨ret, smb', w', hstep, hsent⟩ := (s.handles (Or.inl rfl) hsize hlen hstream hin hcall).1
    (Query.fits_of_lt (by decide))
  rw [Query.reply_of_exception hexc] at hsent
  exact ⟨_, hstep, hsent⟩

section Sync

variable {tid : UInt16} {addr f : UInt8} {l : List UInt8} (hl : l.length ≤ 252)

include hl

theorem length_tcp_adu_le : (Core.tcp.adu tid addr (f :: l)).length ≤ modbusMaxAduLength := by
  rw [Core.length_adu, List.length_cons]
  show 7 + (l.length + 1) + 0 ≤ 260
  omega

/-- A request of the length the slave's table gives it is taken, and answered if it is not supported. -/
theorem inSync_of_sized (hsize : slaveFormat.Sized (f :: l)) (hexc : serviceOf f = .unsupported → f < 0x80) :
    InSync tid addr f l where
  consumed s rest _ hstream := by
    have hacc : (framePull .tcp slaveFormat).Accepts (Core.tcp.adu tid addr (f :: l)) :=
      framePull_accepts_adu hsize (length_tcp_adu_le hl)
    exact s.consumes_of_ends (Pull.ends_none_iff.mpr hacc) hstream
  answered hserv s rest haddr hstream := by
    subst haddr
    have hsends := s.sends_unsupported hserv hsize (length_tcp_adu_le hl) hstream
    rw [(exceptionFunction_eq_iff f).mpr (hexc hserv)] at hsends
    exact ⟨_, hsends⟩

omit hl in
/-- So is a multiple write that ends where its byte count is refused. -/
theorem inSync_of_over (hf : f = 15 ∨ f = 16) (hfixed : l.length = 5) (hcount : 247 < (l.getD 4 0).toNat) :
    InSync tid addr f l where
  consumed s rest _ hstream := by
    have hadu : Core.tcp.adu tid addr (f :: l) = Core.tcp.header tid addr (f :: l).length ++ f :: l :=
      List.append_nil _
    have hends : (framePull .tcp slaveFormat).Ends (Core.tcp.adu tid addr (f :: l))
        (some slaveFormat.error) := by
      rw [hadu]
      apply framePull_ends_over (Core.length_header ..)
      · rcases hf with rfl | rfl <;> exact hfixed
      · have hdata : slaveFormat.dataLength (f :: l) = (l.getD 4 0).toNat := by
          rcases hf with rfl | rfl <;> rfl
        have hfive : slaveFormat.fixed f = 5 := by
          rcases hf with rfl | rfl <;> rfl
        rw [hdata, hfive]
        show 260 < 7 + 1 + 5 + ((l.getD 4 0).toNat + 0)
        omega
    exact s.consumes_of_ends hends hstream
  answered hserv := by
    rcases hf with rfl | rfl <;> cases hserv

/-- **A request keeps the stream in step, and is answered if it is not supported**, exactly when it has the
length the slave's table gives its function and the exception can be marked, or when it is a multiple write
that ends with a byte count too large for a frame. -/
theorem inSync_iff : InSync tid addr f l ↔
    slaveFormat.Sized (f :: l) ∧ (serviceOf f = .unsupported → f < 0x80) ∨
      (f = 15 ∨ f = 16) ∧ l.length = 5 ∧ 247 < (l.getD 4 0).toNat := by
  constructor
  · intro h
    -- a slave on a wire, with bytes enough behind the request for any function
    obtain ⟨rest, hrest⟩ : ∃ rest : List UInt8, rest.length = 264 := ⟨List.replicate 264 0, List.length_replicate⟩
    obtain ⟨s, haddr, hstream⟩ : ∃ s : Station .tcp, s.smb.slaveAddr = addr ∧
        s.stream = Core.tcp.adu tid addr (f :: l) ++ rest :=
      ⟨Station.onWire .tcp addr 0 _, rfl, rfl⟩
    obtain ⟨hd, hhd, hadu⟩ : ∃ hd, hd.length = Core.tcp.lenHeader ∧ Core.tcp.adu tid addr (f :: l) = hd ++ f :: l :=
      ⟨_, Core.length_header .., List.append_nil _⟩
    have hsync := h.consumed s rest haddr hstream
    have hstream' : s.stream = hd ++ f :: (l ++ rest) := by
      rw [hstream, hadu, List.append_assoc, List.cons_append]
    have hlong : modbusMaxAduLength ≤ (l ++ rest).length := by
      rw [List.length_append]
      show 260 ≤ _
      omega
    -- the fixed part is that of the request if the reader stops at its end
    have hinside : slaveFormat.fixed f ≤ l.length →
        (l ++ rest).take (slaveFormat.fixed f) = l.take (slaveFormat.fixed f) :=
      fun hle => List.take_append_of_le_length hle
    obtain ⟨len, hlen⟩ : ∃ len, slaveFormat.dataLength (f :: (l ++ rest).take (slaveFormat.fixed f)) = len :=
      ⟨_, rfl⟩
    have hfixed := slaveFormat.fixed_le f
    rcases s.consumes_table hhd hlong hstream' hlen with ⟨hover, hrej, hcons⟩ | ⟨hle, hcons⟩
    · -- too many bytes are announced, so the function has a byte count, and it is the last byte
      right
      have hend := congrArg List.length (hcons.unique hsync)
      rw [List.length_drop, List.length_append] at hend
      have hserv : serviceOf f ≠ .unsupported := by
        intro hun
        obtain ⟨e, hsends⟩ := h.answered hun s rest haddr hstream
        exact hsends.not_silent hrej.silent
      have hcounted : slaveFormat.counted f ≠ none := by
        intro hnone
        rw [Format.dataLength_of_not_counted hnone] at hlen
        omega
      obtain ⟨hf, hfive, hfix⟩ := slaveFormat_counted f hcounted hserv
      rw [hinside (by omega)] at hlen
      rw [Format.dataLength_of_counted hfive, hfix] at hlen
      refine ⟨hf, by omega, ?_⟩
      rw [List.take_of_length_le (by omega)] at hlen
      have hcount : (l.getD 4 0).toNat = len := hlen
      omega
    · left
      have hend := congrArg List.length (hcons.unique hsync)
      rw [List.length_drop, List.length_append] at hend
      have hpart : slaveFormat.fixed f ≤ l.length := by omega
      rw [hinside hpart] at hlen
      have hsize : slaveFormat.Sized (f :: l) := by
        have hsplit := Format.sized_iff slaveFormat (List.length_take_of_le hpart) (l.drop (slaveFormat.fixed f))
        rw [List.take_append_drop] at hsplit
        rw [hsplit, hlen, List.length_drop]
        omega
      refine ⟨hsize, fun hun => ?_⟩
      obtain ⟨e, hsends⟩ := h.answered hun s rest haddr hstream
      subst haddr
      have hsends' := s.sends_unsupported hun hsize (length_tcp_adu_le hl) hstream
      obtain ⟨-, hpdu, -⟩ := Core.adu_inj (σ := Unit) (hsends.unique hsends')
      exact (exceptionFunction_eq_iff f).mp (List.cons.inj hpdu).1.symm
  · rintro (⟨hsize, hexc⟩ | ⟨hf, hfixed, hcount⟩)
    · exact inSync_of_sized hl hsize hexc
    · exact inSync_of_over hf hfixed hcount

end Sync

/-- A read of two registers. -/
theorem inSync_iff_read : InSync 9 1 3 [0, 0, 0, 2] := by
  apply (inSync_iff (show [(0 : UInt8), 0, 0, 2].length ≤ 252 by decide)).mpr
  exact Or.inl ⟨rfl, fun h => nomatch h⟩

/-- Function 8 with four bytes of data, and the read of a register behind it. The first is not answered and
its data stays on the line, in front of the second. -/
theorem inSync_lost :
    (modbusSlaveWaitHandle 600 (newContext .tcp Wire.port 1)
      ⟨[0, 1, 0, 0, 0, 6, 1, 8, 0, 0, 0, 1] ++ [0, 2, 0, 0, 0, 6, 1, 3, 0, 0, 0, 1], [], []⟩
      (some (returning 1)) () (-1)).map (fun x => (x.1, x.2.2.1.tx, x.2.2.1.rx)) =
      .ok (-7, [], [0, 0, 0, 1, 0, 2, 0, 0, 0, 6, 1, 3, 0, 0, 0, 1]) := by decide +kernel

end SmallModbus
