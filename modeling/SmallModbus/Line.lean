/-
# `SmallModbus.Line` — ports that carry a byte stream.

`Line port` is a port whose reads hand over the next bytes of a stream, any number of them from none to
the number asked for. Nothing is assumed about when its waits succeed; `Line.Prompt` adds that a wait
succeeds while bytes remain, `Line.Steady` that it then fails with one code when there are none, and
`Line.Fair` that the port does not go on handing over nothing for ever.

A line is a feed, and a session on it takes the bytes it hands over off the stream. So the reception loop
never sees how the stream was cut: whatever the port does, the loop leaves what its reader leaves on the
stream cut off after some number of bytes, and a prompt port cuts nothing off (`Received.on_line`).
-/
import SmallModbus.Feed

namespace SmallModbus

open SmallModbus.Lib

variable {σ : Type}

/-! ## §1 — ports that carry a stream. -/

/-- A port whose reads return 0 to the requested number of bytes, the next ones of the stream `rem`. -/
structure Line (port : Port σ) where
  read : σ → UInt16 → Int × List UInt8 × σ
  wait : σ → Int → Int × σ
  readFn : port.readFn = some read
  waitFn : port.waitFn = some wait
  /-- the bytes not handed over yet -/
  rem : σ → List UInt8
  /-- how many of them the next read hands over -/
  count : σ → UInt16 → Nat
  read_count : ∀ w len, (read w len).1 = count w len
  read_bytes : ∀ w len, (read w len).2.1 = (rem w).take (count w len)
  count_le : ∀ w len, count w len ≤ len.toNat
  count_le_rem : ∀ w len, count w len ≤ (rem w).length
  rem_read : ∀ w len, rem (read w len).2.2 = (rem w).drop (count w len)
  rem_wait : ∀ w t, rem (wait w t).2 = rem w

namespace Line

variable {port : Port σ}

/-- Every wait succeeds while bytes remain: the port never times out inside the stream. -/
def Prompt (L : Line port) : Prop := ∀ w t, L.rem w ≠ [] → 0 ≤ (L.wait w t).1

/-- A prompt port that times out with `code` when the stream is exhausted. -/
structure Steady (L : Line port) (code : Int) : Prop where
  code_neg : code < 0
  prompt : L.Prompt
  wait_dry : ∀ w t, L.rem w = [] → (L.wait w t).1 = code

/-- `rank` bounds the number of rounds that hand over nothing and are followed by a successful wait. -/
structure Fair (L : Line port) (rank : σ → Nat) : Prop where
  rank_read : ∀ w len, rank (L.read w len).2.2 ≤ rank w
  rank_wait : ∀ w t, rank (L.wait w t).2 ≤ rank w
  rank_stall : ∀ w len t, 0 < len.toNat → L.count w len = 0 →
    0 ≤ (L.wait (L.read w len).2.2 t).1 → rank (L.wait (L.read w len).2.2 t).2 < rank w

/-- Reads and waits keep this property of the device state. -/
structure Preserves (L : Line port) (P : σ → Prop) : Prop where
  preserves_read : ∀ w len, P w → P (L.read w len).2.2
  preserves_wait : ∀ w t, P w → P (L.wait w t).2

end Line

/-- A record of the frames a port was given to write. -/
structure Tap (port : Port σ) where
  write : σ → List UInt8 → Int × σ
  writeFn : port.writeFn = some write
  sent : σ → List (List UInt8)
  sent_write : ∀ w frame, sent (write w frame).2 = sent w ++ [frame]

/-! ## §2 — a line is a feed. -/

namespace Line

variable {port : Port σ} (L : Line port)

/-- The line as a feed. -/
def feed : Feed port where
  read := L.read
  wait := L.wait
  readFn := L.readFn
  waitFn := L.waitFn
  read_le w len := by
    rw [L.read_count]
    exact_mod_cast L.count_le w len
  length_bytes w len := by
    rw [L.read_bytes, L.read_count, Int.toNat_natCast]
    exact List.length_take_of_le (L.count_le_rem w len)

theorem clean : L.feed.Clean := by
  intro w len
  show 0 ≤ (L.read w len).1
  rw [L.read_count]
  exact Int.natCast_nonneg _

/-- A session takes off the stream what it hands over. -/
theorem rem_session {w w' : σ} {log : List UInt8} (h : L.feed.Session w log w') : L.rem w = log ++ L.rem w' := by
  induction h with
  | refl w => rfl
  | read w len _ ih =>
    have hbytes : (L.feed.read w len).2.1 = (L.rem w).take (L.count w len) := L.read_bytes w len
    have hrest : L.rem (L.feed.read w len).2.2 = (L.rem w).drop (L.count w len) := L.rem_read w len
    rw [List.append_assoc, ← ih, hbytes, hrest, List.take_append_drop]
  | wait w t _ ih =>
    have hrest : L.rem (L.feed.wait w t).2 = L.rem w := L.rem_wait w t
    rw [← hrest, ih]

variable {L}

theorem Fair.feed {rank : σ → Nat} (hf : L.Fair rank) : L.feed.Fair rank where
  rank_read := hf.rank_read
  rank_wait := hf.rank_wait
  rank_stall w len t hlen h0 hwait := by
    have hcount : (L.read w len).1 = 0 := h0
    rw [L.read_count] at hcount
    exact hf.rank_stall w len t hlen (by exact_mod_cast hcount) hwait

theorem Preserves.feed {P : σ → Prop} (hP : L.Preserves P) : L.feed.Preserves P :=
  ⟨hP.preserves_read, hP.preserves_wait⟩

end Line

/-- **Reception on a line.** What was taken is what the reader takes of the stream cut off somewhere; on a
prompt line nothing is cut off. -/
theorem Received.on_line {port : Port σ} {L : Line port} {p : Pull UInt8 Int} {w w' : σ}
    {o : Outcome UInt8 Int} (h : L.feed.Received p w w' o) {code₀ : Int} (h₀ : code₀ < 0) :
    ∃ (cut : Nat) (code : Int), cut ≤ (L.rem w).length ∧ code < 0 ∧
      (L.Prompt → cut = (L.rem w).length) ∧ (L.Steady code₀ → code = code₀) ∧
      (p.run code ((L.rem w).take cut)).error = o.error ∧
      (p.run code ((L.rem w).take cut)).taken = o.taken ∧
      L.rem w' = (L.rem w).drop o.taken.length := by
  have hrem := L.rem_session h.session
  have hdrop : L.rem w' = (L.rem w).drop o.taken.length := by rw [hrem, List.drop_left]
  rcases h.ends with hends | ⟨hstarves, code, w₁, t, herr, hcode, hwait⟩
  · -- the reader ended: the rest of the stream does not matter
    refine ⟨(L.rem w).length, code₀, le_rfl, h₀, fun _ => rfl, fun _ => rfl, ?_⟩
    rw [List.take_length, hrem, Pull.run_of_ends code₀ hends]
    exact ⟨rfl, rfl, by rw [List.drop_left]⟩
  · -- a wait failed, on a prompt line because the stream was dry
    have hw' : L.rem w' = L.rem w₁ := by
      have hstep : L.rem (L.wait w₁ t).2 = L.rem w₁ := L.rem_wait w₁ t
      rwa [show L.wait w₁ t = (code, w') from hwait] at hstep
    have hdry : L.Prompt → L.rem w₁ = [] := by
      intro hp
      by_contra hne
      have h0 := hp w₁ t hne
      rw [show L.wait w₁ t = (code, w') from hwait] at h0
      omega
    have htake : (L.rem w).take o.taken.length = o.taken := by rw [hrem, List.take_left]
    refine ⟨o.taken.length, code, ?_, hcode, fun hp => ?_, fun hst => ?_, ?_⟩
    · rw [hrem, List.length_append]
      omega
    · rw [hrem, List.length_append, hw', hdry hp, List.length_nil, Nat.add_zero]
    · have hlast := hst.wait_dry w₁ t (hdry hst.prompt)
      rwa [show L.wait w₁ t = (code, w') from hwait] at hlast
    · rw [htake, Pull.run_of_starves code hstarves]
      exact ⟨herr.symm, rfl, hdrop⟩

end SmallModbus
