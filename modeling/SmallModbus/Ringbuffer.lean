/-
# `SmallModbus.Ringbuffer` — the ring buffer of `small_modbus_port_win32.c`.

`win32device_ringbuffer` keeps its bytes in a pool of the caller, between a read index and a write index
of 15 bits. A mirror bit beside each index tells a full ring from an empty one: the pool is thought of
twice in a row, and the ring holds what lies between the read position and the write position there.
`held` is this list of bytes, and `Valid` what the operations keep true of the indices.

A `memcpy` outside the pool or outside the caller's object stops the execution, so an operation that is
proved to return has stayed inside both.
-/
import Mathlib.Tactic.Ring
import SmallModbus.Lib.Fifo
import SmallModbus.Lib.Refine
import SmallModbus.Types

namespace SmallModbus

open SmallModbus.Lib

variable {n m : Nat}

/-! ## §1 — the structure and its operations. -/

/-- `enum win32device_ringbuffer_state`. -/
inductive RingbufferState
  | empty
  | full
  | halffull
  deriving DecidableEq, Repr

/-- `struct win32device_ringbuffer` over a pool of `n` bytes. -/
structure Win32deviceRingbuffer (n : Nat) where
  bufferPtr : Buffer UInt8 n
  readMirror : BitVec 1
  readIndex : BitVec 15
  writeMirror : BitVec 1
  writeIndex : BitVec 15
  bufferSize : Int16

/-- Conversion of an `int` to `size_t`, 32 bits wide. -/
def toSize (x : Int) : Nat := (x % 2 ^ 32).toNat

/-- `memcpy(&des[off], &src[pos], len)`. A negative length is, as a `size_t`, longer than any object. -/
def memcpy (des : Buffer UInt8 m) (off : Int) (src : List UInt8) (pos len : Int) : Exec (Buffer UInt8 m) :=
  if 0 ≤ off ∧ 0 ≤ pos ∧ 0 ≤ len ∧ pos + len ≤ src.length then
    des.storeBlock off.toNat ((src.drop pos.toNat).take len.toNat)
  else .error .fault

/-- `win32device_ringbuffer_status`. -/
def win32deviceRingbufferStatus (rb : Win32deviceRingbuffer n) : RingbufferState :=
  if rb.readIndex = rb.writeIndex then
    if rb.readMirror = rb.writeMirror then .empty else .full
  else .halffull

/-- `win32device_ringbuffer_init`. -/
def win32deviceRingbufferInit (pool : Buffer UInt8 n) (size : Int16) : Win32deviceRingbuffer n where
  bufferPtr := pool
  readMirror := 0
  readIndex := 0
  writeMirror := 0
  writeIndex := 0
  bufferSize := size

/-- `win32device_ringbuffer_data_len`. -/
def win32deviceRingbufferDataLen (rb : Win32deviceRingbuffer n) : Nat :=
  match win32deviceRingbufferStatus rb with
  | .empty => 0
  | .full => toSize rb.bufferSize.toInt
  | .halffull =>
      if rb.writeIndex.toNat > rb.readIndex.toNat then
        toSize ((rb.writeIndex.toNat : Int) - rb.readIndex.toNat)
      else
        toSize (rb.bufferSize.toInt - ((rb.readIndex.toNat : Int) - rb.writeIndex.toNat))

/-- The macro `win32device_ringbuffer_space_len`. -/
def win32deviceRingbufferSpaceLen (rb : Win32deviceRingbuffer n) : Nat :=
  toSize (rb.bufferSize.toInt - win32deviceRingbufferDataLen rb)

/-- `win32device_ringbuffer_put`. -/
def win32deviceRingbufferPut (rb : Win32deviceRingbuffer n) (ptr : List UInt8) (length : UInt16) :
    Exec (Nat × Win32deviceRingbuffer n) :=
  let size := toU16 (win32deviceRingbufferSpaceLen rb)
  if size = 0 then
    return (0, rb)
  else
    let length := if size < length then size else length
    let index : Int := rb.writeIndex.toNat
    let tail := rb.bufferSize.toInt - index
    if tail > length.toNat then do
      let pool ← memcpy rb.bufferPtr index ptr 0 length.toNat
      return (length.toNat,
        { rb with bufferPtr := pool, writeIndex := BitVec.ofInt 15 (index + length.toNat) })
    else do
      let pool ← memcpy rb.bufferPtr index ptr 0 tail
      let pool ← memcpy pool 0 ptr tail (length.toNat - tail)
      return (length.toNat,
        { rb with
          bufferPtr := pool
          writeMirror := ~~~rb.writeMirror
          writeIndex := BitVec.ofInt 15 (length.toNat - tail) })

/-- `win32device_ringbuffer_get`, into the object `ptr`. -/
def win32deviceRingbufferGet (rb : Win32deviceRingbuffer n) (ptr : Buffer UInt8 m) (length : UInt16) :
    Exec (Nat × Buffer UInt8 m × Win32deviceRingbuffer n) :=
  let size := win32deviceRingbufferDataLen rb
  if size = 0 then
    return (0, ptr, rb)
  else
    let length := if size < length.toNat then toU16 size else length
    let index : Int := rb.readIndex.toNat
    let tail := rb.bufferSize.toInt - index
    if tail > length.toNat then do
      let ptr ← memcpy ptr 0 rb.bufferPtr.toList index length.toNat
      return (length.toNat, ptr, { rb with readIndex := BitVec.ofInt 15 (index + length.toNat) })
    else do
      let ptr ← memcpy ptr 0 rb.bufferPtr.toList index tail
      let ptr ← memcpy ptr tail rb.bufferPtr.toList 0 (length.toNat - tail)
      return (length.toNat, ptr,
        { rb with
          readMirror := ~~~rb.readMirror
          readIndex := BitVec.ofInt 15 (length.toNat - tail) })

/-- `win32device_ringbuffer_reset`. -/
def win32deviceRingbufferReset (rb : Win32deviceRingbuffer n) : Win32deviceRingbuffer n :=
  { rb with readMirror := 0, readIndex := 0, writeMirror := 0, writeIndex := 0 }

/-! ## §2 — what a ring holds. -/

namespace Win32deviceRingbuffer

/-- The indices lie in the pool, the write position not before the read position and at most the size
after it, in the pool thought of twice. -/
structure Valid (rb : Win32deviceRingbuffer n) : Prop where
  size_eq : rb.bufferSize.toInt = n
  readIndex_lt : rb.readIndex.toNat < n
  writeIndex_lt : rb.writeIndex.toNat < n
  same_mirror : rb.readMirror = rb.writeMirror → rb.readIndex.toNat ≤ rb.writeIndex.toNat
  other_mirror : rb.readMirror ≠ rb.writeMirror → rb.writeIndex.toNat ≤ rb.readIndex.toNat

/-- The bytes from the read position to the write position. -/
def held (rb : Win32deviceRingbuffer n) : List UInt8 :=
  if rb.readMirror = rb.writeMirror then
    (rb.bufferPtr.toList.take rb.writeIndex.toNat).drop rb.readIndex.toNat
  else
    rb.bufferPtr.toList.drop rb.readIndex.toNat ++ rb.bufferPtr.toList.take rb.writeIndex.toNat

variable {rb : Win32deviceRingbuffer n}

theorem Valid.size_lt (h : rb.Valid) : n < 2 ^ 15 := by
  have h1 := rb.bufferSize.toInt_lt
  have h2 := h.size_eq
  omega

theorem length_held (h : rb.Valid) :
    rb.held.length = if rb.readMirror = rb.writeMirror then rb.writeIndex.toNat - rb.readIndex.toNat
      else n - rb.readIndex.toNat + rb.writeIndex.toNat := by
  have hw := h.writeIndex_lt
  unfold held
  split
  · rw [List.length_drop, List.length_take, Buffer.length_toList]
    omega
  · rw [List.length_append, List.length_drop, List.length_take, Buffer.length_toList]
    omega

theorem length_held_le (h : rb.Valid) : rb.held.length ≤ n := by
  have hw := h.writeIndex_lt
  have hr := h.readIndex_lt
  rw [length_held h]
  split
  · omega
  · rename_i hne
    have := h.other_mirror hne
    omega

end Win32deviceRingbuffer

theorem toSize_of_lt {x : Int} (h0 : 0 ≤ x) (h : x < 2 ^ 32) : toSize x = x.toNat := by
  rw [toSize, Int.emod_eq_of_lt h0 h]

/-- The status tells an empty and a full ring apart. -/
theorem win32deviceRingbufferStatus_eq {rb : Win32deviceRingbuffer n} (h : rb.Valid) :
    win32deviceRingbufferStatus rb =
      if rb.held.length = 0 then .empty else if rb.held.length = n then .full else .halffull := by
  have hlen := Win32deviceRingbuffer.length_held h
  have hr := h.readIndex_lt
  have hw := h.writeIndex_lt
  unfold win32deviceRingbufferStatus
  by_cases hidx : rb.readIndex = rb.writeIndex
  · have hval := congrArg BitVec.toNat hidx
    rw [if_pos hidx]
    by_cases hmir : rb.readMirror = rb.writeMirror
    · rw [if_pos hmir] at hlen ⊢
      rw [if_pos (by omega)]
    · rw [if_neg hmir] at hlen ⊢
      rw [if_neg (by omega), if_pos (by omega)]
  · have hval : rb.readIndex.toNat ≠ rb.writeIndex.toNat := fun he => hidx (BitVec.eq_of_toNat_eq he)
    rw [if_neg hidx]
    by_cases hmir : rb.readMirror = rb.writeMirror
    · have hle := h.same_mirror hmir
      rw [if_pos hmir] at hlen
      rw [if_neg (by omega), if_neg (by omega)]
    · have hle := h.other_mirror hmir
      rw [if_neg hmir] at hlen
      rw [if_neg (by omega), if_neg (by omega)]

/-- The length is the number of bytes held. -/
theorem win32deviceRingbufferDataLen_eq {rb : Win32deviceRingbuffer n} (h : rb.Valid) :
    win32deviceRingbufferDataLen rb = rb.held.length := by
  have hlen := Win32deviceRingbuffer.length_held h
  have hr := h.readIndex_lt
  have hw := h.writeIndex_lt
  have hn := h.size_lt
  have hs := h.size_eq
  unfold win32deviceRingbufferDataLen
  rw [win32deviceRingbufferStatus_eq h]
  by_cases hempty : rb.held.length = 0
  · rw [if_pos hempty]
    exact hempty.symm
  rw [if_neg hempty]
  by_cases hfull : rb.held.length = n
  · rw [if_pos hfull]
    show toSize rb.bufferSize.toInt = _
    rw [toSize_of_lt (by omega) (by omega)]
    omega
  · -- the order of the indices tells whether the bytes wrap
    rw [if_neg hfull]
    dsimp only
    by_cases hmir : rb.readMirror = rb.writeMirror
    · have hle := h.same_mirror hmir
      rw [if_pos hmir] at hlen
      rw [if_pos (by omega), toSize_of_lt (by omega) (by omega)]
      omega
    · have hle := h.other_mirror hmir
      rw [if_neg hmir] at hlen
      rw [if_neg (by omega), toSize_of_lt (by omega) (by omega)]
      omega

theorem win32deviceRingbufferSpaceLen_eq {rb : Win32deviceRingbuffer n} (h : rb.Valid) :
    win32deviceRingbufferSpaceLen rb = n - rb.held.length := by
  have hle := Win32deviceRingbuffer.length_held_le h
  have hn := h.size_lt
  have hs := h.size_eq
  rw [win32deviceRingbufferSpaceLen, win32deviceRingbufferDataLen_eq h, toSize_of_lt (by omega) (by omega)]
  omega

/-! ## §3 — what the operations do to it. -/

/-- A copy inside both objects replaces a block of the destination. -/
theorem memcpy_ok (des : Buffer UInt8 m) (src : List UInt8) (off pos len : Nat) (hdes : off + len ≤ m)
    (hsrc : pos + len ≤ src.length) :
    ∃ c, memcpy des off src pos len = .ok c ∧
      c.toList = des.toList.take off ++ (src.drop pos).take len ++ des.toList.drop (off + len) := by
  have hlen : ((src.drop pos).take len).length = len := by
    rw [List.length_take, List.length_drop]
    omega
  have hfits : off + ((src.drop pos).take len).length ≤ m := by omega
  rw [memcpy, if_pos ⟨by omega, by omega, by omega, by omega⟩]
  simp only [Int.toNat_natCast]
  rw [Buffer.storeBlock, dif_pos hfits]
  refine ⟨_, rfl, ?_⟩
  show _ ++ _ ++ des.toList.drop (off + ((src.drop pos).take len).length) = _
  rw [hlen]

/-- The same for a destination whose first cells are known, and a copy behind them. -/
theorem memcpy_fill (des : Buffer UInt8 m) (pre src : List UInt8) (off pos len : Nat) (hoff : off = pre.length)
    (hdes : off + len ≤ m) (hsrc : pos + len ≤ src.length) :
    memcpy (des.fill pre) off src pos len = .ok (des.fill (pre ++ (src.drop pos).take len)) := by
  have hlen : ((src.drop pos).take len).length = len := by
    rw [List.length_take, List.length_drop]
    omega
  rw [memcpy, if_pos ⟨by omega, by omega, by omega, by omega⟩]
  simp only [Int.toNat_natCast]
  exact Buffer.storeBlock_fill_end des hoff (by omega)

/-- A copy up to the end of a pool, and on at its start. -/
theorem memcpy_around (des : Buffer UInt8 m) (src : List UInt8) {off t j : Nat} (hoff : off + t = m) (hj : j ≤ m)
    (hsrc : t + j ≤ src.length) :
    ∃ c₁ c₂, memcpy des off src 0 t = .ok c₁ ∧ memcpy c₁ 0 src t j = .ok c₂ ∧
      c₂.toList = (src.drop t).take j ++ (des.toList.take off ++ src.take t).drop j := by
  obtain ⟨c₁, hcopy₁, hc₁⟩ := memcpy_ok des src off 0 t hoff.le (by omega)
  obtain ⟨c₂, hcopy₂, hc₂⟩ := memcpy_ok c₁ src 0 t j (by omega) hsrc
  have hpast : des.toList.drop (off + t) = [] := List.drop_eq_nil_of_le (by rw [Buffer.length_toList]; omega)
  rw [hpast, List.append_nil, List.drop_zero] at hc₁
  rw [hc₁, List.take_zero, List.nil_append, Nat.zero_add] at hc₂
  exact ⟨c₁, c₂, by simpa using hcopy₁, by simpa using hcopy₂, hc₂⟩

section Splice

variable {α : Type} (l d : List α) {w r : Nat}

/-- A block written into a list, seen from the front. -/
theorem take_splice (hw : w ≤ l.length) :
    (l.take w ++ d ++ l.drop (w + d.length)).take (w + d.length) = l.take w ++ d := by
  apply List.take_left'
  rw [List.length_append, List.length_take]
  omega

/-- A block written into a list is not seen from behind it. -/
theorem drop_splice (hw : w ≤ l.length) (hr : w + d.length ≤ r) :
    (l.take w ++ d ++ l.drop (w + d.length)).drop r = l.drop r := by
  have hlen : (l.take w ++ d).length = w + d.length := by
    rw [List.length_append, List.length_take]
    omega
  rw [List.drop_append, List.drop_eq_nil_of_le (by omega), List.nil_append, List.drop_drop, hlen]
  congr 1
  omega

end Splice

/-- A mirror bit that differs is the other bit. -/
theorem not_mirror_eq : ∀ {a b : BitVec 1}, a ≠ b → a = ~~~b := by decide

theorem mirror_ne_not : ∀ a : BitVec 1, a ≠ ~~~a := by decide

theorem toNat_index {x : Nat} (h : x < 2 ^ 15) : (BitVec.ofInt 15 (x : Int)).toNat = x := by
  rw [BitVec.ofInt_natCast, BitVec.toNat_ofNat, Nat.mod_eq_of_lt h]

namespace Win32deviceRingbuffer

variable {rb : Win32deviceRingbuffer n}

/-- The ring with `d` stored before the end of the pool. -/
theorem held_put_straight (h : rb.Valid) {pool : Buffer UInt8 n} {d : List UInt8}
    (hpool : pool.toList = rb.bufferPtr.toList.take rb.writeIndex.toNat ++ d ++
      rb.bufferPtr.toList.drop (rb.writeIndex.toNat + d.length))
    (hfits : rb.held.length + d.length ≤ n) (hend : rb.writeIndex.toNat + d.length < n) {w : BitVec 15}
    (hw : w.toNat = rb.writeIndex.toNat + d.length) :
    ({ rb with bufferPtr := pool, writeIndex := w } : Win32deviceRingbuffer n).Valid ∧
      ({ rb with bufferPtr := pool, writeIndex := w } : Win32deviceRingbuffer n).held = rb.held ++ d := by
  have hlen := length_held h
  have hwlt := h.writeIndex_lt
  have hrlt := h.readIndex_lt
  have hsize : rb.bufferPtr.toList.length = n := rb.bufferPtr.length_toList
  have hwn : w.toNat < n := by omega
  by_cases hmir : rb.readMirror = rb.writeMirror
  · have hle := h.same_mirror hmir
    refine ⟨⟨h.size_eq, h.readIndex_lt, hwn, fun _ => ?_, fun hne => absurd hmir hne⟩, ?_⟩
    · show rb.readIndex.toNat ≤ w.toNat
      omega
    · unfold held
      dsimp only
      rw [if_pos hmir, if_pos hmir, hw, hpool, take_splice _ _ (by omega), List.drop_append_of_le_length]
      rw [List.length_take]
      omega
  · have hle := h.other_mirror hmir
    rw [if_neg hmir] at hlen
    refine ⟨⟨h.size_eq, h.readIndex_lt, hwn, fun he => absurd he hmir, fun _ => ?_⟩, ?_⟩
    · show w.toNat ≤ rb.readIndex.toNat
      omega
    · unfold held
      dsimp only
      rw [if_neg hmir, if_neg hmir, hw, hpool, take_splice _ _ (by omega), drop_splice _ _ (by omega) (by omega),
        List.append_assoc]

/-- The ring with `d` stored up to the end of the pool and `e` at its start. -/
theorem held_put_wrapped (h : rb.Valid) {pool : Buffer UInt8 n} {d e : List UInt8}
    (hpool : pool.toList = e ++ (rb.bufferPtr.toList.take rb.writeIndex.toNat ++ d).drop e.length)
    (hfits : rb.held.length + (d ++ e).length ≤ n) (hend : rb.writeIndex.toNat + d.length = n) {w : BitVec 15}
    (hw : w.toNat = e.length) :
    ({ rb with bufferPtr := pool, writeMirror := ~~~rb.writeMirror, writeIndex := w } :
        Win32deviceRingbuffer n).Valid ∧
      ({ rb with bufferPtr := pool, writeMirror := ~~~rb.writeMirror, writeIndex := w } :
        Win32deviceRingbuffer n).held = rb.held ++ (d ++ e) := by
  have hlen := length_held h
  have hwlt := h.writeIndex_lt
  have hrlt := h.readIndex_lt
  have hsize : rb.bufferPtr.toList.length = n := rb.bufferPtr.length_toList
  rw [List.length_append] at hfits
  by_cases hmir : rb.readMirror = rb.writeMirror
  · have hle := h.same_mirror hmir
    have hflip : rb.readMirror ≠ ~~~rb.writeMirror := hmir ▸ mirror_ne_not _
    rw [if_pos hmir] at hlen
    have hwn : w.toNat < n := by omega
    have hbefore : (rb.bufferPtr.toList.take rb.writeIndex.toNat).length = rb.writeIndex.toNat := by
      rw [List.length_take]
      omega
    refine ⟨⟨h.size_eq, h.readIndex_lt, hwn, fun he => absurd he hflip, fun _ => ?_⟩, ?_⟩
    · show w.toNat ≤ rb.readIndex.toNat
      omega
    · -- what lies behind `e` is the old pool up to the write index, then `d`
      unfold held
      dsimp only
      rw [if_neg hflip, if_pos hmir, hw, hpool, List.take_left, List.drop_append, List.drop_eq_nil_of_le (by omega),
        List.nil_append, List.drop_drop, List.drop_append_of_le_length (by omega), List.append_assoc]
      congr 3
      omega
  · -- the free part ends before the end of the pool
    have hle := h.other_mirror hmir
    rw [if_neg hmir] at hlen
    omega

/-- The ring with `k` bytes read before the end of the pool. -/
theorem held_get_straight (h : rb.Valid) {k : Nat} (hk : k ≤ rb.held.length) (hend : rb.readIndex.toNat + k < n)
    {r : BitVec 15} (hr : r.toNat = rb.readIndex.toNat + k) :
    ({ rb with readIndex := r } : Win32deviceRingbuffer n).Valid ∧
      ({ rb with readIndex := r } : Win32deviceRingbuffer n).held = rb.held.drop k ∧
      (rb.bufferPtr.toList.drop rb.readIndex.toNat).take k = rb.held.take k := by
  have hlen := length_held h
  have hwlt := h.writeIndex_lt
  have hsize : rb.bufferPtr.toList.length = n := rb.bufferPtr.length_toList
  have hrn : r.toNat < n := by omega
  by_cases hmir : rb.readMirror = rb.writeMirror
  · rw [if_pos hmir] at hlen
    have hle := h.same_mirror hmir
    refine ⟨⟨h.size_eq, hrn, h.writeIndex_lt, fun _ => ?_, fun hne => absurd hmir hne⟩, ?_, ?_⟩
    · show r.toNat ≤ rb.writeIndex.toNat
      omega
    · unfold held
      dsimp only
      rw [if_pos hmir, if_pos hmir, hr, List.drop_drop]
    · unfold held
      rw [if_pos hmir, List.drop_take, List.take_take, Nat.min_eq_left (by omega)]
  · have hle := h.other_mirror hmir
    have hbefore : (rb.bufferPtr.toList.drop rb.readIndex.toNat).length = n - rb.readIndex.toNat := by
      rw [List.length_drop, hsize]
    refine ⟨⟨h.size_eq, hrn, h.writeIndex_lt, fun he => absurd he hmir, fun _ => ?_⟩, ?_, ?_⟩
    · show rb.writeIndex.toNat ≤ r.toNat
      omega
    · unfold held
      dsimp only
      rw [if_neg hmir, if_neg hmir, hr, List.drop_append_of_le_length (by omega), List.drop_drop]
    · unfold held
      rw [if_neg hmir, List.take_append_of_le_length (by omega)]

/-- The ring with the end of the pool read and `k` bytes at its start. -/
theorem held_get_wrapped (h : rb.Valid) {k : Nat} (hk : n - rb.readIndex.toNat + k ≤ rb.held.length)
    {r : BitVec 15} (hr : r.toNat = k) :
    ({ rb with readMirror := ~~~rb.readMirror, readIndex := r } : Win32deviceRingbuffer n).Valid ∧
      ({ rb with readMirror := ~~~rb.readMirror, readIndex := r } : Win32deviceRingbuffer n).held =
        rb.held.drop (n - rb.readIndex.toNat + k) ∧
      rb.bufferPtr.toList.drop rb.readIndex.toNat ++ rb.bufferPtr.toList.take k =
        rb.held.take (n - rb.readIndex.toNat + k) := by
  have hlen := length_held h
  have hwlt := h.writeIndex_lt
  have hrlt := h.readIndex_lt
  have hsize : rb.bufferPtr.toList.length = n := rb.bufferPtr.length_toList
  by_cases hmir : rb.readMirror = rb.writeMirror
  · -- nothing is held beyond the end of the pool
    rw [if_pos hmir] at hlen
    omega
  · have hle := h.other_mirror hmir
    have hflip : ~~~rb.readMirror = rb.writeMirror := (not_mirror_eq (Ne.symm hmir)).symm
    rw [if_neg hmir] at hlen
    have hrn : r.toNat < n := by omega
    have hbefore : (rb.bufferPtr.toList.drop rb.readIndex.toNat).length = n - rb.readIndex.toNat := by
      rw [List.length_drop, hsize]
    have hgone : (rb.bufferPtr.toList.drop rb.readIndex.toNat).drop (n - rb.readIndex.toNat + k) = [] :=
      List.drop_eq_nil_of_le (by omega)
    have hall : (rb.bufferPtr.toList.drop rb.readIndex.toNat).take (n - rb.readIndex.toNat + k) =
        rb.bufferPtr.toList.drop rb.readIndex.toNat := List.take_of_length_le (by omega)
    refine ⟨⟨h.size_eq, hrn, h.writeIndex_lt, fun _ => ?_, fun hne => absurd hflip hne⟩, ?_, ?_⟩
    · show r.toNat ≤ rb.writeIndex.toNat
      omega
    · unfold held
      dsimp only
      rw [if_pos hflip, if_neg hmir, hr, List.drop_append, hgone, List.nil_append, hbefore,
        Nat.add_sub_cancel_left]
    · unfold held
      rw [if_neg hmir, List.take_append, hall, hbefore, Nat.add_sub_cancel_left,
        List.take_take, Nat.min_eq_left (by omega)]

end Win32deviceRingbuffer

/-- The length after `if (size < length) length = size` is the smaller of the two. -/
theorem toNat_min_length (size length : UInt16) :
    (if size < length then size else length).toNat = min length.toNat size.toNat := by
  split
  · rename_i hlt
    rw [UInt16.lt_iff_toNat_lt] at hlt
    omega
  · rename_i hge
    rw [UInt16.lt_iff_toNat_lt] at hge
    omega

/-- **A put** stores the first bytes, as many as there is room for, and returns their number. -/
theorem win32deviceRingbufferPut_ok {rb : Win32deviceRingbuffer n} (h : rb.Valid) {ptr : List UInt8}
    {length : UInt16} (hptr : length.toNat ≤ ptr.length) :
    ∃ rb' : Win32deviceRingbuffer n, rb'.Valid ∧
      win32deviceRingbufferPut rb ptr length = .ok (min length.toNat (n - rb.held.length), rb') ∧
      rb'.held = rb.held ++ ptr.take (min length.toNat (n - rb.held.length)) := by
  have hn := h.size_lt
  have hwlt := h.writeIndex_lt
  have hheld := Win32deviceRingbuffer.length_held_le h
  have hsize := h.size_eq
  have hroom : (toU16 (win32deviceRingbufferSpaceLen rb)).toNat = n - rb.held.length := by
    rw [win32deviceRingbufferSpaceLen_eq h, toNat_toU16_of_lt (by omega) (by omega)]
    omega
  unfold win32deviceRingbufferPut
  dsimp only
  by_cases h0 : toU16 (win32deviceRingbufferSpaceLen rb) = 0
  · -- no space
    have hfull := congrArg UInt16.toNat h0
    rw [hroom] at hfull
    rw [if_pos h0, show n - rb.held.length = 0 from hfull, Nat.min_zero]
    exact ⟨rb, h, rfl, by rw [List.take_zero, List.append_nil]⟩
  rw [if_neg h0]
  have hk := toNat_min_length (toU16 (win32deviceRingbufferSpaceLen rb)) length
  rw [hroom] at hk
  rw [hk]
  obtain ⟨k, hkdef⟩ : ∃ k, k = min length.toNat (n - rb.held.length) := ⟨_, rfl⟩
  rw [← hkdef]
  by_cases htail : rb.bufferSize.toInt - (rb.writeIndex.toNat : Int) > k
  · -- the bytes end before the end of the pool
    rw [if_pos htail]
    have hend : rb.writeIndex.toNat + k < n := by omega
    obtain ⟨pool, hcopy, hpool⟩ := memcpy_ok rb.bufferPtr ptr rb.writeIndex.toNat 0 k hend.le (by omega)
    have hlen : ((ptr.drop 0).take k).length = k := by
      rw [List.drop_zero, List.length_take]
      omega
    obtain ⟨hvalid, hheld'⟩ := Win32deviceRingbuffer.held_put_straight h (d := (ptr.drop 0).take k)
      (by rw [hlen]; exact hpool) (by omega) (by omega)
      (w := BitVec.ofInt 15 ((rb.writeIndex.toNat : Int) + k)) (by
        rw [hlen, ← Nat.cast_add, toNat_index (by omega)])
    refine ⟨_, hvalid, ?_, hheld'⟩
    rw [Nat.cast_zero] at hcopy
    rw [hcopy, exec_ok_bind]
    rfl
  · -- the bytes reach the end of the pool and go on at its start
    rw [if_neg htail]
    obtain ⟨t, ht⟩ : ∃ t : Nat, rb.bufferSize.toInt - (rb.writeIndex.toNat : Int) = t :=
      ⟨n - rb.writeIndex.toNat, by omega⟩
    obtain ⟨j, hj⟩ : ∃ j : Nat, (k : Int) - t = j := ⟨k - t, by omega⟩
    rw [ht, hj]
    have hoff : rb.writeIndex.toNat + t = n := by omega
    obtain ⟨pool₁, pool₂, hcopy₁, hcopy₂, hpool⟩ := memcpy_around rb.bufferPtr ptr hoff (show j ≤ n by omega)
      (by omega)
    have hfront : (ptr.take t).length = t := List.length_take_of_le (by omega)
    have hback : ((ptr.drop t).take j).length = j := by
      rw [List.length_take, List.length_drop]
      omega
    have hsplit : ptr.take t ++ (ptr.drop t).take j = ptr.take k := by
      rw [← List.take_add]
      congr 1
      omega
    obtain ⟨hvalid, hheld'⟩ := Win32deviceRingbuffer.held_put_wrapped h (d := ptr.take t) (e := (ptr.drop t).take j)
      (by rw [hback]; exact hpool) (by rw [List.length_append, hfront, hback]; omega) (by omega)
      (w := BitVec.ofInt 15 (j : Int)) (by rw [hback, toNat_index (by omega)])
    refine ⟨_, hvalid, ?_, by rw [hheld', hsplit]⟩
    rw [hcopy₁, exec_ok_bind, hcopy₂, exec_ok_bind]
    rfl

/-- **A get** takes the oldest bytes, at most as many as were asked for, and returns their number. -/
theorem win32deviceRingbufferGet_ok {rb : Win32deviceRingbuffer n} (h : rb.Valid) (ptr : Buffer UInt8 m)
    {length : UInt16} (hptr : length.toNat ≤ m) :
    ∃ rb' : Win32deviceRingbuffer n, rb'.Valid ∧
      win32deviceRingbufferGet rb ptr length =
        .ok (min length.toNat rb.held.length, ptr.fill (rb.held.take length.toNat), rb') ∧
      rb'.held = rb.held.drop length.toNat := by
  have hn := h.size_lt
  have hrlt := h.readIndex_lt
  have hheld := Win32deviceRingbuffer.length_held_le h
  have hsize := h.size_eq
  have hpoolLen : rb.bufferPtr.toList.length = n := rb.bufferPtr.length_toList
  unfold win32deviceRingbufferGet
  dsimp only
  rw [win32deviceRingbufferDataLen_eq h]
  by_cases h0 : rb.held.length = 0
  · -- no data
    rw [if_pos h0]
    have hnil := List.eq_nil_of_length_eq_zero h0
    refine ⟨rb, h, ?_, ?_⟩
    · rw [hnil, List.take_nil, Buffer.fill_nil, List.length_nil, Nat.min_zero]
      rfl
    · rw [hnil, List.drop_nil]
  rw [if_neg h0]
  have hk : (if rb.held.length < length.toNat then toU16 rb.held.length else length).toNat =
      min length.toNat rb.held.length := by
    split
    · rw [toNat_toU16_of_lt (by omega) (by omega)]
      omega
    · omega
  rw [hk]
  have htake : rb.held.take length.toNat = rb.held.take (min length.toNat rb.held.length) := by
    rw [List.take_eq_take_min]
  have hdrop : rb.held.drop length.toNat = rb.held.drop (min length.toNat rb.held.length) := by
    rw [List.drop_eq_drop_min]
  rw [htake, hdrop]
  obtain ⟨k, hkdef⟩ : ∃ k, k = min length.toNat rb.held.length := ⟨_, rfl⟩
  rw [← hkdef]
  by_cases htail : rb.bufferSize.toInt - (rb.readIndex.toNat : Int) > k
  · -- the bytes end before the end of the pool
    rw [if_pos htail]
    obtain ⟨hvalid, hheld', hout⟩ := Win32deviceRingbuffer.held_get_straight h (k := k) (by omega) (by omega)
      (r := BitVec.ofInt 15 ((rb.readIndex.toNat : Int) + k)) (by rw [← Nat.cast_add, toNat_index (by omega)])
    have hcopy := memcpy_fill ptr [] rb.bufferPtr.toList 0 rb.readIndex.toNat k rfl (by omega) (by omega)
    rw [Buffer.fill_nil, List.nil_append, hout, Nat.cast_zero] at hcopy
    refine ⟨_, hvalid, ?_, hheld'⟩
    rw [hcopy, exec_ok_bind]
    rfl
  · -- the bytes reach the end of the pool and go on at its start
    rw [if_neg htail]
    obtain ⟨t, ht⟩ : ∃ t : Nat, rb.bufferSize.toInt - (rb.readIndex.toNat : Int) = t :=
      ⟨n - rb.readIndex.toNat, by omega⟩
    obtain ⟨j, hj⟩ : ∃ j : Nat, (k : Int) - t = j := ⟨k - t, by omega⟩
    have hkt : n - rb.readIndex.toNat + j = k := by omega
    rw [ht, hj]
    obtain ⟨hvalid, hheld', hout⟩ := Win32deviceRingbuffer.held_get_wrapped h (k := j) (by omega)
      (r := BitVec.ofInt 15 (j : Int)) (by rw [toNat_index (by omega)])
    rw [hkt] at hheld' hout
    have hend : (rb.bufferPtr.toList.drop rb.readIndex.toNat).take t = rb.bufferPtr.toList.drop rb.readIndex.toNat :=
      List.take_of_length_le (by rw [List.length_drop]; omega)
    have hcopy₁ := memcpy_fill ptr [] rb.bufferPtr.toList 0 rb.readIndex.toNat t rfl (by omega) (by omega)
    rw [Buffer.fill_nil, List.nil_append, hend, Nat.cast_zero] at hcopy₁
    have hcopy₂ := memcpy_fill ptr (rb.bufferPtr.toList.drop rb.readIndex.toNat) rb.bufferPtr.toList t 0 j
      (by rw [List.length_drop]; omega) (by omega) (by omega)
    rw [List.drop_zero, hout, Nat.cast_zero] at hcopy₂
    refine ⟨_, hvalid, ?_, hheld'⟩
    rw [hcopy₁, exec_ok_bind, hcopy₂, exec_ok_bind]
    rfl

/-- A reset empties the ring. -/
theorem win32deviceRingbufferReset_ok {rb : Win32deviceRingbuffer n} (h : rb.Valid) :
    (win32deviceRingbufferReset rb).Valid ∧ (win32deviceRingbufferReset rb).held = [] := by
  have hn : 0 < n := by
    have := h.readIndex_lt
    omega
  refine ⟨⟨h.size_eq, hn, hn, fun _ => le_rfl, fun hne => absurd rfl hne⟩, ?_⟩
  exact (if_pos rfl).trans rfl

/-- A new ring is empty. -/
theorem win32deviceRingbufferInit_ok (h1 : 1 ≤ n) (hn : n ≤ 32767) (pool : Buffer UInt8 n) :
    (win32deviceRingbufferInit pool (Int16.ofNat n)).Valid ∧
      (win32deviceRingbufferInit pool (Int16.ofNat n)).held = [] := by
  refine ⟨⟨?_, h1, h1, fun _ => le_rfl, fun hne => absurd rfl hne⟩, ?_⟩
  · exact Int16.toInt_ofNat_of_lt (by omega)
  · exact (if_pos rfl).trans rfl

/-! ## §4 — runs of operations. -/

/-- A call of one of the three operations; the object passed has as many bytes as the length says. -/
inductive RingbufferCall
  | put (ptr : List UInt8) (length : UInt16) (le : length.toNat ≤ ptr.length)
  | get {m : Nat} (ptr : Buffer UInt8 m) (length : UInt16) (le : length.toNat ≤ m)
  | reset

/-- The call on a ring: the number it returns and, of a get, the object it was given. -/
def ringbufferStep : RingbufferCall → Win32deviceRingbuffer n →
    Exec ((Nat × List UInt8) × Win32deviceRingbuffer n)
  | .put ptr length _, rb => do
      let (size, rb) ← win32deviceRingbufferPut rb ptr length
      return ((size, []), rb)
  | .get ptr length _, rb => do
      let (size, ptr, rb) ← win32deviceRingbufferGet rb ptr length
      return ((size, ptr.toList), rb)
  | .reset, rb => return ((0, []), win32deviceRingbufferReset rb)

/-- The call on a queue of at most `cap` bytes. -/
def queueServes (cap : Nat) (q : List UInt8) : RingbufferCall → Nat × List UInt8 → List UInt8 → Prop
  | .put ptr length _, r, q' =>
      r = (min length.toNat (cap - q.length), []) ∧ q' = q ++ ptr.take (min length.toNat (cap - q.length))
  | .get ptr length _, r, q' =>
      r = (min length.toNat q.length, q.take length.toNat ++ ptr.toList.drop (min length.toNat q.length)) ∧
        q' = q.drop length.toNat
  | .reset, r, q' => r = (0, []) ∧ q' = []

/-- The observers of a ring agree with the queue, and its indices are indices of the pool. -/
structure Win32deviceRingbuffer.Sound (rb : Win32deviceRingbuffer n) : Prop where
  length_le : rb.held.length ≤ n
  dataLen_eq : win32deviceRingbufferDataLen rb = rb.held.length
  spaceLen_eq : win32deviceRingbufferSpaceLen rb = n - rb.held.length
  status_eq : win32deviceRingbufferStatus rb =
    if rb.held.length = 0 then .empty else if rb.held.length = n then .full else .halffull
  readIndex_lt : rb.readIndex.toNat < n
  writeIndex_lt : rb.writeIndex.toNat < n

theorem Win32deviceRingbuffer.Valid.sound {rb : Win32deviceRingbuffer n} (h : rb.Valid) : rb.Sound where
  length_le := length_held_le h
  dataLen_eq := win32deviceRingbufferDataLen_eq h
  spaceLen_eq := win32deviceRingbufferSpaceLen_eq h
  status_eq := win32deviceRingbufferStatus_eq h
  readIndex_lt := h.readIndex_lt
  writeIndex_lt := h.writeIndex_lt

/-- One call does to the bytes held what the queue does. -/
theorem ringbuffer_simulation : Simulation (ringbufferStep (n := n)) Win32deviceRingbuffer.held (queueServes n)
    (fun _ => True) Win32deviceRingbuffer.Valid where
  step c rb _ h := by
    cases c with
    | put ptr length le =>
      obtain ⟨rb', h', hput, hheld⟩ := win32deviceRingbufferPut_ok h le
      refine ⟨((_, []), rb'), ?_, h', rfl, hheld⟩
      rw [ringbufferStep, hput]
      rfl
    | get ptr length le =>
      obtain ⟨rb', h', hget, hheld⟩ := win32deviceRingbufferGet_ok h ptr le
      have hlen : (rb.held.take length.toNat).length = min length.toNat rb.held.length := List.length_take
      have hptr : (ptr.fill (rb.held.take length.toNat)).toList = _ := Buffer.toList_fill ptr (by omega)
      rw [hlen] at hptr
      refine ⟨((min length.toNat rb.held.length, (ptr.fill (rb.held.take length.toNat)).toList), rb'), ?_, h', ?_,
        hheld⟩
      · rw [ringbufferStep, hget]
        rfl
      · rw [hptr]
    | reset =>
      obtain ⟨h', hheld⟩ := win32deviceRingbufferReset_ok h
      exact ⟨_, rfl, h', rfl, hheld⟩

/-- **The ring is a bounded queue.** Whatever is called after `win32device_ringbuffer_init`, every call
returns, so it stays inside the pool and the caller's object; it returns what the queue returns and leaves
what the queue holds, and in every state the observers agree with the queue. -/
theorem ringbuffer_refines_queue (h1 : 1 ≤ n) (hn : n ≤ 32767) (pool : Buffer UInt8 n)
    (calls : List RingbufferCall) :
    ∃ trace, runAll ringbufferStep calls (win32deviceRingbufferInit pool (Int16.ofNat n)) = .ok trace ∧
      Explains Win32deviceRingbuffer.held (queueServes n) [] calls trace ∧
      (win32deviceRingbufferInit pool (Int16.ofNat n)).Sound ∧ ∀ x ∈ trace, x.2.Sound := by
  obtain ⟨hvalid, hempty⟩ := win32deviceRingbufferInit_ok h1 hn pool
  obtain ⟨trace, hrun, hexplains, hall⟩ := ringbuffer_simulation.run calls _ (fun _ _ => trivial) hvalid
  rw [hempty] at hexplains
  exact ⟨trace, hrun, hexplains, hvalid.sound, fun x hx => (hall x hx).sound⟩

/-- A ring of three bytes: a put that wraps round the end of the pool, after a get. -/
theorem ringbuffer_refines_queue_three :
    ∃ trace, runAll ringbufferStep
        [.put [1, 2] 2 (by decide), .get (Buffer.replicate 2 0) 2 (by decide), .put [3, 4, 5, 6] 4 (by decide)]
        (win32deviceRingbufferInit (Buffer.replicate 3 0) (Int16.ofNat 3)) = .ok trace ∧
      Explains Win32deviceRingbuffer.held (queueServes 3) []
        [.put [1, 2] 2 (by decide), .get (Buffer.replicate 2 0) 2 (by decide), .put [3, 4, 5, 6] 4 (by decide)]
        trace ∧
      (win32deviceRingbufferInit (Buffer.replicate 3 0) (Int16.ofNat 3)).Sound ∧ ∀ x ∈ trace, x.2.Sound :=
  ringbuffer_refines_queue (by decide) (by decide) (Buffer.replicate 3 0) _

end SmallModbus
