/-
  ObjectStream.Digest.Sha1

  The SHA-1 message digest, fed in pieces. A hasher holds the chaining state,
  the bytes that do not fill a block yet, and the number of bytes seen.
-/
import ObjectStream.Bytes

namespace ObjectStream.Sha1

/-! ## Chaining state and compression -/

/-- The number of bytes of a message block. -/
def blockLength : Nat := 64

/-- The number of bytes of a digest. -/
def digestLength : Nat := 20

/-- The five words that are carried from block to block. -/
structure State where
  a : UInt32
  b : UInt32
  c : UInt32
  d : UInt32
  e : UInt32
deriving DecidableEq, Repr

/-- The state before the first block. -/
def State.initial : State :=
  ⟨0x67452301, 0xEFCDAB89, 0x98BADCFE, 0x10325476, 0xC3D2E1F0⟩

/-- Word by word sum, modulo 2^32. -/
def State.add (s t : State) : State :=
  ⟨s.a + t.a, s.b + t.b, s.c + t.c, s.d + t.d, s.e + t.e⟩

/-- The bytes of the state, each word most significant byte first. -/
def State.toBytes (s : State) : Bytes :=
  [s.a, s.b, s.c, s.d, s.e].flatMap Bytes.ofWord

/-- Rotation to the left by `n` bits. -/
def rotate (w : UInt32) (n : UInt32) : UInt32 :=
  w <<< n ||| w >>> (32 - n)

/-- Adds `n` words to a message schedule that is held newest word first. -/
def extend : Nat → List UInt32 → List UInt32
  | 0, newestFirst => newestFirst
  | n + 1, newestFirst =>
    let next := newestFirst.getD 2 0 ^^^ newestFirst.getD 7 0 ^^^ newestFirst.getD 13 0 ^^^
      newestFirst.getD 15 0
    extend n (rotate next 1 :: newestFirst)

/-- The 80 words of the message schedule of a block. -/
def schedule (block : Bytes) : List UInt32 :=
  (extend 64 (Bytes.words block).reverse).reverse

/-- The mixing function of round `t`. -/
def mix (t : Nat) (b c d : UInt32) : UInt32 :=
  if t < 20 then (b &&& c) ||| (~~~b &&& d)
  else if t < 40 then b ^^^ c ^^^ d
  else if t < 60 then (b &&& c) ||| (b &&& d) ||| (c &&& d)
  else b ^^^ c ^^^ d

/-- The additive constant of round `t`. -/
def constant (t : Nat) : UInt32 :=
  if t < 20 then 0x5A827999
  else if t < 40 then 0x6ED9EBA1
  else if t < 60 then 0x8F1BBCDC
  else 0xCA62C1D6

/-- One round: `entry` is a word of the schedule and its number. -/
def round (s : State) (entry : UInt32 × Nat) : State :=
  let (word, t) := entry
  ⟨rotate s.a 5 + mix t s.b s.c s.d + s.e + constant t + word, s.a, rotate s.b 30, s.c, s.d⟩

/-- Mixes one block of 64 bytes into the state. -/
def compress (s : State) (block : Bytes) : State :=
  s.add ((schedule block).zipIdx.foldl round s)

/-! ## Whole blocks -/

/-- Compresses the whole blocks at the front of `data`; what is left is shorter than a block. -/
def compressBlocks (s : State) (data : Bytes) : State × Bytes :=
  if (data.take 64).length = 64 then
    compressBlocks (compress s (data.take 64)) (data.drop 64)
  else
    (s, data)
termination_by data.length
decreasing_by simp_all; omega

theorem compressBlocks_of_short (s : State) {data : Bytes} (h : data.length < 64) :
    compressBlocks s data = (s, data) := by
  rw [compressBlocks, if_neg]
  rw [List.length_take]
  omega

theorem compressBlocks_of_long (s : State) {data : Bytes} (h : 64 ≤ data.length) :
    compressBlocks s data = compressBlocks (compress s (data.take 64)) (data.drop 64) := by
  rw [compressBlocks, if_pos]
  rw [List.length_take]
  omega

/-- What is left over is what no whole block takes. -/
theorem length_compressBlocks (s : State) (data : Bytes) :
    (compressBlocks s data).2.length = data.length % 64 := by
  fun_induction compressBlocks s data with
  | case1 s data h ih =>
    rw [List.length_take] at h
    rw [ih, List.length_drop]
    omega
  | case2 s data h =>
    rw [List.length_take] at h
    have hshort : data.length < 64 := by omega
    exact (Nat.mod_eq_of_lt hshort).symm

/-- What is left over is taken up again by what follows. -/
theorem compressBlocks_append (s : State) (data more : Bytes) :
    compressBlocks s (data ++ more) =
      compressBlocks (compressBlocks s data).1 ((compressBlocks s data).2 ++ more) := by
  fun_induction compressBlocks s data with
  | case1 s data h ih =>
    rw [List.length_take] at h
    rw [← ih, compressBlocks_of_long s (by rw [List.length_append]; omega),
      List.take_append_of_le_length (by omega), List.drop_append_of_le_length (by omega)]
  | case2 => rfl

/-! ## Hashing in pieces -/

/-- A digest under way. -/
structure Progress where
  /-- The chaining state after the whole blocks seen so far. -/
  state : State
  /-- The block that is being filled. -/
  block : Bytes
  /-- How many bytes of it are filled. -/
  filled : Nat
  /-- The number of bytes seen so far, modulo 2^64. -/
  count : UInt64
deriving DecidableEq, Repr

namespace Progress

/-- Nothing was seen yet. -/
def new : Progress := ⟨State.initial, List.replicate blockLength 0, 0, 0⟩

/-- The bytes that are not compressed yet. -/
def pending (p : Progress) : Bytes := p.block.take p.filled

/-- Compresses whole blocks, and puts what is left at the front of the block. -/
def absorb? (p : Progress) (data : Bytes) : Option Progress := do
  let (state, rest) := compressBlocks p.state data
  let block ← p.block.overwrite? 0 rest.length rest
  some { p with state, block, filled := rest.length }

/-- Puts bytes from the front of `data` behind those that fill the block, as many as there is room for,
and leaves the rest of `data`. -/
def topUp? (p : Progress) (data : Bytes) : Option (Progress × Bytes) := do
  let taken := min (blockLength - p.filled) data.length
  let block ← p.block.overwrite? p.filled (p.filled + taken) (← data.slice? 0 taken)
  let rest ← data.slice? taken data.length
  some ({ p with block, filled := p.filled + taken }, rest)

/-- Feeds more bytes, which first fill up a block that was begun. It is `none` if bytes outside a buffer
would be touched. -/
def update? (p : Progress) (data : Bytes) : Option Progress := do
  let p := { p with count := p.count + UInt64.ofNat data.length }
  if p.filled = 0 then p.absorb? data
  else
    let (p, rest) ← p.topUp? data
    if p.filled < blockLength then some p
    else Progress.absorb? { p with state := compress p.state p.block, filled := 0 } rest

/-- Ends the message behind a one bit, zeros up to 56 bytes in the last block, and the length of the
message in bits. It is `none` if bytes outside a buffer would be touched, or if this does not fill the
last block. -/
def finish? (p : Progress) : Option Bytes := do
  let marked := 0x80 :: List.replicate (blockLength + 7) 0
  let stop := if p.filled < 56 then 56 - p.filled else blockLength + 56 - p.filled
  let padding ← Bytes.overwrite? marked stop (stop + 8) (Bytes.ofLongWord (p.count * 8))
  let last ← p.update? (← padding.slice? 0 (stop + 8))
  if last.filled = 0 then some last.state.toBytes else none

/-- What holds between updates. -/
structure Ready (p : Progress) : Prop where
  length_block : p.block.length = blockLength
  filled_lt : p.filled < blockLength

theorem ready_new : Ready new := ⟨List.length_replicate, by decide⟩

theorem absorb?_eq_some {p : Progress} (hblock : p.block.length = blockLength) (data : Bytes) :
    ∃ next, p.absorb? data = some next ∧ next.Ready ∧
      (next.state, next.pending) = compressBlocks p.state data ∧ next.count = p.count := by
  have hrest : (compressBlocks p.state data).2.length < blockLength := by
    rw [length_compressBlocks]
    exact Nat.mod_lt _ (by decide)
  rw [absorb?]
  rcases hblocks : compressBlocks p.state data with ⟨state, rest⟩
  rw [hblocks] at hrest
  dsimp only at hrest ⊢
  rw [Bytes.overwrite?_of_le (Nat.zero_le _) (by omega) rfl]
  refine ⟨_, rfl, ⟨?_, hrest⟩, ?_, rfl⟩
  · show (p.block.take 0 ++ rest ++ p.block.drop rest.length).length = blockLength
    rw [List.take_zero, List.nil_append, List.length_append, List.length_drop]
    omega
  · show (state, (p.block.take 0 ++ rest ++ p.block.drop rest.length).take rest.length) = _
    rw [List.take_zero, List.nil_append, List.take_left]

theorem length_pending {p : Progress} (hp : p.Ready) : p.pending.length = p.filled := by
  rw [pending, List.length_take, hp.length_block, Nat.min_eq_left (Nat.le_of_lt hp.filled_lt)]

theorem topUp?_eq_some {p : Progress} (hp : p.Ready) (data : Bytes) :
    let taken := min (blockLength - p.filled) data.length
    ∃ block, p.topUp? data = some ({ p with block, filled := p.filled + taken }, data.drop taken) ∧
      block.length = blockLength ∧ block.take (p.filled + taken) = p.pending ++ data.take taken := by
  have hpending := length_pending hp
  obtain ⟨hblock, hfilled⟩ := hp
  intro taken
  have hroom : taken ≤ blockLength - p.filled := Nat.min_le_left _ _
  have hdata : taken ≤ data.length := Nat.min_le_right _ _
  have hpart : (data.take taken).length = taken := by rw [List.length_take, Nat.min_eq_left hdata]
  have hfront : (p.pending ++ data.take taken).length = p.filled + taken := by
    rw [List.length_append, hpending, hpart]
  refine ⟨p.pending ++ data.take taken ++ p.block.drop (p.filled + taken), ?_, ?_, ?_⟩
  · rw [topUp?]
    dsimp only [Option.bind_eq_bind]
    rw [Bytes.slice?_of_le (Nat.zero_le _) hdata, Option.bind_some, List.drop_zero,
      Bytes.overwrite?_of_le (Nat.le_add_right _ _) (by omega) (by omega), Option.bind_some,
      Bytes.slice?_of_le hdata Nat.le.refl, Option.bind_some, List.take_length, pending]
  · rw [List.length_append, hfront, List.length_drop]
    omega
  · rw [← hfront, List.take_left]

/-- An update touches no byte outside a buffer, and does what compressing the pending bytes with the new
ones does. -/
theorem update?_eq_some {p : Progress} (hp : p.Ready) (data : Bytes) :
    ∃ next, p.update? data = some next ∧ next.Ready ∧
      (next.state, next.pending) = compressBlocks p.state (p.pending ++ data) ∧
      next.count = p.count + UInt64.ofNat data.length := by
  have hpending := length_pending hp
  let counted := { p with count := p.count + UInt64.ofNat data.length }
  have hcounted : counted.Ready := ⟨hp.length_block, hp.filled_lt⟩
  by_cases hzero : p.filled = 0
  · obtain ⟨next, hnext, hready, hstate, hcount⟩ := absorb?_eq_some hcounted.length_block data
    refine ⟨next, ?_, hready, ?_, hcount⟩
    · rw [update?, if_pos hzero]
      exact hnext
    · rw [List.eq_nil_of_length_eq_zero (hpending.trans hzero)]
      exact hstate
  obtain ⟨block, htopUp, hblock, hfront⟩ := topUp?_eq_some hcounted data
  rw [update?, if_neg hzero]
  dsimp only [Option.bind_eq_bind]
  rw [htopUp, Option.bind_some]
  dsimp only [counted] at hfront ⊢
  by_cases hshort : p.filled + data.length < blockLength
  -- The block is not full yet.
  · have hall : min (blockLength - p.filled) data.length = data.length := by omega
    rw [hall, List.take_length] at hfront
    rw [hall, if_pos hshort]
    refine ⟨_, rfl, ⟨hblock, hshort⟩, ?_, rfl⟩
    rw [compressBlocks_of_short _ (by rw [List.length_append, hpending]; exact hshort)]
    exact congrArg (p.state, ·) hfront
  -- It is filled up and compressed, and the rest starts a new one.
  · have hpart : min (blockLength - p.filled) data.length = blockLength - p.filled := by omega
    have hfull : p.filled + (blockLength - p.filled) = blockLength := by have := hp.filled_lt; omega
    rw [hpart, hfull, ← hblock, List.take_length, hblock] at hfront
    have hfront : block = p.pending ++ data.take (blockLength - p.filled) := hfront
    rw [hpart, hfull, if_neg (Nat.lt_irrefl _)]
    obtain ⟨next, hnext, hready, hstate, hcount⟩ := absorb?_eq_some
      (p := { p with
        state := compress p.state block
        block
        filled := 0
        count := p.count + UInt64.ofNat data.length }) hblock (data.drop (blockLength - p.filled))
    refine ⟨next, hnext, hready, hstate.trans ?_, hcount⟩
    have hwhole : p.pending ++ data = block ++ data.drop (blockLength - p.filled) := by
      rw [hfront, List.append_assoc, List.take_append_drop]
    have hlong : 64 ≤ (block ++ data.drop (blockLength - p.filled)).length := by
      rw [List.length_append, hblock]
      exact Nat.le_add_right _ _
    have hsixty : (64 : Nat) = block.length := hblock.symm
    rw [hwhole, compressBlocks_of_long _ hlong, hsixty, List.take_left, List.drop_left]

end Progress

/-- The bytes that end a message of which `filled` bytes are in the last block. -/
def padding (filled : Nat) (count : UInt64) : Bytes :=
  0x80 :: List.replicate (if filled < 56 then 55 - filled else 119 - filled) 0 ++
    Bytes.ofLongWord (count * 8)

theorem length_padding (filled : Nat) (count : UInt64) :
    (padding filled count).length = (if filled < 56 then 55 - filled else 119 - filled) + 9 := by
  rw [padding, List.length_append, List.length_cons, List.length_replicate, Bytes.length_ofLongWord]

namespace Progress

/-- The padding is what ending a message feeds. -/
theorem slice?_padding (filled : Nat) (count : UInt64) (h : filled < blockLength) :
    let stop := if filled < 56 then 56 - filled else blockLength + 56 - filled
    (Bytes.overwrite? (0x80 :: List.replicate (blockLength + 7) 0) stop (stop + 8)
      (Bytes.ofLongWord (count * 8))).bind (·.slice? 0 (stop + 8)) = some (padding filled count) := by
  have h : filled < 64 := h
  intro stop
  have hstop : stop = (if filled < 56 then 55 - filled else 119 - filled) + 1 := by
    show (if filled < 56 then 56 - filled else 64 + 56 - filled) = _
    split <;> omega
  have hwithin : stop + 8 ≤ (0x80 :: List.replicate (blockLength + 7) (0 : UInt8)).length := by
    rw [List.length_cons, List.length_replicate, hstop]
    show _ ≤ 72
    split <;> omega
  have hfront : ((0x80 :: List.replicate (blockLength + 7) (0 : UInt8)).take stop).length = stop := by
    rw [List.length_take]
    omega
  have hlong : (Bytes.ofLongWord (count * 8)).length = 8 := Bytes.length_ofLongWord _
  rw [Bytes.overwrite?_of_le (Nat.le_add_right _ _) hwithin (by omega), Option.bind_some,
    Bytes.slice?_of_le (Nat.zero_le _) (by
      rw [List.length_append, List.length_append, List.length_drop]
      omega),
    List.drop_zero, List.take_left' (by rw [List.length_append]; omega), padding, hstop,
    List.take_succ_cons, List.take_replicate, List.cons_append]
  rw [List.length_cons, List.length_replicate] at hwithin
  rw [Nat.min_eq_left (by omega)]
  rfl

/-- Ending a message touches no byte outside a buffer and fills the last block. -/
theorem finish?_eq_some {p : Progress} (hp : p.Ready) :
    p.finish? = some
      (compressBlocks p.state (p.pending ++ padding p.filled p.count)).1.toBytes := by
  have hpending := length_pending hp
  obtain ⟨last, hlast, hready, hstate, -⟩ := update?_eq_some hp (padding p.filled p.count)
  have hfilled : p.filled < 64 := hp.filled_lt
  have hend : last.filled = 0 := by
    have hlength := congrArg (·.2.length) hstate
    rw [length_compressBlocks, List.length_append, hpending, length_padding] at hlength
    dsimp only at hlength
    rw [length_pending hready] at hlength
    rw [hlength]
    split <;> omega
  have hpadding := slice?_padding p.filled p.count hp.filled_lt
  rw [finish?]
  dsimp only [Option.bind_eq_bind] at hpadding ⊢
  rw [← Option.bind_assoc, hpadding, Option.bind_some, hlast, Option.bind_some, if_pos hend, ← hstate]

end Progress

/-- A hasher: a digest under way, as it is between updates. -/
structure Hasher where
  progress : Progress
  ready : progress.Ready

namespace Hasher

/-- A hasher that has seen nothing. -/
def new : Hasher := ⟨Progress.new, Progress.ready_new⟩

/-- Feeds more bytes. -/
def update (h : Hasher) (data : Bytes) : Hasher :=
  have hsome : (h.progress.update? data).isSome := by
    obtain ⟨next, hnext, -⟩ := Progress.update?_eq_some h.ready data
    rw [hnext, Option.isSome_some]
  { progress := (h.progress.update? data).get hsome
    ready := by
      obtain ⟨next, hnext, hready, -⟩ := Progress.update?_eq_some h.ready data
      simpa only [hnext, Option.get_some] using hready }

/-- The digest of everything fed so far. -/
def digest (h : Hasher) : Bytes :=
  h.progress.finish?.get (by rw [Progress.finish?_eq_some h.ready, Option.isSome_some])

theorem progress_update (h : Hasher) (data : Bytes) :
    h.progress.update? data = some (h.update data).progress :=
  (Option.some_get _).symm

theorem finish?_progress (h : Hasher) : h.progress.finish? = some h.digest :=
  (Option.some_get _).symm

/-- A digest has twenty bytes. -/
theorem length_digest (h : Hasher) : h.digest.length = digestLength := by
  have hdigest := (finish?_progress h).symm.trans (Progress.finish?_eq_some h.ready)
  rw [Option.some.inj hdigest]
  rfl

end Hasher

/-- The digest of a whole message. -/
def digest (message : Bytes) : Bytes :=
  (Hasher.new.update message).digest

theorem length_digest (message : Bytes) : (digest message).length = digestLength :=
  Hasher.length_digest _

end ObjectStream.Sha1
