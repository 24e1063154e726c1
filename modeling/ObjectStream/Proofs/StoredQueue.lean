/-
  ObjectStream.Proofs.StoredQueue

  The array behind a receive buffer is a queue of bytes. `Does` lists all that an
  operation can do to the array, in terms of the bytes that are unread in it
  (`perform_does`). From its cases follow, one by one, that the array does as the
  buffer of the library does (`Mirrors`), that what is unread is what was received
  and is not gone yet (`Ledger`), and how the window moves (`Moves`); a series of
  operations keeps all three (`storage_is_queue`).
-/

import ObjectStream.Proofs.Series
import ObjectStream.ReceiveBuffer.Storage

namespace ObjectStream

namespace Bytes

theorem length_overlay (bytes others : Bytes) : (bytes.overlay others).length = bytes.length := by
  simp only [overlay, List.length_append, List.length_take, List.length_drop]
  omega

/-- Bytes for which there is place are written as they are. -/
theorem overlay_of_le {bytes others : Bytes} (h : others.length ≤ bytes.length) :
    bytes.overlay others = others ++ bytes.drop others.length := by
  rw [overlay, List.take_of_length_le h]

/-- Whatever is written behind them, the first bytes are the ones that were written first. -/
theorem take_overlay_append {bytes others : Bytes} (litter : Bytes)
    (h : others.length ≤ bytes.length) :
    (bytes.overlay (others ++ litter)).take others.length = others := by
  have htake : ((others ++ litter).take bytes.length).take others.length = others := by
    rw [List.take_take, Nat.min_eq_left h, List.take_left]
  have hlong : others.length ≤ ((others ++ litter).take bytes.length).length := by
    rw [List.length_take, List.length_append]
    omega
  rw [overlay, List.take_append_of_le_length hlong, htake]

theorem slice?_eq_some {bytes part : Bytes} {start stop : Nat} :
    bytes.slice? start stop = some part ↔
      start ≤ stop ∧ stop ≤ bytes.length ∧ part = (bytes.take stop).drop start := by
  rw [slice?]
  split
  · rename_i h
    rw [Option.some.injEq]
    exact ⟨fun hpart => ⟨h.1, h.2, hpart.symm⟩, fun hpart => hpart.2.2.symm⟩
  · rename_i h
    exact ⟨nofun, fun hpart => absurd ⟨hpart.1, hpart.2.1⟩ h⟩

end Bytes

namespace ReceiveBuffer

variable {τ : Type}

/-- What is left of a list after its first part was taken. -/
theorem drop_length_take {α : Type} (l : List α) (n : Nat) :
    l.drop (l.take n).length = l.drop n := by
  rw [List.length_take]
  rcases Nat.le_total n l.length with hshort | hlong
  · rw [Nat.min_eq_left hshort]
  · rw [Nat.min_eq_right hlong, List.drop_length, List.drop_eq_nil_of_le hlong]

namespace Storage

/-! ## The window of the unread bytes -/

variable {s : Storage} {content : Bytes}

theorem content?_eq_some :
    s.content? = some content ↔
      s.position + s.length ≤ s.data.length ∧
        content = (s.data.take (s.position + s.length)).drop s.position := by
  rw [content?, Bytes.slice?_eq_some]
  exact ⟨fun h => h.2, fun h => ⟨Nat.le_add_right _ _, h⟩⟩

theorem within_of_content (h : s.content? = some content) :
    s.position + s.length ≤ s.data.length :=
  (content?_eq_some.mp h).1

theorem length_of_content (h : s.content? = some content) : s.length = content.length := by
  obtain ⟨hwithin, rfl⟩ := content?_eq_some.mp h
  rw [List.length_drop, List.length_take]
  omega

theorem content?_new (capacity : Nat) : (new capacity).content? = some [] := by
  rw [content?_eq_some]
  exact ⟨Nat.zero_le _, rfl⟩

theorem content?_clear (s : Storage) : s.clear.content? = some [] := by
  rw [content?_eq_some]
  exact ⟨Nat.zero_le _, rfl⟩

@[simp] theorem data_rewind (s : Storage) : s.rewind.data = s.data := by
  rw [rewind]
  split <;> rfl

@[simp] theorem length_rewind (s : Storage) : s.rewind.length = s.length := by
  rw [rewind]
  split <;> rfl

theorem rewind_of_empty (h : s.length = 0) : s.rewind = { s with position := 0 } := by
  rw [rewind, if_pos h]

theorem rewind_of_nonempty (h : s.length ≠ 0) : s.rewind = s := by
  rw [rewind, if_neg h]

theorem content?_rewind (h : s.content? = some content) : s.rewind.content? = some content := by
  by_cases hzero : s.length = 0
  · -- Nothing is unread, wherever the window is.
    have hnil : content = [] := by
      rw [← List.length_eq_zero_iff, ← length_of_content h]
      exact hzero
    rw [rewind_of_empty hzero, hnil, content?_eq_some]
    show 0 + s.length ≤ s.data.length ∧ [] = (s.data.take (0 + s.length)).drop 0
    rw [hzero]
    exact ⟨Nat.zero_le _, rfl⟩
  · rw [rewind_of_nonempty hzero]
    exact h

/-- Going past bytes takes them off the front of the window. -/
theorem content?_advance (h : s.content? = some content) {n : Nat} (hn : n ≤ s.length) :
    ({ s with position := s.position + n, length := s.length - n } : Storage).content? =
      some (content.drop n) := by
  obtain ⟨hwithin, rfl⟩ := content?_eq_some.mp h
  have hend : s.position + n + (s.length - n) = s.position + s.length := by omega
  rw [content?_eq_some]
  show s.position + n + (s.length - n) ≤ s.data.length ∧
    _ = (s.data.take (s.position + n + (s.length - n))).drop (s.position + n)
  rw [hend, List.drop_drop]
  exact ⟨hwithin, rfl⟩

/-- The first unread bytes are a window of their own. -/
theorem slice?_front (h : s.content? = some content) {n : Nat} (hn : n ≤ s.length) :
    s.data.slice? s.position (s.position + n) = some (content.take n) := by
  obtain ⟨hwithin, rfl⟩ := content?_eq_some.mp h
  rw [Bytes.slice?_eq_some]
  refine ⟨Nat.le_add_right _ _, by omega, ?_⟩
  rw [List.take_drop, List.take_take, Nat.min_eq_left (by omega)]

/-- What lies behind the unread bytes, up to the end of the array. -/
def behind (s : Storage) : Bytes := s.data.drop (s.position + s.length)

theorem length_behind (s : Storage) :
    s.behind.length = s.data.length - (s.position + s.length) := by
  rw [behind, List.length_drop]

theorem slice?_behind (h : s.content? = some content) :
    s.data.slice? (s.position + s.length) s.data.length = some s.behind := by
  rw [Bytes.slice?_eq_some]
  refine ⟨within_of_content h, Nat.le_refl _, ?_⟩
  rw [behind, List.take_length]

theorem length_arrive (h : s.content? = some content) (bytes : Bytes) :
    (s.arrive s.behind bytes).length = s.data.length := by
  have hwithin := within_of_content h
  rw [arrive, List.length_append, Bytes.length_overlay, length_behind, List.length_take]
  omega

/-- Bytes that arrive behind the unread ones are unread too; nothing else of what the stream wrote
is. -/
theorem content?_arrive (h : s.content? = some content) (bytes litter : Bytes)
    (hfits : bytes.length ≤ s.behind.length) :
    ({ s with
        data := s.arrive s.behind (bytes ++ litter)
        length := s.length + bytes.length } : Storage).content? = some (content ++ bytes) := by
  have hlength := length_arrive h (bytes ++ litter)
  obtain ⟨hwithin, rfl⟩ := content?_eq_some.mp h
  rw [length_behind] at hfits
  have hend : s.position + (s.length + bytes.length) = s.position + s.length + bytes.length := by
    omega
  -- The array up to where the stream began to write; the window begins within it.
  have hfront : (s.data.take (s.position + s.length)).length = s.position + s.length :=
    List.length_take_of_le hwithin
  rw [content?_eq_some]
  show s.position + (s.length + bytes.length) ≤ (s.arrive s.behind (bytes ++ litter)).length ∧
    _ = ((s.arrive s.behind (bytes ++ litter)).take (s.position + (s.length + bytes.length))).drop
      s.position
  refine ⟨by omega, ?_⟩
  have htaken : (s.arrive s.behind (bytes ++ litter)).take (s.position + s.length + bytes.length) =
      s.data.take (s.position + s.length) ++ bytes := by
    rw [arrive, List.take_append, hfront, Nat.add_sub_cancel_left,
      List.take_of_length_le (by omega), Bytes.take_overlay_append litter (by rwa [length_behind])]
  rw [hend, htaken, List.drop_append_of_le_length (by omega)]

/-! ## What an operation can do -/

variable [Transport τ]

/-- The outcomes of an operation on an array in which `content` is unread. -/
inductive Does (s : Storage) (content : Bytes) (t : τ) :
    Operation → Outcome Failure (Storage × τ) Reply → Prop where
  /-- The unread bytes reach the end of the array, so that there is no room to receive into. -/
  | full (litter : Bytes) : s.length ≠ 0 → s.position + s.length = s.data.length →
      Does s content t (.fill litter) (.ok (s, t) (.filled 0))
  /-- The receive fails. -/
  | failed (litter : Bytes) (s' : Storage) (t' : τ) (room : Nat) (e : Error) :
      s.rewind.position + s.length + room = s.data.length → 0 < room →
      Transport.receive t room = (.error e, t') →
      s'.data.length = s.data.length → s'.position = s.rewind.position →
      s'.content? = some content →
      Does s content t (.fill litter)
        ⟨.error (.stream e), (s', t'), [.receive room (.error e)]⟩
  /-- Bytes arrive. -/
  | filled (litter : Bytes) (s' : Storage) (t' : τ) (room : Nat) (bytes : Bytes) :
      s.rewind.position + s.length + room = s.data.length → 0 < room →
      Transport.receive t room = (.ok bytes, t') →
      s'.data.length = s.data.length → s'.position = s.rewind.position →
      s'.content? = some (content ++ bytes) →
      Does s content t (.fill litter)
        ⟨.ok (.filled bytes.length), (s', t'), [.receive room (.ok bytes)]⟩
  | consumed (n : Nat) (s' : Storage) : n ≤ s.length →
      s'.data = s.data → s'.position = s.position + n → s'.content? = some (content.drop n) →
      Does s content t (.consume n) (.ok (s', t) .consumed)
  /-- There are not as many unread bytes. -/
  | refused (n : Nat) : s.length < n →
      Does s content t (.consume n) (.fail (s, t) (.consume .pastEnd))
  | taken (out : Bytes) (s' : Storage) :
      s'.data = s.data → s'.position = s.position + (content.take out.length).length →
      s'.content? = some (content.drop (content.take out.length).length) →
      Does s content t (.takeInto out) (.ok (s', t)
        (.taken (content.take out.length).length (out.overlay (content.take out.length))))
  | cleared : Does s content t .clear (.ok (s.clear, t) .cleared)

theorem fill_does (h : s.content? = some content) (hfloor : 0 < s.data.length) (t : τ)
    (litter : Bytes) : Does s content t (.fill litter) ((s.fill t litter).map .filled) := by
  have hready := content?_rewind h
  have hslice := slice?_behind hready
  have hwithin := within_of_content hready
  have hbehind := length_behind s.rewind
  rw [data_rewind] at hslice hwithin hbehind
  rw [length_rewind] at hslice hwithin hbehind
  -- Without room the stream is left alone; otherwise what it gives decides.
  rw [fill, data_rewind, length_rewind]
  by_cases hfull : s.rewind.position + s.length = s.data.length
  · rw [if_pos hfull]
    by_cases hzero : s.length = 0
    · -- Without unread bytes the whole array is room, and it is not empty.
      rw [rewind_of_empty hzero, hzero] at hfull
      exact absurd hfull (Nat.ne_of_lt hfloor)
    · rw [rewind_of_nonempty hzero] at hfull ⊢
      exact .full litter hzero hfull
  · rw [if_neg hfull, hslice]
    have hspan : s.rewind.position + s.length + s.rewind.behind.length = s.data.length := by omega
    have hpos : 0 < s.rewind.behind.length := by omega
    dsimp only
    rcases hrecv : Transport.receive t s.rewind.behind.length with ⟨received, t'⟩
    cases received with
    | error e =>
      have hcontent := content?_arrive hready [] litter (Nat.zero_le _)
      rw [length_rewind, List.append_nil] at hcontent
      exact .failed litter _ t' _ e hspan hpos hrecv
        ((length_arrive hready litter).trans (by rw [data_rewind])) rfl hcontent
    | ok bytes =>
      have hfits := Transport.receive_le t _ bytes (by rw [hrecv])
      have hcontent := content?_arrive hready bytes litter hfits
      rw [length_rewind] at hcontent
      exact .filled litter _ t' _ bytes hspan hpos hrecv
        ((length_arrive hready _).trans (by rw [data_rewind])) rfl hcontent

theorem takeInto_does (h : s.content? = some content) (t : τ) (out : Bytes) :
    Does s content t (.takeInto out) (perform (.takeInto out) (s, t)) := by
  have hlength := length_of_content h
  have hcount : (content.take out.length).length = min out.length s.length := by
    rw [List.length_take, hlength]
  have hle : min out.length s.length ≤ s.length := Nat.min_le_right _ _
  have htake : content.take (min out.length s.length) = content.take out.length := by
    rw [hlength, ← List.take_eq_take_min]
  have hout : out.overwrite? 0 (min out.length s.length) (content.take out.length) =
      some (out.overlay (content.take out.length)) := by
    rw [Bytes.overwrite?_of_le (Nat.zero_le _) (Nat.min_le_left _ _) (by omega),
      Bytes.overlay_of_le (by omega), hcount]
    rfl
  rw [perform]
  dsimp only
  rw [takeInto, slice?_front h hle, htake]
  dsimp only
  rw [hout, consume, if_pos hle, ← hcount]
  exact .taken out _ rfl rfl (content?_advance h (by omega))

/-- An operation on an array does one of these things. -/
theorem perform_does (h : s.content? = some content) (hfloor : 0 < s.data.length) (t : τ)
    (op : Operation) : Does s content t op (perform op (s, t)) := by
  cases op with
  | fill litter => exact fill_does h hfloor t litter
  | consume n =>
    rw [perform]
    dsimp only
    rw [consume]
    by_cases hn : n ≤ s.length
    · rw [if_pos hn]
      exact .consumed n _ hn rfl rfl (content?_advance h hn)
    · rw [if_neg hn]
      exact .refused n (Nat.lt_of_not_le hn)
  | takeInto out => exact takeInto_does h t out
  | clear => exact .cleared

end Storage

/-! ## The array and the buffer -/

/-- The array has the capacity of the buffer, and holds its unread bytes at its position. -/
structure Holds (s : Storage) (b : ReceiveBuffer) : Prop where
  capacity : s.data.length = b.capacity
  position : s.position = b.position
  content : s.content? = some b.unread

/-- Two outcomes that are the same but for where the bytes are kept. -/
structure Mirrors (o : Outcome Failure (Storage × τ) Reply)
    (o' : Outcome Failure (ReceiveBuffer × τ) Reply) : Prop where
  result : o.result = o'.result
  calls : o.calls = o'.calls
  stream : o.state.2 = o'.state.2
  holds : Holds o.state.1 o'.state.1

theorem holds_new (capacity : Nat) : Holds (.new capacity) (.new capacity) :=
  ⟨List.length_replicate, rfl, Storage.content?_new capacity⟩

namespace Holds

variable {s : Storage} {b : ReceiveBuffer}

theorem length (h : Holds s b) : s.length = b.unread.length :=
  Storage.length_of_content h.content

theorem floor (h : Holds s b) : 0 < s.data.length := by
  have := b.floor
  rw [h.capacity]
  exact Nat.lt_of_lt_of_le (by decide) this

theorem rewind (h : Holds s b) : Holds s.rewind b.rewind := by
  by_cases hzero : s.length = 0
  · have hnil : b.unread = [] := by
      rw [← List.length_eq_zero_iff, ← h.length]
      exact hzero
    have hcontent := Storage.content?_rewind h.content
    rw [Storage.rewind_of_empty hzero] at hcontent ⊢
    rw [ReceiveBuffer.rewind, if_pos hnil]
    rw [hnil] at hcontent
    exact ⟨h.capacity, rfl, hcontent⟩
  · have hne : b.unread ≠ [] := fun hnil => hzero (by rw [h.length, hnil]; rfl)
    rw [Storage.rewind_of_nonempty hzero, ReceiveBuffer.rewind, if_neg hne]
    exact h

/-- The room behind the unread bytes is the same. -/
theorem room_eq (h : Holds s b) {room : Nat}
    (hspan : s.rewind.position + s.length + room = s.data.length) : b.rewind.room = room := by
  have hrewind := h.rewind
  have hcapacity := hrewind.capacity
  have hlength := hrewind.length
  have hposition := hrewind.position
  rw [Storage.data_rewind] at hcapacity
  rw [Storage.length_rewind] at hlength
  rw [ReceiveBuffer.room]
  omega

theorem consume (h : Holds s b) {n : Nat} (hn : n ≤ s.length) {s' : Storage}
    (hdata : s'.data = s.data) (hposition : s'.position = s.position + n)
    (hcontent : s'.content? = some (b.unread.drop n)) : Holds s' (b.skip n) := by
  refine ⟨?_, ?_, hcontent⟩
  · rw [hdata]
    exact h.capacity
  · show s'.position = b.position + min n b.unread.length
    rw [hposition, h.position, Nat.min_eq_left (h.length ▸ hn)]

variable [Transport τ]

/-- A fill of the buffer, when the room is known. -/
theorem fill_eq {t : τ} {room : Nat} (hroom : b.rewind.room = room) (hpos : 0 < room) :
    b.fill t =
      match Transport.receive t room with
      | (.error e, t') => ⟨.error e, (b.rewind, t'), [.receive room (.error e)]⟩
      | (.ok bytes, t') =>
        ⟨.ok bytes.length, (b.rewind.append bytes, t'), [.receive room (.ok bytes)]⟩ := by
  subst hroom
  rw [ReceiveBuffer.fill]
  exact if_neg (Nat.ne_of_gt hpos)

/-- Both do the same in every operation. -/
theorem perform {x : Storage × τ} {y : ReceiveBuffer × τ} (h : Holds x.1 y.1) (ht : x.2 = y.2)
    (op : Operation) : Mirrors (Storage.perform op x) (ReceiveBuffer.perform op y) := by
  obtain ⟨s, t⟩ := x
  obtain ⟨b, t₁⟩ := y
  obtain rfl : t = t₁ := ht
  replace h : Holds s b := h
  have hdoes := Storage.perform_does h.content h.floor t op
  have hlength : s.length = b.unread.length := h.length
  have hrewind : Holds s.rewind b.rewind := h.rewind
  generalize Storage.perform op (s, t) = o at hdoes
  cases hdoes with
  | full litter hne hfull =>
    have hsame : b.rewind = b := if_neg fun hnil => hne (by rw [hlength, hnil]; rfl)
    have hroom : b.room = 0 := by
      have hcapacity := h.capacity
      have hposition := h.position
      rw [ReceiveBuffer.room]
      omega
    have hfill : b.fill t = .ok (b, t) 0 := by
      rw [fill, hsame]
      exact if_pos hroom
    rw [ReceiveBuffer.perform, hfill]
    exact ⟨rfl, rfl, rfl, h⟩
  | failed litter s' t' room e hspan hpos hrecv hdata hposition hcontent =>
    have hfill := fill_eq (t := t) (h.room_eq hspan) hpos
    rw [hrecv] at hfill
    rw [ReceiveBuffer.perform, hfill]
    refine ⟨rfl, rfl, rfl, ?_, hposition.trans hrewind.position, ?_⟩
    · exact hdata.trans ((Storage.data_rewind s) ▸ hrewind.capacity)
    · show s'.content? = some b.rewind.unread
      rw [unread_rewind]
      exact hcontent
  | filled litter s' t' room bytes hspan hpos hrecv hdata hposition hcontent =>
    have hroom := h.room_eq hspan
    have hfill := fill_eq (t := t) hroom hpos
    have hfits := Transport.receive_le t room bytes (by rw [hrecv])
    rw [hrecv] at hfill
    rw [ReceiveBuffer.perform, hfill]
    refine ⟨rfl, rfl, rfl, ?_, hposition.trans hrewind.position, ?_⟩
    · exact hdata.trans ((Storage.data_rewind s) ▸ hrewind.capacity)
    · show s'.content? = some (b.rewind.append bytes).unread
      rw [unread_append _ _ (by rwa [hroom]), unread_rewind]
      exact hcontent
  | consumed n s' hn hdata hposition hcontent =>
    have hconsume : b.consume n = .ok (b.skip n) := if_pos (hlength ▸ hn)
    rw [ReceiveBuffer.perform]
    dsimp only
    rw [hconsume]
    exact ⟨rfl, rfl, rfl, h.consume hn hdata hposition hcontent⟩
  | refused n hn =>
    have hconsume : b.consume n = .error .pastEnd := if_neg (by omega)
    rw [ReceiveBuffer.perform]
    dsimp only
    rw [hconsume]
    exact ⟨rfl, rfl, rfl, h⟩
  | taken out s' hdata hposition hcontent =>
    rw [drop_length_take] at hcontent
    refine ⟨rfl, rfl, rfl, ?_, ?_, hcontent⟩
    · show s'.data.length = b.capacity
      rw [hdata]
      exact h.capacity
    · show s'.position = b.position + min out.length b.unread.length
      rw [hposition, h.position, List.length_take]
  | cleared => exact ⟨rfl, rfl, rfl, h.capacity, rfl, Storage.content?_clear s⟩

/-- So they do in a series of operations. -/
theorem series {x : Storage × τ} {y : ReceiveBuffer × τ} (h : Holds x.1 y.1) (ht : x.2 = y.2)
    (ops : List Operation) :
    let os := Outcome.series (fun x op => Storage.perform op x) x ops
    let os' := Outcome.series (fun y op => ReceiveBuffer.perform op y) y ops
    os.map (·.result) = os'.map (·.result) ∧ Outcome.log os = Outcome.log os' ∧
      (Outcome.last x os).2 = (Outcome.last y os').2 ∧
      Holds (Outcome.last x os).1 (Outcome.last y os').1 := by
  induction ops generalizing x y with
  | nil => exact ⟨rfl, rfl, ht, h⟩
  | cons op ops ih =>
    have hmirrors := h.perform ht op
    obtain ⟨hresults, hlog, hstream, hlast⟩ := ih hmirrors.holds hmirrors.stream
    refine ⟨?_, ?_, hstream, hlast⟩
    · rw [Outcome.series_cons, Outcome.series_cons, List.map_cons, List.map_cons, hmirrors.result,
        hresults]
    · rw [Outcome.series_cons, Outcome.series_cons, Outcome.log_cons, Outcome.log_cons,
        hmirrors.calls, hlog]

end Holds

/-! ## The queue -/

/-- What became of the bytes of a stream: those that were received, and how many of them were passed
over, handed out or dropped. -/
structure Ledger where
  received : Bytes
  gone : Nat

namespace Ledger

/-- Before anything was received. -/
def empty : Ledger := ⟨[], 0⟩

/-- The ledger after an operation with this outcome. -/
def next {σ : Type} (l : Ledger) (op : Operation) (o : Outcome Failure σ Reply) : Ledger :=
  let received := l.received ++ o.calls.flatMap Call.received
  match op, o.result with
  | .consume n, .ok _ => ⟨received, l.gone + n⟩
  | .takeInto _, .ok (.taken count _) => ⟨received, l.gone + count⟩
  | .clear, _ => ⟨received, received.length⟩
  | _, _ => ⟨received, l.gone⟩

/-- The ledger after some operations with these outcomes. -/
def after {σ : Type} (l : Ledger) : List Operation → List (Outcome Failure σ Reply) → Ledger
  | op :: ops, o :: os => after (l.next op o) ops os
  | _, _ => l

/-- The bytes that are still to be read. -/
def left (l : Ledger) : Bytes := l.received.drop l.gone

theorem received_next {σ : Type} (l : Ledger) (op : Operation) (o : Outcome Failure σ Reply) :
    (l.next op o).received = l.received ++ o.calls.flatMap Call.received := by
  simp only [next]
  split <;> rfl

/-- Every byte that a call of a series received is in the ledger. -/
theorem received_after {σ : Type} (call : σ → Operation → Outcome Failure σ Reply) (l : Ledger)
    (s : σ) (ops : List Operation) :
    (l.after ops (Outcome.series call s ops)).received =
      l.received ++ (Outcome.log (Outcome.series call s ops)).flatMap Call.received := by
  induction ops generalizing l s with
  | nil => exact (List.append_nil _).symm
  | cons op ops ih =>
    rw [Outcome.series_cons, Outcome.log_cons, List.flatMap_append, after, ih, received_next,
      List.append_assoc]

end Ledger

/-- The array has its size, and holds what the ledger says is left. -/
structure Tells (size : Nat) (l : Ledger) (s : Storage) : Prop where
  floor : 0 < size
  size_eq : s.data.length = size
  gone_le : l.gone ≤ l.received.length
  content : s.content? = some l.left

theorem tells_new (capacity : Nat) :
    Tells (max capacity minCapacity) .empty (.new capacity) := by
  refine ⟨?_, List.length_replicate, Nat.le_refl _, Storage.content?_new capacity⟩
  exact Nat.lt_of_lt_of_le (by decide) (Nat.le_max_right _ _)

namespace Tells

variable {size : Nat} {l : Ledger} {s : Storage}

theorem length_left (h : Tells size l s) : s.length = l.received.length - l.gone := by
  rw [Storage.length_of_content h.content, Ledger.left, List.length_drop]

/-- Bytes that go take their place in the count of those that are gone. -/
theorem advance (h : Tells size l s) {n : Nat} (hn : n ≤ s.length) {s' : Storage}
    (hdata : s'.data = s.data) (hcontent : s'.content? = some (l.left.drop n)) :
    Tells size ⟨l.received ++ [], l.gone + n⟩ s' := by
  have hgone := h.gone_le
  have hleft := h.length_left
  rw [List.append_nil]
  refine ⟨h.floor, ?_, ?_, ?_⟩
  · rw [hdata]
    exact h.size_eq
  · show l.gone + n ≤ l.received.length
    omega
  · rw [hcontent, Ledger.left, List.drop_drop]
    rfl

/-- An operation that receives nothing and lets nothing go changes no byte. -/
theorem same (h : Tells size l s) {s' : Storage} (hdata : s'.data.length = s.data.length)
    (hcontent : s'.content? = some l.left) : Tells size ⟨l.received ++ [], l.gone⟩ s' := by
  rw [List.append_nil]
  exact ⟨h.floor, hdata.trans h.size_eq, h.gone_le, hcontent⟩

theorem perform [Transport τ] (h : Tells size l s) (t : τ) (op : Operation) :
    Tells size (l.next op (Storage.perform op (s, t))) (Storage.perform op (s, t)).state.1 := by
  have hdoes := Storage.perform_does h.content (h.size_eq ▸ h.floor) t op
  generalize Storage.perform op (s, t) = o at hdoes
  cases hdoes with
  | full litter hne hfull => exact h.same rfl h.content
  | failed litter s' t' room e hspan hpos hrecv hdata hposition hcontent =>
    exact h.same hdata hcontent
  | filled litter s' t' room bytes hspan hpos hrecv hdata hposition hcontent =>
    -- What arrives goes behind all that was received before.
    have hreceived : [Call.receive room (.ok bytes)].flatMap Call.received = bytes :=
      List.append_nil bytes
    show Tells size ⟨l.received ++ [Call.receive room (.ok bytes)].flatMap Call.received, l.gone⟩ s'
    rw [hreceived]
    refine ⟨h.floor, hdata.trans h.size_eq, ?_, ?_⟩
    · exact Nat.le_trans h.gone_le (List.length_append ▸ Nat.le_add_right _ _)
    · rw [hcontent, Ledger.left, Ledger.left, List.drop_append_of_le_length h.gone_le]
  | consumed n s' hn hdata hposition hcontent => exact h.advance hn hdata hcontent
  | refused n hn => exact h.same rfl h.content
  | taken out s' hdata hposition hcontent =>
    refine h.advance ?_ hdata hcontent
    rw [Storage.length_of_content h.content, List.length_take]
    exact Nat.min_le_right _ _
  | cleared =>
    refine ⟨h.floor, h.size_eq, Nat.le_refl _, ?_⟩
    show s.clear.content? = some ((l.received ++ []).drop (l.received ++ []).length)
    rw [List.drop_length]
    exact Storage.content?_clear s

theorem series [Transport τ] (h : Tells size l s) (t : τ) (ops : List Operation) :
    let os := Outcome.series (fun x op => Storage.perform op x) (s, t) ops
    Tells size (l.after ops os) (Outcome.last (s, t) os).1 := by
  -- On the operations; the ledger goes on from the state that the first of them leaves.
  induction ops generalizing l s t with
  | nil => exact h
  | cons op ops ih => exact ih (h.perform t op) _

end Tells

/-! ## The window -/

/-- How an operation moves the window of the unread bytes. -/
structure Moves (s : Storage) (op : Operation) (o : Outcome Failure (Storage × τ) Reply) :
    Prop where
  /-- No byte outside of an array is asked for. -/
  inRange : o.result ≠ .error .outOfRange
  fills : ∀ count, o.result = .ok (.filled count) → o.state.1.length = s.length + count
  /-- Nothing but a fill adds to the unread bytes. -/
  shrinks : (∀ count, o.result ≠ .ok (.filled count)) → o.state.1.length ≤ s.length
  /-- The window goes back only to the start, when all is dropped or when there is nothing to read
  before a fill. -/
  rewinds : o.state.1.position < s.position →
    o.state.1.position = 0 ∧ (op = .clear ∨ (∃ litter, op = .fill litter) ∧ s.length = 0)
  /-- A failure leaves the unread bytes as they are. -/
  keeps : ∀ e, o.result = .error e → o.state.1.content? = s.content?
  refuses : ∀ n, op = .consume n → s.length < n →
    o.result = .error (.consume .pastEnd) ∧ o.state.1 = s
  /-- The first unread bytes are handed out, as many as there is place for. -/
  hands : ∀ out content, op = .takeInto out → s.content? = some content →
    o.result = .ok (.taken (content.take out.length).length
      (out.overlay (content.take out.length)))
  /-- The stream is left alone just if unread bytes reach the end of the array. -/
  silent : ∀ litter, op = .fill litter →
    (o.calls = [] ↔ s.length ≠ 0 ∧ s.position + s.length = s.data.length)

/-- A window with room behind it does not reach the end of the array, unless nothing is unread. -/
theorem not_full_of_room {s : Storage} {room : Nat}
    (hspan : s.rewind.position + s.length + room = s.data.length) (hpos : 0 < room) :
    ¬(s.length ≠ 0 ∧ s.position + s.length = s.data.length) := by
  rintro ⟨hne, hfull⟩
  rw [Storage.rewind_of_nonempty hne] at hspan
  omega

/-- A fill moves the window at most to the start, and that only if there is nothing to read. -/
theorem rewinds_of_fill {s s' : Storage} (litter : Bytes) (h : s'.position = s.rewind.position)
    (hlt : s'.position < s.position) :
    s'.position = 0 ∧ (Operation.fill litter = .clear ∨
      (∃ litter', Operation.fill litter = .fill litter') ∧ s.length = 0) := by
  by_cases hzero : s.length = 0
  · rw [Storage.rewind_of_empty hzero] at h
    exact ⟨h, .inr ⟨⟨litter, rfl⟩, hzero⟩⟩
  · rw [Storage.rewind_of_nonempty hzero] at h
    omega

/-- When bytes go, there are no more of them, and the window does not go back. -/
theorem advances {s s' : Storage} {content : Bytes} {n : Nat} (h : s.content? = some content)
    (hposition : s'.position = s.position + n) (hcontent : s'.content? = some (content.drop n)) :
    s'.length ≤ s.length ∧ ¬s'.position < s.position := by
  have hlength := Storage.length_of_content h
  have hlength' := Storage.length_of_content hcontent
  rw [List.length_drop] at hlength'
  omega

theorem moves_perform [Transport τ] {s : Storage} {content : Bytes} (h : s.content? = some content)
    (hfloor : 0 < s.data.length) (t : τ) (op : Operation) :
    Moves s op (Storage.perform op (s, t)) := by
  have hdoes := Storage.perform_does h hfloor t op
  have hlength := Storage.length_of_content h
  generalize Storage.perform op (s, t) = o at hdoes
  cases hdoes with
  | full litter hne hfull =>
    exact {
      inRange := nofun
      fills := fun count hcount => by cases hcount; rfl
      shrinks := fun _ => Nat.le_refl _
      rewinds := fun hlt => absurd hlt (Nat.lt_irrefl _)
      keeps := nofun
      refuses := nofun
      hands := nofun
      silent := fun _ _ => ⟨fun _ => ⟨hne, hfull⟩, fun _ => rfl⟩ }
  | failed litter s' t' room e hspan hpos hrecv hdata hposition hcontent =>
    have hsame : s'.length = s.length := by rw [Storage.length_of_content hcontent, hlength]
    exact {
      inRange := nofun
      fills := nofun
      shrinks := fun _ => Nat.le_of_eq hsame
      rewinds := rewinds_of_fill litter hposition
      keeps := fun _ _ => hcontent.trans h.symm
      refuses := nofun
      hands := nofun
      silent := fun _ _ => ⟨nofun, fun hfull => absurd hfull (not_full_of_room hspan hpos)⟩ }
  | filled litter s' t' room bytes hspan hpos hrecv hdata hposition hcontent =>
    have hsum : s'.length = s.length + bytes.length := by
      rw [Storage.length_of_content hcontent, hlength, List.length_append]
    exact {
      inRange := nofun
      fills := fun count hcount => by cases hcount; exact hsum
      shrinks := fun hno => absurd rfl (hno bytes.length)
      rewinds := rewinds_of_fill litter hposition
      keeps := nofun
      refuses := nofun
      hands := nofun
      silent := fun _ _ => ⟨nofun, fun hfull => absurd hfull (not_full_of_room hspan hpos)⟩ }
  | consumed n s' hn hdata hposition hcontent =>
    obtain ⟨hfewer, hforward⟩ := advances h hposition hcontent
    exact {
      inRange := nofun
      fills := nofun
      shrinks := fun _ => hfewer
      rewinds := fun hlt => absurd hlt hforward
      keeps := nofun
      refuses := fun m hm hlt => by cases hm; exact absurd hn (Nat.not_le_of_lt hlt)
      hands := nofun
      silent := nofun }
  | refused n hn =>
    exact {
      inRange := nofun
      fills := nofun
      shrinks := fun _ => Nat.le_refl _
      rewinds := fun hlt => absurd hlt (Nat.lt_irrefl _)
      keeps := fun _ _ => rfl
      refuses := fun _ _ _ => ⟨rfl, rfl⟩
      hands := nofun
      silent := nofun }
  | taken out s' hdata hposition hcontent =>
    obtain ⟨hfewer, hforward⟩ := advances h hposition hcontent
    exact {
      inRange := nofun
      fills := nofun
      shrinks := fun _ => hfewer
      rewinds := fun hlt => absurd hlt hforward
      keeps := nofun
      refuses := nofun
      hands := fun out' content' hout hcontent' => by
        cases hout
        rw [h] at hcontent'
        cases hcontent'
        rfl
      silent := nofun }
  | cleared =>
    exact {
      inRange := nofun
      fills := nofun
      shrinks := fun _ => Nat.zero_le _
      rewinds := fun _ => ⟨rfl, .inl rfl⟩
      keeps := nofun
      refuses := nofun
      hands := nofun
      silent := nofun }

/-- Whatever is done with an array and whatever its stream does, the unread bytes in it are those
that were received and are not gone yet, in the order in which they came; they lie within the array,
which keeps its size, and every operation moves them as `Moves` says. The buffer of the library
answers and calls as the array does, and has the same bytes at the same place. -/
theorem storage_is_queue [Transport τ] (capacity : Nat) (t : τ) (ops : List Operation) :
    let os := Outcome.series (fun x op => Storage.perform op x) (Storage.new capacity, t) ops
    let s := (Outcome.last (Storage.new capacity, t) os).1
    let received := (Outcome.log os).flatMap Call.received
    let gone := (Ledger.empty.after ops os).gone
    s.content? = some (received.drop gone) ∧ gone ≤ received.length ∧
    s.position + s.length ≤ s.data.length ∧ s.data.length = max capacity minCapacity ∧
    (∀ op (t' : τ), Moves s op (Storage.perform op (s, t'))) ∧
    let os' := Outcome.series (fun y op => ReceiveBuffer.perform op y)
      (ReceiveBuffer.new capacity, t) ops
    let b := (Outcome.last (ReceiveBuffer.new capacity, t) os').1
    os.map (·.result) = os'.map (·.result) ∧ Outcome.log os = Outcome.log os' ∧
      b.capacity = s.data.length ∧ b.position = s.position ∧ s.content? = some b.unread := by
  intro os s received gone
  have htells := (tells_new capacity).series t ops
  have hall := Ledger.received_after (fun x op => Storage.perform op x) .empty
    (Storage.new capacity, t) ops
  obtain ⟨hresults, hlog, -, hholds⟩ :=
    Holds.series (x := (.new capacity, t)) (y := (.new capacity, t)) (holds_new capacity) rfl ops
  have hcontent : s.content? = some (received.drop gone) := by
    rw [htells.content, Ledger.left, hall]
    rfl
  refine ⟨hcontent, ?_, Storage.within_of_content hcontent, htells.size_eq, ?_, hresults, hlog,
    hholds.capacity.symm, hholds.position.symm, hholds.content⟩
  · have hle := htells.gone_le
    rw [hall] at hle
    exact hle
  · intro op t'
    exact moves_perform hcontent (htells.size_eq ▸ htells.floor) t' op

end ReceiveBuffer

end ObjectStream
