/-
  ObjectStream.Text.Utf8

  Text as UTF-8 bytes and back. Ill-formed bytes are found piece by piece, where
  a piece is the longest run of bytes that some well-formed character begins
  with: strict reading refuses such a text, lossy reading puts one replacement
  character for each piece.
-/
import ObjectStream.Bytes

namespace ObjectStream.Utf8

/-- The bytes of a text. -/
def encode (text : String) : Bytes :=
  text.toList.flatMap String.utf8EncodeChar

theorem encode_append (s t : String) : encode (s ++ t) = encode s ++ encode t := by
  rw [encode, String.toList_append, List.flatMap_append]
  rfl

/-! ## Reading -/

/-- A character of which some bytes were seen: how many are due, the bounds of the next one, and the
value so far. -/
structure Partial where
  due : Nat
  low : UInt8
  high : UInt8
  value : Nat

/-- What a first byte tells: a whole character, the start of a longer one, or nothing (`none`). -/
inductive Lead where
  | whole (c : Char)
  | start (p : Partial)
  | illFormed

/-- Reads a byte as the first of a character. -/
def lead (b : UInt8) : Lead :=
  if b < 0x80 then .whole (Char.ofNat b.toNat)
  else if b < 0xC2 then .illFormed
  else if b < 0xE0 then .start ⟨1, 0x80, 0xBF, b.toNat - 0xC0⟩
  else if b = 0xE0 then .start ⟨2, 0xA0, 0xBF, 0⟩
  else if b = 0xED then .start ⟨2, 0x80, 0x9F, 0xD⟩
  else if b < 0xF0 then .start ⟨2, 0x80, 0xBF, b.toNat - 0xE0⟩
  else if b = 0xF0 then .start ⟨3, 0x90, 0xBF, 0⟩
  else if b < 0xF4 then .start ⟨3, 0x80, 0xBF, b.toNat - 0xF0⟩
  else if b = 0xF4 then .start ⟨3, 0x80, 0x8F, 4⟩
  else .illFormed

/-- Reads on from what was seen of a character, in front of the pieces that were read, newest first. An
ill-formed piece is `none`. -/
def readFrom : Option Partial → List (Option Char) → Bytes → List (Option Char)
  | none, pieces, [] => pieces
  | some _, pieces, [] => none :: pieces
  | none, pieces, b :: rest =>
    match lead b with
    | .whole c => readFrom none (some c :: pieces) rest
    | .start p => readFrom (some p) pieces rest
    | .illFormed => readFrom none (none :: pieces) rest
  | some p, pieces, b :: rest =>
    if p.low ≤ b ∧ b ≤ p.high then
      let value := p.value * 64 + (b.toNat - 0x80)
      if p.due ≤ 1 then readFrom none (some (Char.ofNat value) :: pieces) rest
      else readFrom (some ⟨p.due - 1, 0x80, 0xBF, value⟩) pieces rest
    else
      match lead b with
      | .whole c => readFrom none (some c :: none :: pieces) rest
      | .start q => readFrom (some q) (none :: pieces) rest
      | .illFormed => readFrom none (none :: none :: pieces) rest

/-- The characters of a byte string in order, `none` for each ill-formed piece. -/
def pieces (bytes : Bytes) : List (Option Char) :=
  (readFrom none [] bytes).reverse

/-- The character that stands for ill-formed bytes. -/
def replacement : Char := Char.ofNat 0xFFFD

/-- Reads a text, with a replacement character for each ill-formed piece. -/
def decodeLossy (bytes : Bytes) : String :=
  String.ofList ((pieces bytes).map (·.getD replacement))

/-- Reads a text; refuses ill-formed bytes. -/
def decode? (bytes : Bytes) : Option String :=
  ((pieces bytes).mapM id).map String.ofList

/-! ## ASCII -/

/-- A byte below 0x80 is a whole character. -/
theorem toNat_of_mem_utf8EncodeChar {c : Char} {b : UInt8} (h : b ∈ String.utf8EncodeChar c)
    (hb : b < 0x80) : c.toNat = b.toNat := by
  have hlow : b.toNat < 128 := hb
  have hbyte : ∀ n : Nat, b = UInt8.ofNat n → b.toNat = n % 256 := by
    rintro n rfl
    exact UInt8.toNat_ofNat'
  unfold String.utf8EncodeChar at h
  dsimp only at h
  split at h
  · have hval := hbyte _ (List.mem_singleton.mp h)
    show c.val.toNat = b.toNat
    omega
  · -- All bytes of a longer character are at least 0x80.
    exfalso
    split at h
    · simp only [List.mem_cons, List.not_mem_nil, or_false] at h
      rcases h with h | h <;> (have hval := hbyte _ h; omega)
    · split at h <;> simp only [List.mem_cons, List.not_mem_nil, or_false] at h
      · rcases h with h | h | h <;> (have hval := hbyte _ h; omega)
      · rcases h with h | h | h | h <;> (have hval := hbyte _ h; omega)

/-- Characters below 0x80 are their bytes. -/
theorem encode_of_ascii {text : List Char} (h : ∀ c ∈ text, c.toNat < 0x80) :
    encode (String.ofList text) = text.map fun c => UInt8.ofNat c.toNat := by
  rw [encode, String.toList_ofList]
  induction text with
  | nil => rfl
  | cons c rest ih =>
    have hc : String.utf8EncodeChar c = [UInt8.ofNat c.toNat] :=
      if_pos (Nat.le_of_lt_succ (h c List.mem_cons_self))
    rw [List.flatMap_cons, hc, ih fun d hd => h d (List.mem_cons_of_mem c hd)]
    rfl

theorem readFrom_of_ascii {bytes : Bytes} (h : ∀ b ∈ bytes, b < 0x80) (front : List (Option Char)) :
    readFrom none front bytes = (bytes.map fun b => some (Char.ofNat b.toNat)).reverse ++ front := by
  induction bytes generalizing front with
  | nil => rfl
  | cons b rest ih =>
    have hlead : lead b = .whole (Char.ofNat b.toNat) := if_pos (h b List.mem_cons_self)
    rw [readFrom, hlead, List.map_cons, List.reverse_cons, List.append_assoc]
    exact ih (fun c hc => h c (List.mem_cons_of_mem b hc)) _

/-- Bytes below 0x80 are their characters. -/
theorem decode?_of_ascii {bytes : Bytes} (h : ∀ b ∈ bytes, b < 0x80) :
    decode? bytes = some (String.ofList (bytes.map fun b => Char.ofNat b.toNat)) := by
  have hpieces : pieces bytes = (bytes.map fun b => Char.ofNat b.toNat).map some := by
    rw [pieces, readFrom_of_ascii h, List.append_nil, List.reverse_reverse, List.map_map]
    rfl
  have hall : ∀ l : List Char, (l.map some).mapM id = some l := by
    intro l
    induction l with
    | nil => rfl
    | cons c l ih => rw [List.map_cons, List.mapM_cons, ih]; rfl
  rw [decode?, hpieces, hall]
  rfl

end ObjectStream.Utf8
