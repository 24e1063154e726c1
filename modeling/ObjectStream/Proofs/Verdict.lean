/-
  ObjectStream.Proofs.Verdict

  What a complete response head comes to, said without the functions that read
  it: which texts are numbers of 64 bits, which lines are status lines, and what
  a head announces of the body. The readers agree with these descriptions.
-/

import Mathlib.Data.Nat.Digits.Defs
import ObjectStream.Response

namespace ObjectStream

/-! ## Digits -/

/-- The characters `0` to `9`. -/
def IsDigit (c : Char) : Prop := '0' ≤ c ∧ c ≤ '9'

instance (c : Char) : Decidable (IsDigit c) := inferInstanceAs (Decidable (_ ∧ _))

/-- The value of decimal digits, most significant first. -/
def decimal (digits : List Char) : Nat := Nat.ofDigits 10 (digits.map fun c => c.toNat - 48).reverse

theorem decimal_cons (c : Char) (digits : List Char) :
    decimal (c :: digits) = decimal digits + 10 ^ digits.length * (c.toNat - 48) := by
  rw [decimal, List.map_cons, Nat.ofDigits_reverse_cons, List.length_map, decimal]

namespace IsDigit

/-- A digit stands for less than ten. -/
theorem lt_ten {c : Char} (h : IsDigit c) : c.toNat - 48 < 10 := by
  have hle : c.toNat ≤ 57 := UInt32.le_iff_toNat_le.mp h.2
  omega

theorem digit?_eq {c : Char} (h : IsDigit c) : Ascii.digit? c = some (c.toNat - 48) := if_pos h

theorem digitIn?_eq {c : Char} (h : IsDigit c) : Ascii.digitIn? 10 c = some (c.toNat - 48) := by
  have hhex : Ascii.hexDigit? c = some (c.toNat - 48) := if_pos h
  rw [Ascii.digitIn?, hhex, Option.filter_some, if_pos (decide_eq_true h.lt_ten)]

end IsDigit

/-- A character that reads as a digit is one. -/
theorem isDigit_of_digit? {c : Char} {d : Nat} (h : Ascii.digit? c = some d) : IsDigit c := by
  rw [Ascii.digit?] at h
  split at h
  · assumption
  · cases h

/-- The letters among the hexadecimal digits stand for ten and more. -/
theorem isDigit_of_digitIn? {c : Char} {d : Nat} (h : Ascii.digitIn? 10 c = some d) :
    IsDigit c := by
  rw [Ascii.digitIn?, Option.filter_eq_some_iff, Ascii.hexDigit?, decide_eq_true_eq] at h
  obtain ⟨hhex, hlt⟩ := h
  split at hhex
  · assumption
  · split at hhex
    · -- The letters `a` to `f`.
      rename_i hletter
      have hle : 97 ≤ c.toNat := UInt32.le_iff_toNat_le.mp hletter.1
      cases hhex
      omega
    · split at hhex
      · -- The letters `A` to `F`.
        rename_i hletter
        have hle : 65 ≤ c.toNat := UInt32.le_iff_toNat_le.mp hletter.1
        cases hhex
        omega
      · cases hhex

namespace Number

/-! ## Numbers -/

/-- The texts of a number of 64 bits: a plus sign, which may be missing, and one or more digits. -/
def Numeral (text : String) (n : Nat) : Prop :=
  ∃ digits, (text.toList = digits ∨ text.toList = '+' :: digits) ∧ digits ≠ [] ∧
    (∀ c ∈ digits, IsDigit c) ∧ decimal digits = n ∧ n < 2 ^ 64

/-- Digits are read as their value. -/
theorem readDigits?_of_digits {digits : List Char} (h : ∀ c ∈ digits, IsDigit c) (value : Nat) :
    readDigits? 10 value digits = some (value * 10 ^ digits.length + decimal digits) := by
  -- On the digits; `value` moves up one place with each of them.
  induction digits generalizing value with
  | nil => simp [readDigits?, decimal]
  | cons c rest ih =>
    have hrest : ∀ d ∈ rest, IsDigit d := fun d hd => h d (List.mem_cons_of_mem _ hd)
    rw [readDigits?, (h c List.mem_cons_self).digitIn?_eq, Option.bind_some, ih hrest, decimal_cons,
      List.length_cons]
    congr 1
    ring

/-- Only digits are read. -/
theorem digits_of_readDigits? {digits : List Char} {value n : Nat}
    (h : readDigits? 10 value digits = some n) : ∀ c ∈ digits, IsDigit c := by
  induction digits generalizing value with
  | nil => exact fun c hc => absurd hc List.not_mem_nil
  | cons c rest ih =>
    rw [readDigits?, Option.bind_eq_some_iff] at h
    obtain ⟨d, hd, hrest⟩ := h
    intro a ha
    rcases List.mem_cons.mp ha with rfl | ha
    · exact isDigit_of_digitIn? hd
    · exact ih hrest a ha

theorem natIn?_eq_some {digits : List Char} {n : Nat} :
    natIn? 10 digits = some n ↔ digits ≠ [] ∧ (∀ c ∈ digits, IsDigit c) ∧ decimal digits = n := by
  have hempty : digits.isEmpty = true ↔ digits = [] := List.isEmpty_iff
  rw [natIn?]
  by_cases hnil : digits = []
  · simp [hnil]
  · rw [if_neg (by rw [hempty]; exact hnil)]
    constructor
    · intro h
      have hdigits := digits_of_readDigits? h
      rw [readDigits?_of_digits hdigits, Nat.zero_mul, Nat.zero_add] at h
      exact ⟨hnil, hdigits, Option.some.inj h⟩
    · rintro ⟨-, hdigits, rfl⟩
      rw [readDigits?_of_digits hdigits, Nat.zero_mul, Nat.zero_add]

/-- The reader of 64-bit numbers reads their texts, and no others. -/
theorem word64?_eq_some {text : String} {n : Nat} : word64? text = some n ↔ Numeral text n := by
  have hplus : ¬IsDigit '+' := by decide
  unfold word64? unsigned?
  dsimp only
  rw [Option.filter_eq_some_iff, natIn?_eq_some, decide_eq_true_eq, Numeral]
  split
  · -- A plus sign in front is dropped, and is no digit itself.
    rename_i rest htext
    constructor
    · rintro ⟨⟨hne, hdigits, hvalue⟩, hlt⟩
      exact ⟨rest, .inr htext, hne, hdigits, hvalue, hlt⟩
    · rintro ⟨digits, heq | heq, hne, hdigits, hvalue, hlt⟩
      · rw [← heq, htext] at hdigits
        exact absurd (hdigits '+' List.mem_cons_self) hplus
      · rw [htext, List.cons.injEq] at heq
        rw [heq.2]
        exact ⟨⟨hne, hdigits, hvalue⟩, hlt⟩
  · -- Without one, all characters are digits.
    rename_i hother
    constructor
    · rintro ⟨⟨hne, hdigits, hvalue⟩, hlt⟩
      exact ⟨text.toList, .inl rfl, hne, hdigits, hvalue, hlt⟩
    · rintro ⟨digits, heq | heq, hne, hdigits, hvalue, hlt⟩
      · rw [heq]
        exact ⟨⟨hne, hdigits, hvalue⟩, hlt⟩
      · exact absurd heq (hother digits)

end Number

/-! ## Status lines -/

namespace Status

/-- The status lines with a code: the version, three digits, and anything after them. -/
def Line (line : String) (code : Nat) : Prop :=
  ∃ a b c rest, line.toList = "HTTP/1.1 ".toList ++ a :: b :: c :: rest ∧
    IsDigit a ∧ IsDigit b ∧ IsDigit c ∧ decimal [a, b, c] = code

theorem decimal_three (a b c : Char) :
    decimal [a, b, c] = (a.toNat - 48) * 100 + (b.toNat - 48) * 10 + (c.toNat - 48) := by
  simp only [decimal_cons, List.length_cons, List.length_nil]
  have hnil : decimal [] = 0 := rfl
  omega

/-- A status line has the status of its code. -/
theorem ofLine_of_line {line : String} {code : Nat} (h : Line line code) :
    ofLine line = .ok (ofCode code) := by
  obtain ⟨a, b, c, rest, hline, ha, hb, hc, rfl⟩ := h
  have hprefix : versionPrefix.toList.isPrefixOf line.toList = true := by
    rw [List.isPrefixOf_iff_prefix, hline]
    exact List.prefix_append _ _
  have hcode : (line.toList.drop versionPrefix.length).take 3 = [a, b, c] := by
    rw [hline]
    rfl
  -- Nine characters are skipped, and the three after them are the code.
  rw [ofLine, if_pos hprefix, hcode]
  dsimp only
  rw [ha.digit?_eq, hb.digit?_eq, hc.digit?_eq, decimal_three]

/-- Only status lines have a status. -/
theorem line_of_ofLine {line : String} {status : Status} (h : ofLine line = .ok status) :
    ∃ code, Line line code := by
  rw [ofLine] at h
  split at h
  · rename_i hprefix
    -- The line is the version and what comes after it, of which the first three are the code.
    obtain ⟨after, hline⟩ := List.isPrefixOf_iff_prefix.mp hprefix
    split at h
    · rename_i a b c hcode
      have hafter : after.take 3 = [a, b, c] := by
        rw [← hcode, ← hline]
        rfl
      split at h
      · rename_i x y z ha hb hc
        refine ⟨_, a, b, c, after.drop 3, ?_, isDigit_of_digit? ha, isDigit_of_digit? hb,
          isDigit_of_digit? hc, rfl⟩
        calc line.toList = versionPrefix.toList ++ (after.take 3 ++ after.drop 3) := by
              rw [List.take_append_drop, hline]
          _ = "HTTP/1.1 ".toList ++ a :: b :: c :: after.drop 3 := by
              rw [hafter]
              rfl
      · cases h
    · cases h
  · cases h

/-- Any other line is not supported. -/
theorem ofLine_of_not_line {line : String} (h : ∀ code, ¬Line line code) :
    ofLine line = .error notSupported := by
  cases hstatus : ofLine line with
  | ok status =>
    obtain ⟨code, hline⟩ := line_of_ofLine hstatus
    exact absurd hline (h code)
  | error e =>
    rw [ofLine] at hstatus
    split at hstatus
    · split at hstatus
      · split at hstatus
        · cases hstatus
        · exact hstatus.symm
      · exact hstatus.symm
    · exact hstatus.symm

/-- The result of each code. -/
theorem result_ofCode (code : Nat) :
    (ofCode code).result =
      if code = 200 then .ok ()
      else if code = 403 then .error .forbidden
      else if code = 404 then .error .notFound
      else .error (.other ("unexpected HTTP status " ++ toString code)) := by
  unfold ofCode
  split
  · rfl
  · rfl
  · rfl
  · rename_i h200 h403 h404
    rw [if_neg h200, if_neg h403, if_neg h404]
    rfl

end Status

/-! ## Heads -/

theorem Ascii.occursIn_iff {pattern : List Char} {text : List Char} :
    Ascii.occursIn pattern text = true ↔ pattern <:+: text := by
  induction text with
  | nil => rw [occursIn, List.isEmpty_iff, List.infix_nil]
  | cons c rest ih =>
    rw [occursIn, Bool.or_eq_true, List.isPrefixOf_iff_prefix, ih, List.infix_cons_iff]

namespace ResponseHead

/-- The status of a response is a success for the status lines with the code 200. -/
theorem status_eq_ok_iff {head : ResponseHead} :
    head.status.bind Status.result = .ok () ↔ Status.Line head.statusLine 200 := by
  rw [status]
  constructor
  · intro hok
    cases hstatus : Status.ofLine head.statusLine with
    | error e =>
      rw [hstatus] at hok
      cases hok
    | ok status =>
      obtain ⟨code, hline⟩ := Status.line_of_ofLine hstatus
      rw [Status.ofLine_of_line hline] at hok
      have hcode : (Status.ofCode code).result = .ok () := hok
      rw [Status.result_ofCode] at hcode
      split at hcode
      · rename_i h200
        exact h200 ▸ hline
      · split at hcode
        · cases hcode
        · split at hcode <;> cases hcode
  · intro hline
    rw [Status.ofLine_of_line hline]
    exact Status.result_ofCode 200

/-- What a response head tells of the body: its length, if one is announced, and whether it comes in
chunks. An announced length that is no number leaves both open. -/
def framing (head : ResponseHead) : Option Nat × Bool :=
  match head.contentLength with
  | .ok length => (length, head.isChunked)
  | .error _ => (none, false)

/-- The result of a complete response head when reading: a bad length counts before the status. -/
def verdict (head : ResponseHead) : Except Error Unit :=
  head.contentLength.bind fun _ => head.status.bind Status.result

/-- The heads that announce a length, or none. -/
def Announces (head : ResponseHead) : Option Nat → Prop
  | none => head.field? "content-length" = none
  | some n => ∃ value, head.field? "content-length" = some value ∧ Number.Numeral value n

variable {head : ResponseHead}

theorem contentLength_of_announces {length : Option Nat} (h : head.Announces length) :
    head.contentLength = .ok length := by
  rw [contentLength]
  cases length with
  | none =>
    have hfield : head.field? "content-length" = none := h
    rw [hfield]
  | some n =>
    obtain ⟨value, hfield, hnumeral⟩ := h
    rw [hfield]
    dsimp only
    rw [Number.word64?_eq_some.mpr hnumeral]

theorem contentLength_of_not_numeral {value : String}
    (hfield : head.field? "content-length" = some value) (h : ∀ n, ¬Number.Numeral value n) :
    head.contentLength = .error (.other ("invalid content-length: " ++ Quoted.encode value)) := by
  have hnone : Number.word64? value = none := by
    rw [Option.eq_none_iff_forall_ne_some]
    exact fun n hn => h n (Number.word64?_eq_some.mp hn)
  rw [contentLength, hfield]
  dsimp only
  rw [hnone]

theorem isChunked_iff :
    head.isChunked = true ↔
      ∃ value, head.field? "transfer-encoding" = some value ∧
        "chunked".toList <:+: value.toList := by
  rw [isChunked]
  cases head.field? "transfer-encoding" with
  | none => simp
  | some value => simp [Ascii.occursIn_iff]

theorem framing_of_announces {length : Option Nat} (h : head.Announces length) :
    head.framing = (length, head.isChunked) := by
  rw [framing, contentLength_of_announces h]

/-- A bad length leaves the body open, and is the result whatever the status. -/
theorem judged_of_not_numeral {value : String} (hfield : head.field? "content-length" = some value)
    (h : ∀ n, ¬Number.Numeral value n) :
    head.framing = (none, false) ∧
      head.verdict = .error (.other ("invalid content-length: " ++ Quoted.encode value)) := by
  rw [framing, verdict, contentLength_of_not_numeral hfield h]
  exact ⟨rfl, rfl⟩

/-- With a length that is announced or missing, the status line decides. -/
theorem verdict_of_line {length : Option Nat} (h : head.Announces length) {code : Nat}
    (hline : Status.Line head.statusLine code) : head.verdict = (Status.ofCode code).result := by
  rw [verdict, contentLength_of_announces h, status, Status.ofLine_of_line hline]
  rfl

theorem verdict_of_not_line {length : Option Nat} (h : head.Announces length)
    (hline : ∀ code, ¬Status.Line head.statusLine code) :
    head.verdict = .error Status.notSupported := by
  rw [verdict, contentLength_of_announces h, status, Status.ofLine_of_not_line hline]
  rfl

/-! ### Heads with the same answers -/

/-- Two heads with the same status line and the same answer to every name. -/
structure Alike (head head' : ResponseHead) : Prop where
  statusLine : head.statusLine = head'.statusLine
  fields : ∀ query, head.field? (Ascii.lower query) = head'.field? (Ascii.lower query)

namespace Alike

variable {head' : ResponseHead}

theorem refl (head : ResponseHead) : Alike head head := ⟨rfl, fun _ => rfl⟩

theorem contentLength (h : Alike head head') : head.contentLength = head'.contentLength := by
  have hname : Ascii.lower "content-length" = "content-length" := by decide
  have hfield := h.fields "content-length"
  rw [hname] at hfield
  rw [ResponseHead.contentLength, ResponseHead.contentLength, hfield]

theorem isChunked (h : Alike head head') : head.isChunked = head'.isChunked := by
  have hname : Ascii.lower "transfer-encoding" = "transfer-encoding" := by decide
  have hfield := h.fields "transfer-encoding"
  rw [hname] at hfield
  rw [ResponseHead.isChunked, ResponseHead.isChunked, hfield]

theorem status (h : Alike head head') : head.status = head'.status := by
  rw [ResponseHead.status, ResponseHead.status, h.statusLine]

theorem framing (h : Alike head head') : head.framing = head'.framing := by
  rw [ResponseHead.framing, ResponseHead.framing, h.contentLength, h.isChunked]

theorem verdict (h : Alike head head') : head.verdict = head'.verdict := by
  rw [ResponseHead.verdict, ResponseHead.verdict, h.contentLength, h.status]

end Alike

end ResponseHead
end ObjectStream
