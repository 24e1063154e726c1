/-
  ObjectStream.Timeouts

  How long a connection waits: for being set up, and for each send or receive.
-/

namespace ObjectStream

/-- A length of time. -/
structure Duration where
  microseconds : Nat
deriving DecidableEq, Repr

namespace Duration

/-- The time of so many milliseconds. -/
def ofMilliseconds (n : Nat) : Duration := ⟨n * 1000⟩

/-- The whole milliseconds of a length of time. -/
def milliseconds (d : Duration) : Nat := d.microseconds / 1000

/-- A decimal fraction of `width` places, without zeros at its end. -/
def fraction (width n : Nat) : String :=
  let digits := (Nat.toDigits 10 (Nat.pow 10 width + n)).drop 1
  let kept := (digits.reverse.dropWhile (· == '0')).reverse
  if kept.isEmpty then "" else "." ++ String.ofList kept

/-- The text of a length of time, in the largest of second, millisecond and microsecond that it
reaches. -/
def text (d : Duration) : String :=
  if d.microseconds ≥ 1000000 then
    toString (d.microseconds / 1000000) ++ fraction 6 (d.microseconds % 1000000) ++ "s"
  else if d.microseconds ≥ 1000 then
    toString (d.microseconds / 1000) ++ fraction 3 (d.microseconds % 1000) ++ "ms"
  else toString d.microseconds ++ "µs"

end Duration

/-- The limits of a connection; `none` waits for ever. -/
structure Timeouts where
  /-- For setting up the connection. -/
  connect : Option Duration
  /-- For each send and each receive. -/
  socket : Option Duration
deriving DecidableEq, Repr

namespace Timeouts

/-- No limits. -/
def none : Timeouts := ⟨.none, .none⟩

/-- A limit, where zero stands for no limit. -/
def limit? (d : Duration) : Option Duration :=
  if d.microseconds = 0 then .none else some d

/-- Limits in microseconds, where zero stands for no limit. -/
def ofMicroseconds (connect socket : Nat) : Timeouts :=
  ⟨limit? ⟨connect⟩, limit? ⟨socket⟩⟩

/-- Limits in milliseconds, where zero stands for no limit. -/
def ofMilliseconds (connect socket : Nat) : Timeouts :=
  ⟨limit? (.ofMilliseconds connect), limit? (.ofMilliseconds socket)⟩

/-- One limit as diagnostics show it. -/
def describeLimit : Option Duration → String
  | .none => "None"
  | some d => "Some(" ++ d.text ++ ")"

/-- The limits as diagnostics show them. -/
def describe (t : Timeouts) : String :=
  "Timeouts \x7b connect: " ++ describeLimit t.connect ++ ", socket: " ++
    describeLimit t.socket ++ " \x7d"

end Timeouts

end ObjectStream
