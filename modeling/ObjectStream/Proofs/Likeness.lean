/-
  ObjectStream.Proofs.Likeness

  Connections that are the same apart from the stream that they hold. `Report` is
  all that can be asked of a connection, and `Alike.report_eq` says that the
  stream makes no difference to it.
-/

import ObjectStream.Proofs.Session

namespace ObjectStream
namespace Connection

variable {τ : Type}

/-! ## What a connection tells -/

/-- Everything that a connection tells without being changed: where it is in its exchange, and its
answers to questions. -/
structure Report where
  mode : Mode
  isOpen : Bool
  connected : Bool
  responseReceived : Bool
  remaining : Nat
  statusLine : Except Error String
  responseField : String → Except Error String
  contentLength : Except Error Nat
  description : String

def report (c : Connection τ) : Report :=
  { mode := c.mode
    isOpen := c.isOpen
    connected := c.transport.isSome
    responseReceived := c.responseReceived
    remaining := c.remaining
    statusLine := c.statusLine
    responseField := c.responseField
    contentLength := c.contentLength
    description := c.describe }

/-! ## The same connection on two streams -/

/-- The second connection is the first one, on a stream that `R` relates to that of the first; either
both hold a stream or neither does. -/
structure Alike (R : τ → τ → Prop) (c c' : Connection τ) : Prop where
  stream : Option.Rel R c.transport c'.transport
  same : c' = { c with transport := c'.transport }

namespace Alike

variable {R : τ → τ → Prop} {c c' : Connection τ}

theorem closed (h : c.transport = none) : Alike R c c := by
  refine ⟨?_, rfl⟩
  rw [h]
  exact .none

theorem refl (hrefl : ∀ t, R t t) (c : Connection τ) : Alike R c c := by
  refine ⟨?_, rfl⟩
  cases c.transport with
  | none => exact .none
  | some t => exact .some (hrefl t)

theorem held {t t' : τ} (ht : c.transport = some t) (h : R t t') :
    Alike R c { c with transport := some t' } := by
  refine ⟨?_, rfl⟩
  rw [ht]
  exact .some h

/-- Either there is no stream, and they are one connection, or there are two streams. -/
theorem cases (h : Alike R c c') :
    (c.transport = none ∧ c' = c) ∨
      ∃ t t', c.transport = some t ∧ R t t' ∧ c' = { c with transport := some t' } := by
  obtain ⟨hstream, hsame⟩ := h
  cases ht : c.transport with
  | none =>
    rw [ht] at hstream
    cases ht' : c'.transport with
    | none =>
      rw [ht', ← ht] at hsame
      exact .inl ⟨rfl, hsame⟩
    | some t' =>
      rw [ht'] at hstream
      cases hstream
  | some t =>
    rw [ht] at hstream
    cases ht' : c'.transport with
    | none =>
      rw [ht'] at hstream
      cases hstream
    | some t' =>
      rw [ht'] at hstream hsame
      cases hstream with
      | some hrel => exact .inr ⟨t, t', rfl, hrel, hsame⟩

/-- The stream makes no difference to what a connection tells. -/
theorem report_eq (h : Alike R c c') : c'.report = c.report := by
  rcases h.cases with ⟨-, rfl⟩ | ⟨t, t', ht, -, rfl⟩
  · rfl
  · have hconnected : c.transport.isSome = (some t').isSome := by rw [ht]; rfl
    rw [report, report, hconnected]
    rfl

end Alike

end Connection
end ObjectStream
