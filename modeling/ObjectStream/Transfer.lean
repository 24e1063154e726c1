/-
  ObjectStream.Transfer

  A connection used as an ordinary byte stream of the system, with faults of the
  system as failures.
-/
import ObjectStream.Connection

namespace ObjectStream.Transfer

variable {τ : Type}

/-- Reads up to `room` bytes; none at the end of the body. -/
def read [Transport τ] (c : Connection τ) (room : Nat) : Outcome Fault (Connection τ) Bytes :=
  (c.read room).mapError Fault.ofError

/-- Writes some of the bytes: no more than are still due, and none once nothing is due. -/
def write [Transport τ] (c : Connection τ) (bytes : Bytes) : Outcome Fault (Connection τ) Nat :=
  let length := min bytes.length c.remaining
  if length = 0 ∧ bytes ≠ [] then .ok c 0
  else (c.write (bytes.take length)).mapError Fault.ofError

/-- Writes until all bytes are written or a write fails, where writing none counts as a failure; `made`
are the calls so far, newest first. -/
def writeAllFrom [Transport τ] (made : List Call) (c : Connection τ) (bytes : Bytes) :
    Outcome Fault (Connection τ) Unit :=
  if bytes = [] then ⟨.ok (), c, made.reverse⟩
  else
    let written := write c bytes
    let calls := List.reverseAux written.calls made
    match written.result with
    | .error e => ⟨.error e, written.state, calls.reverse⟩
    | .ok 0 => ⟨.error Fault.nothingWritten, written.state, calls.reverse⟩
    | .ok (n + 1) => writeAllFrom calls written.state (bytes.drop (n + 1))
termination_by bytes.length
decreasing_by
  have : 0 < bytes.length := List.length_pos_iff.mpr (by assumption)
  simp only [List.length_drop]
  omega

/-- Writes all bytes. -/
def writeAll [Transport τ] (c : Connection τ) (bytes : Bytes) : Outcome Fault (Connection τ) Unit :=
  writeAllFrom [] c bytes

/-- Makes sure that nothing waits to be written, which is always so. -/
def flush (c : Connection τ) : Outcome Fault (Connection τ) Unit := .ok c ()

end ObjectStream.Transfer
