/-
  ObjectStream.Proofs.Series

  Series of calls, each made on the state that the one before left, and what the
  log of such a series says: about the bytes that went over a stream, and about
  the streams that were set up and taken down.
-/

import ObjectStream.Transport

namespace ObjectStream

/-! ## What a call moved -/

namespace Call

/-- The bytes that a call received. -/
def received : Call → Bytes
  | .receive _ (.ok bytes) => bytes
  | _ => []

/-- The failure of a receive. -/
def receiveError? : Call → Option Error
  | .receive _ (.error e) => some e
  | _ => none

/-- The bytes that the stream accepted in a call. -/
def accepted : Call → Bytes
  | .send offered (.ok count) => offered.take count
  | _ => []

/-- Whether the call showed that the peer has closed the stream. -/
def isEnd : Call → Bool
  | .receive _ (.ok []) => true
  | _ => false

/-- Whether the call is a receive. -/
def isReceive : Call → Bool
  | .receive _ _ => true
  | _ => false

/-- Whether the call set a stream up. -/
def isSetup : Call → Bool
  | .connect _ _ _ (.ok ()) => true
  | _ => false

/-- Whether the call took a stream down. -/
def isDisconnect : Call → Bool
  | .disconnect _ => true
  | _ => false

@[simp] theorem received_ok (room : Nat) (bytes : Bytes) :
    (receive room (.ok bytes)).received = bytes := rfl

@[simp] theorem received_error (room : Nat) (e : Error) :
    (receive room (.error e)).received = [] := rfl

@[simp] theorem receiveError?_ok (room : Nat) (bytes : Bytes) :
    (receive room (.ok bytes)).receiveError? = none := rfl

@[simp] theorem receiveError?_error (room : Nat) (e : Error) :
    (receive room (.error e)).receiveError? = some e := rfl

end Call

/-- The calls of a loop, which it keeps newest first, with those of another operation. -/
theorem reverse_reverseAux (calls made : List Call) :
    (List.reverseAux calls made).reverse = made.reverse ++ calls := by
  rw [List.reverseAux_eq, List.reverse_append, List.reverse_reverse]

/-! ## Counting streams -/

/-- How many streams were set up. -/
def setups (log : List Call) : Nat := log.countP Call.isSetup

/-- How many were taken down. -/
def takedowns (log : List Call) : Nat := log.countP Call.isDisconnect

section

variable (log more : List Call) (host : String) (port : UInt16) (timeouts : Timeouts)

@[simp] theorem setups_nil : setups [] = 0 := rfl

@[simp] theorem takedowns_nil : takedowns [] = 0 := rfl

@[simp] theorem setups_append : setups (log ++ more) = setups log + setups more :=
  List.countP_append

@[simp] theorem takedowns_append : takedowns (log ++ more) = takedowns log + takedowns more :=
  List.countP_append

@[simp] theorem setups_connect_ok :
    setups (.connect host port timeouts (.ok ()) :: log) = setups log + 1 :=
  List.countP_cons_of_pos rfl

@[simp] theorem setups_connect_error (e : Error) :
    setups (.connect host port timeouts (.error e) :: log) = setups log :=
  List.countP_cons_of_neg Bool.false_ne_true

@[simp] theorem takedowns_connect (result : Except Error Unit) :
    takedowns (.connect host port timeouts result :: log) = takedowns log :=
  List.countP_cons_of_neg Bool.false_ne_true

@[simp] theorem setups_send (offered : Bytes) (accepted : Except Error Nat) :
    setups (.send offered accepted :: log) = setups log :=
  List.countP_cons_of_neg Bool.false_ne_true

@[simp] theorem takedowns_send (offered : Bytes) (accepted : Except Error Nat) :
    takedowns (.send offered accepted :: log) = takedowns log :=
  List.countP_cons_of_neg Bool.false_ne_true

@[simp] theorem setups_receive (room : Nat) (received : Except Error Bytes) :
    setups (.receive room received :: log) = setups log :=
  List.countP_cons_of_neg Bool.false_ne_true

@[simp] theorem takedowns_receive (room : Nat) (received : Except Error Bytes) :
    takedowns (.receive room received :: log) = takedowns log :=
  List.countP_cons_of_neg Bool.false_ne_true

@[simp] theorem setups_disconnect (result : Except Error Unit) :
    setups (.disconnect result :: log) = setups log :=
  List.countP_cons_of_neg Bool.false_ne_true

@[simp] theorem takedowns_disconnect (result : Except Error Unit) :
    takedowns (.disconnect result :: log) = takedowns log + 1 :=
  List.countP_cons_of_pos rfl

end

/-! ## Series -/

namespace Outcome

variable {ε σ α β : Type}

/-- The outcomes of a series of calls. -/
def series (call : σ → α → Outcome ε σ β) (s : σ) : List α → List (Outcome ε σ β)
  | [] => []
  | a :: rest => call s a :: series call (call s a).state rest

/-- The state after some outcomes. -/
def last (s : σ) : List (Outcome ε σ β) → σ
  | [] => s
  | o :: rest => last o.state rest

/-- The calls of some outcomes, in order. -/
def log (os : List (Outcome ε σ β)) : List Call := os.flatMap (·.calls)

variable {call : σ → α → Outcome ε σ β} {s : σ} {a : α} {o : Outcome ε σ β}
  {os : List (Outcome ε σ β)}

@[simp] theorem series_nil : series call s [] = [] := rfl

@[simp] theorem series_cons (rest : List α) :
    series call s (a :: rest) = call s a :: series call (call s a).state rest := rfl

@[simp] theorem last_nil : last s ([] : List (Outcome ε σ β)) = s := rfl

@[simp] theorem last_cons : last s (o :: os) = last o.state os := rfl

@[simp] theorem log_nil : log ([] : List (Outcome ε σ β)) = [] := rfl

@[simp] theorem log_cons : log (o :: os) = o.calls ++ log os := rfl

end Outcome

end ObjectStream
