import Enchat.Model.Endpoint

/-!
# Owners of sessions, and the loop of `ChatClient::close`

A session lives as long as an entry of the map, an operation or a thread holds a `shared_ptr` to it.
`Endpoint.closeAll` is what `ChatClient::close` is for; here is the loop as it is written, on a map
that the sessions change while it is running and whose entries own the sessions.
-/

namespace Enchat

variable {QString Ctx : Type} [DecidableEq QString]

/-- What the loop can do with memory that has been released. -/
inductive CloseFault
  /-- A session goes on after the last `shared_ptr` to it was dropped. -/
  | sessionDestroyed
  /-- An iterator is advanced whose element has been erased. -/
  | iteratorErased
deriving DecidableEq

/-- The `shared_ptr`s to a session in the handlers of its operations and in threads that are in
`sendTextMsg`. -/
def Conn.holders (c : Conn QString Ctx) : ℕ :=
  (if c.connecting = .idle then 0 else 1) + c.reads.length + c.writes.length + c.waiting.length

namespace Endpoint

/-- The number of `shared_ptr`s to session `s`. -/
def owners (e : Endpoint QString Ctx) (s : ℕ) : ℕ :=
  e.sessMap.entries.countP (fun entry => entry.2 = s) + ((e.sessions[s]?).map Conn.holders).getD 0

/-- The socket of session `s` is closed by `close`, and by `~ChatSession` when the last `shared_ptr`
to the session is dropped. -/
def socketClosed (e : Endpoint QString Ctx) (s : ℕ) : Bool :=
  (e.sessions[s]?).any fun c => !c.isOpen || decide (e.owners s = 0)

/-- `ChatSession::close`. After `onClose` has erased the entry, the signal is emitted with the id of
the session, and the socket of the session is closed. -/
def closeOwned (e : Endpoint QString Ctx) (s : ℕ) : Except CloseFault (Endpoint QString Ctx) :=
  let e' := e.closeSession s
  if e'.owners s = 0 then .error .sessionDestroyed else .ok e'

/-- The loop over the keys of the map in their order. The iterator passes over an element that was
erased before it was reached; it cannot be advanced from an element that is erased meanwhile. -/
def closeLoop : List QString → Endpoint QString Ctx → Except CloseFault (Endpoint QString Ctx)
  | [], e => .ok e
  | id :: rest, e =>
    match e.sessMap.lookup id with
    | none => closeLoop rest e
    | some s =>
      match e.closeOwned s with
      | .error fault => .error fault
      | .ok e' => if id ∈ e'.sessMap then closeLoop rest e' else .error .iteratorErased

/-- `ChatClient::close` on a map whose keys are in the given order. -/
def closeClient (order : List QString) (e : Endpoint QString Ctx) :
    Except CloseFault (Endpoint QString Ctx) :=
  (closeLoop order e).map fun e => { e with sessMap := ∅ }

end Endpoint

end Enchat
