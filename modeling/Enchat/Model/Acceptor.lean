import Enchat.Model.Endpoint

/-!
# The accept loop of ChatServer

`Endpoint` takes accepted connections from its environment. Here is the loop in front of it:
`doAccept`, its completion handler and the I/O contexts that `getIocontext` gives to the sockets.
-/

namespace Enchat

/-- The number of elements of `client_io_ctxs_`, and `next_io_`. -/
structure IoPool where
  size : ℕ
  nextIo : UInt16
deriving DecidableEq

/-- The index at which `getIocontext` reads `client_io_ctxs_`, in range or not, and the pool after
the call. -/
def IoPool.getIocontext (pool : IoPool) : ℕ × IoPool :=
  (pool.nextIo.toNat, if pool.nextIo.toNat = pool.size then { pool with nextIo := 0 } else pool)

/-- The indices of the next `k` calls of `getIocontext`. -/
def IoPool.handOut : ℕ → IoPool → List ℕ
  | 0, _ => []
  | k + 1, pool => pool.getIocontext.1 :: handOut k pool.getIocontext.2

/-- A server and its accept loop. `outstanding` counts the `async_accept` operations that have not
completed, and `contexts` records what `getIocontext` has handed out. -/
structure Acceptor (QString Ctx : Type) where
  server : Endpoint QString Ctx
  pool : IoPool
  outstanding : ℕ
  contexts : List ℕ

/-- How an `async_accept` completes; a success comes with what the constructor of the session finds
in its key generator and in the memory of its contexts. -/
inductive AcceptOutcome (Ctx : Type)
  | success (pri : List UInt8) (dctx ectx : Ctx)
  | error (value : ℤ)

def AcceptOutcome.isSuccess {Ctx : Type} : AcceptOutcome Ctx → Bool
  | .success _ _ _ => true
  | .error _ => false

/-- The completion of an `async_accept`, or anything else that happens to the server. -/
inductive AcceptorEvent (QString Ctx : Type)
  | completed (outcome : AcceptOutcome Ctx)
  | server (ev : Event QString Ctx)

variable {QString Ctx : Type} [DecidableEq QString] (P : Primitives (List UInt8) QString Ctx)

namespace Acceptor

def doAccept (a : Acceptor QString Ctx) : Acceptor QString Ctx :=
  { a with
    pool := a.pool.getIocontext.2
    contexts := a.contexts ++ [a.pool.getIocontext.1]
    outstanding := a.outstanding + 1 }

/-- The constructor of `ChatServer` with `size` contexts. -/
def new (size : ℕ) : Acceptor QString Ctx :=
  doAccept
    { server := Endpoint.init .chatServer P.emptyString
      pool := { size := size, nextIo := 0 }
      outstanding := 0
      contexts := [] }

/-- The completion handler of `async_accept`. -/
def acceptHandler (a : Acceptor QString Ctx) : AcceptOutcome Ctx → Acceptor QString Ctx
  | .success pri dctx ectx =>
    doAccept
      { a with
        server := { a.server with
          sessions := a.server.sessions ++ [a.server.acceptSession P pri dctx ectx] } }
  -- the error is logged unless its value is 995
  | .error _ => a

def step (a : Acceptor QString Ctx) : AcceptorEvent QString Ctx → Option (Acceptor QString Ctx)
  | .completed outcome =>
    if 0 < a.outstanding then
      some (acceptHandler P { a with outstanding := a.outstanding - 1 } outcome)
    else none
  | .server (.accept _ _ _) => none
  | .server ev => (a.server.step P ev).map fun e => { a with server := e }

/-- The runs of a server with `size` contexts until `~ChatServer` closes the acceptor. -/
abbrev Runs (size : ℕ) (es : List (AcceptorEvent QString Ctx)) (a : Acceptor QString Ctx) : Prop :=
  Transition.Run (Transition.StepOf (step P)) (new P size) es a

end Acceptor

end Enchat
