import Enchat.Model.Endpoint

/-!
# The ephemeral keys of the sessions

`Endpoint` is told which private key the constructor of a session ends up with. Here the keys come
from `X25519_keypair` and the random generator that it calls, which may fail.
-/

namespace Enchat

/-- A call of `mbedtls_ctr_drbg_random` for 32 bytes: it returns zero and has filled them, or it
returns another value and leaves something behind. -/
inductive Draw
  | success (bytes : List UInt8)
  | failure (left : List UInt8)
deriving DecidableEq

namespace Draw

def isSuccess : Draw → Bool
  | .success _ => true
  | .failure _ => false

/-- The 32 bytes of the private key after the call. -/
def output : Draw → List UInt8
  | .success bytes => bytes
  | .failure left => left

end Draw

/-- The masks of `X25519_keypair`. -/
def maskKey (key : List UInt8) : List UInt8 :=
  let key := key.set 0 (key.getD 0 0 ||| 7)
  let key := key.set 31 (key.getD 31 0 &&& 191)
  key.set 31 (key.getD 31 0 ||| 128)

/-- The private key of `X25519_keypair`, which does not look at the value that the generator
returns. -/
def x25519Keypair (draw : Draw) : List UInt8 := maskKey draw.output

/-- An endpoint, and for each of its sessions the call of the generator in the constructor. -/
structure Keyring (QString Ctx : Type) where
  endpoint : Endpoint QString Ctx
  draws : List Draw

inductive KeyringEvent (QString Ctx : Type)
  | accept (draw : Draw) (dctx ectx : Ctx)
  | doConnect (peerPubkey : QString) (draw : Draw) (dctx ectx : Ctx)
  | other (ev : Event QString Ctx)

/-- The call of the generator in the event, if it constructs a session. -/
def KeyringEvent.draw {QString Ctx : Type} : KeyringEvent QString Ctx → Option Draw
  | .accept draw _ _ => some draw
  | .doConnect _ draw _ _ => some draw
  | .other _ => none

/-- The event of the endpoint, with the key that the call leaves in the session. -/
def KeyringEvent.event {QString Ctx : Type} : KeyringEvent QString Ctx → Event QString Ctx
  | .accept draw dctx ectx => .accept (x25519Keypair draw) dctx ectx
  | .doConnect peerPubkey draw dctx ectx => .doConnect peerPubkey (x25519Keypair draw) dctx ectx
  | .other ev => ev

variable {QString Ctx : Type} [DecidableEq QString] (P : Primitives (List UInt8) QString Ctx)

namespace Keyring

def init (role : Role) (name : QString) : Keyring QString Ctx where
  endpoint := Endpoint.init role name
  draws := []

/-- The sessions are constructed by the first two kinds of events only. -/
def step (r : Keyring QString Ctx) : KeyringEvent QString Ctx → Option (Keyring QString Ctx)
  | .other (.accept _ _ _) => none
  | .other (.doConnect _ _ _ _) => none
  | ev => (r.endpoint.step P ev.event).map fun e =>
    { endpoint := e, draws := r.draws ++ ev.draw.toList }

abbrev Runs (role : Role) (name : QString) (es : List (KeyringEvent QString Ctx))
    (r : Keyring QString Ctx) : Prop :=
  Transition.Run (Transition.StepOf (step P)) (init role name) es r

end Keyring

end Enchat
