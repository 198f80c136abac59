import Mathlib.Data.Rat.Defs
import Enchat.Model.Endpoint

/-!
# Peers in JSON

`Peer::fromJson` and `Peer::toJson`, on the values that a JSON document can have. The members that
`fromJson` does not find leave the fields of the peer as they were.
-/

namespace Enchat

/-- `QJsonValue`. A number stands for a finite `double` or a 64-bit integer. -/
inductive JsonValue (QString : Type)
  | undefined
  | null
  | bool (value : Bool)
  | double (value : ℚ)
  | string (value : QString)
  | array (elements : List (JsonValue QString))
  | object (members : List (String × JsonValue QString))

namespace JsonValue

variable {QString : Type}

/-- `operator[]`: undefined for a missing key and for anything but an object. -/
def get (j : JsonValue QString) (key : String) : JsonValue QString :=
  match j with
  | .object members => (members.lookup key).getD .undefined
  | _ => .undefined

/-- `toInt` of a number: `0` unless it is a whole number in the range of `int`. -/
def toInt (x : ℚ) : ℤ :=
  if x.den = 1 ∧ -2147483648 ≤ x.num ∧ x.num < 2147483648 then x.num else 0

end JsonValue

namespace Peer

variable {QString : Type}

/-- A peer that has just been created: its strings are empty and nobody has written its port. -/
def created (emptyString : QString) (memory : UInt16) : Peer QString where
  name := emptyString
  pubKey := emptyString
  address := emptyString
  port := memory

/-- A string member replaces the old string, any other value leaves it alone. -/
def readString (old : QString) : JsonValue QString → QString
  | .string value => value
  | _ => old

/-- A number is converted to `int` and then to 16 bits. -/
def readPort (old : UInt16) : JsonValue QString → UInt16
  | .double value => UInt16.ofInt (JsonValue.toInt value)
  | _ => old

def fromJson (p : Peer QString) (j : JsonValue QString) : Peer QString where
  pubKey := readString p.pubKey (j.get "public_key")
  name := readString p.name (j.get "name")
  address := readString p.address (j.get "address")
  port := readPort p.port (j.get "port")

def toJson (p : Peer QString) : JsonValue QString :=
  .object [("public_key", .string p.pubKey), ("name", .string p.name),
    ("address", .string p.address), ("port", .double p.port.toNat)]

end Peer

end Enchat
