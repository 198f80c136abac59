import Enchat.Model.Platform

/-!
# The memory of a HelloPacket

`sendHandshake` copies to the fields of a packet one after the other, and it copies the name
whatever its length. Here the packet is a block of 165 bytes and each copy is a write at an offset,
so that a copy can run over the fields behind its own or past the end of the packet.
-/

namespace Enchat
open Buffer

/-- A copy of `bytes` to `offset` of a packet. -/
structure PacketWrite where
  offset : ℕ
  bytes : List UInt8
deriving DecidableEq

/-- The bytes that the constructor of `HelloPacket` leaves behind. -/
def HelloPacket.initialBytes : List UInt8 := 1 :: List.replicate 164 0

def writeAll (packet : List UInt8) (writes : List PacketWrite) : List UInt8 :=
  writes.foldl (fun packet w => store packet w.offset w.bytes) packet

namespace ChatSession

variable {QString Ctx : Type}

/-- The writes of `sendHandshake` in front of the signature, in program order. -/
def helloFields (s : ChatSession (List UInt8) QString Ctx) (t : UInt8) : List PacketWrite :=
  [⟨0, [t]⟩] ++ (if s.name.isEmpty then [] else [⟨1, s.name⟩]) ++
    [⟨33, fit 32 s.staticPubkey⟩, ⟨65, fit 32 s.ephemeralPubKey⟩, ⟨97, putU32 1⟩]

/-- The message that `sendHandshake` signs: the packet without its last 64 bytes. -/
def helloSigned (s : ChatSession (List UInt8) QString Ctx) (t : UInt8) : List UInt8 :=
  (writeAll HelloPacket.initialBytes (s.helloFields t)).take 101

def helloWrites (k : Curve) (s : ChatSession (List UInt8) QString Ctx) (t : UInt8) :
    List PacketWrite :=
  s.helloFields t ++
    [⟨101, fit 64 (k.ed25519Sign (s.helloSigned t) s.staticPubkey s.staticPrikey)⟩]

/-- The 165 bytes that `sendHandshake` gives to `async_write`. -/
def helloSent (k : Curve) (s : ChatSession (List UInt8) QString Ctx) (t : UInt8) : List UInt8 :=
  (writeAll HelloPacket.initialBytes (s.helloWrites k t)).take 165

end ChatSession

end Enchat
