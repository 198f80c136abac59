import Enchat.Proofs.Dialogue
import Enchat.Proofs.HelloIntegrity
import Enchat.Proofs.KeyAgreement

/-!
# From the connection to the last text

In every run of a dialogue over a reliable connection both sides read the packets that were sent to
them, agree on the secret of `X25519` and read the texts of the other side in order.
-/

namespace Enchat
open Buffer Transition

variable {QString Ctx : Type} {P : Primitives (List UInt8) QString Ctx} {C : StreamCipher Ctx}

namespace Dialogue

/-- The packets that a side sends before it has read one. -/
def request (P : Primitives (List UInt8) QString Ctx) (s : ChatSession (List UInt8) QString Ctx) :
    Side → List (HelloPacket (List UInt8))
  | .near => [s.helloPacket P 1]
  | .far => []

/-- What a side with the session `s` can be in. `K` are the contexts that `initChaCha20` makes from
a key, and `Good` are the lists of peers that the side may consult. -/
inductive Phase (P : Primitives (List UInt8) QString Ctx) (C : StreamCipher Ctx)
    (K : List UInt8 → Ctx) (Good : (List UInt8 → Bool) → Prop)
    (s : ChatSession (List UInt8) QString Ctx) (request : List (HelloPacket (List UInt8)))
    (c : Conn QString Ctx) (texts : List QString) (received : List UInt8) : Prop
  | opening : c.Opening P s request received → texts = [] →
      Phase P C K Good s request c texts received
  | refused {contains : List UInt8 → Bool} : Good contains → received.length = 165 →
      ¬Conn.Accepted P contains s (HelloPacket.ofBytes received) → c.Refused request →
      texts = [] → Phase P C K Good s request c texts received
  | conversing {packet stream : List UInt8} : received = packet ++ stream → packet.length = 165 →
      c.hellos = request ++ s.reply P (HelloPacket.ofBytes packet) →
      c.Conversing P C ((s.agree P (HelloPacket.ofBytes packet)).initChaCha20 P)
        (K (s.agree P (HelloPacket.ofBytes packet)).chacha20Key) (texts.map P.toUtf8) stream →
      (∀ t ∈ texts, (P.toUtf8 t).length ≤ 4091) → Phase P C K Good s request c texts received

/-- `initChaCha20` sets both contexts from the key alone. -/
def KeyedBy (P : Primitives (List UInt8) QString Ctx) (K : List UInt8 → Ctx) : Prop :=
  ∀ s : ChatSession (List UInt8) QString Ctx,
    (s.initChaCha20 P).chachaDctx = K s.chacha20Key ∧
      (s.initChaCha20 P).chachaEctx = K s.chacha20Key

variable {K : List UInt8 → Ctx} {Good : (List UInt8 → Bool) → Prop}
  {s : ChatSession (List UInt8) QString Ctx} {packets : List (HelloPacket (List UInt8))}
  {c c' : Conn QString Ctx} {texts : List QString} {received : List UInt8}

lemma Phase.step (hC : P.mbedtlsChacha20Update = C.update) (hK : KeyedBy P K)
    {contains : List UInt8 → Bool} (hgood : Good contains) {ev : SocketEvent}
    {effs : List (Effect (List UInt8) QString)} (h : Phase P C K Good s packets c texts received)
    (hord : c.InOrder) (hs : Conn.Step P contains c ev c' effs) (hworks : works ev = true) :
    Phase P C K Good s packets c' texts (received ++ Link.arrived ev) := by
  cases h with
  | opening ho htexts =>
    rcases ho.step hord hs hworks with ho' | ⟨hnil, hlen, hacc, hr⟩ | ⟨hnil, hlen, hacc, hb⟩
    · exact .opening ho' htexts
    · rw [hnil, List.append_nil]
      exact .refused hgood hlen hacc hr htexts
    · subst htexts
      obtain ⟨hdctx, hectx⟩ := hK (s.agree P (HelloPacket.ofBytes received))
      rw [hnil]
      exact .conversing rfl hlen hb.hellos (hb.conversing hdctx hectx) (by simp)
  | refused _ _ _ hr _ => exact absurd hs hr.step
  | @conversing packet stream hcut hlen hhellos hc hshort =>
    obtain ⟨hc', hsame⟩ := hc.step hC hs hworks
    refine .conversing ?_ hlen (hsame.trans hhellos) hc' hshort
    rw [hcut, List.append_assoc]

lemma Phase.sendText (hC : P.mbedtlsChacha20Update = C.update)
    (h : Phase P C K Good s packets c texts received) (hannounced : c.Announced) {text : QString}
    (hlen : (P.toUtf8 text).length ≤ 4091) :
    Phase P C K Good s packets (c.sendText P text) (texts ++ [text]) received := by
  have hpos : 0 < c.finishes := c.finishes_pos_iff.mpr hannounced
  cases h with
  | opening ho _ => exact absurd ho.finishes (by omega)
  | refused _ _ _ hr _ => exact absurd hr.finishes (by omega)
  | conversing hcut hpacket hhellos hc hshort =>
    refine .conversing hcut hpacket hhellos ?_ ?_
    · rw [List.map_append]
      exact hc.sendText hC (by omega)
    · intro t hmem
      rcases List.mem_append.mp hmem with hold | hnew
      · exact hshort t hold
      · rw [List.mem_singleton.mp hnew]
        exact hlen

/-- The packet that a side sends, its signature cut to the field. -/
lemma ofBytes_helloPacket (q : Qt (List UInt8) QString) (k : Curve) (cipher : CipherApi Ctx)
    {s : ChatSession (List UInt8) QString Ctx} (heph : s.ephemeralPubKey.length = 32) (t : UInt8) :
    HelloPacket.ofBytes (s.helloPacket (bytePrimitives q k cipher) t).pack =
      { s.helloPacket (bytePrimitives q k cipher) t with
        sig := fit 64 (s.helloPacket (bytePrimitives q k cipher) t).sig } := by
  generalize hsig : fit 64 (s.helloPacket (bytePrimitives q k cipher) t).sig = sig
  have hlen : sig.length = 64 := by rw [← hsig, length_fit]
  have hpack : (s.helloPacket (bytePrimitives q k cipher) t).pack =
      HelloPacket.pack { s.helloPacket (bytePrimitives q k cipher) t with sig := sig } := by
    simp only [HelloPacket.pack, hsig, fit_of_length hlen]
  rw [hpack]
  exact HelloPacket.ofBytes_pack (length_fit _ _) (length_fit _ _) heph hlen

/-- The first packet of a session: the request of the near side, and the answer of the far side to
the request. -/
def hello (P : Primitives (List UInt8) QString Ctx) (d₀ : Dialogue QString Ctx) :
    Side → HelloPacket (List UInt8)
  | .near => (d₀.conn .near).sess.helloPacket P 1
  | .far => (((d₀.conn .far).sess.agree P (HelloPacket.ofBytes
      ((d₀.conn .near).sess.helloPacket P 1).pack)).initChaCha20 P).helloPacket P 2

/-- What holds in every state of a dialogue over a reliable connection that starts in `d₀`. -/
structure Coherent (P : Primitives (List UInt8) QString Ctx) (C : StreamCipher Ctx)
    (K : List UInt8 → Ctx) (Good : Side → (List UInt8 → Bool) → Prop)
    (d₀ d : Dialogue QString Ctx) : Prop where
  ordered : ∀ side, (d.conn side).Ordered
  inOrder : ∀ side, (d.conn side).InOrder
  errors : ∀ side, (d.conn side).errors = []
  phase : ∀ side, Phase P C K (Good side) (d₀.conn side).sess (request P (d₀.conn side).sess side)
    (d.conn side) (d.texts side) (d.received side)
  arrived : ∀ side, d.received side <+: (d.conn side.other).wireBytes

variable {Good : Side → (List UInt8 → Bool) → Prop}

lemma Coherent.start (client server : Endpoint QString Ctx) (id : QString)
    (pri : Side → List UInt8) (dctx ectx : Side → Ctx) :
    Coherent P C K Good (start P client server id pri dctx ectx)
      (start P client server id pri dctx ectx) := by
  refine ⟨?_, ?_, ?_, ?_, fun side => List.nil_prefix⟩
  · rintro (_ | _)
    · exact Conn.Ordered.connectSession P client id _ _ _
    · exact Conn.Ordered.acceptSession P server _ _ _
  · rintro (_ | _)
    · exact Conn.InOrder.new rfl rfl rfl rfl rfl rfl
    · exact Conn.InOrder.new rfl rfl rfl rfl rfl rfl
  · rintro (_ | _)
    · rfl
    · rfl
  · rintro (_ | _)
    · exact .opening ⟨rfl, rfl, rfl, rfl, rfl, rfl, rfl, rfl, nofun, fun _ => ⟨rfl, rfl⟩,
        Or.inl ⟨rfl, rfl⟩⟩ rfl
    · exact .opening ⟨rfl, rfl, rfl, rfl, rfl, rfl, rfl, rfl, fun _ => rfl, fun h => absurd rfl h,
        Or.inr ⟨rfl, Nat.zero_le _⟩⟩ rfl

variable [DecidableEq QString]

/-- A property of one side that its own texts and socket steps keep holds of both sides. -/
lemma step_sides {Q : Side → Conn QString Ctx → List QString → List UInt8 → Prop}
    {d d' : Dialogue QString Ctx} {ev : DialogueEvent QString} (hs : d.step P ev = some d')
    (h : ∀ side, Q side (d.conn side) (d.texts side) (d.received side))
    (hsend : ∀ side text, ev = .sendTextMsg side text →
      Q side ((d.conn side).sendText P text) (d.texts side ++ [text]) (d.received side))
    (hsocket : ∀ side sev c effs, ev = .socket side sev →
      Conn.Step P (d.containsPeerPubkey P side) (d.conn side) sev c effs →
      Q side c (d.texts side) (d.received side ++ Link.arrived sev)) :
    ∀ side, Q side (d'.conn side) (d'.texts side) (d'.received side) := by
  intro side
  cases ev with
  | updatePeerList peers =>
    obtain rfl := Option.some.inj hs
    exact h side
  | sendTextMsg side' text =>
    obtain rfl := Option.some.inj hs
    by_cases heq : side = side'
    · subst heq
      simp only [Function.update_self]
      exact hsend side text rfl
    · simp only [Function.update_of_ne heq]
      exact h side
  | socket side' sev =>
    obtain ⟨⟨c, effs⟩, hreact, rfl⟩ := Option.map_eq_some_iff.mp hs
    by_cases heq : side = side'
    · subst heq
      simp only [Function.update_self]
      exact hsocket side sev c effs rfl (Conn.react_step P hreact)
    · simp only [Function.update_of_ne heq]
      exact h side

lemma Coherent.step (hC : P.mbedtlsChacha20Update = C.update) (hK : KeyedBy P K)
    {d₀ d d' : Dialogue QString Ctx} {ev : DialogueEvent QString} (h : Coherent P C K Good d₀ d)
    (hgood : ∀ side, Good side (d.containsPeerPubkey P side)) (hs : d.step P ev = some d')
    (hreliable : d.Reliable P ev) : Coherent P C K Good d₀ d' := by
  have hsides := step_sides (Q := fun side c texts received => c.Ordered ∧ c.InOrder ∧
    c.errors = [] ∧ Phase P C K (Good side) (d₀.conn side).sess
      (request P (d₀.conn side).sess side) c texts received) hs
    (fun side => ⟨h.ordered side, h.inOrder side, h.errors side, h.phase side⟩) ?_ ?_
  · refine ⟨fun side => (hsides side).1, fun side => (hsides side).2.1,
      fun side => (hsides side).2.2.1, fun side => (hsides side).2.2.2, fun side => ?_⟩
    cases ev with
    | updatePeerList peers =>
      obtain rfl := Option.some.inj hs
      exact h.arrived side
    | sendTextMsg side' text =>
      obtain rfl := Option.some.inj hs
      have hwire : (Function.update d.conn side' ((d.conn side').sendText P text)
          side.other).wireBytes = (d.conn side.other).wireBytes := by
        by_cases heq : side.other = side'
        · rw [heq, Function.update_self]
          rfl
        · rw [Function.update_of_ne heq]
      exact hwire ▸ h.arrived side
    | socket side' sev =>
      obtain ⟨⟨c, effs⟩, hreact, rfl⟩ := Option.map_eq_some_iff.mp hs
      by_cases heq : side = side'
      · subst heq
        simp only [Function.update_self, Function.update_of_ne (Link.other_ne side)]
        exact hreliable.2
      · have hother : side.other = side' := by
          cases side <;> cases side' <;> first | rfl | exact absurd rfl heq
        simp only [Function.update_of_ne heq, hother, Function.update_self]
        exact (hother ▸ h.arrived side).trans (Conn.react_step P hreact).wireBytes_grows
  · rintro side text rfl
    obtain ⟨hannounced, hidle, hlen⟩ := hreliable
    have hord := h.ordered side
    have hphase := (h.phase side).sendText hC hannounced hlen
    have hpos : 0 < (d.conn side).finishes := (d.conn side).finishes_pos_iff.mpr hannounced
    have hopening := hord.opening
    have hwaiting : (d.conn side).waiting = [] := by
      cases h.phase side with
      | opening ho _ => exact ho.waiting
      | refused _ _ _ hr _ => exact hr.waiting
      | conversing _ _ _ hc _ => exact hc.waiting
    refine ⟨hord.sendText text, ?_, h.errors side, hphase⟩
    exact (h.inOrder side).writeMsg (by omega) hpos hidle (by simp [h.errors side]) hwaiting _ _
  · rintro side sev c effs rfl hconn
    have hord := h.ordered side
    have hord' := hord.step P hconn
    have hopen : (d.conn side).connecting = .idle ∨ (d.conn side).isOpen = true := by
      cases h.phase side with
      | opening ho _ => exact Or.inr ho.isOpen
      | refused _ _ _ hr _ => exact Or.inl hr.connecting
      | conversing _ _ _ hc _ => exact Or.inr hc.isOpen
    refine ⟨hord', ?_, (hconn.waiting_of_works hreliable.1 hopen).2.trans (h.errors side),
      (h.phase side).step hC hK (hgood side) (h.inOrder side) hconn hreliable.1⟩
    refine (h.inOrder side).step hord.opening hord'.opening hconn ?_
    rintro j rfl
    cases hreliable.1

end Dialogue

/-- `X25519` and ChaCha20 as they are compiled. -/
abbrev compiledPrimitives (q : Qt (List UInt8) QString) (k : Curve) :
    Primitives (List UInt8) QString ChachaContext :=
  bytePrimitives q (boringsslCurve k) mbedtlsChacha20

namespace Dialogue

section Compiled

variable {q : Qt (List UInt8) QString} {k : Curve} {client server : Endpoint QString ChachaContext}
  {id : QString} {pri : Side → List UInt8} {dctx ectx : Side → ChachaContext}
  {d₀ : Dialogue QString ChachaContext}

lemma keyedBy (ctx : ChachaContext) : KeyedBy (compiledPrimitives q k) ctx.started :=
  fun _ => ⟨rfl, rfl⟩

lemma ephemeralPubKey_agree (s : ChatSession (List UInt8) QString Ctx)
    (hp : HelloPacket (List UInt8)) : (s.agree P hp).ephemeralPubKey = s.ephemeralPubKey := by
  unfold ChatSession.agree ChatSession.adoptPeer
  split <;> rfl

lemma length_public {a : List UInt8} (ha : a.length = 32) :
    (x25519PublicFromPrivate a).length = 32 := by
  rw [x25519PublicFromPrivate_eq ha, LittleEndian.length_bytes]

lemma hello_ephemeralKey
    (h₀ : d₀ = start (compiledPrimitives q k) client server id pri dctx ectx) (side : Side) :
    (hello (compiledPrimitives q k) d₀ side).ephemeralKey = x25519PublicFromPrivate (pri side) := by
  subst h₀
  cases side with
  | near => rfl
  | far => exact ephemeralPubKey_agree _ _

lemma length_ephemeralKey
    (h₀ : d₀ = start (compiledPrimitives q k) client server id pri dctx ectx)
    (hpri : ∀ side, (pri side).length = 32) (side : Side) :
    (hello (compiledPrimitives q k) d₀ side).ephemeralKey.length = 32 := by
  rw [hello_ephemeralKey h₀]
  exact length_public (hpri side)

lemma ofBytes_hello
    (h₀ : d₀ = start (compiledPrimitives q k) client server id pri dctx ectx)
    (hpri : ∀ side, (pri side).length = 32) (side : Side) :
    HelloPacket.ofBytes (hello (compiledPrimitives q k) d₀ side).pack =
      { hello (compiledPrimitives q k) d₀ side with
        sig := fit 64 (hello (compiledPrimitives q k) d₀ side).sig } := by
  have heph := length_ephemeralKey h₀ hpri side
  cases side with
  | near => exact ofBytes_helloPacket q _ _ heph 1
  | far => exact ofBytes_helloPacket q _ _ heph 2

/-- Whichever side reads the packet of the other one gets the secret of the two private keys. -/
lemma agreed_key
    (h₀ : d₀ = start (compiledPrimitives q k) client server id pri dctx ectx)
    (hpri : ∀ side, (pri side).length = 32) (side : Side) :
    ((d₀.conn side).sess.agree (compiledPrimitives q k) (HelloPacket.ofBytes
      (hello (compiledPrimitives q k) d₀ side.other).pack)).chacha20Key =
        secretBytes (pri .near) (pri .far) := by
  have hpub : (HelloPacket.ofBytes
      (hello (compiledPrimitives q k) d₀ side.other).pack).ephemeralKey =
        x25519PublicFromPrivate (pri side.other) := by
    rw [ofBytes_hello h₀ hpri]
    exact hello_ephemeralKey h₀ side.other
  have hprivate : (d₀.conn side).sess.ephemeralPriKey = pri side := by
    subst h₀
    cases side <;> rfl
  have hshared := congrArg Prod.fst (x25519_public k (hpri side) (hpri side.other))
  rw [ChatSession.agree, hpub, hprivate]
  refine hshared.trans ?_
  cases side with
  | near => rfl
  | far => exact secretBytes_comm _ _

variable {K : List UInt8 → ChachaContext} {Good : Side → (List UInt8 → Bool) → Prop}
  {C : StreamCipher ChachaContext} {d : Dialogue QString ChachaContext}

lemma Coherent.announces_near (h : Coherent (compiledPrimitives q k) C K Good d₀ d) :
    (d.conn .near).Announces (hello (compiledPrimitives q k) d₀ .near) := by
  cases h.phase .near with
  | opening ho _ =>
    by_cases hidle : (d.conn .near).connecting = .idle
    · exact Or.inr ⟨[], ho.idle hidle⟩
    · exact Or.inl ⟨(ho.dialing hidle).1, ho.encrypted⟩
  | refused _ _ _ hr _ => exact Or.inr ⟨[], hr.hellos⟩
  | conversing _ _ hhellos _ _ => exact Or.inr ⟨_, hhellos⟩

/-- The far side answers the request of the near side. -/
lemma Coherent.announces_far
    (h₀ : d₀ = Dialogue.start (compiledPrimitives q k) client server id pri dctx ectx)
    (hpri : ∀ side, (pri side).length = 32)
    (h : Coherent (compiledPrimitives q k) C K Good d₀ d) :
    (d.conn .far).Announces (hello (compiledPrimitives q k) d₀ .far) := by
  cases h.phase .far with
  | opening ho _ =>
    by_cases hidle : (d.conn .far).connecting = .idle
    · exact Or.inl ⟨ho.idle hidle, ho.encrypted⟩
    · exact Or.inl ⟨(ho.dialing hidle).1, ho.encrypted⟩
  | refused _ _ _ hr _ => exact Or.inl ⟨hr.hellos, hr.encrypted⟩
  | @conversing packet stream hcut hlen hhellos _ _ =>
    have htake := h.announces_near.take (h.inOrder .near) (h.arrived .far) (by
      rw [hcut, List.length_append]
      omega)
    rw [hcut, List.take_left' hlen] at htake
    have htype : (HelloPacket.ofBytes packet).type = 1 := by
      rw [htake, ofBytes_hello h₀ hpri]
      rfl
    rw [ChatSession.reply, if_pos htype, htake] at hhellos
    exact Or.inr ⟨[], hhellos⟩

lemma Coherent.announces
    (h₀ : d₀ = Dialogue.start (compiledPrimitives q k) client server id pri dctx ectx)
    (hpri : ∀ side, (pri side).length = 32)
    (h : Coherent (compiledPrimitives q k) C K Good d₀ d) :
    ∀ side, (d.conn side).Announces (hello (compiledPrimitives q k) d₀ side)
  | .near => h.announces_near
  | .far => h.announces_far h₀ hpri

/-- The packet that a side reads is the one that the other side has sent. -/
lemma Coherent.packet
    (h₀ : d₀ = Dialogue.start (compiledPrimitives q k) client server id pri dctx ectx)
    (hpri : ∀ side, (pri side).length = 32)
    (h : Coherent (compiledPrimitives q k) C K Good d₀ d) {side : Side}
    (hlen : 165 ≤ (d.received side).length) :
    (d.received side).take 165 = (hello (compiledPrimitives q k) d₀ side.other).pack :=
  (h.announces h₀ hpri side.other).take (h.inOrder side.other) (h.arrived side) hlen

/-- What a side that has accepted a packet knows. -/
lemma Coherent.conversing
    (h₀ : d₀ = Dialogue.start (compiledPrimitives q k) client server id pri dctx ectx)
    (hpri : ∀ side, (pri side).length = 32)
    (h : Coherent (compiledPrimitives q k) C K Good d₀ d) {side : Side}
    (hpos : 0 < (d.conn side).finishes) :
    ∃ stream, d.received side = (hello (compiledPrimitives q k) d₀ side.other).pack ++ stream ∧
      (d.conn side).hellos = [hello (compiledPrimitives q k) d₀ side] ∧
      (d.conn side).Conversing (compiledPrimitives q k) C
        (((d₀.conn side).sess.agree (compiledPrimitives q k) (HelloPacket.ofBytes
          (hello (compiledPrimitives q k) d₀ side.other).pack)).initChaCha20
            (compiledPrimitives q k))
        (K (secretBytes (pri .near) (pri .far))) ((d.texts side).map q.toUtf8) stream := by
  cases h.phase side with
  | opening ho _ => exact absurd ho.finishes (by omega)
  | refused _ _ _ hr _ => exact absurd hr.finishes (by omega)
  | @conversing packet stream hcut hlen hhellos hc _ =>
    have hlong : 165 ≤ (d.received side).length := by
      rw [hcut, List.length_append]
      omega
    have htake := h.packet h₀ hpri hlong
    rw [hcut, List.take_left' hlen] at htake
    subst htake
    have hkey : ((d₀.conn side).sess.agree (compiledPrimitives q k) (HelloPacket.ofBytes
        (hello (compiledPrimitives q k) d₀ side.other).pack)).chacha20Key =
          secretBytes (pri .near) (pri .far) :=
      agreed_key h₀ hpri side
    rw [hkey] at hc
    refine ⟨stream, hcut, ?_, hc⟩
    rw [hhellos]
    cases side with
    | near =>
      rw [ChatSession.reply, ofBytes_hello h₀ hpri]
      rfl
    | far =>
      rw [ChatSession.reply, if_pos]
      · rfl
      · rw [ofBytes_hello h₀ hpri]
        rfl

lemma Coherent.hellos
    (h₀ : d₀ = Dialogue.start (compiledPrimitives q k) client server id pri dctx ectx)
    (hpri : ∀ side, (pri side).length = 32)
    (h : Coherent (compiledPrimitives q k) C K Good d₀ d) (side : Side) :
    ((d.conn side).hellos = [] ∧ (d.conn side).encrypted = []) ∨
      (d.conn side).hellos = [hello (compiledPrimitives q k) d₀ side] := by
  have hfirst : ∀ side, request (compiledPrimitives q k) (d₀.conn side).sess side = [] ∨
      request (compiledPrimitives q k) (d₀.conn side).sess side =
        [hello (compiledPrimitives q k) d₀ side]
    | .near => Or.inr rfl
    | .far => Or.inl rfl
  rcases Nat.eq_zero_or_pos (d.conn side).finishes with hzero | hpos
  · have hquiet : (d.conn side).encrypted = [] ∧ ((d.conn side).hellos = [] ∨
        (d.conn side).hellos = request (compiledPrimitives q k) (d₀.conn side).sess side) := by
      cases h.phase side with
      | opening ho _ =>
        by_cases hidle : (d.conn side).connecting = .idle
        · exact ⟨ho.encrypted, Or.inr (ho.idle hidle)⟩
        · exact ⟨ho.encrypted, Or.inl (ho.dialing hidle).1⟩
      | refused _ _ _ hr _ => exact ⟨hr.encrypted, Or.inr hr.hellos⟩
      | conversing _ _ _ hc _ => exact absurd hc.finishes (by omega)
    obtain ⟨henc, hnone | hrequest⟩ := hquiet
    · exact Or.inl ⟨hnone, henc⟩
    · rcases hfirst side with hnil | hone
      · exact Or.inl ⟨hrequest.trans hnil, henc⟩
      · exact Or.inr (hrequest.trans hone)
  · obtain ⟨_, _, hhellos, _⟩ := h.conversing h₀ hpri hpos
    exact Or.inr hhellos

/-- The frames of a side are its encrypted texts. -/
lemma Coherent.sending
    (h₀ : d₀ = Dialogue.start (compiledPrimitives q k) client server id pri dctx ectx)
    (hpri : ∀ side, (pri side).length = 32)
    (h : Coherent (compiledPrimitives q k) C K Good d₀ d) (side : Side) :
    (d.conn side).encrypted = (C.outputs (K (secretBytes (pri .near) (pri .far)))
        ((d.texts side).map q.toUtf8)).map msgFrame ∧
      ∀ t ∈ d.texts side, (q.toUtf8 t).length ≤ 4091 := by
  cases h.phase side with
  | opening ho htexts =>
    rw [htexts, ho.encrypted]
    exact ⟨rfl, by simp⟩
  | refused _ _ _ hr htexts =>
    rw [htexts, hr.encrypted]
    exact ⟨rfl, by simp⟩
  | conversing _ _ _ hc hshort =>
    have hpos : 0 < (d.conn side).finishes := by
      rw [hc.finishes]
      exact Nat.one_pos
    obtain ⟨_, _, _, hc'⟩ := h.conversing h₀ hpri hpos
    exact ⟨hc'.sending.encrypted, hshort⟩

lemma Coherent.isFrame
    (h₀ : d₀ = Dialogue.start (compiledPrimitives q k) client server id pri dctx ectx)
    (hpri : ∀ side, (pri side).length = 32)
    (h : Coherent (compiledPrimitives q k) C K Good d₀ d) (side : Side) :
    ∀ f ∈ (d.conn side).encrypted, msgFraming.IsFrame f := by
  obtain ⟨henc, hshort⟩ := h.sending h₀ hpri side
  intro f hmem
  rw [henc] at hmem
  obtain ⟨cipher, hcipher, rfl⟩ := List.mem_map.mp hmem
  obtain ⟨payload, hpayload, hlength⟩ := C.exists_of_mem_outputs hcipher
  obtain ⟨t, ht, rfl⟩ := List.mem_map.mp hpayload
  have := hshort t ht
  exact isFrame_msgFrame (by omega)

/-- What arrives behind the packet are frames of the other side. -/
lemma Coherent.stream
    (h₀ : d₀ = Dialogue.start (compiledPrimitives q k) client server id pri dctx ectx)
    (hpri : ∀ side, (pri side).length = 32)
    (h : Coherent (compiledPrimitives q k) C K Good d₀ d) {side : Side} {stream : List UInt8}
    (hcut : d.received side = (hello (compiledPrimitives q k) d₀ side.other).pack ++ stream) :
    stream <+: (d.conn side.other).encrypted.flatten := by
  have hpre := (h.arrived side).trans (h.inOrder side.other).sent
  rw [hcut] at hpre
  rcases h.hellos h₀ hpri side.other with ⟨hnil, hnone⟩ | hhellos
  · rw [Conn.packets, hnil, hnone, List.flatMap_nil, List.flatten_nil, List.append_nil,
      List.prefix_nil, List.append_eq_nil_iff] at hpre
    rw [hpre.2]
    exact List.nil_prefix
  · rw [Conn.packets, hhellos, List.flatMap_singleton] at hpre
    exact (List.prefix_append_right_inj _).mp hpre

/-- What a side hears of a text that was sent to it. -/
def heardText (q : Qt (List UInt8) QString) (text : QString) : QString :=
  q.fromUtf8 (cString (q.toUtf8 text))

/-- The texts that a side has heard are the first ones that the other side has sent. -/
lemma Coherent.delivered
    (h₀ : d₀ = Dialogue.start (compiledPrimitives q k) client server id pri dctx ectx)
    (hpri : ∀ side, (pri side).length = 32)
    (h : Coherent (compiledPrimitives q k) C K Good d₀ d) (side : Side) :
    (d.conn side).handled.length ≤ (d.texts side.other).length ∧
      (d.conn side).texts =
        ((d.texts side.other).take (d.conn side).handled.length).map (heardText q) := by
  rcases Nat.eq_zero_or_pos (d.conn side).finishes with hzero | hpos
  · have hnone : (d.conn side).handled = [] ∧ (d.conn side).texts = [] := by
      cases h.phase side with
      | opening ho _ => exact ⟨ho.handled, ho.texts⟩
      | refused _ _ _ hr _ => exact ⟨hr.handled, hr.texts⟩
      | conversing _ _ _ hc _ => exact absurd hc.finishes (by omega)
    rw [hnone.1, hnone.2]
    exact ⟨Nat.zero_le _, rfl⟩
  · obtain ⟨stream, hcut, _, hc⟩ := h.conversing h₀ hpri hpos
    obtain ⟨frames, part, hr⟩ := hc.receiving
    obtain ⟨henc, hshort⟩ := h.sending h₀ hpri side.other
    have hpre := h.stream h₀ hpri hcut
    rw [hr.cut] at hpre
    obtain ⟨rest, hrest, _⟩ :=
      Framing.prefix_of_flatten hr.isFrame (h.isFrame h₀ hpri side.other) hpre
    rw [henc] at hrest
    obtain ⟨hle, hhandled, _⟩ := hr.of_prefix ⟨rest, hrest.symm⟩
    rw [C.length_outputs, List.length_map] at hle
    rw [C.outputs_outputs, ← List.map_take] at hhandled
    refine ⟨hle, ?_⟩
    rw [hr.texts]
    conv_lhs => rw [hhandled]
    rw [List.map_map, List.filterMap_map]
    apply List.filterMap_eq_map_iff_forall_eq_some.mpr
    intro t ht
    exact msgText_frameBuffer (hshort t (List.mem_of_mem_take ht))

/-- A side that has sent its answer has accepted a packet. -/
lemma Coherent.announced_far
    (h₀ : d₀ = Dialogue.start (compiledPrimitives q k) client server id pri dctx ectx)
    (hpri : ∀ side, (pri side).length = 32)
    (h : Coherent (compiledPrimitives q k) C K Good d₀ d) (hnear : (d.conn .near).Announced) :
    (d.conn .far).Announced := by
  obtain ⟨stream, hcut, _, _⟩ := h.conversing h₀ hpri ((d.conn .near).finishes_pos_iff.mpr hnear)
  have hpre := (h.arrived .near).trans (h.inOrder .far).sent
  have hnil : (d.conn .far).hellos = [] → (d.conn .far).encrypted = [] → False := by
    intro hhellos hencrypted
    have hfar : Side.near.other = .far := rfl
    rw [hcut, hfar, Conn.packets, hhellos, hencrypted, List.flatMap_nil, List.flatten_nil,
      List.append_nil, List.prefix_nil, List.append_eq_nil_iff] at hpre
    exact List.ne_nil_of_length_pos (by rw [HelloPacket.length_pack]; omega) hpre.1
  apply (d.conn .far).finishes_pos_iff.mp
  cases h.phase .far with
  | opening ho _ =>
    by_cases hidle : (d.conn .far).connecting = .idle
    · exact absurd ho.encrypted (hnil (ho.idle hidle))
    · exact absurd ho.encrypted (hnil (ho.dialing hidle).1)
  | refused _ _ _ hr _ => exact absurd hr.encrypted (hnil hr.hellos)
  | conversing _ _ _ hc _ =>
    rw [hc.finishes]
    exact Nat.one_pos

/-- What the server knows about the client once it has accepted its packet. -/
lemma Coherent.identified
    (h₀ : d₀ = Dialogue.start (compiledPrimitives q k) client server id pri dctx ectx)
    (hpri : ∀ side, (pri side).length = 32)
    (h : Coherent (compiledPrimitives q k) C K Good d₀ d) (hfar : (d.conn .far).Announced) :
    (d.conn .far).sess.peerStaticPubkey = fit 32 client.staticPubkey ∧
      (d.conn .far).sess.id = q.toBase64 (fit 32 client.staticPubkey) ∧
      (d.conn .far).sess.peerName = fit 32 (q.toUtf8 client.name) := by
  obtain ⟨_, _, _, hc⟩ := h.conversing h₀ hpri ((d.conn .far).finishes_pos_iff.mpr hfar)
  have hnear : Side.far.other = .near := rfl
  rw [hc.sess, hnear, ofBytes_hello h₀ hpri]
  subst h₀
  exact ⟨rfl, rfl, rfl⟩

variable [DecidableEq QString]

lemma coherent {R : Dialogue QString ChachaContext → DialogueEvent QString → Prop}
    (hC : (compiledPrimitives q k).mbedtlsChacha20Update = C.update)
    (hK : KeyedBy (compiledPrimitives q k) K)
    (hreliable : ∀ d ev, R d ev → d.Reliable (compiledPrimitives q k) ev)
    {es : List (DialogueEvent QString)}
    (hgood : ∀ es d, Run (Guarded (StepOf (step (compiledPrimitives q k))) R)
      (Dialogue.start (compiledPrimitives q k) client server id pri dctx ectx) es d →
        ∀ side, Good side (d.containsPeerPubkey (compiledPrimitives q k) side))
    (h : Run (Guarded (StepOf (step (compiledPrimitives q k))) R)
      (Dialogue.start (compiledPrimitives q k) client server id pri dctx ectx) es d) :
    Coherent (compiledPrimitives q k) C K Good
      (Dialogue.start (compiledPrimitives q k) client server id pri dctx ectx) d := by
  refine h.invariant_history (I := fun _ d => Coherent (compiledPrimitives q k) C K Good _ d)
    (Coherent.start client server id pri dctx ectx) ?_
  intro es d ev d' hrun hcoherent hs
  exact hcoherent.step hC hK (hgood es d hrun) hs.1 (hreliable d ev hs.2)

end Compiled

end Dialogue

end Enchat
