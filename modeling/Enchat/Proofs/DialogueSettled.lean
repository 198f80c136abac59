import Enchat.Proofs.DialogueRun

/-!
# A dialogue comes to rest

The sockets of a dialogue have a bounded amount of work. If client and server hold static key pairs
and expect each other, then at the end of it both have finished the handshake and all texts have
been heard.
-/

namespace Enchat
open Buffer Transition

variable {QString : Type}

namespace Dialogue

/-- What the sockets still have to do. -/
def todo {Ctx : Type} (d : Dialogue QString Ctx) : ℕ :=
  (d.conn .near).todo + (d.conn .far).todo +
    2 * ((d.conn .far).wireBytes.length - (d.received .near).length) +
    2 * ((d.conn .near).wireBytes.length - (d.received .far).length)

section Abstract

variable {Ctx : Type} {P : Primitives (List UInt8) QString Ctx} {C : StreamCipher Ctx}
  {K : List UInt8 → Ctx} {Good : Side → (List UInt8 → Bool) → Prop} {d₀ d d' : Dialogue QString Ctx}

/-- A side has one read under way at most. -/
lemma Coherent.read (h : Coherent P C K Good d₀ d) {side : Side} {i : ℕ} {op : ReadOp}
    (hop : (d.conn side).reads[i]? = some op) :
    (d.conn side).reads = [op] ∧ i = 0 ∧ 0 < op.need := by
  cases h.phase side with
  | opening ho _ =>
    obtain ⟨hi, hone, rfl⟩ := ho.read hop
    exact ⟨hone, hi, by simp [helloRead]⟩
  | refused _ _ _ hr _ => simp [hr.reads] at hop
  | conversing _ _ _ hc _ =>
    obtain ⟨frames, part, hr⟩ := hc.receiving
    obtain ⟨hone, hi, hread⟩ := hr.reads_eq hop
    have hneed := (hread.got_le hone).2
    exact ⟨hone, hi, by omega⟩

variable [DecidableEq QString]

lemma Coherent.todo_lt (h : Coherent P C K Good d₀ d) {side : Side} {ev : SocketEvent}
    (hreliable : d.Reliable P (.socket side ev)) (hs : d.step P (.socket side ev) = some d') :
    d'.todo < d.todo := by
  obtain ⟨hworks, hfifo⟩ := hreliable
  obtain ⟨⟨c, effs⟩, hreact, rfl⟩ := Option.map_eq_some_iff.mp hs
  have hconn := Conn.react_step P hreact
  have hlt := hconn.todo_lt (h.inOrder side) (h.ordered side).opening (fun _ _ => h.read) hworks
  have hgrows := hconn.wireBytes_grows.length_le
  have harrived := hfifo.length_le
  have hother := (h.arrived side.other).length_le
  rw [List.length_append] at harrived
  rw [Link.other_other] at hother
  cases side with
  | near =>
    have hfar : Side.near.other = .far := rfl
    rw [hfar] at harrived hother
    have hne : Side.far ≠ .near := by decide
    simp only [todo, Function.update_self, Function.update_of_ne hne, List.length_append]
    omega
  | far =>
    have hnear : Side.far.other = .near := rfl
    rw [hnear] at harrived hother
    have hne : Side.near ≠ .far := by decide
    simp only [todo, Function.update_self, Function.update_of_ne hne, List.length_append]
    omega

lemma Settled.react_eq_none (h : d.Settled P) {side : Side} (ev : SocketEvent)
    (hworks : works ev = true)
    (hfifo : d.received side ++ Link.arrived ev <+: (d.conn side.other).wireBytes) :
    (d.conn side).react P (d.containsPeerPubkey P side) ev = none :=
  Option.map_eq_none_iff.mp (h side ev ⟨hworks, hfifo⟩)

/-- An event without bytes. -/
lemma Settled.quiet (h : d.Settled P) (hcoherent : Coherent P C K Good d₀ d) (side : Side)
    (ev : SocketEvent) (hworks : works ev = true) (hnil : Link.arrived ev = []) :
    (d.conn side).react P (d.containsPeerPubkey P side) ev = none := by
  refine h.react_eq_none ev hworks ?_
  rw [hnil, List.append_nil]
  exact hcoherent.arrived side

lemma Settled.idle (h : d.Settled P) (hcoherent : Coherent P C K Good d₀ d) {side : Side}
    (hopen : (d.conn side).isOpen = true) : (d.conn side).connecting = .idle := by
  cases hc : (d.conn side).connecting with
  | idle => rfl
  | pending =>
    have hnone := h.quiet hcoherent side .connectOk rfl rfl
    simp [Conn.react, hc, hopen] at hnone
  | succeeded =>
    have hnone := h.quiet hcoherent side .connectDone rfl rfl
    simp [Conn.react, hc, hopen] at hnone

lemma Settled.writes (h : d.Settled P) (hcoherent : Coherent P C K Good d₀ d) {side : Side}
    (hopen : (d.conn side).isOpen = true) : (d.conn side).writes = [] := by
  cases hw : (d.conn side).writes with
  | nil => rfl
  | cons op rest =>
    have hop : (d.conn side).writes[0]? = some op := by rw [hw, List.getElem?_cons_zero]
    by_cases hd : op.data = []
    · have hnone := h.quiet hcoherent side (.writeDone 0) rfl rfl
      simp [Conn.react, hop, hd] at hnone
    · have hnone := h.quiet hcoherent side (.writeSome 0 1) rfl rfl
      simp [Conn.react, hop, hopen] at hnone
      exact absurd hnone hd

lemma Settled.reads (h : d.Settled P) (hcoherent : Coherent P C K Good d₀ d) {side : Side}
    (hopen : (d.conn side).isOpen = true) {op : ReadOp} (hreads : (d.conn side).reads = [op])
    (hle : op.got.length ≤ op.need) :
    op.got.length < op.need ∧ d.received side = (d.conn side.other).wireBytes := by
  have hop : (d.conn side).reads[0]? = some op := by rw [hreads, List.getElem?_cons_zero]
  have hlt : op.got.length < op.need := by
    refine Nat.lt_of_le_of_ne hle (fun hfull => ?_)
    have hnone := h.quiet hcoherent side (.readDone 0) rfl rfl
    simp [Conn.react, hop, hfull] at hnone
  refine ⟨hlt, ?_⟩
  obtain ⟨rest, hrest⟩ := hcoherent.arrived side
  cases rest with
  | nil => rw [← hrest, List.append_nil]
  | cons b rest =>
    have hfifo : d.received side ++ [b] <+: (d.conn side.other).wireBytes :=
      ⟨rest, by rw [← hrest, List.append_assoc, List.singleton_append]⟩
    have hnone := h.react_eq_none (.readSome 0 [b]) rfl hfifo
    simp [Conn.react, hop, hopen] at hnone
    omega

/-- A session without work has put everything on the wire. -/
lemma Settled.wire (h : d.Settled P) (hcoherent : Coherent P C K Good d₀ d) {side : Side}
    (hopen : (d.conn side).isOpen = true) (hwaiting : (d.conn side).waiting = []) :
    (d.conn side).wireBytes = (d.conn side).packets ++ (d.conn side).encrypted.flatten := by
  have hbytes := (hcoherent.inOrder side).bytes (by simp [hcoherent.errors side])
  rwa [Conn.unsent, h.writes hcoherent hopen, hwaiting, List.flatMap_nil, List.flatten_nil,
    List.append_nil, List.append_nil] at hbytes

end Abstract

/-- Client and server hold static key pairs, the client dials the server, and the server lists the
client. The name of the client stays inside its packet. -/
structure Matched (q : Qt (List UInt8) QString) (k : Curve) [DecidableEq QString]
    (client server : Endpoint QString ChachaContext) (id : QString) : Prop where
  clientKeys : k.MatchingKeys client.staticPrikey client.staticPubkey
  serverKeys : k.MatchingKeys server.staticPrikey server.staticPubkey
  dialed : q.fromBase64 id = server.staticPubkey
  listed : ChatServer.containsPeerPubkey (compiledPrimitives q k) server.peerList
    client.staticPubkey = true
  named : (q.toUtf8 client.name).length ≤ 164

section Matched

variable {q : Qt (List UInt8) QString} {k : Curve} {client server : Endpoint QString ChachaContext}
  {id : QString} {pri : Side → List UInt8} {dctx ectx : Side → ChachaContext}
  {d₀ d : Dialogue QString ChachaContext} {C : StreamCipher ChachaContext}
  {K : List UInt8 → ChachaContext}

/-- A session keeps its own keys when it accepts a packet. -/
lemma keys_initChaCha20_agree {Ctx : Type} {P : Primitives (List UInt8) QString Ctx}
    (s : ChatSession (List UInt8) QString Ctx) (hp : HelloPacket (List UInt8)) :
    ((s.agree P hp).initChaCha20 P).staticPubkey = s.staticPubkey ∧
      ((s.agree P hp).initChaCha20 P).staticPrikey = s.staticPrikey ∧
      ((s.agree P hp).initChaCha20 P).ephemeralPubKey = s.ephemeralPubKey := by
  unfold ChatSession.agree ChatSession.adoptPeer
  split <;> exact ⟨rfl, rfl, rfl⟩

/-- What a session signs with a key pair arrives whole and verifies. -/
lemma ofBytes_signed {s : ChatSession (List UInt8) QString ChachaContext}
    (hkeys : k.MatchingKeys s.staticPrikey s.staticPubkey) (heph : s.ephemeralPubKey.length = 32)
    (t : UInt8) :
    HelloPacket.ofBytes (s.helloPacket (compiledPrimitives q k) t).pack =
        s.helloPacket (compiledPrimitives q k) t ∧
      (s.helloPacket (compiledPrimitives q k) t).staticKey = s.staticPubkey ∧
      (compiledPrimitives q k).ed25519Verify (s.helloPacket (compiledPrimitives q k) t).sig
        (s.helloPacket (compiledPrimitives q k) t).toHelloBody s.staticPubkey = true := by
  refine ⟨?_, fit_of_length hkeys.length_pub, hkeys.verifies _⟩
  exact HelloPacket.ofBytes_pack (length_fit _ _) (length_fit _ _) heph (hkeys.length_sign _)

/-- The same for a packet that is sent after another one has been accepted. -/
lemma ofBytes_answered {s : ChatSession (List UInt8) QString ChachaContext}
    (hkeys : k.MatchingKeys s.staticPrikey s.staticPubkey) (heph : s.ephemeralPubKey.length = 32)
    (hp : HelloPacket (List UInt8)) :
    HelloPacket.ofBytes (((s.agree (compiledPrimitives q k) hp).initChaCha20
          (compiledPrimitives q k)).helloPacket (compiledPrimitives q k) 2).pack =
        ((s.agree (compiledPrimitives q k) hp).initChaCha20
          (compiledPrimitives q k)).helloPacket (compiledPrimitives q k) 2 ∧
      (((s.agree (compiledPrimitives q k) hp).initChaCha20
          (compiledPrimitives q k)).helloPacket (compiledPrimitives q k) 2).staticKey =
        s.staticPubkey ∧
      (compiledPrimitives q k).ed25519Verify
        (((s.agree (compiledPrimitives q k) hp).initChaCha20
          (compiledPrimitives q k)).helloPacket (compiledPrimitives q k) 2).sig
        (((s.agree (compiledPrimitives q k) hp).initChaCha20
          (compiledPrimitives q k)).helloPacket (compiledPrimitives q k) 2).toHelloBody
        s.staticPubkey = true := by
  obtain ⟨hpub, hprivate, hephemeral⟩ := keys_initChaCha20_agree (P := compiledPrimitives q k) s hp
  rw [← hpub, ← hprivate] at hkeys
  rw [← hephemeral] at heph
  rw [← hpub]
  exact ofBytes_signed hkeys heph 2

/-- A session accepts a packet that verifies under the key in it, if it expects this key. -/
lemma accepted_of_expects {s : ChatSession (List UInt8) QString ChachaContext}
    {contains : List UInt8 → Bool} {hp : HelloPacket (List UInt8)}
    (hlen : hp.staticKey.length = 32) (hexpects : s.Expects contains hp.staticKey)
    (hverify : (compiledPrimitives q k).ed25519Verify hp.sig hp.toHelloBody hp.staticKey = true)
    (hshared : ((boringsslCurve k).x25519 s.ephemeralPriKey hp.ephemeralKey).2 = true) :
    Conn.Accepted (compiledPrimitives q k) contains s hp := by
  rcases hexpects with hkey | ⟨hnone, hlisted⟩
  · have hne : (compiledPrimitives q k).isEmpty s.peerStaticPubkey = false := by
      have hne : hp.staticKey ≠ [] := List.ne_nil_of_length_pos (by omega)
      rw [hkey]
      exact List.isEmpty_eq_false_iff.mpr hne
    refine ⟨fun hempty => ?_, ?_, hshared⟩
    · rw [hne] at hempty
      cases hempty
    · rw [ChatSession.Verifies, ChatSession.adoptPeer, if_neg (ne_true_of_eq_false hne), hkey]
      exact hverify
  · refine ⟨fun _ => hlisted, ?_, hshared⟩
    rw [ChatSession.Verifies, ChatSession.adoptPeer, hnone]
    exact hverify

/-- The endpoint of a side. -/
def owner (client server : Endpoint QString ChachaContext) :
    Side → Endpoint QString ChachaContext
  | .near => client
  | .far => server

variable [DecidableEq QString]

lemma Matched.keys (m : Matched q k client server id) (side : Side) :
    k.MatchingKeys (owner client server side).staticPrikey
      (owner client server side).staticPubkey := by
  cases side with
  | near => exact m.clientKeys
  | far => exact m.serverKeys

lemma Matched.hello (m : Matched q k client server id)
    (h₀ : d₀ = start (compiledPrimitives q k) client server id pri dctx ectx)
    (hpri : ∀ side, (pri side).length = 32) (side : Side) :
    HelloPacket.ofBytes (hello (compiledPrimitives q k) d₀ side).pack =
        hello (compiledPrimitives q k) d₀ side ∧
      (hello (compiledPrimitives q k) d₀ side).staticKey =
        (owner client server side).staticPubkey ∧
      (compiledPrimitives q k).ed25519Verify (hello (compiledPrimitives q k) d₀ side).sig
        (hello (compiledPrimitives q k) d₀ side).toHelloBody
        (owner client server side).staticPubkey = true := by
  subst h₀
  cases side with
  | near => exact ofBytes_signed m.clientKeys (length_public (hpri .near)) 1
  | far => exact ofBytes_answered m.serverKeys (length_public (hpri .far)) _

/-- The peers that a side may consult. -/
def Knows (client : Endpoint QString ChachaContext) : Side → (List UInt8 → Bool) → Prop
  | .near, _ => True
  | .far, contains => contains client.staticPubkey = true

/-- Each side accepts the packet of the other one. -/
lemma Matched.accepted (m : Matched q k client server id)
    (h₀ : d₀ = start (compiledPrimitives q k) client server id pri dctx ectx)
    (hpri : ∀ side, (pri side).length = 32) {side : Side} {contains : List UInt8 → Bool}
    (hknows : Knows client side contains) :
    Conn.Accepted (compiledPrimitives q k) contains (d₀.conn side).sess
      (HelloPacket.ofBytes (Dialogue.hello (compiledPrimitives q k) d₀ side.other).pack) := by
  obtain ⟨hbytes, hstatic, hverify⟩ := m.hello h₀ hpri side.other
  have hpub := hello_ephemeralKey h₀ side.other
  have hshared := x25519_public k (hpri side) (hpri side.other)
  rw [hbytes]
  rw [← hstatic] at hverify
  apply accepted_of_expects
  · rw [hstatic]
    exact (m.keys side.other).length_pub
  · rw [hstatic]
    subst h₀
    cases side with
    | near => exact Or.inl m.dialed
    | far => exact Or.inr ⟨rfl, hknows⟩
  · exact hverify
  · rw [hpub]
    subst h₀
    cases side with
    | near => exact congrArg Prod.snd hshared
    | far => exact congrArg Prod.snd hshared

/-- No side is refused. -/
lemma Matched.phase (m : Matched q k client server id)
    (h₀ : d₀ = start (compiledPrimitives q k) client server id pri dctx ectx)
    (hpri : ∀ side, (pri side).length = 32)
    (h : Coherent (compiledPrimitives q k) C K (Knows client) d₀ d) (side : Side) :
    (d.conn side).Opening (compiledPrimitives q k) (d₀.conn side).sess
        (request (compiledPrimitives q k) (d₀.conn side).sess side) (d.received side) ∨
      (d.conn side).Announced := by
  cases h.phase side with
  | opening ho _ => exact Or.inl ho
  | refused hknows hlen hacc _ _ =>
    have hpacket := h.packet h₀ hpri (Nat.le_of_eq hlen.symm)
    rw [List.take_of_length_le (Nat.le_of_eq hlen)] at hpacket
    rw [hpacket] at hacc
    exact absurd (m.accepted h₀ hpri hknows) hacc
  | conversing _ _ _ hc _ =>
    refine Or.inr ((d.conn side).finishes_pos_iff.mp ?_)
    rw [hc.finishes]
    exact Nat.one_pos

lemma Matched.isOpen (m : Matched q k client server id)
    (h₀ : d₀ = start (compiledPrimitives q k) client server id pri dctx ectx)
    (hpri : ∀ side, (pri side).length = 32)
    (h : Coherent (compiledPrimitives q k) C K (Knows client) d₀ d) (side : Side) :
    (d.conn side).isOpen = true ∧ (d.conn side).waiting = [] := by
  rcases m.phase h₀ hpri h side with ho | hannounced
  · exact ⟨ho.isOpen, ho.waiting⟩
  · obtain ⟨_, _, _, hc⟩ := h.conversing h₀ hpri ((d.conn side).finishes_pos_iff.mpr hannounced)
    exact ⟨hc.isOpen, hc.waiting⟩

/-- At rest, a side whose peer has sent a packet has accepted it. -/
lemma Matched.announced_of_hellos (m : Matched q k client server id)
    (h₀ : d₀ = start (compiledPrimitives q k) client server id pri dctx ectx)
    (hpri : ∀ side, (pri side).length = 32)
    (h : Coherent (compiledPrimitives q k) C K (Knows client) d₀ d)
    (hsettled : d.Settled (compiledPrimitives q k)) (side : Side)
    (hsent : (d.conn side.other).hellos ≠ []) : (d.conn side).Announced := by
  obtain ⟨hopen, _⟩ := m.isOpen h₀ hpri h side
  obtain ⟨hopen', hwaiting'⟩ := m.isOpen h₀ hpri h side.other
  refine (m.phase h₀ hpri h side).resolve_left fun ho => ?_
  have hidle := hsettled.idle h hopen
  have hwrites := hsettled.writes h hopen
  have hone := ho.opening
  rcases ho.reads with ⟨hnone, _⟩ | ⟨hread, hlen⟩
  · simp [Conn.opening, Conn.helloReads, hidle, hwrites, hnone] at hone
  · obtain ⟨hlt, hreceived⟩ := hsettled.reads h hopen hread hlen
    have hwire := hsettled.wire h hopen' hwaiting'
    obtain ⟨hp, rest, hhellos⟩ := List.exists_cons_of_ne_nil hsent
    rw [hreceived, hwire, Conn.packets, hhellos] at hlt
    simp [helloRead] at hlt

lemma Matched.announced (m : Matched q k client server id)
    (h₀ : d₀ = start (compiledPrimitives q k) client server id pri dctx ectx)
    (hpri : ∀ side, (pri side).length = 32)
    (h : Coherent (compiledPrimitives q k) C K (Knows client) d₀ d)
    (hsettled : d.Settled (compiledPrimitives q k)) : ∀ side, (d.conn side).Announced := by
  have hsent : ∀ {side}, (d.conn side).Announced → (d.conn side).hellos ≠ [] := by
    intro side hannounced
    obtain ⟨_, _, hhellos, _⟩ :=
      h.conversing h₀ hpri ((d.conn side).finishes_pos_iff.mpr hannounced)
    rw [hhellos]
    exact List.cons_ne_nil _ _
  have hnear : (d.conn .near).hellos ≠ [] := by
    rcases m.phase h₀ hpri h .near with ho | hannounced
    · rw [ho.idle (hsettled.idle h ho.isOpen)]
      exact List.cons_ne_nil _ _
    · exact hsent hannounced
  have hfar : (d.conn .far).Announced :=
    m.announced_of_hellos h₀ hpri h hsettled .far hnear
  intro side
  cases side with
  | near => exact m.announced_of_hellos h₀ hpri h hsettled .near (hsent hfar)
  | far => exact hfar

/-- At rest all texts have been heard. -/
lemma Matched.complete (m : Matched q k client server id)
    (h₀ : d₀ = start (compiledPrimitives q k) client server id pri dctx ectx)
    (hpri : ∀ side, (pri side).length = 32)
    (h : Coherent (compiledPrimitives q k) C K (Knows client) d₀ d)
    (hsettled : d.Settled (compiledPrimitives q k)) (side : Side) :
    (d.conn side).texts = (d.texts side.other).map (heardText q) := by
  have hannounced := m.announced h₀ hpri h hsettled
  obtain ⟨hle, htexts⟩ := h.delivered h₀ hpri side
  obtain ⟨stream, hcut, _, hc⟩ :=
    h.conversing h₀ hpri ((d.conn side).finishes_pos_iff.mpr (hannounced side))
  obtain ⟨_, _, hhellos, hc'⟩ :=
    h.conversing h₀ hpri ((d.conn side.other).finishes_pos_iff.mpr (hannounced side.other))
  obtain ⟨frames, part, hr⟩ := hc.receiving
  have hread : (d.conn side).Reading part := by
    rcases hr.reading with hread | ⟨_, herr⟩
    · exact hread
    · rw [h.errors side] at herr
      cases herr
  obtain ⟨op, hreads⟩ : ∃ op, (d.conn side).reads = [op] := by
    rcases hread with ⟨_, hreads⟩ | ⟨_, _, _, _, _, hreads⟩
    · exact ⟨_, hreads⟩
    · exact ⟨_, hreads⟩
  obtain ⟨hlt, hreceived⟩ := hsettled.reads h hc.isOpen hreads (hread.got_le hreads).1
  have hstream : stream = (d.conn side.other).encrypted.flatten := by
    rw [hsettled.wire h hc'.isOpen hc'.waiting, hcut, Conn.packets, hhellos,
      List.flatMap_singleton] at hreceived
    exact List.append_cancel_left hreceived
  rw [hr.cut] at hstream
  have hframes : frames = (d.conn side.other).encrypted :=
    Framing.eq_of_flatten hr.isFrame (h.isFrame h₀ hpri side.other) hstream
      (fun f hf => hread.incomplete hreads hlt hf)
  have hcount : (d.conn side).handled.length = (d.texts side.other).length := by
    rw [hr.handled, length_receiveFrames, hframes, (h.sending h₀ hpri side.other).1,
      List.length_map, C.length_outputs, List.length_map]
  rw [htexts, List.take_of_length_le (Nat.le_of_eq hcount.symm)]

/-- The runs over a reliable connection during which the server lists the client. -/
abbrev ListedRun (q : Qt (List UInt8) QString) (k : Curve)
    (client server : Endpoint QString ChachaContext) (id : QString) (pri : Side → List UInt8)
    (dctx ectx : Side → ChachaContext) :
    List (DialogueEvent QString) → Dialogue QString ChachaContext → Prop :=
  Run (Guarded (StepOf (step (compiledPrimitives q k))) fun d ev =>
      d.Reliable (compiledPrimitives q k) ev ∧
        Lists (compiledPrimitives q k) client.staticPubkey d ev)
    (start (compiledPrimitives q k) client server id pri dctx ectx)

lemma ListedRun.reliable {es : List (DialogueEvent QString)}
    (h : ListedRun q k client server id pri dctx ectx es d) :
    Run (Guarded (StepOf (step (compiledPrimitives q k))) (Reliable (compiledPrimitives q k)))
      (start (compiledPrimitives q k) client server id pri dctx ectx) es d :=
  h.mono (fun _ _ _ hs => ⟨hs.1, hs.2.1⟩)

/-- The list of peers keeps the client. -/
lemma Matched.knows (m : Matched q k client server id) {es : List (DialogueEvent QString)}
    (h : ListedRun q k client server id pri dctx ectx es d) (side : Side) :
    Knows client side (d.containsPeerPubkey (compiledPrimitives q k) side) := by
  have hlisted : ChatServer.containsPeerPubkey (compiledPrimitives q k) d.peerList
      client.staticPubkey = true := by
    refine h.invariant (I := fun d => ChatServer.containsPeerPubkey (compiledPrimitives q k)
      d.peerList client.staticPubkey = true) m.listed ?_
    rintro d ev d' hold ⟨hs, _, hlists⟩
    cases ev with
    | updatePeerList peers =>
      obtain rfl := Option.some.inj hs
      exact hlists
    | sendTextMsg side text =>
      obtain rfl := Option.some.inj hs
      exact hold
    | socket side sev =>
      obtain ⟨r, _, rfl⟩ := Option.map_eq_some_iff.mp hs
      exact hold
  cases side with
  | near => trivial
  | far => exact hlisted

lemma Matched.coherent (m : Matched q k client server id) {es : List (DialogueEvent QString)}
    (h : ListedRun q k client server id pri dctx ectx es d) :
    Coherent (compiledPrimitives q k) chacha20Cipher (dctx .near).started (Knows client)
      (start (compiledPrimitives q k) client server id pri dctx ectx) d :=
  Dialogue.coherent rfl (keyedBy (dctx .near)) (fun _ _ hr => hr.1) (fun _ _ hr => m.knows hr) h

/-- The sockets can go on until nothing is left to do for them. -/
lemma Coherent.exists_settled {Good : Side → (List UInt8 → Bool) → Prop}
    (hC : (compiledPrimitives q k).mbedtlsChacha20Update = C.update)
    (hK : KeyedBy (compiledPrimitives q k) K)
    (h : Coherent (compiledPrimitives q k) C K Good d₀ d)
    (hgood : ∀ side, Good side (d.containsPeerPubkey (compiledPrimitives q k) side)) :
    ∃ es d', Run (Guarded (StepOf (Dialogue.step (compiledPrimitives q k))) fun d ev =>
        d.Reliable (compiledPrimitives q k) ev ∧ ∃ side sev, ev = .socket side sev) d es d' ∧
      d'.texts = d.texts ∧ d'.Settled (compiledPrimitives q k) := by
  have hstep : ∀ d₁ ev d₂, Coherent (compiledPrimitives q k) C K Good d₀ d₁ ∧
        d₁.peerList = d.peerList ∧ d₁.texts = d.texts →
      (d₁.Reliable (compiledPrimitives q k) ev ∧ ∃ side sev, ev = .socket side sev) →
      d₁.step (compiledPrimitives q k) ev = some d₂ →
      (Coherent (compiledPrimitives q k) C K Good d₀ d₂ ∧
        d₂.peerList = d.peerList ∧ d₂.texts = d.texts) ∧ d₂.todo < d₁.todo := by
    rintro d₁ ev d₂ ⟨hcoherent, hpeers, htexts⟩ ⟨hreliable, side, sev, rfl⟩ hs
    have hgood₁ : ∀ side, Good side (d₁.containsPeerPubkey (compiledPrimitives q k) side) := by
      rintro (_ | _)
      · exact hgood .near
      · simp only [containsPeerPubkey, hpeers]
        exact hgood .far
    refine ⟨⟨hcoherent.step hC hK hgood₁ hs hreliable, ?_⟩, hcoherent.todo_lt hreliable hs⟩
    obtain ⟨r, _, rfl⟩ := Option.map_eq_some_iff.mp hs
    exact ⟨hpeers, htexts⟩
  obtain ⟨es, d', hrun, ⟨_, _, htexts⟩, hlast⟩ := exists_run_to_end todo hstep ⟨h, rfl, rfl⟩
  exact ⟨es, d', hrun, htexts, fun side ev hreliable => hlast _ ⟨hreliable, side, ev, rfl⟩⟩

/-- A dialogue in which the client says one text. -/
lemma Matched.exists_dialogue (m : Matched q k client server id)
    (hpri : ∀ side, (pri side).length = 32) {text : QString}
    (hlen : (q.toUtf8 text).length ≤ 4091) :
    ∃ es d, ListedRun q k client server id pri dctx ectx es d ∧
      d.Settled (compiledPrimitives q k) ∧ d.texts .near = [text] := by
  have hrest : ∀ {es d}, ListedRun q k client server id pri dctx ectx es d →
      ∃ es' d', ListedRun q k client server id pri dctx ectx es' d' ∧ d'.texts = d.texts ∧
        d'.Settled (compiledPrimitives q k) := by
    intro es d h
    obtain ⟨es', d', hrun, htexts, hsettled⟩ :=
      (m.coherent h).exists_settled rfl (keyedBy (dctx .near)) (m.knows h)
    refine ⟨es ++ es', d', h.append (hrun.mono ?_), htexts, hsettled⟩
    rintro d ev d' ⟨hs, hreliable, side, sev, rfl⟩
    exact ⟨hs, hreliable, trivial⟩
  obtain ⟨es₁, d₁, hrun₁, htexts₁, hsettled₁⟩ := hrest Run.nil
  have h₁ := m.coherent hrun₁
  have hwrites := hsettled₁.writes h₁ (m.isOpen rfl hpri h₁ .near).1
  have hreliable : d₁.Reliable (compiledPrimitives q k) (.sendTextMsg .near text) := by
    refine ⟨m.announced rfl hpri h₁ hsettled₁ .near, ?_, hlen⟩
    simp [hwrites]
  obtain ⟨d₂, hs, htexts₂⟩ : ∃ d₂, d₁.step (compiledPrimitives q k) (.sendTextMsg .near text) =
      some d₂ ∧ d₂.texts .near = [text] := by
    refine ⟨_, rfl, ?_⟩
    simp only [Function.update_self, htexts₁]
    rfl
  obtain ⟨es₃, d₃, hrun₃, htexts₃, hsettled₃⟩ := hrest (hrun₁.snoc ⟨hs, hreliable, trivial⟩)
  exact ⟨es₃, d₃, hrun₃, hsettled₃, by rw [htexts₃, htexts₂]⟩

/-- A client with key 8 and the name "A". -/
def sampleChatClient : Endpoint (List UInt8) ChachaContext :=
  { Endpoint.init .chatClient [65] with
    staticPrikey := sampleKey 8 ++ sampleKey 8
    staticPubkey := sampleKey 8 }

/-- A server with key 7 that lists the client. -/
def sampleChatServer : Endpoint (List UInt8) ChachaContext :=
  { Endpoint.init .chatServer [] with
    staticPrikey := sampleKey 7 ++ sampleKey 7
    staticPubkey := sampleKey 7
    peerList := [⟨[65], sampleKey 8, [], 0⟩] }

def samplePri : Side → List UInt8
  | .near => sampleKey 3
  | .far => sampleKey 5

lemma length_samplePri : ∀ side, (samplePri side).length = 32
  | .near => List.length_replicate
  | .far => List.length_replicate

lemma sample_matched :
    Matched sampleQt sampleCurve sampleChatClient sampleChatServer (sampleKey 7) where
  clientKeys := ChatSession.sampleKeyed_matching 8
  serverKeys := ChatSession.sampleKeyed_matching 7
  dialed := rfl
  listed := by decide
  named := by decide

/-- The client says "hi". -/
lemma exists_sample_dialogue :
    ∃ es d, ListedRun sampleQt sampleCurve sampleChatClient sampleChatServer (sampleKey 7) samplePri
        (fun _ => sampleContext) (fun _ => sampleContext) es d ∧
      d.Settled (compiledPrimitives sampleQt sampleCurve) ∧ d.texts .near = [[104, 105]] :=
  sample_matched.exists_dialogue length_samplePri (by decide)

/-- Client and server expect each other and the connection is reliable. Then every step of a socket
leaves less to do, and from every state the sockets can go on until nothing is left to do. There
both sides have been told of the end of the handshake, neither has closed its socket, and each has
heard all the texts of the other one up to their first NULs, in order and without any other. -/
theorem dialogue_completes (m : Matched q k client server id)
    (hpri : ∀ side, (pri side).length = 32)
    {es : List (DialogueEvent QString)}
    (h : ListedRun q k client server id pri dctx ectx es d) :
    (∀ side ev d', d.Reliable (compiledPrimitives q k) (.socket side ev) →
      d.step (compiledPrimitives q k) (.socket side ev) = some d' → d'.todo < d.todo) ∧
    (∃ es' d', Run (Guarded (StepOf (step (compiledPrimitives q k))) fun d ev =>
        d.Reliable (compiledPrimitives q k) ev ∧ ∃ side sev, ev = .socket side sev) d es' d' ∧
      d'.texts = d.texts ∧ d'.Settled (compiledPrimitives q k)) ∧
    (d.Settled (compiledPrimitives q k) → ∀ side,
      (d.conn side).Announced ∧ (d.conn side).isOpen = true ∧
        (d.conn side).texts = (d.texts side.other).map (heardText q)) := by
  have hcoherent := m.coherent h
  refine ⟨fun side ev d' => hcoherent.todo_lt, ?_, fun hsettled side => ?_⟩
  · exact hcoherent.exists_settled rfl (keyedBy (dctx .near)) (m.knows h)
  · exact ⟨m.announced rfl hpri hcoherent hsettled side,
      (m.isOpen rfl hpri hcoherent side).1, m.complete rfl hpri hcoherent hsettled side⟩

/-- The client says "hi", and the server hears it. -/
theorem dialogue_completes_hi :
    ∃ (es : List (DialogueEvent (List UInt8))) (d : Dialogue (List UInt8) ChachaContext),
      ListedRun sampleQt sampleCurve sampleChatClient sampleChatServer (sampleKey 7) samplePri
        (fun _ => sampleContext) (fun _ => sampleContext) es d ∧
      d.Settled (compiledPrimitives sampleQt sampleCurve) ∧ (d.conn .near).Announced ∧
      (d.conn .far).texts = [[104, 105]] := by
  obtain ⟨es, d, hrun, hsettled, htexts⟩ := exists_sample_dialogue
  obtain ⟨_, _, hrest⟩ := dialogue_completes sample_matched length_samplePri hrun
  obtain ⟨_, _, hheard⟩ := hrest hsettled .far
  rw [show Side.far.other = .near from rfl, htexts] at hheard
  exact ⟨es, d, hrun, hsettled, (hrest hsettled .near).1, hheard⟩

end Matched

end Dialogue

end Enchat
