import Enchat.Model.Sample
import Enchat.Proofs.Routing

/-!
# The lengths of the keys that a session reads

A session copies the static keys of its endpoint when it is constructed and never looks at their
lengths. Whether `memcpy`, `ed25519_sign` and `ed25519_verify` find all the bytes that they read is
therefore decided by the keys that the endpoint had at that time.
-/

namespace Enchat
open Transition ListUpdate Buffer

variable {QString Ctx : Type}

/-- The keys hold as many bytes as the handshake reads from them. -/
structure ChatSession.FullKeys (sess : ChatSession (List UInt8) QString Ctx) : Prop where
  staticPubkey : 32 ≤ sess.staticPubkey.length
  staticPrikey : 64 ≤ sess.staticPrikey.length
  peerStaticPubkey : sess.peerStaticPubkey.length = 32

lemma ChatSession.adoptPeer_keys (Q : Primitives (List UInt8) QString Ctx)
    (s : ChatSession (List UInt8) QString Ctx) (hp : HelloPacket (List UInt8)) :
    (s.adoptPeer Q hp).staticPubkey = s.staticPubkey ∧
      (s.adoptPeer Q hp).staticPrikey = s.staticPrikey := by
  unfold adoptPeer
  split <;> exact ⟨rfl, rfl⟩

section Conn

variable (P : Primitives (List UInt8) QString Ctx)

/-- The handler of the event executes `sendHandshake` or the signature check of `onHandShake` while
the session is `sess`. -/
inductive Conn.UsesKeys (contains : List UInt8 → Bool) (c : Conn QString Ctx) :
    SocketEvent → ChatSession (List UInt8) QString Ctx → Prop
  | sends {ev : SocketEvent} {c' : Conn QString Ctx} {effs : List (Effect (List UInt8) QString)}
      {hp : HelloPacket (List UInt8)} : c.react P contains ev = some (c', effs) →
      .asyncWriteHello hp ∈ effs → UsesKeys contains c ev c'.sess
  | checks {i : ℕ} {op : ReadOp} : c.reads[i]? = some op → op.got.length = op.need →
      op.handler = .onHandShake → c.sess.Admits P contains op.hello →
      UsesKeys contains c (.readDone i) (c.sess.adoptPeer P op.hello)

variable {P}

@[simp] lemma asyncWriteHello_ne_startRead (hp : HelloPacket (List UInt8)) :
    (Effect.asyncWriteHello hp : Effect (List UInt8) QString) ≠ startRead := by
  intro h
  cases h

/-- A packet is sent when the connection stands, and as the answer to a request. -/
lemma Conn.Step.hello_cases {contains : List UInt8 → Bool} {c c' : Conn QString Ctx}
    {ev : SocketEvent} {effs : List (Effect (List UInt8) QString)}
    (hs : Conn.Step P contains c ev c' effs) {hp : HelloPacket (List UInt8)}
    (hmem : .asyncWriteHello hp ∈ effs) :
    (ev = .connectDone ∧ c.connecting = .succeeded ∧ c'.sess = c.sess) ∨
      ∃ (i : ℕ) (op : ReadOp), ev = .readDone i ∧ c.reads[i]? = some op ∧
        op.handler = .onHandShake ∧ c.sess.Admits P contains op.hello ∧
        c'.sess = (c.sess.agree P op.hello).initChaCha20 P := by
  cases hs with
  | connectDone hc _ => exact Or.inl ⟨rfl, hc, rfl⟩
  | @finished i op hop _ hh ha _ _ => exact Or.inr ⟨i, op, rfl, hop, hh, ha, rfl⟩
  | bodyDone _ _ _ hproto =>
    rw [ChatSession.handleReadMsg_effects P _ hproto] at hmem
    simp at hmem
  | headDone _ _ _ => simp [handleReadMsgHead] at hmem
  | unlisted _ _ _ _ => simp [ChatSession.close] at hmem
  | badSignature _ _ _ _ _ => simp [ChatSession.close] at hmem
  | startWrite _ => simp at hmem
  | bodySkipped _ _ _ _ => simp at hmem
  | requestDone _ => cases List.mem_singleton.mp hmem
  | _ => cases hmem

/-- A session uses its keys when it is connected or with a packet that it admits. -/
lemma Conn.UsesKeys.cases {contains : List UInt8 → Bool} {c : Conn QString Ctx} {ev : SocketEvent}
    {sess : ChatSession (List UInt8) QString Ctx} (h : c.UsesKeys P contains ev sess) :
    (ev = .connectDone ∧ c.connecting = .succeeded ∧ sess = c.sess) ∨
      ∃ (i : ℕ) (op : ReadOp), c.reads[i]? = some op ∧ op.handler = .onHandShake ∧
        c.sess.Admits P contains op.hello ∧ sess.staticPubkey = c.sess.staticPubkey ∧
        sess.staticPrikey = c.sess.staticPrikey ∧
        sess.peerStaticPubkey = (c.sess.adoptPeer P op.hello).peerStaticPubkey := by
  cases h with
  | @checks i op hop _ hh ha =>
    obtain ⟨hpub, hpri⟩ := ChatSession.adoptPeer_keys P c.sess op.hello
    exact Or.inr ⟨i, op, hop, hh, ha, hpub, hpri, rfl⟩
  | sends hreact hmem =>
    rcases (react_step P hreact).hello_cases hmem with hconnect | ⟨i, op, _, hop, hh, ha, hsess⟩
    · exact Or.inl hconnect
    · obtain ⟨hpub, hpri⟩ := ChatSession.adoptPeer_keys P c.sess op.hello
      rw [hsess]
      exact Or.inr ⟨i, op, hop, hh, ha, hpub, hpri, rfl⟩

lemma ReadOp.length_staticKey {op : ReadOp} (hshape : op.Shaped) (hh : op.handler = .onHandShake) :
    op.hello.staticKey.length = 32 := by
  unfold ReadOp.Shaped at hshape
  rw [hh] at hshape
  obtain ⟨handler, msg, offset, need, got⟩ := op
  simp only [helloRead, ReadOp.mk.injEq] at hshape
  obtain ⟨_, rfl, rfl, rfl, _⟩ := hshape
  simp only [ReadOp.hello, HelloPacket.ofBytes, ReadOp.buffer, store_zero, List.length_take,
    List.length_drop, List.length_append, List.length_replicate]
  omega

lemma Conn.Step.static_keys {contains : List UInt8 → Bool} {c c' : Conn QString Ctx}
    {ev : SocketEvent} {effs : List (Effect (List UInt8) QString)}
    (hs : Conn.Step P contains c ev c' effs) :
    c'.sess.staticPubkey = c.sess.staticPubkey ∧ c'.sess.staticPrikey = c.sess.staticPrikey := by
  cases hs with
  | badSignature _ _ _ _ _ => exact ChatSession.adoptPeer_keys P _ _
  | noSharedKey _ _ _ _ _ _ => exact ChatSession.adoptPeer_keys P _ _
  | finished _ _ _ _ _ _ => exact ChatSession.adoptPeer_keys P _ _
  | bodyDone _ _ _ _ =>
    dsimp only
    rw [ChatSession.handleReadMsg_eq]
    exact ⟨rfl, rfl⟩
  | _ => exact ⟨rfl, rfl⟩

lemma Conn.Step.stays_idle {contains : List UInt8 → Bool} {c c' : Conn QString Ctx}
    {ev : SocketEvent} {effs : List (Effect (List UInt8) QString)}
    (hs : Conn.Step P contains c ev c' effs) (h : c.connecting = .idle) :
    c'.connecting = .idle := by
  cases hs with
  | connectOk hpending _ =>
    rw [h] at hpending
    cases hpending
  | connectDone _ _ => rfl
  | connectAborted _ _ => rfl
  | connectFail _ => rfl
  | _ => exact h

end Conn

namespace Endpoint

variable [DecidableEq QString] (P : Primitives (List UInt8) QString Ctx)

/-- In this step session `s` is constructed, and it gets the keys that `sess` has. -/
def MadeAs (role : Role) (s : ℕ) (sess : ChatSession (List UInt8) QString Ctx)
    (e : Endpoint QString Ctx) (ev : Event QString Ctx) (_ : Endpoint QString Ctx) : Prop :=
  s = e.sessions.length ∧ sess.staticPubkey = e.staticPubkey ∧
    sess.staticPrikey = e.staticPrikey ∧
    ((role = .chatServer ∧ ∃ pri dctx ectx, ev = .accept pri dctx ectx) ∨
      role = .chatClient ∧ ∃ id pri dctx ectx, ev = .doConnect id pri dctx ectx ∧
        sess.peerStaticPubkey = P.fromBase64 id)

/-- Where the keys of a session come from. -/
structure Configured (role : Role) (name : QString) (es : List (Event QString Ctx)) (s : ℕ)
    (c : Conn QString Ctx) : Prop where
  shaped : ∀ op ∈ c.reads, op.Shaped
  made : Past (StepOf (step P)) (init role name) es (MadeAs P role s c.sess)
  server : role = .chatServer → c.connecting = .idle ∧
    (c.sess.peerStaticPubkey = [] ∨ c.sess.peerStaticPubkey.length = 32)

variable {P}

/-- Only an admitted packet changes the peer key, and it brings one of 32 bytes. -/
lemma Configured.step {role : Role} {name : QString} {es : List (Event QString Ctx)} {s : ℕ}
    {c c' : Conn QString Ctx} {e : Endpoint QString Ctx} {ev : SocketEvent}
    {effs : List (Effect (List UInt8) QString)} (hrole : e.role = role)
    (h : Configured P role name es s c)
    (hs : Conn.Step P (e.containsPeerPubkey P) c ev c' effs) :
    Configured P role name (es ++ [.socket s ev]) s c' := by
  obtain ⟨hpub, hpri⟩ := hs.static_keys
  refine ⟨hs.shaped P h.shaped, ?_, ?_⟩
  · refine (h.made.imp ?_).snoc _
    rintro e₁ ev₁ e₂ ⟨hlen, hpub₁, hpri₁, hmade⟩
    refine ⟨hlen, hpub.trans hpub₁, hpri.trans hpri₁, hmade.imp_right ?_⟩
    rintro ⟨hclient, id, pri, dctx, ectx, hev, hpeer⟩
    refine ⟨hclient, id, pri, dctx, ectx, hev, Eq.trans ?_ hpeer⟩
    rcases hs.identity with ⟨hkey, _⟩ | ⟨i, op, _, _, _, ha, hkey, _⟩
    · exact hkey
    · rw [contains_of_client (hrole.trans hclient)] at ha
      rw [hkey, ChatSession.adoptPeer_of_admits P ha]
  · intro hserver
    obtain ⟨hidle, hpeer⟩ := h.server hserver
    refine ⟨hs.stays_idle hidle, ?_⟩
    rcases hs.identity with ⟨hkey, _⟩ | ⟨i, op, _, hop, hh, _, hkey, _⟩
    · rw [hkey]
      exact hpeer
    · rw [hkey]
      unfold ChatSession.adoptPeer
      split
      · exact Or.inr (ReadOp.length_staticKey (h.shaped op (List.mem_of_getElem? hop)) hh)
      · exact hpeer

theorem configured (hempty : P.emptyArray = []) {role : Role} {name : QString}
    {es : List (Event QString Ctx)} {e : Endpoint QString Ctx} (h : Runs P role name es e) {s : ℕ}
    {c : Conn QString Ctx} (hc : e.sessions[s]? = some c) : Configured P role name es s c := by
  have hrule : SessionRule P (fun _ _ => True) role name (Configured P role name) :=
    { mono := fun _ ev _ _ h => ⟨h.shaped, h.made.snoc ev, h.server⟩
      accept := ?_
      connect := ?_
      step := fun _ _ _ _ _ _ _ hr _ hs _ _ h => h.step (role_eq P hr) hs
      closed := fun _ _ _ h => ⟨h.shaped, h.made, h.server⟩
      encrypt := fun _ _ _ _ _ _ _ _ _ _ h => ⟨h.shaped, h.made, h.server⟩ }
  · exact hrule.holds P h.guarded s c hc
  · intro es e pri dctx ectx hr hserver
    have hstep : StepOf (step P) e (.accept pri dctx ectx)
        { e with sessions := e.sessions ++ [e.acceptSession P pri dctx ectx] } :=
      if_pos ((role_eq P hr).trans hserver)
    refine ⟨?_, Past.last hr.of_guarded hstep ?_, fun _ => ⟨rfl, Or.inl hempty⟩⟩
    · intro op hop
      obtain rfl := List.mem_singleton.mp hop
      rfl
    · exact ⟨rfl, rfl, rfl, Or.inl ⟨hserver, pri, dctx, ectx, rfl⟩⟩
  · intro es e id pri dctx ectx hr hclient hstep
    refine ⟨?_, Past.last hr.of_guarded hstep ?_, ?_⟩
    · intro op hop
      cases hop
    · exact ⟨rfl, rfl, rfl, Or.inr ⟨hclient, id, pri, dctx, ectx, rfl, rfl⟩⟩
    · intro hserver
      rw [hclient] at hserver
      cases hserver

variable (P)

/-- In this step session `s` uses its keys, being `sess` at that moment. -/
def KeysUsed (s : ℕ) (sess : ChatSession (List UInt8) QString Ctx) (e : Endpoint QString Ctx)
    (ev : Event QString Ctx) : Prop :=
  ∃ (c : Conn QString Ctx) (sev : SocketEvent), ev = .socket s sev ∧ e.sessions[s]? = some c ∧
    c.UsesKeys P (e.containsPeerPubkey P) sev sess

/-- In this step session `s` is constructed from static keys of full length, and a client does so
for an id that decodes to 32 bytes. -/
def MadeWithFullKeys (s : ℕ) (e : Endpoint QString Ctx) (ev : Event QString Ctx)
    (_ : Endpoint QString Ctx) : Prop :=
  s = e.sessions.length ∧ 32 ≤ e.staticPubkey.length ∧ 64 ≤ e.staticPrikey.length ∧
    ((∃ pri dctx ectx, ev = .accept pri dctx ectx) ∨
      ∃ id pri dctx ectx, ev = .doConnect id pri dctx ectx ∧ (P.fromBase64 id).length = 32)

/-- Session `s` uses its keys in the course of the run `es`, after the events `es₁`. -/
def KeyUse (role : Role) (name : QString) (es es₁ : List (Event QString Ctx)) (s : ℕ)
    (sess : ChatSession (List UInt8) QString Ctx) : Prop :=
  ∃ ev es₂ e, es = es₁ ++ ev :: es₂ ∧ Runs P role name es₁ e ∧ KeysUsed P s sess e ev

variable {P}

lemma length_of_made {s : ℕ} {sess : ChatSession (List UInt8) QString Ctx} {role : Role}
    {e e' : Endpoint QString Ctx} {ev : Event QString Ctx} (h : MadeAs P role s sess e ev e')
    (hstep : StepOf (step P) e ev e') : e.sessions.length = s ∧ s < e'.sessions.length := by
  obtain ⟨rfl, _, _, ⟨_, pri, dctx, ectx, rfl⟩ | ⟨_, id, pri, dctx, ectx, rfl, _⟩⟩ := h
  · cases step_step P hstep
    simp
  · cases step_step P hstep
    simp

lemma length_of_madeWithFullKeys {s : ℕ} {e e' : Endpoint QString Ctx} {ev : Event QString Ctx}
    (h : MadeWithFullKeys P s e ev e') (hstep : StepOf (step P) e ev e') :
    e.sessions.length = s ∧ s < e'.sessions.length := by
  obtain ⟨rfl, _, _, ⟨pri, dctx, ectx, rfl⟩ | ⟨id, pri, dctx, ectx, rfl, _⟩⟩ := h
  · cases step_step P hstep
    simp
  · cases step_step P hstep
    simp

omit [DecidableEq QString] in
lemma MadeAs.full_iff {role : Role} {s : ℕ} {sess sess' : ChatSession (List UInt8) QString Ctx}
    {e e' : Endpoint QString Ctx} {ev : Event QString Ctx} (h : MadeAs P role s sess e ev e')
    (hpub : sess'.staticPubkey = sess.staticPubkey)
    (hpri : sess'.staticPrikey = sess.staticPrikey)
    (hserver : role = .chatServer → sess'.peerStaticPubkey.length = 32)
    (hclient : role = .chatClient → sess'.peerStaticPubkey = sess.peerStaticPubkey) :
    sess'.FullKeys ↔ MadeWithFullKeys P s e ev e' := by
  obtain ⟨hs, hpub₁, hpri₁, hmade⟩ := h
  constructor
  · rintro ⟨hlpub, hlpri, hlpeer⟩
    rw [hpub, hpub₁] at hlpub
    rw [hpri, hpri₁] at hlpri
    refine ⟨hs, hlpub, hlpri, ?_⟩
    rcases hmade with ⟨_, haccept⟩ | ⟨hrole, id, pri, dctx, ectx, hev, hpeer⟩
    · exact Or.inl haccept
    · rw [hclient hrole, hpeer] at hlpeer
      exact Or.inr ⟨id, pri, dctx, ectx, hev, hlpeer⟩
  · rintro ⟨_, hlpub, hlpri, hkind⟩
    rw [← hpub₁, ← hpub] at hlpub
    rw [← hpri₁, ← hpri] at hlpri
    refine ⟨hlpub, hlpri, ?_⟩
    rcases hmade with ⟨hrole, _⟩ | ⟨hrole, id, pri, dctx, ectx, rfl, hpeer⟩
    · exact hserver hrole
    · rcases hkind with ⟨_, _, _, heq⟩ | ⟨_, _, _, _, heq, hlen⟩
      · cases heq
      · cases heq
        rw [hclient hrole, hpeer]
        exact hlen

/-- What a session has when it uses its keys is what it was constructed with. -/
theorem KeysUsed.full_iff (hempty : P.emptyArray = []) (hisEmpty : P.isEmpty = List.isEmpty)
    {role : Role} {name : QString} {es : List (Event QString Ctx)} {e : Endpoint QString Ctx}
    (h : Runs P role name es e) {s : ℕ} {sess : ChatSession (List UInt8) QString Ctx}
    {ev : Event QString Ctx} (huse : KeysUsed P s sess e ev) :
    sess.FullKeys ↔
      Past (StepOf (step P)) (init role name) es (MadeWithFullKeys P s) := by
  obtain ⟨c, sev, _, hc, hkeys⟩ := huse
  have hrole := role_eq P h.guarded
  have hconf := configured hempty h hc
  obtain ⟨hpub, hpri, hserver, hclient⟩ : sess.staticPubkey = c.sess.staticPubkey ∧
      sess.staticPrikey = c.sess.staticPrikey ∧
      (role = .chatServer → sess.peerStaticPubkey.length = 32) ∧
      (role = .chatClient → sess.peerStaticPubkey = c.sess.peerStaticPubkey) := by
    rcases hkeys.cases with ⟨_, hconn, rfl⟩ | ⟨i, op, hop, hh, ha, hpub, hpri, hpeer⟩
    · refine ⟨rfl, rfl, fun hr => ?_, fun _ => rfl⟩
      rw [(hconf.server hr).1] at hconn
      cases hconn
    · refine ⟨hpub, hpri, fun hr => ?_, fun hr => ?_⟩
      · rw [hpeer]
        have hlen := ReadOp.length_staticKey (hconf.shaped op (List.mem_of_getElem? hop)) hh
        unfold ChatSession.adoptPeer
        rcases (hconf.server hr).2 with hnone | hkey
        · rw [hnone, hisEmpty]
          exact hlen
        · split
          · exact hlen
          · exact hkey
      · rw [contains_of_client (hrole.trans hr)] at ha
        rw [hpeer, ChatSession.adoptPeer_of_admits P ha]
  constructor
  · intro hfull
    exact hconf.made.imp (fun _ _ _ hmade =>
      (hmade.full_iff hpub hpri hserver hclient).mp hfull)
  · intro hpast
    have hboth := Past.unique (μ := fun e => e.sessions.length)
      (fun _ _ _ hs => (step_step P hs).length_le) (fun _ _ _ => length_of_madeWithFullKeys)
      (fun _ _ _ => length_of_made) hpast hconf.made
    obtain ⟨_, _, _, _, hfull, hmade⟩ := hboth.exists_event
    exact (hmade.full_iff hpub hpri hserver hclient).mpr hfull

/-- In a run all keys have their length whenever they are used if and only if every session that
comes to use its keys was constructed when the endpoint had keys of full length. -/
theorem full_keys_iff (q : Qt (List UInt8) QString) (k : Curve) (a : CipherApi Ctx) (role : Role)
    (name : QString) (es : List (Event QString Ctx)) :
    (∀ es₁ s sess, KeyUse (bytePrimitives q k a) role name es es₁ s sess → sess.FullKeys) ↔
      ∀ es₁ s sess, KeyUse (bytePrimitives q k a) role name es es₁ s sess →
        Past (StepOf (step (bytePrimitives q k a))) (init role name) es₁
          (MadeWithFullKeys (bytePrimitives q k a) s) := by
  have huse : ∀ es₁ s sess, KeyUse (bytePrimitives q k a) role name es es₁ s sess →
      (sess.FullKeys ↔ Past (StepOf (step (bytePrimitives q k a))) (init role name) es₁
        (MadeWithFullKeys (bytePrimitives q k a) s)) := by
    rintro es₁ s sess ⟨ev, es₂, e, _, hr, hused⟩
    exact hused.full_iff rfl rfl hr
  constructor
  · intro hfull es₁ s sess h
    exact (huse es₁ s sess h).mp (hfull es₁ s sess h)
  · intro hmade es₁ s sess h
    exact (huse es₁ s sess h).mpr (hmade es₁ s sess h)

/-- A listed peer connects before the application has called `setEcKey`. -/
def earlyConnection : List (Event (List UInt8) ChachaContext) :=
  [.updatePeerList [⟨[], sampleKey 7, [], 0⟩], .accept (sampleKey 3) sampleContext sampleContext,
    .setEcKey (sampleKey 5 ++ sampleKey 5) (sampleKey 5),
    .socket 0 (.readSome 0 (sampleHello 1 7 5).pack)]

/-- The session of the early connection works with empty static keys for good. -/
theorem early_connection_without_keys :
    ∃ (es es₁ : List (Event (List UInt8) ChachaContext)) (s : ℕ)
      (sess : ChatSession (List UInt8) (List UInt8) ChachaContext),
      KeyUse samplePrimitives .chatServer [] es es₁ s sess ∧ ¬sess.FullKeys := by
  let test (e : Endpoint (List UInt8) ChachaContext) : Bool :=
    (e.sessions[0]?).any fun c => (c.reads[0]?).any fun op =>
      decide (op.got.length = op.need ∧ op.handler = .onHandShake ∧
        c.sess.Admits samplePrimitives (e.containsPeerPubkey samplePrimitives) op.hello ∧
        (c.sess.adoptPeer samplePrimitives op.hello).staticPubkey = [])
  obtain ⟨e, hrun, htest⟩ := exists_run_of_exec (step samplePrimitives) earlyConnection test
    (s := init .chatServer []) (by decide +kernel)
  obtain ⟨c, hc, hread⟩ := (Option.any_eq_true ..).mp htest
  obtain ⟨op, hop, hdec⟩ := (Option.any_eq_true ..).mp hread
  obtain ⟨hfull, hh, ha, hnil⟩ := of_decide_eq_true hdec
  refine ⟨earlyConnection ++ [.socket 0 (.readDone 0)], earlyConnection, 0, _,
    ⟨_, [], e, rfl, hrun, c, _, rfl, hc, .checks hop hfull hh ha⟩, ?_⟩
  intro hkeys
  have hlen := hkeys.staticPubkey
  rw [hnil] at hlen
  simp at hlen

end Endpoint

end Enchat
