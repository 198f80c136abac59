import Enchat.Proofs.Closing

/-!
# Texts are routed by identity

Map key, `id_` and `peer_static_pubkey_` of a registered session agree, and they stay as they are.
The ciphers of the session run under the key that was agreed in the handshake with that peer.
-/

namespace Enchat
open Transition ListUpdate

variable {QString Ctx : Type} (P : Primitives (List UInt8) QString Ctx)

/-- The context was set up with the key and has only encrypted or decrypted since. -/
inductive KeyedBy (key : List UInt8) : Ctx → Prop
  | start (ctx : Ctx) : KeyedBy key
      (P.mbedtlsChacha20Starts (P.mbedtlsChacha20Setkey (P.mbedtlsChacha20Init ctx) key) key 0)
  | update {ctx : Ctx} (input : List UInt8) : KeyedBy key ctx →
      KeyedBy key (P.mbedtlsChacha20Update ctx input).1

namespace Conn

/-- Both contexts of the session run under its shared key. -/
def Keyed (c : Conn QString Ctx) : Prop :=
  0 < c.sess.initRuns →
    KeyedBy P c.sess.chacha20Key c.sess.chachaEctx ∧ KeyedBy P c.sess.chacha20Key c.sess.chachaDctx

variable {P}

lemma Keyed.of_initRuns {c : Conn QString Ctx} (h : c.sess.initRuns = 0) : c.Keyed P :=
  fun hpos => absurd h (by omega)

lemma Keyed.step {contains : List UInt8 → Bool} {c c' : Conn QString Ctx} {ev : SocketEvent}
    {effs : List (Effect (List UInt8) QString)} (hord : c.Ordered) (h : c.Keyed P)
    (hs : Step P contains c ev c' effs) : c'.Keyed P := by
  have hzero : ∀ {i : ℕ} {op : ReadOp}, c.reads[i]? = some op → op.handler = .onHandShake →
      c.sess.initRuns = 0 := by
    intro i op hop hh
    exact hord.initRuns.trans (hord.waiting_unfinished (helloReads_pos hop hh))
  cases hs with
  | badSignature hop _ hh _ _ => exact Keyed.of_initRuns (by simpa using hzero hop hh)
  | noSharedKey hop _ hh _ _ _ => exact Keyed.of_initRuns (by simpa using hzero hop hh)
  | finished _ _ _ _ _ _ => exact fun _ => ⟨.start _, .start _⟩
  | @bodyDone i op _ _ _ hp =>
    intro hpos
    have hsess := ChatSession.handleReadMsg_eq P c.sess false op.buffer
    have hdctx : (c.sess.handleReadMsg P false op.buffer).1.chachaDctx =
        (P.mbedtlsChacha20Update c.sess.chachaDctx
          ((op.buffer.drop 4).take (Buffer.getU16 op.buffer 0))).1 := by
      simp [ChatSession.handleReadMsg, hp]
    simp only at hpos ⊢
    rw [hsess] at hpos ⊢
    obtain ⟨hectx, hdctx'⟩ := h hpos
    exact ⟨hectx, hdctx ▸ hdctx'.update _⟩
  | _ => exact h

lemma Keyed.encryptText {c : Conn QString Ctx} (h : c.Keyed P) (text : QString) :
    (c.encryptText P text).Keyed P :=
  fun hpos => ⟨(h hpos).1.update _, (h hpos).2⟩

end Conn

namespace Endpoint

variable [DecidableEq QString] {P} {C : Endpoint QString Ctx → Event QString Ctx → Prop}
  {role : Role} {name : QString} {es : List (Event QString Ctx)} {e : Endpoint QString Ctx}

lemma keyed (h : GuardedRuns P C role name es e) {s : ℕ} {c : Conn QString Ctx}
    (hc : e.sessions[s]? = some c) : c.Keyed P := by
  have hrule : SessionRule P C role name (fun _ _ c => c.Keyed P) :=
    { mono := fun _ _ _ _ h => h
      accept := fun _ _ _ _ _ _ _ => Conn.Keyed.of_initRuns rfl
      connect := fun _ _ _ _ _ _ _ _ _ => Conn.Keyed.of_initRuns rfl
      step := fun _ _ _ _ _ _ _ hr hc hs _ _ h => h.step (ordered P hr hc) hs
      closed := fun _ _ _ h => h
      encrypt := fun _ _ _ _ _ text _ _ _ _ h => h.encryptText text }
  exact hrule.holds P h s c hc

/-- A session that has come as far as to be registered keeps id and peer key in each step. -/
lemma identity_of_step (h : GuardedRuns P C role name es e) {s : ℕ} {c c' : Conn QString Ctx}
    {ev : SocketEvent} {effs : List (Effect (List UInt8) QString)} (hc : e.sessions[s]? = some c)
    (hs : Conn.Step P (e.containsPeerPubkey P) c ev c' effs)
    (hfin : e.role = .chatServer → 0 < c.finishes) :
    c'.sess.id = c.sess.id ∧ c'.sess.peerStaticPubkey = c.sess.peerStaticPubkey := by
  cases hr : e.role with
  | chatServer =>
    rw [hs.sess_of_finished P (ordered P h hc) (hfin hr)]
    exact ⟨rfl, rfl⟩
  | chatClient =>
    rcases hs.identity with ⟨hkey, hid⟩ | ⟨i, op, _, _, _, ha, hkey, hid⟩
    · exact ⟨hid, hkey⟩
    · rw [contains_of_client hr] at ha
      rw [hid, hkey, ChatSession.adoptPeer_of_admits P ha]
      exact ⟨rfl, rfl⟩

/-- No event takes a session out of the list. -/
lemma Step.length_le {e e' : Endpoint QString Ctx} {ev : Event QString Ctx} (h : Step P e ev e') :
    e.sessions.length ≤ e'.sessions.length := by
  cases h with
  | socket _ _ =>
    rw [update_eq]
    simp
  | close _ =>
    refine closeAll_induct (M := fun e' => e.sessions.length ≤ e'.sessions.length) ?_
      (fun _ h => h) (Nat.le_refl _)
    intro e' s hle
    refine closeSession_cases (M := fun e' => e.sessions.length ≤ e'.sessions.length) hle ?_
    intro c _
    simpa using hle
  | accept _ => simp
  | doConnect _ => simp
  | sendTextMsg _ => simp
  | _ => exact Nat.le_refl _

/-- Session `s` has this id and this peer key for good. -/
def Settled (e : Endpoint QString Ctx) (s : ℕ) (id : QString) (key : List UInt8) : Prop :=
  ∃ c, e.sessions[s]? = some c ∧ c.sess.id = id ∧ c.sess.peerStaticPubkey = key ∧
    (e.role = .chatServer → 0 < c.finishes)

lemma Settled.step (hr : GuardedRuns P C role name es e) {s : ℕ} {id : QString} {key : List UInt8}
    (h : e.Settled s id key) {ev : Event QString Ctx} {e' : Endpoint QString Ctx}
    (hs : Step P e ev e') (hrole : e'.role = e.role) : e'.Settled s id key := by
  obtain ⟨c, hc, hid, hkey, hfin⟩ := h
  have hlt := (List.getElem?_eq_some_iff.mp hc).1
  obtain ⟨c', hc'⟩ : ∃ c', e'.sessions[s]? = some c' := by
    have hlt' := Nat.lt_of_lt_of_le hlt hs.length_le
    exact ⟨_, List.getElem?_eq_getElem hlt'⟩
  refine ⟨c', hc', ?_⟩
  rw [hrole]
  cases hs.session P hc' with
  | same hold =>
    obtain rfl := Option.some.inj (hc.symm.trans hold)
    exact ⟨hid, hkey, hfin⟩
  | accept _ _ hnew _ => omega
  | connect _ _ hnew _ _ => omega
  | move _ hold hconn _ =>
    obtain rfl := Option.some.inj (hc.symm.trans hold)
    obtain ⟨hid', hkey'⟩ := identity_of_step hr hc hconn hfin
    exact ⟨hid'.trans hid, hkey'.trans hkey,
      fun hserver => Nat.lt_of_lt_of_le (hfin hserver) hconn.finishes_le⟩
  | encrypt _ hold _ henc =>
    obtain rfl := Option.some.inj (hc.symm.trans hold)
    subst henc
    exact ⟨hid, hkey, hfin⟩
  | close _ hclient hclose =>
    have hserver : e.role ≠ .chatServer := by simp [hclient]
    rcases closeAll_session (owned hr) hclose with ⟨c₀, _, hold, _, rfl⟩ | hold
    · obtain rfl := Option.some.inj (hc.symm.trans hold)
      exact ⟨hid, hkey, fun heq => absurd heq hserver⟩
    · obtain rfl := Option.some.inj (hc.symm.trans hold)
      exact ⟨hid, hkey, hfin⟩

lemma Settled.run (hr : Runs P role name es e) {s : ℕ} {id : QString} {key : List UInt8}
    (h : e.Settled s id key) {es' : List (Event QString Ctx)} {e' : Endpoint QString Ctx}
    (hr' : Run (StepOf (Endpoint.step P)) e es' e') : e'.Settled s id key := by
  refine hr'.invariant_history (I := fun _ e' => e'.Settled s id key) h ?_
  intro es' e' ev e'' hr' hsettled hs
  have hbefore : Runs P role name (es ++ es') e' := hr.append hr'
  have hafter : Runs P role name (es ++ es' ++ [ev]) e'' := hbefore.snoc hs
  have hrole : e''.role = e'.role :=
    (role_eq P hafter.guarded).trans (role_eq P hbefore.guarded).symm
  exact hsettled.step hbefore.guarded (step_step P hs) hrole

variable {q : Qt (List UInt8) QString} {k : Curve} {a : CipherApi Ctx}

/-- An entry of the map agrees with the session that it names. -/
lemma settled_of_lookup (hround : ∀ b, q.fromBase64 (q.toBase64 b) = b)
    (h : Runs (bytePrimitives q k a) role name es e) {id : QString} {s : ℕ}
    (hl : e.sessMap.lookup id = some s) : e.Settled s id (q.fromBase64 id) := by
  obtain ⟨c, hc, hid, hfin⟩ := owned h.guarded id s hl
  have hident := identified _ rfl h hc
  refine ⟨c, hc, hid, ?_, hfin⟩
  rw [← hid]
  cases hr : role with
  | chatClient => exact (hident.client hr).1
  | chatServer =>
    have hpast := hident.finished (hfin ((role_eq _ h.guarded).trans hr))
    obtain ⟨_, _, _, _, _, c₀, op, _, _, _, _, _, _, _, _, _, hserver, hkey, hid', _⟩ :=
      hpast.exists_event
    have hempty : (bytePrimitives q k a).isEmpty c₀.sess.peerStaticPubkey = true := hserver hr
    have hadopt : c₀.sess.adoptPeer (bytePrimitives q k a) op.hello =
        { c₀.sess with
          peerStaticPubkey := op.hello.staticKey
          id := q.toBase64 op.hello.staticKey } := if_pos hempty
    rw [hkey, hid', hadopt]
    exact (hround _).symm

/-- Every entry names a session with the id of the entry and the peer key that the id encodes, and
the session keeps both for good. `sendTextMsg` encrypts on that session only, and the ciphers of the
session run under the key agreed with a packet that the peer has signed. -/
theorem routed_to_peer (hround : ∀ b, q.fromBase64 (q.toBase64 b) = b)
    (h : Runs (bytePrimitives q k a) role name es e) :
    (∀ id s, e.sessMap.lookup id = some s → ∃ c, e.sessions[s]? = some c ∧ c.sess.id = id ∧
      c.sess.peerStaticPubkey = q.fromBase64 id ∧
      (∀ es' e', Run (StepOf (step (bytePrimitives q k a))) e es' e' →
        ∃ c', e'.sessions[s]? = some c' ∧ c'.sess.id = id ∧
          c'.sess.peerStaticPubkey = q.fromBase64 id) ∧
      (0 < c.sess.initRuns →
        Past (StepOf (step (bytePrimitives q k a))) (init role name) es
          (FinishedBy (bytePrimitives q k a) role s c.sess) ∧
        KeyedBy (bytePrimitives q k a) c.sess.chacha20Key c.sess.chachaEctx ∧
        KeyedBy (bytePrimitives q k a) c.sess.chacha20Key c.sess.chachaDctx)) ∧
    ∀ id text, e.sendTextMsgEncrypt (bytePrimitives q k a) id text = (e, false) ∨
      ∃ s c, e.sessMap.lookup id = some s ∧ e.sessions[s]? = some c ∧
        e.sendTextMsgEncrypt (bytePrimitives q k a) id text =
          ({ e with
            sessions := e.sessions.set s (c.encryptText (bytePrimitives q k a) text) }, true) := by
  constructor
  · intro id s hl
    have hsettled := settled_of_lookup hround h hl
    obtain ⟨c, hc, hid, hkey, _⟩ := hsettled
    refine ⟨c, hc, hid, hkey, ?_, ?_⟩
    · intro es' e' hr'
      obtain ⟨c', hc', hid', hkey', _⟩ := (settled_of_lookup hround h hl).run h hr'
      exact ⟨c', hc', hid', hkey'⟩
    · intro hpos
      have hruns := (ordered _ h.guarded hc).initRuns
      exact ⟨(identified _ rfl h hc).finished (by omega), keyed h.guarded hc hpos⟩
  · intro id text
    cases hl : e.sessMap.lookup id with
    | none => exact Or.inl (by simp [sendTextMsgEncrypt, hl])
    | some s =>
      obtain ⟨c, hc, _⟩ := owned h.guarded id s hl
      refine Or.inr ⟨s, c, rfl, hc, ?_⟩
      simp only [sendTextMsgEncrypt, hl, modify_eq_set_of_some hc]

/-- A server registers the listed peer with key 7. -/
theorem routed_to_peer_request :
    ∃ (es : List (Event (List UInt8) ChachaContext)) (e : Endpoint (List UInt8) ChachaContext)
      (c : Conn (List UInt8) ChachaContext),
      Runs samplePrimitives .chatServer [] es e ∧ e.sessMap.lookup (sampleKey 7) = some 0 ∧
      e.sessions[0]? = some c ∧ c.sess.peerStaticPubkey = sampleKey 7 ∧
      KeyedBy samplePrimitives c.sess.chacha20Key c.sess.chachaEctx := by
  let test (e : Endpoint (List UInt8) ChachaContext) : Bool :=
    decide (e.sessMap.lookup (sampleKey 7) = some 0) &&
      (e.sessions[0]?).any fun c => decide (0 < c.sess.initRuns)
  obtain ⟨e, hrun, hp⟩ := exists_run_of_exec (Endpoint.step samplePrimitives)
    [.updatePeerList [⟨[], sampleKey 7, [], 0⟩],
      .accept (sampleKey 3) sampleContext sampleContext,
      .socket 0 (.readSome 0 (sampleHello 1 7 5).pack), .socket 0 (.readDone 0)]
    test (s := Endpoint.init .chatServer []) (by decide +kernel)
  simp only [test, Bool.and_eq_true, decide_eq_true_eq] at hp
  obtain ⟨hl, hp⟩ := hp
  obtain ⟨c₀, hc₀, hpos⟩ := (Option.any_eq_true _ _).mp hp
  have hround : ∀ b, sampleQt.fromBase64 (sampleQt.toBase64 b) = b := fun _ => rfl
  obtain ⟨c, hc, _, hkey, _, hkeyed⟩ := (routed_to_peer hround hrun).1 _ _ hl
  obtain rfl := Option.some.inj (hc₀.symm.trans hc)
  exact ⟨_, e, c₀, hrun, hl, hc, hkey, (hkeyed (of_decide_eq_true hpos)).2.1⟩

end Endpoint

end Enchat
