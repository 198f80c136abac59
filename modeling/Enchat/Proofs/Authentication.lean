import Enchat.Model.Sample
import Enchat.Proofs.EndpointRun

/-!
# Announced peers are authenticated

A session that has reported the end of its handshake did so when it accepted a packet. The record
of that step is carried to the end of the run, because identity and key of a finished session do
not change any more.
-/

namespace Enchat
open Buffer Transition

variable {QString Ctx : Type}

section Frozen

variable (P : Primitives (List UInt8) QString Ctx)

/-- Apart from what has arrived, the read is one of the three that a session starts. -/
def ReadOp.Shaped (op : ReadOp) : Prop :=
  { op with got := [] } =
    match op.handler with
    | .onHandShake => helloRead
    | .handleReadMsgHead => headRead
    | .handleReadMsg => bodyRead op.msg

namespace Conn

theorem Step.sess_of_finished {contains : List UInt8 → Bool} {c c' : Conn QString Ctx}
    {ev : SocketEvent} {effs : List (Effect (List UInt8) QString)} (h : c.Ordered)
    (hfin : 0 < c.finishes) (hs : Step P contains c ev c' effs) :
    c'.sess = { c.sess with chachaDctx := c'.sess.chachaDctx } := by
  have hhello : ∀ {i : ℕ} {op : ReadOp}, c.reads[i]? = some op → op.handler = .onHandShake →
      False := by
    intro i op hop hh
    have := h.waiting_unfinished (helloReads_pos hop hh)
    omega
  cases hs with
  | badSignature hop _ hh _ _ => exact (hhello hop hh).elim
  | noSharedKey hop _ hh _ _ _ => exact (hhello hop hh).elim
  | finished hop _ hh _ _ _ => exact (hhello hop hh).elim
  | bodyDone _ _ _ _ => exact ChatSession.handleReadMsg_eq P _ _ _
  | _ => rfl

/-- Key and id of the peer change only when a packet is admitted. -/
theorem Step.identity {contains : List UInt8 → Bool} {c c' : Conn QString Ctx} {ev : SocketEvent}
    {effs : List (Effect (List UInt8) QString)} (hs : Step P contains c ev c' effs) :
    (c'.sess.peerStaticPubkey = c.sess.peerStaticPubkey ∧ c'.sess.id = c.sess.id) ∨
      ∃ (i : ℕ) (op : ReadOp), ev = .readDone i ∧ c.reads[i]? = some op ∧
        op.handler = .onHandShake ∧ c.sess.Admits P contains op.hello ∧
        c'.sess.peerStaticPubkey = (c.sess.adoptPeer P op.hello).peerStaticPubkey ∧
        c'.sess.id = (c.sess.adoptPeer P op.hello).id := by
  cases hs with
  | badSignature hop _ hh ha _ => exact Or.inr ⟨_, _, rfl, hop, hh, ha, rfl, rfl⟩
  | noSharedKey hop _ hh ha _ _ => exact Or.inr ⟨_, _, rfl, hop, hh, ha, rfl, rfl⟩
  | finished hop _ hh ha _ _ => exact Or.inr ⟨_, _, rfl, hop, hh, ha, rfl, rfl⟩
  | bodyDone _ _ _ _ =>
    simp only
    rw [ChatSession.handleReadMsg_eq]
    exact Or.inl ⟨rfl, rfl⟩
  | _ => exact Or.inl ⟨rfl, rfl⟩

theorem Step.shaped {contains : List UInt8 → Bool} {c c' : Conn QString Ctx} {ev : SocketEvent}
    {effs : List (Effect (List UInt8) QString)} (h : ∀ op ∈ c.reads, op.Shaped)
    (hs : Step P contains c ev c' effs) : ∀ op ∈ c'.reads, op.Shaped := by
  have herase : ∀ i, ∀ op ∈ c.reads.eraseIdx i, op.Shaped :=
    fun i op hop => h op (List.mem_of_mem_eraseIdx hop)
  have hsnoc : ∀ (l : List ReadOp) (a : ReadOp), (∀ op ∈ l, op.Shaped) → a.Shaped →
      ∀ op ∈ l ++ [a], op.Shaped := by
    intro l a hl ha op hop
    rcases List.mem_append.mp hop with hop | hop
    · exact hl op hop
    · exact List.mem_singleton.mp hop ▸ ha
  cases hs with
  | requestDone _ => exact hsnoc _ _ h rfl
  | @readSome i bytes op hop _ _ _ =>
    intro op' hop'
    rcases List.mem_or_eq_of_mem_set hop' with hmem | rfl
    · exact h op' hmem
    · exact h op (List.mem_of_getElem? hop)
  | readFail _ _ => exact herase _
  | unlisted _ _ _ _ => exact herase _
  | badSignature _ _ _ _ _ => exact herase _
  | noSharedKey _ _ _ _ _ _ => exact herase _
  | finished _ _ _ _ _ _ => exact hsnoc _ _ (herase _) rfl
  | headDone _ _ _ => exact hsnoc _ _ (herase _) rfl
  | bodyDone _ _ _ _ => exact hsnoc _ _ (herase _) rfl
  | bodySkipped _ _ _ _ => exact hsnoc _ _ (herase _) rfl
  | _ => exact h

end Conn

/-- A session whose client knows no peers keeps the key that it was given. -/
lemma ChatSession.adoptPeer_of_admits {s : ChatSession (List UInt8) QString Ctx}
    {hp : HelloPacket (List UInt8)} (h : s.Admits P ChatClient.containsPeerPubkey hp) :
    s.adoptPeer P hp = s := by
  have hkey : P.isEmpty s.peerStaticPubkey = false := by
    by_contra hne
    exact Bool.false_ne_true (h (Bool.not_eq_false _ ▸ hne))
  simp [ChatSession.adoptPeer, hkey]

end Frozen

namespace Endpoint

variable [DecidableEq QString] (P : Primitives (List UInt8) QString Ctx)

/-- In this step session `s` reports the end of its handshake, and `sess` is what the accepted
packet has made of it. -/
def FinishedBy (role : Role) (s : ℕ) (sess : ChatSession (List UInt8) QString Ctx)
    (e : Endpoint QString Ctx) (ev : Event QString Ctx) (_ : Endpoint QString Ctx) : Prop :=
  ∃ (i : ℕ) (c : Conn QString Ctx) (op : ReadOp), ev = .socket s (.readDone i) ∧
    e.sessions[s]? = some c ∧ c.reads[i]? = some op ∧ op.Shaped ∧ op.handler = .onHandShake ∧
    op.got.length = op.need ∧ c.sess.Admits P (e.containsPeerPubkey P) op.hello ∧
    c.sess.Verifies P op.hello ∧
    (P.x25519 c.sess.ephemeralPriKey op.hello.ephemeralKey).2 = true ∧
    (role = .chatServer → P.isEmpty c.sess.peerStaticPubkey = true) ∧
    sess.peerStaticPubkey = (c.sess.adoptPeer P op.hello).peerStaticPubkey ∧
    sess.id = (c.sess.adoptPeer P op.hello).id ∧
    sess.chacha20Key = (P.x25519 c.sess.ephemeralPriKey op.hello.ephemeralKey).1

/-- In this step `ChatClient::connect` makes session `s`. -/
def ConnectedBy (s : ℕ) (id : QString) (e : Endpoint QString Ctx) (ev : Event QString Ctx)
    (_ : Endpoint QString Ctx) : Prop :=
  ∃ pri dctx ectx, ev = .doConnect id pri dctx ectx ∧ s = e.sessions.length

/-- What the past of a session says about its identity. -/
structure Identified (role : Role) (name : QString) (es : List (Event QString Ctx)) (s : ℕ)
    (c : Conn QString Ctx) : Prop where
  shaped : ∀ op ∈ c.reads, op.Shaped
  server : role = .chatServer → 0 < c.opening → P.isEmpty c.sess.peerStaticPubkey = true
  client : role = .chatClient → c.sess.peerStaticPubkey = P.fromBase64 c.sess.id ∧
    Past (StepOf (step P)) (init role name) es (ConnectedBy s c.sess.id)
  finished : 0 < c.finishes →
    Past (StepOf (step P)) (init role name) es (FinishedBy P role s c.sess)

section

variable {P} {role : Role} {name : QString} {es : List (Event QString Ctx)} {s : ℕ}
  {c : Conn QString Ctx}

lemma Identified.snoc (h : Identified P role name es s c) (ev : Event QString Ctx) :
    Identified P role name (es ++ [ev]) s c :=
  { shaped := h.shaped
    server := h.server
    client := fun hr => ⟨(h.client hr).1, (h.client hr).2.snoc ev⟩
    finished := fun hfin => (h.finished hfin).snoc ev }

lemma Identified.frame {c' : Conn QString Ctx} (h : Identified P role name es s c)
    (hreads : ∀ op ∈ c'.reads, op.Shaped)
    (hopening : 0 < c'.opening → 0 < c.opening) (hfin : 0 < c'.finishes → 0 < c.finishes)
    (hkey : c'.sess.peerStaticPubkey = c.sess.peerStaticPubkey) (hid : c'.sess.id = c.sess.id)
    (hshared : c'.sess.chacha20Key = c.sess.chacha20Key) : Identified P role name es s c' := by
  refine ⟨hreads, ?_, ?_, ?_⟩
  · intro hr ho
    rw [hkey]
    exact h.server hr (hopening ho)
  · intro hr
    rw [hkey, hid]
    exact h.client hr
  · intro hf
    refine (h.finished (hfin hf)).imp ?_
    intro e ev e' hby
    simp only [FinishedBy, hkey, hid, hshared]
    exact hby

lemma Identified.step {e : Endpoint QString Ctx} {c' : Conn QString Ctx} {ev : SocketEvent}
    {effs : List (Effect (List UInt8) QString)} (h : Identified P role name es s c)
    (hr : Runs P role name es e) (hc : e.sessions[s]? = some c)
    (hs : Conn.Step P (e.containsPeerPubkey P) c ev c' effs)
    (hstep : StepOf (Endpoint.step P) e (.socket s ev) (e.update s c' effs)) :
    Identified P role name (es ++ [.socket s ev]) s c' := by
  have hrole : e.role = role := role_eq P hr.guarded
  have hord : c.Ordered := ordered P hr.guarded hc
  have hle := hs.opening_le
  refine ⟨hs.shaped P h.shaped, ?_, ?_, ?_⟩
  · intro hserver ho
    rcases hs.identity with ⟨hkey, _⟩ | ⟨i, op, rfl, hop, hh, _⟩
    · rw [hkey]
      exact h.server hserver (by omega)
    · have hdone := hs.opening_hello P hop hh
      have hopening := hord.opening
      omega
  · intro hclient
    obtain ⟨hkey, hpast⟩ := h.client hclient
    have hsame : c'.sess.peerStaticPubkey = c.sess.peerStaticPubkey ∧
        c'.sess.id = c.sess.id := by
      rcases hs.identity with hsame | ⟨i, op, _, _, _, ha, hkey', hid'⟩
      · exact hsame
      · have hcontains : e.containsPeerPubkey P = ChatClient.containsPeerPubkey := by
          simp [Endpoint.containsPeerPubkey, hrole, hclient]
        rw [hcontains] at ha
        rw [hkey', hid', ChatSession.adoptPeer_of_admits P ha]
        exact ⟨rfl, rfl⟩
    rw [hsame.1, hsame.2]
    exact ⟨hkey, hpast.snoc _⟩
  · intro hfin
    rcases hs.finishes_cases with ⟨hsame, _⟩ | ⟨i, op, rfl, hop, hf, hh, ha, hv, hx, hsess, _⟩
    · have hpos : 0 < c.finishes := by omega
      have hfrozen := hs.sess_of_finished P hord hpos
      refine ((h.finished hpos).imp ?_).snoc _
      intro e ev e' hby
      rw [hfrozen]
      exact hby
    · refine Past.last hr hstep ?_
      refine ⟨i, c, op, rfl, hc, hop, h.shaped op (List.mem_of_getElem? hop), hh, hf, ha, hv, hx,
        ?_, ?_⟩
      · intro hserver
        exact h.server hserver (by have := hs.opening_hello P hop hh; omega)
      · rw [hsess]
        exact ⟨rfl, rfl, rfl⟩

end

theorem identified (hempty : P.isEmpty P.emptyArray = true) {role : Role} {name : QString}
    {es : List (Event QString Ctx)} {e : Endpoint QString Ctx} (h : Runs P role name es e) {s : ℕ}
    {c : Conn QString Ctx} (hc : e.sessions[s]? = some c) : Identified P role name es s c := by
  have hrule : SessionRule P (fun _ _ => True) role name (Identified P role name) :=
    { mono := fun _ ev _ _ h => h.snoc ev
      accept := ?_
      connect := ?_
      step := fun _ _ _ _ _ _ _ hr hc hs _ hstep h => h.step hr.of_guarded hc hs hstep
      closed := ?_
      encrypt := fun _ _ _ _ _ _ _ _ _ _ h =>
        h.frame h.shaped (fun h => h) (fun h => h) rfl rfl rfl }
  · exact hrule.holds P h.guarded s c hc
  · intro es e pri dctx ectx _ hserver
    refine ⟨?_, fun _ _ => hempty, ?_, ?_⟩
    · intro op hop
      obtain rfl := List.mem_singleton.mp hop
      rfl
    · intro hclient
      rw [hserver] at hclient
      cases hclient
    · intro hfin
      cases hfin
  · intro es e id pri dctx ectx hr hclient hstep
    refine ⟨?_, ?_, ?_, ?_⟩
    · intro op hop
      cases hop
    · intro hserver
      rw [hclient] at hserver
      cases hserver
    · intro _
      exact ⟨rfl, Past.last hr.of_guarded hstep ⟨pri, dctx, ectx, rfl, rfl⟩⟩
    · intro hfin
      cases hfin
  · intro es s c h
    refine h.frame h.shaped (fun h => h) ?_ rfl rfl rfl
    intro hfin
    simpa [Conn.closed_eq, Conn.finishes, ClientCall.isFinished] using hfin

end Endpoint

section Bytes

variable [DecidableEq QString] (q : Qt (List UInt8) QString) (k : Curve)
  (a : CipherApi Ctx)

lemma ReadOp.buffer_of_shaped {op : ReadOp} (hshape : op.Shaped) (hh : op.handler = .onHandShake)
    (hfull : op.got.length = op.need) : op.got.length = 165 ∧ op.buffer = op.got := by
  unfold ReadOp.Shaped at hshape
  rw [hh] at hshape
  obtain ⟨handler, msg, offset, need, got⟩ := op
  simp only [helloRead, ReadOp.mk.injEq] at hshape hfull
  obtain ⟨_, rfl, rfl, rfl, _⟩ := hshape
  exact ⟨hfull, store_all (by rw [List.length_replicate, hfull])⟩

/-- Session `s` completes the read of a packet that authenticates the peer with the static key
`key` and, on a server, authorises it under `id`. -/
def AuthenticHello (role : Role) (s : ℕ) (id : QString) (key : List UInt8)
    (e : Endpoint QString Ctx) (ev : Event QString Ctx) (_ : Endpoint QString Ctx) : Prop :=
  ∃ (i : ℕ) (c : Conn QString Ctx) (op : ReadOp), ev = .socket s (.readDone i) ∧
    e.sessions[s]? = some c ∧ c.reads[i]? = some op ∧ op.handler = .onHandShake ∧
    op.got.length = 165 ∧ k.ed25519Verify (op.got.drop 101) (op.got.take 101) key = true ∧
    (k.x25519 c.sess.ephemeralPriKey ((op.got.drop 65).take 32)).2 = true ∧
    (role = .chatServer → key = (op.got.drop 33).take 32 ∧ id = q.toBase64 key ∧
      ∃ p ∈ e.peerList, p.pubKey = id)

def Signal.isFinished : Signal QString → Bool
  | .sigHandshakeFinished _ => true
  | _ => false

variable {q k}

lemma Endpoint.FinishedBy.authentic {role : Role} {s : ℕ}
    {sess : ChatSession (List UInt8) QString Ctx} {e e' : Endpoint QString Ctx}
    {ev : Event QString Ctx} (hrole : e.role = role)
    (h : FinishedBy (bytePrimitives q k a) role s sess e ev e') :
    AuthenticHello q k role s sess.id sess.peerStaticPubkey e ev e' := by
  obtain ⟨i, c, op, hev, hc, hop, hshape, hh, hf, ha, hv, hx, hserver, hkey, hid, _⟩ := h
  obtain ⟨hlen, hbuf⟩ := ReadOp.buffer_of_shaped hshape hh hf
  have hhello : op.hello = HelloPacket.ofBytes op.got := by rw [ReadOp.hello, hbuf]
  refine ⟨i, c, op, hev, hc, hop, hh, hlen, ?_, ?_, ?_⟩
  · rw [ChatSession.Verifies, ← hkey, hhello] at hv
    rw [← HelloPacket.pack_ofBytes hlen, ← HelloPacket.sig_ofBytes hlen]
    exact hv
  · rw [hhello] at hx
    exact hx
  · intro hr
    have hempty := hserver hr
    have hadopt : c.sess.adoptPeer (bytePrimitives q k a) op.hello =
        { c.sess with
          peerStaticPubkey := op.hello.staticKey
          id := q.toBase64 op.hello.staticKey } := if_pos hempty
    rw [hadopt] at hkey hid
    have hlisted := ha hempty
    simp only [Endpoint.containsPeerPubkey, hrole, hr, ChatServer.containsPeerPubkey,
      List.any_eq_true, decide_eq_true_eq] at hlisted
    rw [hhello] at hkey hid hlisted
    rw [hid, hkey]
    exact ⟨rfl, rfl, hlisted⟩

/-- A session is announced, and its texts are passed on, only after it has accepted one whole
packet of an authorised peer. -/
theorem signal_authenticated {role : Role} {name : QString} {es : List (Event QString Ctx)}
    {e : Endpoint QString Ctx} (h : Endpoint.Runs (bytePrimitives q k a) role name es e) {s : ℕ}
    {id : QString} {sig : Signal QString} (hmem : (s, sig) ∈ e.signals)
    (hsig : sig = .sigHandshakeFinished id ∨ ∃ text, sig = .sigTextMsg id text) :
    ∃ c, e.sessions[s]? = some c ∧
      Past (StepOf (Endpoint.step (bytePrimitives q k a))) (Endpoint.init role name) es
        (AuthenticHello q k role s id c.sess.peerStaticPubkey) ∧
      (role = .chatClient → c.sess.peerStaticPubkey = q.fromBase64 id ∧
        Past (StepOf (Endpoint.step (bytePrimitives q k a))) (Endpoint.init role name) es
          (Endpoint.ConnectedBy s id)) ∧
      (e.signalsOf s).countP Signal.isFinished = 1 ∧
      ∀ (i : ℕ) id' text, (e.signalsOf s)[i]? = some (.sigTextMsg id' text) →
        id' = id ∧ ∃ j, j < i ∧ (e.signalsOf s)[j]? = some (.sigHandshakeFinished id) := by
  have hrec := Endpoint.signalsOf_eq _ h.guarded s
  obtain ⟨c, hc, call, hcall, hsignal⟩ := Endpoint.exists_call _ h.guarded hmem
  have hord : c.Ordered := Endpoint.ordered _ h.guarded hc
  have hident := Endpoint.identified _ rfl h hc
  have hannounced : ClientCall.onHandShakeFinished id ∈ c.calls ∨
      ∃ text, ClientCall.onTextMsg id text ∈ c.calls := by
    rcases hsig with rfl | ⟨text, rfl⟩
    · have heq : call = .onHandShakeFinished id := ClientCall.signal_injective hsignal
      exact Or.inl (heq ▸ hcall)
    · have heq : call = .onTextMsg id text := ClientCall.signal_injective hsignal
      exact Or.inr ⟨text, heq ▸ hcall⟩
  have hid : c.sess.id = id := hord.ids id hannounced
  have hfin : c.finishes = 1 := by
    have hpos := hord.finished_of_announced hannounced
    have hopening := hord.opening
    omega
  rw [hrec, Endpoint.recorded_eq hc]
  refine ⟨c, hc, ?_, ?_, ?_, ?_⟩
  · refine (hident.finished (by omega)).imp_of_run ?_
    intro es e ev e' hr hby
    rw [← hid]
    exact hby.authentic a (Endpoint.role_eq _ (Endpoint.Runs.guarded _ hr))
  · intro hclient
    rw [← hid]
    exact hident.client hclient
  · rw [List.countP_map, ← hfin]
    congr 1
    funext call
    cases call <;> rfl
  · intro i id' text hi
    rw [List.getElem?_map] at hi
    obtain ⟨call, hcalli, hsig'⟩ := Option.map_eq_some_iff.mp hi
    obtain rfl : call = .onTextMsg id' text := ClientCall.signal_injective hsig'
    have hid' := hord.ids id' (Or.inr ⟨text, List.mem_of_getElem? hcalli⟩)
    obtain ⟨j, id'', hj, hcallj⟩ := hord.texts i id' text hcalli
    have hid'' := hord.ids id'' (Or.inl (List.mem_of_getElem? hcallj))
    refine ⟨hid'.symm.trans hid, j, hj, ?_⟩
    rw [List.getElem?_map, hcallj, ← hid, hid'']
    rfl

/-- A server that lists key 7 and receives a request signed with it. -/
theorem signal_authenticated_request :
    ∃ (es : List (Event (List UInt8) ChachaContext)) (e : Endpoint (List UInt8) ChachaContext)
      (c : Conn (List UInt8) ChachaContext),
      Endpoint.Runs samplePrimitives .chatServer [] es e ∧
      (0, Signal.sigHandshakeFinished (sampleKey 7)) ∈ e.signals ∧ e.sessions[0]? = some c ∧
      Past (StepOf (Endpoint.step samplePrimitives)) (Endpoint.init .chatServer []) es
        (AuthenticHello sampleQt sampleCurve .chatServer 0 (sampleKey 7)
          c.sess.peerStaticPubkey) := by
  obtain ⟨e, hrun, hsig⟩ := exists_run_of_exec (Endpoint.step samplePrimitives)
    [.updatePeerList [⟨[], sampleKey 7, [], 0⟩],
      .accept (sampleKey 3) sampleContext sampleContext,
      .socket 0 (.readSome 0 (sampleHello 1 7 5).pack), .socket 0 (.readDone 0)]
    (fun e => decide ((0, .sigHandshakeFinished (sampleKey 7)) ∈ e.signals))
    (s := Endpoint.init .chatServer []) (by decide +kernel)
  obtain ⟨c, hc, hpast, _⟩ := signal_authenticated mbedtlsChacha20 hrun (of_decide_eq_true hsig)
    (Or.inl rfl)
  exact ⟨_, e, c, hrun, of_decide_eq_true hsig, hc, hpast⟩

end Bytes

end Enchat
