import Enchat.Model.Sample
import Enchat.Proofs.KeystreamReuse
import Enchat.Proofs.NetworkStep

/-!
# Runs on the network

Nothing that goes over the network gives an ephemeral scalar away, and a packet with the signature
of an honest endpoint was made by one of its sessions. Both hold together in every run, whatever
the attacker delivers.
-/

namespace Enchat
open Symbolic Transition ListUpdate

variable {Agent QString : Type}

lemma HelloBody.term_injective {body body' : HelloBody (NetTerm Agent)}
    (h : body.term = body'.term) : body = body' := by
  obtain ⟨type, name, staticKey, ephemeralKey, timestamp⟩ := body
  obtain ⟨type', name', staticKey', ephemeralKey', timestamp'⟩ := body'
  simp only [HelloBody.term, Term.pair.injEq, Term.datum.injEq, Datum.fields.injEq] at h
  obtain ⟨⟨rfl, rfl, rfl⟩, rfl, rfl⟩ := h
  rfl

/-- A packet that session `s` of the endpoint `a` has signed. -/
structure HelloPacket.From (hp : HelloPacket (NetTerm Agent)) (a : Agent) (s : ℕ) : Prop where
  staticKey : hp.staticKey = .pk a
  ephemeralKey : hp.ephemeralKey = Term.base.dh (.session s)
  sig : hp.sig = .sig a hp.toHelloBody.term

namespace ChatSession

variable {Ctx : Type} {P : Primitives (NetTerm Agent) QString Ctx}
  {sess : ChatSession (NetTerm Agent) QString Ctx} {a : Agent} {s : ℕ}

/-- The keys of the session with number `s` of the endpoint `a`. -/
structure HasKeys (sess : ChatSession (NetTerm Agent) QString Ctx) (a : Agent) (s : ℕ) :
    Prop where
  prikey : sess.staticPrikey = .sk a
  pubkey : sess.staticPubkey = .pk a
  ephemeralPri : sess.ephemeralPriKey = .scalar (.session s)
  ephemeralPub : sess.ephemeralPubKey = Term.base.dh (.session s)

lemma HasKeys.adoptPeer (h : sess.HasKeys a s) (hp : HelloPacket (NetTerm Agent)) :
    (sess.adoptPeer P hp).HasKeys a s := by
  unfold ChatSession.adoptPeer
  split
  · exact ⟨h.prikey, h.pubkey, h.ephemeralPri, h.ephemeralPub⟩
  · exact h

lemma HasKeys.agree (h : sess.HasKeys a s) (hp : HelloPacket (NetTerm Agent)) :
    (sess.agree P hp).HasKeys a s := by
  have hadopt : (sess.adoptPeer P hp).HasKeys a s := h.adoptPeer hp
  exact ⟨hadopt.prikey, hadopt.pubkey, hadopt.ephemeralPri, hadopt.ephemeralPub⟩

lemma HasKeys.initChaCha20 (h : sess.HasKeys a s) : (sess.initChaCha20 P).HasKeys a s :=
  ⟨h.prikey, h.pubkey, h.ephemeralPri, h.ephemeralPub⟩

lemma HasKeys.writeMsg (h : sess.HasKeys a s) (msg : List UInt8) (size : UInt16) :
    (sess.writeMsg P msg size).1.HasKeys a s :=
  ⟨h.prikey, h.pubkey, h.ephemeralPri, h.ephemeralPub⟩

variable [DecidableEq Agent] {q : Qt (NetTerm Agent) QString}
  {keyBytes : NetTerm Agent → List UInt8}
  {sess : ChatSession (NetTerm Agent) QString ChachaContext}

lemma HasKeys.helloPacket (h : sess.HasKeys a s) (t : UInt8) :
    (sess.helloPacket (symbolicPrimitives q keyBytes) t).From a s := by
  refine ⟨h.pubkey, h.ephemeralPub, ?_⟩
  simp only [ChatSession.helloPacket, symbolicPrimitives, h.prikey]

lemma HasKeys.reply (h : sess.HasKeys a s) (hp : HelloPacket (NetTerm Agent)) :
    ∀ hp' ∈ sess.reply (symbolicPrimitives q keyBytes) hp, hp'.From a s := by
  intro hp' hmem
  unfold ChatSession.reply at hmem
  split at hmem
  · rw [List.mem_singleton.mp hmem]
    exact (h.agree hp).initChaCha20.helloPacket 2
  · cases hmem

end ChatSession

variable {Ctx : Type}

namespace Network

/-- A session of `a` has put a packet with the signed term `t` on the network. -/
def Signed (net : Network Agent QString Ctx) (a : Agent) (t : NetTerm Agent) : Prop :=
  ∃ (s : ℕ) (m : Member Agent QString Ctx) (hp : HelloPacket (NetTerm Agent)),
    net.members[s]? = some m ∧ m.agent = a ∧ hp ∈ m.hellos ∧ hp.toHelloBody.term = t

/-- No session disappears, and none forgets what it has written. -/
def Grows (net net' : Network Agent QString Ctx) : Prop :=
  ∀ (s : ℕ) m, net.members[s]? = some m → ∃ m', net'.members[s]? = some m' ∧ m'.agent = m.agent ∧
    ∀ hp ∈ m.hellos, hp ∈ m'.hellos

lemma Signed.mono {net net' : Network Agent QString Ctx} (hgrows : net.Grows net') {a : Agent}
    {t : NetTerm Agent} (h : net.Signed a t) : net'.Signed a t := by
  obtain ⟨s, m, hp, hm, rfl, hmem, ht⟩ := h
  obtain ⟨m', hm', hagent, hhellos⟩ := hgrows s m hm
  exact ⟨s, m', hp, hm', hagent, hhellos hp hmem, ht⟩

end Network

lemma Member.Step.grows {P : Primitives (NetTerm Agent) QString Ctx}
    {contains : NetTerm Agent → Bool} {m m' : Member Agent QString Ctx}
    {packet : Option (HelloPacket (NetTerm Agent))} {terms : List (NetTerm Agent)}
    (h : Member.Step P contains m packet m' terms) :
    m'.agent = m.agent ∧ ∀ hp ∈ m.hellos, hp ∈ m'.hellos := by
  cases h with
  | connected _ => exact ⟨rfl, fun hp hmem => List.mem_append_left _ hmem⟩
  | finished _ _ _ _ => exact ⟨rfl, fun hp hmem => List.mem_append_left _ hmem⟩
  | _ => exact ⟨rfl, fun hp hmem => hmem⟩

namespace Network

lemma grows_snoc (net : Network Agent QString Ctx) (m : Member Agent QString Ctx) :
    net.Grows { net with members := net.members ++ [m] } := by
  intro s m' hm'
  refine ⟨m', ?_, rfl, fun hp hmem => hmem⟩
  rw [List.getElem?_append_left (List.getElem?_eq_some_iff.mp hm').1]
  exact hm'

lemma grows_set {net : Network Agent QString Ctx} {s : ℕ} {m m' : Member Agent QString Ctx}
    (hm : net.members[s]? = some m) (hagent : m'.agent = m.agent)
    (hhellos : ∀ hp ∈ m.hellos, hp ∈ m'.hellos) (seen : List (NetTerm Agent)) :
    net.Grows { net with members := net.members.set s m', seen := seen } := by
  intro s' m₁ hm₁
  by_cases hs : s' = s
  · subst hs
    obtain rfl := Option.some.inj (hm.symm.trans hm₁)
    exact ⟨m', getElem?_set_of_some hm, hagent, hhellos⟩
  · exact ⟨m₁, by rw [List.getElem?_set_ne (Ne.symm hs)]; exact hm₁, rfl, fun hp hmem => hmem⟩

end Network

section Sound

variable (honest : Agent → Prop) (keyBytes : NetTerm Agent → List UInt8)
  (signed : Agent → NetTerm Agent → Prop)

structure Accepted (s : ℕ) (hp : HelloPacket (NetTerm Agent))
    (sess : ChatSession (NetTerm Agent) QString ChachaContext) : Prop where
  key : sess.chacha20Key = hp.ephemeralKey.dh (.session s)
  ephemeral : sess.ephemeralPubKey = Term.base.dh (.session s)
  contexts : ∀ ctx : ChachaContext, sess.chachaEctx = ctx.started (keyBytes sess.chacha20Key) ∧
    sess.chachaDctx = ctx.started (keyBytes sess.chacha20Key)
  authentic : ∀ b, honest b → sess.peerStaticPubkey = .pk b →
    hp.sig = .sig b hp.toHelloBody.term ∧ signed b hp.toHelloBody.term

/-- What holds of every session on the network. -/
structure Member.Sound (s : ℕ) (m : Member Agent QString ChachaContext) : Prop where
  owner : honest m.agent
  keys : m.sess.HasKeys m.agent s
  hellos : ∀ hp ∈ m.hellos, hp.From m.agent s
  inits : ∀ p ∈ m.inits, Accepted honest keyBytes signed s p.1 p.2

variable {honest keyBytes signed}

lemma Accepted.mono {signed' : Agent → NetTerm Agent → Prop}
    (hsigned : ∀ a t, signed a t → signed' a t) {s : ℕ} {hp : HelloPacket (NetTerm Agent)}
    {sess : ChatSession (NetTerm Agent) QString ChachaContext}
    (h : Accepted honest keyBytes signed s hp sess) : Accepted honest keyBytes signed' s hp sess :=
  ⟨h.key, h.ephemeral, h.contexts, fun b hb hpeer =>
    (h.authentic b hb hpeer).imp_right (hsigned b _)⟩

lemma Member.Sound.mono {signed' : Agent → NetTerm Agent → Prop}
    (hsigned : ∀ a t, signed a t → signed' a t) {s : ℕ} {m : Member Agent QString ChachaContext}
    (h : m.Sound honest keyBytes signed s) : m.Sound honest keyBytes signed' s :=
  ⟨h.owner, h.keys, h.hellos, fun p hmem => (h.inits p hmem).mono hsigned⟩

section Step

variable [DecidableEq Agent] {q : Qt (NetTerm Agent) QString}

lemma Accepted.of_verifies {sess : ChatSession (NetTerm Agent) QString ChachaContext} {a : Agent}
    {s : ℕ} (hkeys : sess.HasKeys a s) {hp : HelloPacket (NetTerm Agent)}
    (hv : sess.Verifies (symbolicPrimitives q keyBytes) hp)
    (hsig : ∀ b, honest b → hp.sig = .sig b hp.toHelloBody.term → signed b hp.toHelloBody.term) :
    Accepted honest keyBytes signed s hp
      ((sess.agree (symbolicPrimitives q keyBytes) hp).initChaCha20
        (symbolicPrimitives q keyBytes)) := by
  have hkeys' : (sess.agree (symbolicPrimitives q keyBytes) hp).HasKeys a s := hkeys.agree hp
  refine ⟨?_, hkeys'.ephemeralPub, fun ctx => ⟨?_, ?_⟩, ?_⟩
  · change ((symbolicPrimitives q keyBytes).x25519 sess.ephemeralPriKey hp.ephemeralKey).1 = _
    rw [hkeys.ephemeralPri]
    rfl
  · exact ChachaContext.started_congr sess.chachaEctx ctx _
  · exact ChachaContext.started_congr sess.chachaDctx ctx _
  · intro b hb hpeer
    have hpeer' : (sess.adoptPeer (symbolicPrimitives q keyBytes) hp).peerStaticPubkey = .pk b :=
      hpeer
    have hverify : (symbolicPrimitives q keyBytes).ed25519Verify hp.sig hp.toHelloBody
        (.pk b) = true := hpeer' ▸ hv
    have heq : hp.sig = .sig b hp.toHelloBody.term := of_decide_eq_true hverify
    exact ⟨heq, hsig b hb heq⟩

lemma Member.Sound.step {contains : NetTerm Agent → Bool}
    {m m' : Member Agent QString ChachaContext} {packet : Option (HelloPacket (NetTerm Agent))}
    {terms : List (NetTerm Agent)} {s : ℕ} (h : m.Sound honest keyBytes signed s)
    (hs : Member.Step (symbolicPrimitives q keyBytes) contains m packet m' terms)
    (hsig : ∀ hp ∈ packet, ∀ b, honest b → hp.sig = .sig b hp.toHelloBody.term →
      signed b hp.toHelloBody.term) :
    m'.Sound honest keyBytes signed s ∧
      ∀ t ∈ terms, (∃ hp ∈ m'.hellos, t ∈ hp.terms) ∨ ∃ k data, t = .enc k (.datum data) := by
  cases hs with
  | connected _ =>
    refine ⟨⟨h.owner, h.keys, ?_, h.inits⟩, fun t ht => Or.inl ⟨_, by simp, ht⟩⟩
    intro hp hmem
    rcases List.mem_append.mp hmem with hold | hnew
    · exact h.hellos hp hold
    · rw [List.mem_singleton.mp hnew]
      exact h.keys.helloPacket 1
  | written _ => exact ⟨⟨h.owner, h.keys, h.hellos, h.inits⟩, by simp⟩
  | unlisted _ _ => exact ⟨⟨h.owner, h.keys, h.hellos, h.inits⟩, by simp⟩
  | @badSignature hp _ _ _ =>
    exact ⟨⟨h.owner, h.keys.adoptPeer hp, h.hellos, h.inits⟩, by simp⟩
  | @noSharedKey hp _ _ _ _ => exact ⟨⟨h.owner, h.keys.agree hp, h.hellos, h.inits⟩, by simp⟩
  | @finished hp _ _ hv _ =>
    refine ⟨⟨h.owner, (h.keys.agree hp).initChaCha20, ?_, ?_⟩, ?_⟩
    · intro hp' hmem
      rcases List.mem_append.mp hmem with hold | hnew
      · exact h.hellos hp' hold
      · exact h.keys.reply hp hp' hnew
    · intro p hmem
      rcases List.mem_append.mp hmem with hold | hnew
      · exact h.inits p hold
      · rw [List.mem_singleton.mp hnew]
        exact Accepted.of_verifies h.keys hv (hsig hp rfl)
    · intro t ht
      obtain ⟨hp', hmem, ht'⟩ := List.mem_flatMap.mp ht
      exact Or.inl ⟨hp', List.mem_append_right _ hmem, ht'⟩
  | readFails _ => exact ⟨⟨h.owner, h.keys, h.hellos, h.inits⟩, by simp⟩
  | writeMsg _ =>
    refine ⟨⟨h.owner, h.keys.writeMsg _ _, h.hellos, h.inits⟩, fun t ht => Or.inr ?_⟩
    exact ⟨_, _, List.mem_singleton.mp ht⟩

end Step

namespace Network

variable (honest keyBytes)

/-- All sessions are sound, and nothing that has gone over the network gives anything away. -/
structure Sound (net : Network Agent QString ChachaContext) : Prop where
  members : ∀ (s : ℕ) m, net.members[s]? = some m → m.Sound honest keyBytes net.Signed s
  seen : ∀ t ∈ net.seen, Safe honest Scalar.Secret net.Signed t

variable {honest keyBytes}

lemma safe_terms {net : Network Agent QString ChachaContext} {s : ℕ}
    {m : Member Agent QString ChachaContext} (hm : net.members[s]? = some m)
    (hsound : m.Sound honest keyBytes net.Signed s) {hp : HelloPacket (NetTerm Agent)}
    (hmem : hp ∈ m.hellos) {t : NetTerm Agent} (ht : t ∈ hp.terms) :
    Safe honest Scalar.Secret net.Signed t := by
  obtain ⟨hstatic, hephemeral, hsig⟩ := hsound.hellos hp hmem
  simp only [HelloPacket.terms, List.mem_cons, List.not_mem_nil, or_false] at ht
  rcases ht with rfl | rfl | rfl
  · rw [hstatic]
    trivial
  · rw [hephemeral]
    exact ⟨trivial, Multiset.countP_le_card Scalar.Secret {.session s}⟩
  · rw [hsig]
    exact fun _ => ⟨s, m, hp, hm, rfl, hmem, rfl⟩

lemma Sound.snoc {net : Network Agent QString ChachaContext} (h : net.Sound honest keyBytes)
    {m : Member Agent QString ChachaContext} (howner : honest m.agent)
    (hkeys : m.sess.HasKeys m.agent net.members.length) (hhellos : m.hellos = [])
    (hinits : m.inits = []) :
    Network.Sound honest keyBytes { net with members := net.members ++ [m] } := by
  have hgrows := net.grows_snoc m
  refine ⟨?_, fun t ht => (h.seen t ht).mono (fun a t => Signed.mono hgrows)⟩
  intro s m' hm'
  rcases getElem?_snoc_cases hm' with ⟨rfl, rfl⟩ | hold
  · exact ⟨howner, hkeys, by simp [hhellos], by simp [hinits]⟩
  · exact (h.members s m' hold).mono (fun a t => Signed.mono hgrows)

/-- A packet that is signed by an honest endpoint was made by one of its sessions. -/
lemma Sound.signed_of_can {net : Network Agent QString ChachaContext}
    (h : net.Sound honest keyBytes) {ev : NetEvent Agent QString ChachaContext}
    (hcan : Can honest net ev) {hp : HelloPacket (NetTerm Agent)} (hpacket : hp ∈ ev.packet)
    {b : Agent} (hb : honest b) (hsig : hp.sig = .sig b hp.toHelloBody.term) :
    net.Signed b hp.toHelloBody.term := by
  cases ev with
  | deliver s hp' =>
    obtain rfl : hp' = hp := by simpa [NetEvent.packet] using hpacket
    have hderives := hcan hp'.sig (by simp [HelloPacket.terms])
    rw [hsig] at hderives
    exact hderives.signed_of_honest h.seen hb
  | _ => simp [NetEvent.packet] at hpacket

/-- Session `s` has accepted `hp`, and `sess` is the session after `initChaCha20`. -/
def Initialised (net : Network Agent QString ChachaContext) (s : ℕ)
    (hp : HelloPacket (NetTerm Agent)) (sess : ChatSession (NetTerm Agent) QString ChachaContext) :
    Prop :=
  ∃ m, net.members[s]? = some m ∧ (hp, sess) ∈ m.inits

lemma Sound.accepted {net : Network Agent QString ChachaContext} (h : net.Sound honest keyBytes)
    {s : ℕ} {hp : HelloPacket (NetTerm Agent)}
    {sess : ChatSession (NetTerm Agent) QString ChachaContext} (hinit : net.Initialised s hp sess) :
    Accepted honest keyBytes net.Signed s hp sess := by
  obtain ⟨m, hm, hmem⟩ := hinit
  exact (h.members s m hm).inits (hp, sess) hmem

/-- A packet that a session has accepted from an honest peer was written by a session of that
peer. -/
lemma Sound.sender {net : Network Agent QString ChachaContext} (h : net.Sound honest keyBytes)
    {s : ℕ} {hp : HelloPacket (NetTerm Agent)}
    {sess : ChatSession (NetTerm Agent) QString ChachaContext} (hinit : net.Initialised s hp sess)
    {b : Agent} (hb : honest b) (hpeer : sess.peerStaticPubkey = .pk b) :
    ∃ (j : ℕ) (m : Member Agent QString ChachaContext), net.members[j]? = some m ∧ m.agent = b ∧
      hp ∈ m.hellos ∧ hp.From b j ∧ m.sess.HasKeys b j := by
  obtain ⟨hsig, j, m, hp', hm, rfl, hmem, hterm⟩ := (h.accepted hinit).authentic b hb hpeer
  have hfrom := (h.members j m hm).hellos hp' hmem
  have hbody : hp'.toHelloBody = hp.toHelloBody := HelloBody.term_injective hterm
  have heq : hp' = hp := by
    have hsigs : hp'.sig = hp.sig := by rw [hfrom.sig, hterm, hsig]
    cases hp'
    cases hp
    simp only at hbody hsigs
    rw [hbody, hsigs]
  exact ⟨j, m, hm, rfl, heq ▸ hmem, heq ▸ hfrom, (h.members j m hm).keys⟩

variable [DecidableEq Agent] [DecidableEq QString] {q : Qt (NetTerm Agent) QString}

theorem Sound.step {net net' : Network Agent QString ChachaContext}
    {ev : NetEvent Agent QString ChachaContext} (h : net.Sound honest keyBytes)
    (hs : Step (symbolicPrimitives q keyBytes) net ev net') (hcan : Can honest net ev) :
    net'.Sound honest keyBytes := by
  cases hs with
  | accept => exact h.snoc hcan ⟨rfl, rfl, rfl, rfl⟩ rfl rfl
  | doConnect => exact h.snoc hcan ⟨rfl, rfl, rfl, rfl⟩ rfl rfl
  | @move s m m' _ terms hm hms =>
    obtain ⟨hagent, hhellos⟩ := hms.grows
    have hgrows := grows_set hm hagent hhellos (net.seen ++ terms)
    obtain ⟨hsound, hterms⟩ := (h.members s m hm).step hms
      (fun hp hpacket b hb hsig => h.signed_of_can hcan hpacket hb hsig)
    have hsound' := hsound.mono (fun a t => Signed.mono hgrows)
    refine ⟨?_, ?_⟩
    · intro s' m₁ hm₁
      rcases getElem?_set_cases hm₁ with ⟨rfl, rfl⟩ | ⟨_, hold⟩
      · exact hsound'
      · exact (h.members s' m₁ hold).mono (fun a t => Signed.mono hgrows)
    · intro t ht
      rcases List.mem_append.mp ht with hold | hnew
      · exact (h.seen t hold).mono (fun a t => Signed.mono hgrows)
      · rcases hterms t hnew with ⟨hp, hmem, ht'⟩ | ⟨k, data, rfl⟩
        · exact safe_terms (getElem?_set_of_some hm) hsound' hmem ht'
        · trivial
  | updatePeerList => exact ⟨h.members, h.seen⟩

theorem sound {es : List (NetEvent Agent QString ChachaContext)}
    {net : Network Agent QString ChachaContext}
    (h : Run (Guarded (StepOf (step (symbolicPrimitives q keyBytes))) (Can honest)) init es net) :
    net.Sound honest keyBytes := by
  refine h.invariant ⟨fun s m hm => ?_, fun t ht => ?_⟩
    (fun _ _ _ hsound hs => hsound.step (step_step hs.1) hs.2)
  · cases hm
  · cases ht

end Network

end Sound

namespace Network

/-- An attacker that delivers what has gone over the network before. -/
def Replays (honest : Agent → Prop) (net : Network Agent QString Ctx) :
    NetEvent Agent QString Ctx → Prop
  | .accept a _ _ | .doConnect a _ _ _ _ => honest a
  | .deliver _ hp => ∀ t ∈ hp.terms, t ∈ net.seen
  | _ => True

instance [DecidableEq Agent] (honest : Agent → Prop) [DecidablePred honest]
    (net : Network Agent QString Ctx) :
    (ev : NetEvent Agent QString Ctx) → Decidable (Replays honest net ev)
  | .accept a _ _ | .doConnect a _ _ _ _ => inferInstanceAs (Decidable (honest a))
  | .deliver _ hp => inferInstanceAs (Decidable (∀ t ∈ hp.terms, t ∈ net.seen))
  | .connected _ | .written _ _ | .readFails _ | .writeMsg _ _ _ | .updatePeerList _ _ =>
    .isTrue trivial

lemma can_of_replays {honest : Agent → Prop} {net : Network Agent QString Ctx}
    {ev : NetEvent Agent QString Ctx} (h : Replays honest net ev) : Can honest net ev := by
  cases ev with
  | deliver s hp => exact fun t ht => Derives.known (h t ht)
  | _ => exact h

lemma exists_replaying_run (es : List (NetEvent ℕ (NetTerm ℕ) ChachaContext))
    (test : Network ℕ (NetTerm ℕ) ChachaContext → Bool)
    (h : (exec (guardNext (step sampleNetPrimitives) (Replays SampleHonest)) init es).any test) :
    ∃ net, Run (Guarded (StepOf (step sampleNetPrimitives)) (Can SampleHonest)) init es net ∧
      test net = true := by
  obtain ⟨net, hrun, htest⟩ := exists_guarded_run_of_exec _ _ es test h
  exact ⟨net, hrun.mono (fun _ _ _ hs => ⟨hs.1, can_of_replays hs.2⟩), htest⟩

end Network

end Enchat
