import Enchat.Proofs.NetworkRun

/-!
# Secrecy and agreement of session keys

A session that has accepted a packet of an honest endpoint shares a key with a session of that
endpoint, and no attacker can derive it.
-/

namespace Enchat
open Symbolic Transition

namespace Network

variable {Agent QString : Type} [DecidableEq Agent] [DecidableEq QString] {honest : Agent → Prop}
  {q : Qt (NetTerm Agent) QString} {keyBytes : NetTerm Agent → List UInt8}

/-- In every run, against every attacker: a session that has run `initChaCha20` with the static key
of an honest endpoint has the Diffie-Hellman value of its own ephemeral key and of an ephemeral key
that a session of that endpoint generated and signed, and the attacker cannot derive it. Two
sessions that have run `initChaCha20` on each other's ephemeral keys have the same key, and each
decrypts with the context that the other encrypts with. -/
theorem session_key_secret {es : List (NetEvent Agent QString ChachaContext)}
    {net : Network Agent QString ChachaContext}
    (h : Run (Guarded (StepOf (step (symbolicPrimitives q keyBytes))) (Can honest)) init es net) :
    (∀ s hp sess b, net.Initialised s hp sess → honest b → sess.peerStaticPubkey = .pk b →
      (∃ (j : ℕ) (m : Member Agent QString ChachaContext), net.members[j]? = some m ∧ m.agent = b ∧
        hp ∈ m.hellos ∧ hp.sig = .sig b hp.toHelloBody.term ∧
        hp.ephemeralKey = m.sess.ephemeralPubKey ∧
        m.sess.ephemeralPubKey = Term.base.dh (.session j) ∧
        sess.ephemeralPubKey = Term.base.dh (.session s) ∧
        sess.chacha20Key = m.sess.ephemeralPubKey.dh (.session s)) ∧
      ¬Derives honest Scalar.Secret {t | t ∈ net.seen} sess.chacha20Key) ∧
    (∀ s hp sess s' hp' sess', net.Initialised s hp sess → net.Initialised s' hp' sess' →
      hp.ephemeralKey = sess'.ephemeralPubKey → hp'.ephemeralKey = sess.ephemeralPubKey →
      sess.chacha20Key = sess'.chacha20Key ∧ sess.chachaEctx = sess'.chachaDctx ∧
        sess.chachaDctx = sess'.chachaEctx) := by
  have hsound := sound h
  constructor
  · intro s hp sess b hinit hb hpeer
    obtain ⟨j, m, hm, hagent, hmem, hfrom, hkeys⟩ := hsound.sender hinit hb hpeer
    have hephemeral : hp.ephemeralKey = m.sess.ephemeralPubKey :=
      hfrom.ephemeralKey.trans hkeys.ephemeralPub.symm
    have hacc := hsound.accepted hinit
    refine ⟨⟨j, m, hm, hagent, hmem, hfrom.sig, hephemeral, hkeys.ephemeralPub, hacc.ephemeral,
      hephemeral ▸ hacc.key⟩, ?_⟩
    rw [hacc.key, hfrom.ephemeralKey]
    exact not_derives_dh hsound.seen trivial trivial
  · intro s hp sess s' hp' sess' hinit hinit' hpeer hpeer'
    have hacc := hsound.accepted hinit
    have hacc' := hsound.accepted hinit'
    have hkey : sess.chacha20Key = sess'.chacha20Key := by
      rw [hacc.key, hacc'.key, hpeer, hpeer', hacc.ephemeral, hacc'.ephemeral, Term.dh_comm]
    refine ⟨hkey, ?_, ?_⟩
    · rw [(hacc.contexts sess.chachaEctx).1, (hacc'.contexts sess.chachaEctx).2, hkey]
    · rw [(hacc.contexts sess.chachaEctx).2, (hacc'.contexts sess.chachaEctx).1, hkey]

/-- Endpoints `1` and `0` finish a handshake with each other. -/
theorem session_key_secret_handshake :
    ∃ (es : List (NetEvent ℕ (NetTerm ℕ) ChachaContext)) (net : Network ℕ (NetTerm ℕ) ChachaContext)
      (hp hp' : HelloPacket (NetTerm ℕ))
      (sess sess' : ChatSession (NetTerm ℕ) (NetTerm ℕ) ChachaContext),
      Run (Guarded (StepOf (step sampleNetPrimitives)) (Can SampleHonest)) init es net ∧
      net.Initialised 0 hp sess ∧ net.Initialised 1 hp' sess' ∧
      ¬Derives SampleHonest Scalar.Secret {t | t ∈ net.seen} sess.chacha20Key ∧
      sess.chacha20Key = sess'.chacha20Key ∧ sess.chachaEctx = sess'.chachaDctx := by
  let test (net : Network ℕ (NetTerm ℕ) ChachaContext) : Bool :=
    (net.members[0]?).any fun m => (net.members[1]?).any fun m' =>
      match m.inits, m'.inits with
      | [(hp, sess)], [(hp', sess')] =>
        decide (sess.peerStaticPubkey = .pk 0) &&
          decide (hp.ephemeralKey = sess'.ephemeralPubKey) &&
          decide (hp'.ephemeralKey = sess.ephemeralPubKey)
      | _, _ => false
  obtain ⟨net, hrun, hp⟩ := exists_replaying_run
    [.updatePeerList 0 [⟨.datum (.bytes []), .pk 1, .datum (.bytes []), 0⟩],
      .doConnect 1 (.datum (.bytes [])) (.pk 0) sampleContext sampleContext,
      .accept 0 sampleContext sampleContext, .connected 0, .written 0 0,
      .deliver 1 (sampleNetHello 1 0 1), .deliver 0 (sampleNetHello 0 1 2)]
    test (by decide +kernel)
  obtain ⟨m, hm, hp⟩ := (Option.any_eq_true _ _).mp hp
  obtain ⟨m', hm', hp⟩ := (Option.any_eq_true _ _).mp hp
  split at hp
  · rename_i hp₁ sess₁ hp₂ sess₂ hinits hinits'
    simp only [Bool.and_eq_true, decide_eq_true_eq] at hp
    obtain ⟨⟨hpeer, heq⟩, heq'⟩ := hp
    have hinit : net.Initialised 0 hp₁ sess₁ := ⟨m, hm, by simp [hinits]⟩
    have hinit' : net.Initialised 1 hp₂ sess₂ := ⟨m', hm', by simp [hinits']⟩
    obtain ⟨hsecret, hagree⟩ := session_key_secret hrun
    obtain ⟨hkey, hctx, _⟩ := hagree 0 hp₁ sess₁ 1 hp₂ sess₂ hinit hinit' heq heq'
    exact ⟨_, net, hp₁, hp₂, sess₁, sess₂, hrun, hinit, hinit',
      (hsecret 0 hp₁ sess₁ 0 hinit (by decide) hpeer).2, hkey, hctx⟩
  · cases hp

end Network

end Enchat
