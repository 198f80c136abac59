import Enchat.Model.Sample
import Enchat.Proofs.NetworkRun

/-!
# Who a finished session corresponds to

A session that reports the end of its handshake has accepted a packet that a session of the reported
peer has written. The signature covers neither the peer nor anything fresh, so that the packet may
have been meant for someone else, and any number of sessions may accept it.
-/

namespace Enchat
open Symbolic Transition ListUpdate

variable {Agent QString : Type}

def ClientCall.finishedId : ClientCall QString → Option QString
  | .onHandShakeFinished id => some id
  | _ => none

section Named

variable [DecidableEq Agent] {q : Qt (NetTerm Agent) QString}
  {keyBytes : NetTerm Agent → List UInt8}

/-- The ids of a session stand for its peer: `id_` once it has a peer, and every id with which it has
reported the end of a handshake. -/
structure Member.Named (q : Qt (NetTerm Agent) QString) (m : Member Agent QString ChachaContext) :
    Prop where
  reported : m.calls.filterMap ClientCall.finishedId = m.inits.map (fun p => p.2.id)
  inits : ∀ p ∈ m.inits, q.fromBase64 p.2.id = p.2.peerStaticPubkey
  sess : m.sess.peerStaticPubkey = .datum (.bytes []) ∨
    q.fromBase64 m.sess.id = m.sess.peerStaticPubkey

lemma fromBase64_adoptPeer (hround : ∀ t, q.fromBase64 (q.toBase64 t) = t)
    {sess : ChatSession (NetTerm Agent) QString ChachaContext}
    (h : sess.peerStaticPubkey = .datum (.bytes []) ∨ q.fromBase64 sess.id = sess.peerStaticPubkey)
    (hp : HelloPacket (NetTerm Agent)) :
    q.fromBase64 (sess.adoptPeer (symbolicPrimitives q keyBytes) hp).id =
      (sess.adoptPeer (symbolicPrimitives q keyBytes) hp).peerStaticPubkey := by
  unfold ChatSession.adoptPeer
  split
  · exact hround hp.staticKey
  · rename_i hne
    rcases h with hempty | hnamed
    · exact absurd (decide_eq_true hempty) hne
    · exact hnamed

lemma Member.Named.step (hround : ∀ t, q.fromBase64 (q.toBase64 t) = t)
    {contains : NetTerm Agent → Bool} {m m' : Member Agent QString ChachaContext}
    {packet : Option (HelloPacket (NetTerm Agent))} {terms : List (NetTerm Agent)}
    (h : m.Named q)
    (hs : Member.Step (symbolicPrimitives q keyBytes) contains m packet m' terms) :
    m'.Named q := by
  have hadopt : ∀ hp : HelloPacket (NetTerm Agent),
      q.fromBase64 (m.sess.adoptPeer (symbolicPrimitives q keyBytes) hp).id =
        (m.sess.adoptPeer (symbolicPrimitives q keyBytes) hp).peerStaticPubkey :=
    fun hp => fromBase64_adoptPeer hround h.sess hp
  have hquiet : ∀ call : ClientCall QString, call.finishedId = none →
      (m.calls ++ [call]).filterMap ClientCall.finishedId = m.inits.map (fun p => p.2.id) := by
    intro call hcall
    rw [List.filterMap_append, h.reported, List.filterMap_cons_none hcall, List.filterMap_nil,
      List.append_nil]
  cases hs with
  | connected _ => exact ⟨hquiet _ rfl, h.inits, h.sess⟩
  | written _ => exact ⟨h.reported, h.inits, h.sess⟩
  | unlisted _ _ => exact ⟨hquiet _ rfl, h.inits, h.sess⟩
  | @badSignature hp _ _ _ => exact ⟨hquiet _ rfl, h.inits, Or.inr (hadopt hp)⟩
  | @noSharedKey hp _ _ _ _ => exact ⟨h.reported, h.inits, Or.inr (hadopt hp)⟩
  | @finished hp _ _ _ _ =>
    refine ⟨?_, ?_, Or.inr (hadopt hp)⟩
    · rw [List.filterMap_append, List.map_append, h.reported]
      rfl
    · intro p hmem
      rcases List.mem_append.mp hmem with hold | hnew
      · exact h.inits p hold
      · rw [List.mem_singleton.mp hnew]
        exact hadopt hp
  | readFails _ => exact ⟨h.reported, h.inits, h.sess⟩
  | writeMsg _ => exact ⟨h.reported, h.inits, h.sess⟩

end Named

namespace Network

def Sender (net : Network Agent QString ChachaContext) (b : Agent) (j : ℕ)
    (hp : HelloPacket (NetTerm Agent)) : Prop :=
  ∃ m, net.members[j]? = some m ∧ m.agent = b ∧ hp ∈ m.hellos

/-- A session is known by the ephemeral key in its packets. -/
lemma Sound.sender_iff {honest : Agent → Prop} {keyBytes : NetTerm Agent → List UInt8}
    {net : Network Agent QString ChachaContext} (h : net.Sound honest keyBytes) {b b' : Agent}
    {j j' : ℕ} {hp hp' : HelloPacket (NetTerm Agent)} (hsend : net.Sender b j hp)
    (hsend' : net.Sender b' j' hp') : j = j' ↔ hp.ephemeralKey = hp'.ephemeralKey := by
  obtain ⟨m, hm, rfl, hmem⟩ := hsend
  obtain ⟨m', hm', rfl, hmem'⟩ := hsend'
  rw [((h.members j m hm).hellos hp hmem).ephemeralKey,
    ((h.members j' m' hm').hellos hp' hmem').ephemeralKey]
  constructor
  · rintro rfl
    rfl
  · intro heq
    simpa [Term.dh] using heq

variable [DecidableEq Agent] [DecidableEq QString] {honest : Agent → Prop}
  {q : Qt (NetTerm Agent) QString} {keyBytes : NetTerm Agent → List UInt8}

lemma named (hround : ∀ t, q.fromBase64 (q.toBase64 t) = t)
    {es : List (NetEvent Agent QString ChachaContext)} {net : Network Agent QString ChachaContext}
    (h : Run (Guarded (StepOf (step (symbolicPrimitives q keyBytes))) (Can honest)) init es net) :
    ∀ (s : ℕ) m, net.members[s]? = some m → m.Named q := by
  let I (net : Network Agent QString ChachaContext) : Prop :=
    ∀ (s : ℕ) m, net.members[s]? = some m → m.Named q
  have hstart : I init := by
    intro s m hm
    cases hm
  refine h.invariant (I := I) hstart ?_
  intro net ev net' ih hs s₁ m₁ hm₁
  cases step_step hs.1 with
  | accept =>
    rcases getElem?_snoc_cases hm₁ with ⟨_, rfl⟩ | hold
    · exact ⟨rfl, by simp [Member.start], Or.inl rfl⟩
    · exact ih s₁ m₁ hold
  | doConnect =>
    rcases getElem?_snoc_cases hm₁ with ⟨_, rfl⟩ | hold
    · exact ⟨rfl, by simp [Member.start], Or.inr rfl⟩
    · exact ih s₁ m₁ hold
  | @move s m m' _ _ hm hms =>
    rcases getElem?_set_cases hm₁ with ⟨_, rfl⟩ | ⟨_, hold⟩
    · exact (ih s m hm).step hround hms
    · exact ih s₁ m₁ hold
  | updatePeerList => exact ih s₁ m₁ hm₁

/-- To every session that reports the end of a handshake with an honest peer there corresponds a
session of that peer that wrote exactly the accepted packet. Two reports correspond to one and the
same session of the peer if and only if the accepted packets carry the same ephemeral key. -/
theorem finished_sender (hround : ∀ t, q.fromBase64 (q.toBase64 t) = t)
    {es : List (NetEvent Agent QString ChachaContext)} {net : Network Agent QString ChachaContext}
    (h : Run (Guarded (StepOf (step (symbolicPrimitives q keyBytes))) (Can honest)) init es net) :
    (∀ (s : ℕ) m id b, net.members[s]? = some m → ClientCall.onHandShakeFinished id ∈ m.calls →
      honest b → q.fromBase64 id = .pk b →
      ∃ j hp sess, net.Initialised s hp sess ∧ sess.id = id ∧ net.Sender b j hp) ∧
    ∀ b b' j j' hp hp', net.Sender b j hp → net.Sender b' j' hp' →
      (j = j' ↔ hp.ephemeralKey = hp'.ephemeralKey) := by
  have hsound := sound h
  refine ⟨?_, fun b b' j j' hp hp' hsend hsend' => hsound.sender_iff hsend hsend'⟩
  intro s m id b hm hcall hb hid
  have hnamed := named hround h s m hm
  have hreported : id ∈ m.calls.filterMap ClientCall.finishedId :=
    List.mem_filterMap.mpr ⟨_, hcall, rfl⟩
  rw [hnamed.reported] at hreported
  obtain ⟨⟨hp, sess⟩, hmem, hsess⟩ := List.mem_map.mp hreported
  have hinit : net.Initialised s hp sess := ⟨m, hm, hmem⟩
  have hpeer : sess.peerStaticPubkey = .pk b := by
    rw [← hnamed.inits (hp, sess) hmem, hsess, hid]
  obtain ⟨j, m', hm', hagent, hmem', _, _⟩ := hsound.sender hinit hb hpeer
  exact ⟨j, hp, sess, hinit, hsess, m', hm', hagent, hmem'⟩

/-- Endpoint `0` accepts the request that endpoint `1` has sent to it. -/
theorem finished_sender_request :
    ∃ (es : List (NetEvent ℕ (NetTerm ℕ) ChachaContext)) (net : Network ℕ (NetTerm ℕ) ChachaContext),
      Run (Guarded (StepOf (step sampleNetPrimitives)) (Can SampleHonest)) init es net ∧
      ∃ j hp sess, net.Initialised 1 hp sess ∧ sess.id = .pk 1 ∧ net.Sender 1 j hp := by
  let test (net : Network ℕ (NetTerm ℕ) ChachaContext) : Bool :=
    (net.members[1]?).any fun m => decide (ClientCall.onHandShakeFinished (.pk 1) ∈ m.calls)
  obtain ⟨net, hrun, hp⟩ := exists_replaying_run
    [.updatePeerList 0 [⟨.datum (.bytes []), .pk 1, .datum (.bytes []), 0⟩],
      .doConnect 1 (.datum (.bytes [])) (.pk 0) sampleContext sampleContext,
      .accept 0 sampleContext sampleContext, .connected 0, .deliver 1 (sampleNetHello 1 0 1)]
    test (by decide +kernel)
  obtain ⟨m, hm, hp⟩ := (Option.any_eq_true _ _).mp hp
  exact ⟨_, net, hrun, (finished_sender (fun _ => rfl) hrun).1 1 m (.pk 1) 1 hm
    (of_decide_eq_true hp) (by decide) rfl⟩

/-- Endpoint `1` wants to talk to `2`, which is not honest and replays its request to two sessions
of `0`. Both report a handshake with `1`, whose only session was never meant for `0`. -/
theorem replayed_request :
    ∃ (es : List (NetEvent ℕ (NetTerm ℕ) ChachaContext)) (net : Network ℕ (NetTerm ℕ) ChachaContext),
      Run (Guarded (StepOf (step sampleNetPrimitives)) (Can SampleHonest)) init es net ∧
      ¬SampleHonest 2 ∧
      (∀ s ∈ [1, 2], ∃ m, net.members[s]? = some m ∧ m.agent = 0 ∧
        ClientCall.onHandShakeFinished (.pk 1) ∈ m.calls) ∧
      ∀ (j : ℕ) m, net.members[j]? = some m → m.agent = 1 →
        j = 0 ∧ m.role = .chatClient ∧ m.sess.peerStaticPubkey = .pk 2 := by
  let test (net : Network ℕ (NetTerm ℕ) ChachaContext) : Bool :=
    match net.members with
    | [m₀, m₁, m₂] =>
      decide (m₀.role = .chatClient ∧ m₀.sess.peerStaticPubkey = .pk 2) &&
        decide (m₁.agent = 0 ∧ ClientCall.onHandShakeFinished (.pk 1) ∈ m₁.calls) &&
        decide (m₂.agent = 0 ∧ ClientCall.onHandShakeFinished (.pk 1) ∈ m₂.calls)
    | _ => false
  obtain ⟨net, hrun, hp⟩ := exists_replaying_run
    [.updatePeerList 0 [⟨.datum (.bytes []), .pk 1, .datum (.bytes []), 0⟩],
      .doConnect 1 (.datum (.bytes [])) (.pk 2) sampleContext sampleContext,
      .accept 0 sampleContext sampleContext, .accept 0 sampleContext sampleContext, .connected 0,
      .deliver 1 (sampleNetHello 1 0 1), .deliver 2 (sampleNetHello 1 0 1)]
    test (by decide +kernel)
  simp only [test] at hp
  split at hp
  · rename_i m₀ m₁ m₂ hmembers
    simp only [Bool.and_eq_true, decide_eq_true_eq] at hp
    obtain ⟨⟨⟨hrole, hpeer⟩, hagent₁, hcall₁⟩, hagent₂, hcall₂⟩ := hp
    refine ⟨_, net, hrun, by decide, ?_, ?_⟩
    · intro s hs
      simp only [List.mem_cons, List.not_mem_nil, or_false] at hs
      rcases hs with rfl | rfl
      · exact ⟨m₁, by rw [hmembers]; rfl, hagent₁, hcall₁⟩
      · exact ⟨m₂, by rw [hmembers]; rfl, hagent₂, hcall₂⟩
    · intro j m hm hagent
      rw [hmembers] at hm
      match j with
      | 0 =>
        obtain rfl := Option.some.inj hm
        exact ⟨rfl, hrole, hpeer⟩
      | 1 =>
        obtain rfl := Option.some.inj hm
        rw [hagent₁] at hagent
        cases hagent
      | 2 =>
        obtain rfl := Option.some.inj hm
        rw [hagent₂] at hagent
        cases hagent
      | j + 3 => cases hm
  · cases hp

end Network

end Enchat
