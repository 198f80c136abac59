import Enchat.Proofs.Correspondence

/-!
# What the type of an accepted packet says

A session does not know its role, and `onHandShake` looks at the type of a packet only to decide
whether to answer it. The type tells what the session of the peer had done before, not what role it
plays, and nothing ties it to the role of the session that accepts the packet.
-/

namespace Enchat
open Symbolic Transition ListUpdate

variable {Agent QString Ctx : Type} {P : Primitives (NetTerm Agent) QString Ctx}

lemma ChatSession.type_reply {s : ChatSession (NetTerm Agent) QString Ctx}
    {hp hp' : HelloPacket (NetTerm Agent)} (h : hp' ∈ s.reply P hp) :
    hp'.type = 2 ∧ hp.type = 1 := by
  unfold ChatSession.reply at h
  split at h
  · rename_i htype
    rw [List.mem_singleton.mp h]
    exact ⟨rfl, htype⟩
  · cases h

namespace Member

/-- The session has accepted a request. -/
def Requested (m : Member Agent QString Ctx) : Prop := ∃ p ∈ m.inits, p.1.type = 1

/-- Requests are written by the sessions of `connect`, and answers by sessions that have accepted a
request. -/
structure Typed (m : Member Agent QString Ctx) : Prop where
  connecting : m.connecting = true → m.role = .chatClient
  hellos : ∀ hp ∈ m.hellos, (hp.type = 1 ∧ m.role = .chatClient) ∨ (hp.type = 2 ∧ m.Requested)
  answers : m.Requested → ∃ hp ∈ m.hellos, hp.type = 2

lemma Typed.step {contains : NetTerm Agent → Bool} {m m' : Member Agent QString Ctx}
    {packet : Option (HelloPacket (NetTerm Agent))} {terms : List (NetTerm Agent)} (h : m.Typed)
    (hs : Step P contains m packet m' terms) : m'.Typed := by
  cases hs with
  | connected hc =>
    refine ⟨nofun, ?_, ?_⟩
    · intro hp hmem
      rcases List.mem_append.mp hmem with hold | hnew
      · exact h.hellos hp hold
      · rw [List.mem_singleton.mp hnew]
        exact Or.inl ⟨rfl, h.connecting hc⟩
    · intro hreq
      obtain ⟨hp, hmem, htype⟩ := h.answers hreq
      exact ⟨hp, List.mem_append_left _ hmem, htype⟩
  | @finished hp _ _ _ _ =>
    have hgrows : m.Requested → ∃ p ∈ m.inits ++ [(hp, (m.sess.agree P hp).initChaCha20 P)],
        p.1.type = 1 := by
      rintro ⟨p, hmem, htype⟩
      exact ⟨p, List.mem_append_left _ hmem, htype⟩
    refine ⟨h.connecting, ?_, ?_⟩
    · intro hp' hmem
      rcases List.mem_append.mp hmem with hold | hnew
      · exact (h.hellos hp' hold).imp_right (And.imp_right hgrows)
      · obtain ⟨hanswer, htype⟩ := ChatSession.type_reply hnew
        exact Or.inr ⟨hanswer, _, List.mem_append_right _ (List.mem_singleton.mpr rfl), htype⟩
    · rintro ⟨p, hmem, htype⟩
      rcases List.mem_append.mp hmem with hold | hnew
      · obtain ⟨hp', hmem', htype'⟩ := h.answers ⟨p, hold, htype⟩
        exact ⟨hp', List.mem_append_left _ hmem', htype'⟩
      · obtain rfl := List.mem_singleton.mp hnew
        have hreply : m.sess.reply P hp =
            [((m.sess.agree P hp).initChaCha20 P).helloPacket P 2] := if_pos htype
        exact ⟨_, List.mem_append_right _ (hreply ▸ List.mem_singleton.mpr rfl), rfl⟩
  | _ => exact ⟨h.connecting, h.hellos, h.answers⟩

end Member

namespace Network

variable [DecidableEq Agent] [DecidableEq QString]

lemma typed {C : Network Agent QString Ctx → NetEvent Agent QString Ctx → Prop}
    {es : List (NetEvent Agent QString Ctx)} {net : Network Agent QString Ctx}
    (h : Run (Guarded (StepOf (step P)) C) init es net) :
    ∀ (s : ℕ) m, net.members[s]? = some m → m.Typed := by
  refine h.invariant (I := fun net => ∀ (s : ℕ) m, net.members[s]? = some m → m.Typed) ?_ ?_
  · intro s m hm
    cases hm
  · intro net ev net' ih hs s₁ m₁ hm₁
    have hnew : ∀ m : Member Agent QString Ctx, m.hellos = [] → m.inits = [] →
        (m.connecting = true → m.role = .chatClient) → m.Typed := by
      intro m hhellos hinits hconnecting
      exact ⟨hconnecting, by simp [hhellos], by simp [Member.Requested, hinits]⟩
    cases step_step hs.1 with
    | accept =>
      rcases getElem?_snoc_cases hm₁ with ⟨_, rfl⟩ | hold
      · exact hnew _ rfl rfl nofun
      · exact ih s₁ m₁ hold
    | doConnect =>
      rcases getElem?_snoc_cases hm₁ with ⟨_, rfl⟩ | hold
      · exact hnew _ rfl rfl (fun _ => rfl)
      · exact ih s₁ m₁ hold
    | @move s m m' _ _ hm hms =>
      rcases getElem?_set_cases hm₁ with ⟨_, rfl⟩ | ⟨_, hold⟩
      · exact (ih s m hm).step hms
      · exact ih s₁ m₁ hold
    | updatePeerList => exact ih s₁ m₁ hm₁

variable {honest : Agent → Prop} {q : Qt (NetTerm Agent) QString}
  {keyBytes : NetTerm Agent → List UInt8}

/-- A packet that a session has accepted from an honest peer is the request of a connecting session
of that peer, or the answer of a session of that peer, of either role, to a request that it had
accepted itself. A session answers if and only if it has accepted a request. -/
theorem accepted_by_type {es : List (NetEvent Agent QString ChachaContext)}
    {net : Network Agent QString ChachaContext}
    (h : Run (Guarded (StepOf (step (symbolicPrimitives q keyBytes))) (Can honest)) init es net) :
    (∀ (s : ℕ) hp sess b, net.Initialised s hp sess → honest b → sess.peerStaticPubkey = .pk b →
      ∃ (j : ℕ) (m : Member Agent QString ChachaContext), net.members[j]? = some m ∧ m.agent = b ∧
        hp ∈ m.hellos ∧
        ((hp.type = 1 ∧ m.role = .chatClient) ∨
          (hp.type = 2 ∧ ∃ hp' sess', net.Initialised j hp' sess' ∧ hp'.type = 1))) ∧
    ∀ (s : ℕ) m, net.members[s]? = some m →
      ((∃ hp ∈ m.hellos, hp.type = 2) ↔ ∃ p ∈ m.inits, p.1.type = 1) := by
  have htyped := typed h
  refine ⟨?_, ?_⟩
  · intro s hp sess b hinit hb hpeer
    obtain ⟨j, m, hm, hagent, hmem, _, _⟩ := (sound h).sender hinit hb hpeer
    refine ⟨j, m, hm, hagent, hmem, ((htyped j m hm).hellos hp hmem).imp_right ?_⟩
    rintro ⟨htype, p, hp', htype'⟩
    exact ⟨htype, p.1, p.2, ⟨m, hm, hp'⟩, htype'⟩
  · intro s m hm
    refine ⟨?_, (htyped s m hm).answers⟩
    rintro ⟨hp, hmem, htype⟩
    rcases (htyped s m hm).hellos hp hmem with ⟨hone, _⟩ | ⟨_, hreq⟩
    · rw [htype] at hone
      cases hone
    · exact hreq

/-- Endpoint `0` accepts the request of endpoint `1`. -/
theorem accepted_by_type_request :
    ∃ (es : List (NetEvent ℕ (NetTerm ℕ) ChachaContext)) (net : Network ℕ (NetTerm ℕ) ChachaContext)
      (hp : HelloPacket (NetTerm ℕ)) (j : ℕ) (m : Member ℕ (NetTerm ℕ) ChachaContext),
      Run (Guarded (StepOf (step sampleNetPrimitives)) (Can SampleHonest)) init es net ∧
      net.members[j]? = some m ∧ m.agent = 1 ∧ hp ∈ m.hellos ∧
      ((hp.type = 1 ∧ m.role = .chatClient) ∨
        (hp.type = 2 ∧ ∃ hp' sess', net.Initialised j hp' sess' ∧ hp'.type = 1)) := by
  let test (net : Network ℕ (NetTerm ℕ) ChachaContext) : Bool :=
    (net.members[1]?).any fun m => (m.inits[0]?).any fun p =>
      decide (p.2.peerStaticPubkey = .pk 1)
  obtain ⟨net, hrun, hp⟩ := exists_replaying_run
    [.updatePeerList 0 [⟨.datum (.bytes []), .pk 1, .datum (.bytes []), 0⟩],
      .doConnect 1 (.datum (.bytes [])) (.pk 0) sampleContext sampleContext,
      .accept 0 sampleContext sampleContext, .connected 0, .deliver 1 (sampleNetHello 1 0 1)]
    test (by decide +kernel)
  obtain ⟨m, hm, hp⟩ := (Option.any_eq_true _ _).mp hp
  obtain ⟨p, hmem, hpeer⟩ := (Option.any_eq_true _ _).mp hp
  obtain ⟨j, m', hm', hagent, hhello, htype⟩ := (accepted_by_type hrun).1 1 p.1 p.2 1
    ⟨m, hm, List.mem_of_getElem? hmem⟩ (by decide) (of_decide_eq_true hpeer)
  exact ⟨_, net, p.1, j, m', hrun, hm', hagent, hhello, htype⟩

/-- Two clients connect to each other. The request of session `0` reaches the other client, which
accepts it in session `1` and answers; the answer is then accepted by session `2`, which a server
has made. So a client finishes on a request, and a server on an answer that a client has written. -/
theorem roles_confused :
    ∃ (es : List (NetEvent ℕ (NetTerm ℕ) ChachaContext)) (net : Network ℕ (NetTerm ℕ) ChachaContext)
      (m₀ m₁ m₂ : Member ℕ (NetTerm ℕ) ChachaContext) (hp₀ hp₁ : HelloPacket (NetTerm ℕ)),
      Run (Guarded (StepOf (step sampleNetPrimitives)) (Can SampleHonest)) init es net ∧
      net.members = [m₀, m₁, m₂] ∧ m₀.role = .chatClient ∧ m₁.role = .chatClient ∧
      m₂.role = .chatServer ∧ hp₀.type = 1 ∧ hp₀ ∈ m₀.hellos ∧ m₁.inits.map Prod.fst = [hp₀] ∧
      hp₁.type = 2 ∧ hp₁ ∈ m₁.hellos ∧ m₂.inits.map Prod.fst = [hp₁] := by
  let hp₀ := sampleNetHello 1 0 1
  let hp₁ := sampleNetHello 0 1 2
  let test (net : Network ℕ (NetTerm ℕ) ChachaContext) : Bool :=
    match net.members with
    | [m₀, m₁, m₂] =>
      decide (m₀.role = .chatClient ∧ m₁.role = .chatClient ∧ m₂.role = .chatServer) &&
        decide (hp₀ ∈ m₀.hellos ∧ m₁.inits.map Prod.fst = [hp₀]) &&
        decide (hp₁ ∈ m₁.hellos ∧ m₂.inits.map Prod.fst = [hp₁])
    | _ => false
  obtain ⟨net, hrun, hp⟩ := exists_replaying_run
    [.updatePeerList 1 [⟨.datum (.bytes []), .pk 0, .datum (.bytes []), 0⟩],
      .doConnect 1 (.datum (.bytes [])) (.pk 0) sampleContext sampleContext,
      .doConnect 0 (.datum (.bytes [])) (.pk 1) sampleContext sampleContext,
      .accept 1 sampleContext sampleContext, .connected 0, .connected 1, .written 1 0,
      .deliver 1 hp₀, .deliver 2 hp₁]
    test (by decide +kernel)
  simp only [test] at hp
  split at hp
  · rename_i m₀ m₁ m₂ hmembers
    simp only [Bool.and_eq_true, decide_eq_true_eq] at hp
    obtain ⟨⟨⟨hrole₀, hrole₁, hrole₂⟩, hmem₀, hinit₁⟩, hmem₁, hinit₂⟩ := hp
    exact ⟨_, net, m₀, m₁, m₂, hp₀, hp₁, hrun, hmembers, hrole₀, hrole₁, hrole₂, rfl, hmem₀,
      hinit₁, rfl, hmem₁, hinit₂⟩
  · cases hp

end Network

end Enchat
