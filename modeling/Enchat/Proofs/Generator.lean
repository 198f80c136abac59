import Enchat.Model.Generator
import Enchat.Model.Sample
import Enchat.Proofs.EndpointRun

/-!
# Sessions run on the keys that the generator left them

`X25519_keypair` drops the value that the generator returns, so a session whose key was never
filled goes on like every other.
-/

namespace Enchat
open Transition ListUpdate

variable {QString Ctx : Type} (P : Primitives (List UInt8) QString Ctx)

namespace Conn

/-- The session has sent no packet and derived no key. -/
def Silent (c : Conn QString Ctx) : Prop := c.hellos = [] ∧ c.sess.chacha20Key = P.zeroKey

/-- What the session sends and derives comes from the private key `pri`. -/
structure RunsOn (pri : List UInt8) (c : Conn QString Ctx) : Prop where
  priKey : c.sess.ephemeralPriKey = pri
  pubKey : c.sess.ephemeralPubKey = P.x25519PublicFromPrivate pri
  hellos : ∀ hp ∈ c.hellos, hp.ephemeralKey = P.x25519PublicFromPrivate pri
  shared : c.sess.chacha20Key = P.zeroKey ∨ ∃ value, c.sess.chacha20Key = (P.x25519 pri value).1

variable {P}

lemma RunsOn.frame {pri : List UInt8} {c c' : Conn QString Ctx} (h : RunsOn P pri c)
    (hpri : c'.sess.ephemeralPriKey = c.sess.ephemeralPriKey)
    (hpub : c'.sess.ephemeralPubKey = c.sess.ephemeralPubKey)
    (hkey : c'.sess.chacha20Key = c.sess.chacha20Key) (hhellos : c'.hellos = c.hellos) :
    RunsOn P pri c' := by
  refine ⟨hpri.trans h.priKey, hpub.trans h.pubKey, ?_, ?_⟩
  · rw [hhellos]
    exact h.hellos
  · rw [hkey]
    exact h.shared

lemma RunsOn.of_silent {pri : List UInt8} {c : Conn QString Ctx}
    (hpri : c.sess.ephemeralPriKey = pri)
    (hpub : c.sess.ephemeralPubKey = P.x25519PublicFromPrivate pri) (hhellos : c.hellos = [])
    (hkey : c.sess.chacha20Key = P.zeroKey) : RunsOn P pri c := by
  refine ⟨hpri, hpub, ?_, Or.inl hkey⟩
  intro hp hmem
  rw [hhellos] at hmem
  cases hmem

lemma adoptPeer_ephemeral (s : ChatSession (List UInt8) QString Ctx)
    (hp : HelloPacket (List UInt8)) :
    (s.adoptPeer P hp).ephemeralPubKey = s.ephemeralPubKey ∧
      (s.adoptPeer P hp).chacha20Key = s.chacha20Key := by
  unfold ChatSession.adoptPeer
  split <;> exact ⟨rfl, rfl⟩

/-- A session sends packets with its own public key, and derives keys with its private key. -/
theorem RunsOn.step {pri : List UInt8} {contains : List UInt8 → Bool} {c c' : Conn QString Ctx}
    {ev : SocketEvent} {effs : List (Effect (List UInt8) QString)} (h : RunsOn P pri c)
    (hs : Step P contains c ev c' effs) : RunsOn P pri c' := by
  have hagree : ∀ hp : HelloPacket (List UInt8),
      (c.sess.agree P hp).ephemeralPriKey = pri ∧
      (c.sess.agree P hp).ephemeralPubKey = P.x25519PublicFromPrivate pri ∧
      (c.sess.agree P hp).chacha20Key = (P.x25519 pri hp.ephemeralKey).1 := by
    intro hp
    refine ⟨?_, ?_, ?_⟩
    · exact (ChatSession.adoptPeer_ephemeralPriKey P c.sess hp).trans h.priKey
    · exact (adoptPeer_ephemeral c.sess hp).1.trans h.pubKey
    · rw [← h.priKey]
      rfl
  cases hs with
  | connectDone _ _ =>
    refine ⟨h.priKey, h.pubKey, ?_, h.shared⟩
    intro hp hmem
    rcases List.mem_append.mp hmem with hold | hnew
    · exact h.hellos hp hold
    · rw [List.mem_singleton.mp hnew]
      exact h.pubKey
  | badSignature _ _ _ _ _ =>
    obtain ⟨hpub, hkey⟩ := adoptPeer_ephemeral c.sess _
    exact h.frame (ChatSession.adoptPeer_ephemeralPriKey P c.sess _) hpub hkey rfl
  | @noSharedKey i op _ _ _ _ _ _ =>
    obtain ⟨hpri, hpub, hkey⟩ := hagree op.hello
    exact ⟨hpri, hpub, h.hellos, Or.inr ⟨_, hkey⟩⟩
  | @finished i op _ _ _ _ _ _ =>
    obtain ⟨hpri, hpub, hkey⟩ := hagree op.hello
    refine ⟨hpri, hpub, ?_, Or.inr ⟨_, hkey⟩⟩
    intro hp hmem
    rcases List.mem_append.mp hmem with hold | hnew
    · exact h.hellos hp hold
    · unfold ChatSession.reply at hnew
      split at hnew
      · rw [List.mem_singleton.mp hnew]
        exact hpub
      · cases hnew
  | bodyDone _ _ _ _ =>
    refine h.frame ?_ ?_ ?_ rfl <;>
      · dsimp only
        rw [ChatSession.handleReadMsg_eq]
  | _ => exact h.frame rfl rfl rfl rfl

end Conn

namespace Keyring

variable [DecidableEq QString]

/-- A session that has sent a packet or derived a key did so with a key that the generator filled,
and a session without such a key is silent and closed. -/
structure Sound (r : Keyring QString Ctx) : Prop where
  produced : ∀ (s : ℕ) c draw, r.endpoint.sessions[s]? = some c → r.draws[s]? = some draw →
    ¬c.Silent P → ∃ bytes, draw = .success bytes ∧ c.RunsOn P (maskKey bytes)
  refused : ∀ (s : ℕ) c draw, r.endpoint.sessions[s]? = some c → r.draws[s]? = some draw →
    draw.isSuccess = false → c.Silent P ∧ c.wire = [] ∧ c.isOpen = false

variable {P} {role : Role} {name : QString} {es : List (KeyringEvent QString Ctx)}
  {r r' : Keyring QString Ctx}

omit [DecidableEq QString] in
/-- The number of sessions that an event constructs. -/
def constructed : Event QString Ctx → ℕ
  | .accept _ _ _ => 1
  | .doConnect _ _ _ _ => 1
  | _ => 0

lemma length_sessions {e e' : Endpoint QString Ctx} {ev : Event QString Ctx}
    (h : Endpoint.Step P e ev e') :
    e'.sessions.length = e.sessions.length + constructed ev := by
  cases h with
  | accept _ => exact List.length_append
  | doConnect _ => exact List.length_append
  | socket _ _ =>
    rw [Endpoint.update_eq]
    exact List.length_set
  | sendTextMsg _ => exact List.length_modify ..
  | close _ =>
    refine Endpoint.closeAll_induct (M := fun e' => e'.sessions.length = e.sessions.length) ?_
      (fun _ h => h) rfl
    intro e' s hlen
    refine Endpoint.closeSession_cases
      (M := fun e' => e'.sessions.length = e.sessions.length) hlen ?_
    intro c _
    exact List.length_set.trans hlen
  | _ => rfl

/-- An event of the keyring is one of the endpoint, and it draws when it constructs a session. -/
lemma step_cases {ev : KeyringEvent QString Ctx} (h : r.step P ev = some r') :
    r.endpoint.step P ev.event = some r'.endpoint ∧ r'.draws = r.draws ++ ev.draw.toList ∧
      ev.draw.toList.length = constructed ev.event := by
  have hmap : ∀ o : Option (Endpoint QString Ctx),
      o.map (fun e => ({ endpoint := e, draws := r.draws ++ ev.draw.toList } : Keyring QString Ctx)) =
        some r' → o = some r'.endpoint ∧ r'.draws = r.draws ++ ev.draw.toList := by
    intro o ho
    obtain ⟨e, he, rfl⟩ := Option.map_eq_some_iff.mp ho
    exact ⟨he, rfl⟩
  cases ev with
  | accept draw dctx ectx =>
    obtain ⟨hstep, hdraws⟩ := hmap _ h
    exact ⟨hstep, hdraws, rfl⟩
  | doConnect id draw dctx ectx =>
    obtain ⟨hstep, hdraws⟩ := hmap _ h
    exact ⟨hstep, hdraws, rfl⟩
  | other ev =>
    cases ev with
    | accept pri dctx ectx => cases h
    | doConnect id pri dctx ectx => cases h
    | _ =>
      simp only [step] at h
      obtain ⟨hstep, hdraws⟩ := hmap _ h
      exact ⟨hstep, hdraws, rfl⟩

/-- There is one call of the generator for each session, and the session runs on its result. -/
structure Tracked (P : Primitives (List UInt8) QString Ctx) (r : Keyring QString Ctx) : Prop where
  length : r.draws.length = r.endpoint.sessions.length
  runsOn : ∀ (s : ℕ) c draw, r.endpoint.sessions[s]? = some c → r.draws[s]? = some draw →
    c.RunsOn P (x25519Keypair draw)

lemma Tracked.step {ev : KeyringEvent QString Ctx} (h : Tracked P r) (hs : r.step P ev = some r') :
    Tracked P r' := by
  obtain ⟨hstep, hdraws, hcount⟩ := step_cases hs
  have hendpoint := Endpoint.step_step P hstep
  refine ⟨?_, ?_⟩
  · rw [hdraws, List.length_append, h.length, hcount, length_sessions hendpoint]
  intro s c' draw hc' hdraw
  have hold : ∀ c, r.endpoint.sessions[s]? = some c → c.RunsOn P (x25519Keypair draw) := by
    intro c hc
    have hlt : s < r.draws.length := by
      rw [h.length]
      exact (List.getElem?_eq_some_iff.mp hc).1
    rw [hdraws, List.getElem?_append_left hlt] at hdraw
    exact h.runsOn s c draw hc hdraw
  have hnew : s = r.endpoint.sessions.length → ev.draw.toList[0]? = some draw := by
    intro hs'
    rw [hdraws, List.getElem?_append_right (by rw [hs', h.length]), hs', h.length,
      Nat.sub_self] at hdraw
    exact hdraw
  cases hendpoint.session P hc' with
  | same hc _ => exact hold c' hc
  | accept hev _ hs' hc =>
    have hdraw' := hnew hs'
    rw [hc]
    cases ev with
    | accept draw' dctx ectx =>
      obtain rfl := Option.some.inj hdraw'
      cases hev
      exact Conn.RunsOn.of_silent rfl rfl rfl rfl
    | doConnect id draw' dctx ectx => cases hev
    | other ev => cases hdraw'
  | connect hev _ hs' hc _ =>
    have hdraw' := hnew hs'
    rw [hc]
    cases ev with
    | accept draw' dctx ectx => cases hev
    | doConnect id draw' dctx ectx =>
      obtain rfl := Option.some.inj hdraw'
      cases hev
      exact Conn.RunsOn.of_silent rfl rfl rfl rfl
    | other ev => cases hdraw'
  | move _ hc hconn _ => exact (hold _ hc).step hconn
  | encrypt _ hc _ he =>
    rw [he]
    exact (hold _ hc).frame rfl rfl rfl rfl
  | close _ _ hclose =>
    refine Endpoint.closeAll_induct (M := fun e => ∀ c, e.sessions[s]? = some c →
      c.RunsOn P (x25519Keypair draw)) ?_ (fun _ h => h) hold c' hclose
    intro e t hM
    refine Endpoint.closeSession_cases (M := fun e => ∀ c, e.sessions[s]? = some c →
      c.RunsOn P (x25519Keypair draw)) hM ?_
    intro c hc c₁ hc₁
    rcases getElem?_set_cases hc₁ with ⟨rfl, rfl⟩ | ⟨_, hold'⟩
    · exact (hM c hc).frame rfl rfl rfl rfl
    · exact hM c₁ hold'

theorem tracked (h : Runs P role name es r) : Tracked P r := by
  refine h.invariant (I := Tracked P) ⟨rfl, ?_⟩ (fun _ _ _ htr hs => htr.step hs)
  intro s c draw hc
  simp [init, Endpoint.init] at hc

/-- The draws of a run are those of its events. -/
lemma mem_draws (h : Runs P role name es r) {draw : Draw} (hmem : draw ∈ r.draws) :
    ∃ ev ∈ es, ev.draw = some draw := by
  refine h.invariant_history
    (I := fun es r => ∀ draw ∈ r.draws, ∃ ev ∈ es, ev.draw = some draw) ?_ ?_ draw hmem
  · intro draw hmem
    cases hmem
  · intro es r ev r' _ ih hs draw hmem
    obtain ⟨_, hdraws, _⟩ := step_cases hs
    rw [hdraws] at hmem
    rcases List.mem_append.mp hmem with hold | hnew
    · obtain ⟨ev', hev', heq⟩ := ih draw hold
      exact ⟨ev', List.mem_append_left _ hev', heq⟩
    · exact ⟨ev, List.mem_append_right _ (List.mem_singleton.mpr rfl),
        Option.mem_toList.mp hnew⟩

/-- Right after its construction a session is open, whatever the generator returned. -/
lemma open_of_drawn (h : Tracked P r) {ev : KeyringEvent QString Ctx}
    (hs : r.step P ev = some r') {draw : Draw} (hdraw : ev.draw = some draw) :
    r'.draws[r.endpoint.sessions.length]? = some draw ∧
      ∃ c, r'.endpoint.sessions[r.endpoint.sessions.length]? = some c ∧ c.isOpen = true := by
  obtain ⟨hstep, hdraws, _⟩ := step_cases hs
  have hendpoint := Endpoint.step_step P hstep
  constructor
  · rw [hdraws, hdraw, ← h.length]
    exact List.getElem?_concat_length ..
  · generalize hr' : r'.endpoint = e' at hendpoint
    cases ev with
    | accept draw' dctx ectx =>
      cases hendpoint
      exact ⟨_, List.getElem?_concat_length .., rfl⟩
    | doConnect id draw' dctx ectx =>
      cases hendpoint
      exact ⟨_, List.getElem?_concat_length .., rfl⟩
    | other ev => cases hdraw

/-- Every state of a run is sound if and only if each call of the generator in a constructor
succeeds. -/
theorem sound_iff (h : Runs P role name es r) :
    (∀ es₁ es₂ r₁, es = es₁ ++ es₂ → Runs P role name es₁ r₁ → Sound P r₁) ↔
      ∀ ev ∈ es, ∀ draw, ev.draw = some draw → draw.isSuccess = true := by
  constructor
  · refine h.invariant_history (I := fun es _ =>
      (∀ es₁ es₂ r₁, es = es₁ ++ es₂ → Runs P role name es₁ r₁ → Sound P r₁) →
        ∀ ev ∈ es, ∀ draw, ev.draw = some draw → draw.isSuccess = true) ?_ ?_
    · intro _ ev hmem
      cases hmem
    · intro es r ev r' hr ih hs hsound ev' hmem draw hdraw
      rcases List.mem_append.mp hmem with hold | hnew
      · refine ih ?_ ev' hold draw hdraw
        intro es₁ es₂ r₁ heq hr₁
        exact hsound es₁ (es₂ ++ [ev]) r₁ (by rw [heq, List.append_assoc]) hr₁
      · obtain rfl := List.mem_singleton.mp hnew
        obtain ⟨hdraw', c, hc, hopen⟩ := open_of_drawn (tracked hr) hs hdraw
        have hlast := hsound (es ++ [ev']) [] r' (List.append_nil _).symm (hr.snoc hs)
        by_contra hfailed
        have hclosed := (hlast.refused _ c draw hc hdraw' (by simpa using hfailed)).2.2
        rw [hopen] at hclosed
        cases hclosed
  · intro hsuccess es₁ es₂ r₁ heq hr₁
    have hdrawn : ∀ draw ∈ r₁.draws, draw.isSuccess = true := by
      intro draw hmem
      obtain ⟨ev, hev, hdraw⟩ := mem_draws hr₁ hmem
      exact hsuccess ev (by rw [heq]; exact List.mem_append_left _ hev) draw hdraw
    constructor
    · intro s c draw hc hdraw _
      cases draw with
      | success bytes => exact ⟨bytes, rfl, (tracked hr₁).runsOn s c _ hc hdraw⟩
      | failure left => cases hdrawn _ (List.mem_of_getElem? hdraw)
    · intro s c draw _ hdraw hfailed
      rw [hdrawn draw (List.mem_of_getElem? hdraw)] at hfailed
      cases hfailed

/-- A client is constructed with a draw and connects. -/
def sampleConnection (draw : Draw) : List (KeyringEvent (List UInt8) ChachaContext) :=
  [.doConnect (sampleKey 7) draw sampleContext sampleContext, .other (.socket 0 .connectOk),
    .other (.socket 0 .connectDone)]

/-- The client sends a packet with the key that the generator has filled. -/
theorem sound_connection :
    ∃ r : Keyring (List UInt8) ChachaContext,
      Runs samplePrimitives .chatClient [] (sampleConnection (.success (sampleKey 3))) r ∧
      (r.endpoint.sessions.map (fun c => c.hellos.length)) = [1] ∧ Sound samplePrimitives r := by
  obtain ⟨r, hrun, htest⟩ := exists_run_of_exec (step samplePrimitives)
    (sampleConnection (.success (sampleKey 3)))
    (fun r => decide (r.endpoint.sessions.map (fun c => c.hellos.length) = [1]))
    (s := init .chatClient []) (by decide +kernel)
  refine ⟨r, hrun, of_decide_eq_true htest, (sound_iff hrun).mpr ?_ _ [] r
    (List.append_nil _).symm hrun⟩
  intro ev hmem draw hdraw
  simp only [sampleConnection, List.mem_cons, List.not_mem_nil, or_false] at hmem
  rcases hmem with rfl | rfl | rfl
  · obtain rfl := Option.some.inj hdraw
    rfl
  · cases hdraw
  · cases hdraw

/-- The generator fails and leaves the zeros of the constructor; the client sends a packet all the
same, with the key that every such session has. -/
theorem failed_draw_sends_hello :
    ∃ (r : Keyring (List UInt8) ChachaContext) (c : Conn (List UInt8) ChachaContext),
      Runs samplePrimitives .chatClient [] (sampleConnection (.failure (List.replicate 32 0))) r ∧
      r.endpoint.sessions[0]? = some c ∧
      c.sess.ephemeralPriKey = 7 :: List.replicate 30 0 ++ [128] ∧ c.hellos.length = 1 ∧
      ¬Sound samplePrimitives r := by
  let test (r : Keyring (List UInt8) ChachaContext) : Bool :=
    decide (r.draws = [.failure (List.replicate 32 0)]) && (r.endpoint.sessions[0]?).any fun c =>
      decide (c.sess.ephemeralPriKey = 7 :: List.replicate 30 0 ++ [128] ∧ c.hellos.length = 1)
  obtain ⟨r, hrun, htest⟩ := exists_run_of_exec (step samplePrimitives)
    (sampleConnection (.failure (List.replicate 32 0))) test (s := init .chatClient [])
    (by decide +kernel)
  obtain ⟨hdraws, hsession⟩ := Bool.and_eq_true_iff.mp htest
  obtain ⟨c, hc, hdec⟩ := (Option.any_eq_true ..).mp hsession
  obtain ⟨hkey, hhellos⟩ := of_decide_eq_true hdec
  refine ⟨r, c, hrun, hc, hkey, hhellos, fun hsound => ?_⟩
  have hdraw : r.draws[0]? = some (.failure (List.replicate 32 0)) := by
    rw [of_decide_eq_true hdraws]
    rfl
  have hsilent := (hsound.refused 0 c _ hc hdraw rfl).1
  rw [hsilent.1] at hhellos
  cases hhellos

end Keyring

end Enchat
