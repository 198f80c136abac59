import Enchat.Proofs.SessionMap

/-!
# Texts go to the live session of a peer

An insert under an existing key changes nothing, and `close` erases by id. As long as ids are free
when sessions are registered and a close only meets its own entry, every session in use is found
under its id.
-/

namespace Enchat
open Transition ListUpdate

variable {QString Ctx : Type} [DecidableEq QString] {P : Primitives (List UInt8) QString Ctx}

namespace Endpoint

/-- The condition on an event under which the map stays right: `ChatClient::connect` and, on a
server, the end of a handshake find the id free, the session has not been closed by then, and a
refused packet closes under an id that no other session has. -/
def KeepsRegistration (P : Primitives (List UInt8) QString Ctx) (e : Endpoint QString Ctx) :
    Event QString Ctx → Prop
  | .doConnect id _ _ _ => e.sessMap.lookup id = none
  | .socket s (.readDone i) => ∀ c ∈ e.sessions[s]?, ∀ op ∈ c.reads[i]?,
      (c.Refuses P (e.containsPeerPubkey P) op →
        e.MapsToOnly (c.sess.refused P (e.containsPeerPubkey P) op.hello).id s) ∧
      (c.Accepts P (e.containsPeerPubkey P) op → c.isOpen = true ∧
        (e.role = .chatServer → e.sessMap.lookup (c.sess.adoptPeer P op.hello).id = none))
  | _ => True

instance (e : Endpoint QString Ctx) :
    (ev : Event QString Ctx) → Decidable (KeepsRegistration P e ev)
  | .doConnect id _ _ _ => inferInstanceAs (Decidable (e.sessMap.lookup id = none))
  | .socket s (.readDone i) =>
    inferInstanceAs (Decidable (∀ c ∈ e.sessions[s]?, ∀ op ∈ c.reads[i]?, (_ → _) ∧ (_ → _ ∧ (_ → _))))
  | .accept _ _ _ | .sendTextMsg _ _ | .close | .updatePeerList _ | .setEcKey _ _ | .setName _ =>
    .isTrue trivial
  | .socket _ .connectOk | .socket _ .connectDone | .socket _ .connectFail
  | .socket _ (.writeSome _ _) | .socket _ (.writeDone _) | .socket _ (.writeFail _)
  | .socket _ (.readSome _ _) | .socket _ (.readFail _) | .socket _ (.startWrite _) =>
    .isTrue trivial

def Registered (e : Endpoint QString Ctx) : Prop :=
  ∀ s c, e.sessions[s]? = some c → c.isOpen = true → (e.role = .chatServer → 0 < c.finishes) →
    e.sessMap.lookup c.sess.id = some s

variable {role : Role} {name : QString} {es : List (Event QString Ctx)} {e : Endpoint QString Ctx}

/-- A session that a series of closes leaves open was open before and is not among the closed. -/
lemma open_of_foldl_closeSession (entries : List (Σ _ : QString, ℕ)) {s : ℕ} {c : Conn QString Ctx}
    (hc : (entries.foldl (fun e entry => e.closeSession entry.2) e).sessions[s]? = some c)
    (hopen : c.isOpen = true) :
    e.sessions[s]? = some c ∧ ∀ entry ∈ entries, entry.2 ≠ s := by
  induction entries generalizing e with
  | nil => exact ⟨hc, by simp⟩
  | cons entry entries ih =>
    obtain ⟨hc', hne⟩ := ih hc
    simp only at hc'
    cases he : e.sessions[entry.2]? with
    | none =>
      rw [closeSession_none he] at hc'
      refine ⟨hc', ?_⟩
      intro entry' hmem heq
      rcases List.mem_cons.mp hmem with rfl | hmem
      · rw [heq, hc'] at he
        cases he
      · exact hne entry' hmem heq
    | some c₀ =>
      rw [closeSession_eq he] at hc'
      rcases getElem?_set_cases hc' with ⟨_, rfl⟩ | ⟨hs, hold⟩
      · simp [Conn.closed_eq] at hopen
      · refine ⟨hold, ?_⟩
        intro entry' hmem
        rcases List.mem_cons.mp hmem with rfl | hmem
        · exact Ne.symm hs
        · exact hne entry' hmem

lemma Registered.update (h : GuardedRuns P (KeepsRegistration P) role name es e)
    (hreg : e.Registered) {s : ℕ} {c c' : Conn QString Ctx} {ev : SocketEvent}
    {effs : List (Effect (List UInt8) QString)} (hc : e.sessions[s]? = some c)
    (hconn : Conn.Step P (e.containsPeerPubkey P) c ev c' effs)
    (hguard : KeepsRegistration P e (.socket s ev)) : (e.update s c' effs).Registered := by
  rw [update_eq]
  intro t c₁ hc₁ hopen hfin
  simp only at hc₁ ⊢
  have hmap := hconn.map P e.role s e.sessMap
  revert hmap
  generalize (clientCalls effs).foldl (SessMap.afterCall e.role s) e.sessMap = m'
  intro hmap
  rcases getElem?_set_cases hc₁ with ⟨rfl, rfl⟩ | ⟨hne, hold⟩
  · cases hmap with
    | same hm hopen' hfin' _ =>
      rw [hopen'] at hopen
      rw [hfin'] at hfin
      rw [hm, id_of_step h hc hconn hfin]
      exact hreg t c hc hopen hfin
    | erased _ _ _ _ hclosed _ _ =>
      rw [hclosed] at hopen
      cases hopen
    | @inserted i op hev hop haccept hid hm hopen' _ _ =>
      subst hev
      rw [hopen'] at hopen
      cases hrole : e.role with
      | chatServer =>
        have hfree := ((hguard c hc op hop).2 haccept).2 hrole
        rw [hm, if_pos hrole, hid, SessMap.lookup_stdInsert, if_pos rfl, hfree]
        rfl
      | chatClient =>
        have hfin' : e.role = .chatServer → 0 < c.finishes := by simp [hrole]
        rw [hm, if_neg (by simp [hrole]), id_of_step h hc hconn hfin']
        exact hreg t c hc hopen hfin'
  · have hl := hreg t c₁ hold hopen hfin
    cases hmap with
    | same hm _ _ _ => exact hm ▸ hl
    | @erased i op hev hop hrefuse hm _ _ _ =>
      subst hev
      have honly := (hguard c hc op hop).1 hrefuse
      rw [hm, AList.lookup_erase_ne]
      · exact hl
      · intro hid
        exact hne (honly t (hid ▸ hl))
    | @inserted i op hev hop haccept _ hm _ _ _ =>
      subst hev
      rw [hm]
      split
      · rename_i hrole
        have hfree := ((hguard c hc op hop).2 haccept).2 hrole
        rw [SessMap.lookup_stdInsert, if_neg]
        · exact hl
        · intro hid
          rw [hid, hfree] at hl
          cases hl
      · exact hl

theorem registered (h : GuardedRuns P (KeepsRegistration P) role name es e) : e.Registered := by
  refine h.invariant_history (I := fun _ e => e.Registered) ?_ ?_
  · intro s c hc
    simp [init] at hc
  · intro es e ev e' hr ih hs
    obtain ⟨hstep, hguard⟩ := hs
    cases step_step P hstep with
    | accept hrole =>
      intro s c hc hopen hfin
      rcases getElem?_snoc_cases hc with ⟨_, rfl⟩ | hold
      · exact absurd (hfin hrole) (by simp [acceptSession, Conn.start, Conn.finishes, Conn.perform,
          receiveHandshake])
      · exact ih s c hold hopen hfin
    | @doConnect id pri dctx ectx hrole =>
      have hfree : e.sessMap.lookup id = none := hguard
      intro s c hc hopen hfin
      rw [SessMap.lookup_stdInsert]
      rcases getElem?_snoc_cases hc with ⟨rfl, rfl⟩ | hold
      · have hid : (e.connectSession P id pri dctx ectx).sess.id = id := rfl
        rw [if_pos hid, hfree]
        rfl
      · have hl := ih s c hold hopen hfin
        rw [if_neg]
        · exact hl
        · intro hid
          rw [hid, hfree] at hl
          cases hl
    | socket hc hconn => exact ih.update hr hc hconn hguard
    | @sendTextMsg id text s _ =>
      intro t c' hc' hopen hfin
      rcases getElem?_modify_cases hc' with ⟨_, c, hc, rfl⟩ | ⟨_, hold⟩
      · exact ih t c hc hopen hfin
      · exact ih t c' hold hopen hfin
    | close hrole =>
      intro s c hc hopen hfin
      obtain ⟨hold, hne⟩ := open_of_foldl_closeSession e.sessMap.entries hc hopen
      have hl := ih s c hold hopen (fun hr => by rw [hrole] at hr; cases hr)
      exact absurd rfl (hne ⟨_, s⟩ (AList.mem_lookup_iff.mp hl))
    | _ => exact ih

/-- Whatever follows the end of the handshake either leaves the session open or closes it. -/
def ClosedAfterwards (c : Conn QString Ctx) : Prop :=
  ∀ l₁ l₂ id, c.calls = l₁ ++ .onHandShakeFinished id :: l₂ →
    c.isOpen = true ∨ ∃ id', ClientCall.onClose id' ∈ l₂

omit [DecidableEq QString] in
lemma ClosedAfterwards.append {c c' : Conn QString Ctx} (h : ClosedAfterwards c)
    {calls : List (ClientCall QString)} (hcalls : c'.calls = c.calls ++ calls)
    (hnone : ∀ call ∈ calls, ClientCall.isFinished call = false)
    (hopen : c.isOpen = true → c'.isOpen = true ∨ ∃ id, ClientCall.onClose id ∈ calls) :
    ClosedAfterwards c' := by
  intro l₁ l₂ id heq
  rw [hcalls] at heq
  rcases List.append_eq_append_iff.mp heq with ⟨as, _, has⟩ | ⟨bs, hbs, heq'⟩
  · have hmem : ClientCall.onHandShakeFinished id ∈ calls := by simp [has]
    exact absurd (hnone _ hmem) (by simp [ClientCall.isFinished])
  · cases bs with
    | nil =>
      have hmem : ClientCall.onHandShakeFinished id ∈ calls :=
        (List.nil_append calls ▸ heq') ▸ List.mem_cons_self
      exact absurd (hnone _ hmem) (by simp [ClientCall.isFinished])
    | cons b bs =>
      obtain ⟨rfl, rfl⟩ := List.cons.inj heq'
      rcases h l₁ bs id hbs with ho | ⟨id', hclose⟩
      · rcases hopen ho with ho' | ⟨id', hclose⟩
        · exact Or.inl ho'
        · exact Or.inr ⟨id', List.mem_append_right _ hclose⟩
      · exact Or.inr ⟨id', List.mem_append_left _ hclose⟩

lemma closedAfterwards (h : GuardedRuns P (KeepsRegistration P) role name es e) {s : ℕ}
    {c : Conn QString Ctx} (hc : e.sessions[s]? = some c) : ClosedAfterwards c := by
  have hrule : SessionRule P (KeepsRegistration P) role name (fun _ _ c => ClosedAfterwards c) :=
    { mono := fun _ _ _ _ h => h
      accept := fun _ _ _ _ _ _ _ => by
        intro l₁ l₂ id heq
        simp [acceptSession, Conn.start, Conn.perform, receiveHandshake] at heq
      connect := fun _ _ _ _ _ _ _ _ _ => by
        intro l₁ l₂ id heq
        simp [connectSession, Conn.start] at heq
      step := ?_
      closed := fun _ _ c h =>
        h.append rfl (by simp [ClientCall.isFinished])
          (fun _ => Or.inr ⟨_, List.mem_singleton.mpr rfl⟩)
      encrypt := fun _ _ _ _ _ _ _ _ _ _ h => h }
  · exact hrule.holds P h s c hc
  · intro es e s c ev c' effs hr hc hconn hguard _ h
    cases hconn.map P e.role s e.sessMap with
    | same _ hopen _ hcalls =>
      obtain ⟨calls, hcalls, hnone⟩ := hcalls
      exact h.append hcalls hnone (fun ho => Or.inl (hopen.trans ho))
    | erased _ _ _ _ _ _ hcalls =>
      exact h.append hcalls (by simp [ClientCall.isFinished])
        (fun _ => Or.inr ⟨_, List.mem_singleton.mpr rfl⟩)
    | @inserted i op hev hop haccept _ _ hopen _ _ =>
      subst hev
      intro l₁ l₂ id _
      exact Or.inl (hopen.trans ((hguard c hc op hop).2 haccept).1)

/-- Session `s` has finished its handshake under `id` and has not been closed since, and no session
has finished one under `id` since. -/
def Live (e : Endpoint QString Ctx) (s : ℕ) (id : QString) : Prop :=
  ∃ l₁ l₂, e.signals = l₁ ++ (s, .sigHandshakeFinished id) :: l₂ ∧
    (∀ id', (s, .sigClose id') ∉ l₂) ∧ ∀ s', (s', .sigHandshakeFinished id) ∉ l₂

lemma Live.isOpen (h : GuardedRuns P (KeepsRegistration P) role name es e) {s : ℕ} {id : QString}
    (hlive : e.Live s id) : ∃ c, e.sessions[s]? = some c ∧ c.isOpen = true ∧
      ClientCall.onHandShakeFinished id ∈ c.calls := by
  obtain ⟨l₁, l₂, heq, hclose, _⟩ := hlive
  have hof : e.signalsOf s = (l₁.filter (fun sig => sig.1 = s)).map Prod.snd ++
      .sigHandshakeFinished id :: (l₂.filter (fun sig => sig.1 = s)).map Prod.snd := by
    simp [signalsOf, heq]
  rw [signalsOf_eq P h s] at hof
  cases hc : e.sessions[s]? with
  | none => simp [recorded, hc] at hof
  | some c =>
    rw [recorded_eq hc] at hof
    obtain ⟨calls₁, rest, hcalls, _, hrest⟩ := List.map_eq_append_iff.mp hof
    obtain ⟨call, calls₂, rfl, hsig, hcalls₂⟩ := List.map_eq_cons_iff.mp hrest
    obtain rfl : call = .onHandShakeFinished id := ClientCall.signal_injective hsig
    refine ⟨c, rfl, ?_, by simp [hcalls]⟩
    rcases closedAfterwards h hc calls₁ calls₂ id hcalls with hopen | ⟨id', hmem⟩
    · exact hopen
    · have hmem' : ClientCall.signal (.onClose id') ∈
          (l₂.filter (fun sig => sig.1 = s)).map Prod.snd :=
        hcalls₂ ▸ List.mem_map_of_mem hmem
      simp only [List.mem_map, List.mem_filter, Prod.exists] at hmem'
      obtain ⟨s', sig, ⟨hin, hs'⟩, rfl⟩ := hmem'
      exact absurd (of_decide_eq_true hs' ▸ hin) (hclose id')

/-- As long as every event meets the condition, a text for a peer goes to the live session of that
peer and changes no other session. -/
theorem sendTextMsg_live (h : GuardedRuns P (KeepsRegistration P) role name es e) {s : ℕ}
    {id : QString} (hlive : e.Live s id) (text : QString) :
    ∃ c c', e.sessions[s]? = some c ∧
      c'.writes = c.writes ++
        [⟨none, (c.sess.encryptMsg P (textMsg P text).1 (textMsg P text).2).2⟩] ∧
      e.sendTextMsg P id text = ({ e with sessions := e.sessions.set s c' }, true) := by
  obtain ⟨c, hc, hopen, hcall⟩ := hlive.isOpen h
  have hid : c.sess.id = id := (ordered P h hc).ids id (Or.inl hcall)
  have hl : e.sessMap.lookup id = some s :=
    hid ▸ registered h s c hc hopen (fun _ => c.finishes_pos_iff.mpr ⟨id, hcall⟩)
  refine ⟨c, c.sendText P text, hc, rfl, ?_⟩
  simp only [sendTextMsg, hl, modify_eq_set_of_some hc]

/-- The events of a client that opens session `s` to the peer with key `peer` and finishes the
handshake. -/
def sampleConnection (s : ℕ) (peer : UInt8) : List (Event (List UInt8) ChachaContext) :=
  [.doConnect (sampleKey peer) (sampleKey 3) sampleContext sampleContext, .socket s .connectOk,
    .socket s .connectDone, .socket s (.writeSome 0 165), .socket s (.writeDone 0),
    .socket s (.readSome 0 (sampleHello 2 peer 5).pack), .socket s (.readDone 0)]

/-- A client talks to the peer with key 7, closes, and connects to the peers with the keys 8 and 7.
A text for key 7 goes to the new session of that peer and not to the others. -/
theorem sendTextMsg_live_reconnected :
    ∃ (es : List (Event (List UInt8) ChachaContext)) (e : Endpoint (List UInt8) ChachaContext),
      GuardedRuns samplePrimitives (KeepsRegistration samplePrimitives) .chatClient [] es e ∧
      e.signals.map Prod.fst = [0, 0, 0, 1, 1, 2, 2] ∧
      (e.sendTextMsg samplePrimitives (sampleKey 7) [104, 105]).2 = true ∧
      ∀ s, s ≠ 2 → (e.sendTextMsg samplePrimitives (sampleKey 7) [104, 105]).1.sessions[s]? =
        e.sessions[s]? := by
  let signals : List (ℕ × Signal (List UInt8)) :=
    [(0, .sigConnected (sampleKey 7)), (0, .sigHandshakeFinished (sampleKey 7)),
      (0, .sigClose (sampleKey 7)), (1, .sigConnected (sampleKey 8)),
      (1, .sigHandshakeFinished (sampleKey 8)), (2, .sigConnected (sampleKey 7))]
  obtain ⟨e, hrun, hsignals⟩ := exists_guarded_run_of_exec (Endpoint.step samplePrimitives)
    (KeepsRegistration samplePrimitives)
    (.setEcKey (sampleKey 9) (sampleKey 9) :: sampleConnection 0 7 ++ .close ::
      sampleConnection 1 8 ++ sampleConnection 2 7)
    (fun e => decide (e.signals = signals ++ [(2, .sigHandshakeFinished (sampleKey 7))]))
    (s := Endpoint.init .chatClient []) (by decide +kernel)
  have heq := of_decide_eq_true hsignals
  have hlive : e.Live 2 (sampleKey 7) := ⟨signals, [], heq, by simp, by simp⟩
  obtain ⟨c, c', _, _, hsend⟩ := sendTextMsg_live hrun hlive [104, 105]
  refine ⟨_, e, hrun, by rw [heq]; rfl, by rw [hsend], ?_⟩
  intro s hne
  rw [hsend]
  exact List.getElem?_set_ne hne.symm

/-- The peer with key 7 connects, the connection breaks, and the peer connects again. Session 1 is
live, but a text for the peer changes session 0 and leaves session 1 alone. -/
theorem reconnect_sends_to_dead_session :
    ∃ (es : List (Event (List UInt8) ChachaContext)) (e : Endpoint (List UInt8) ChachaContext)
      (c₀ c₁ : Conn (List UInt8) ChachaContext),
      Runs samplePrimitives .chatServer [] es e ∧ e.Live 1 (sampleKey 7) ∧
      e.sessions[0]? = some c₀ ∧ c₀.errors = [.asyncRead] ∧
      e.sessions[1]? = some c₁ ∧ c₁.isOpen = true ∧ c₁.errors = [] ∧
      (e.sendTextMsg samplePrimitives (sampleKey 7) [104, 105]).1.sessions[1]? = some c₁ ∧
      (e.sendTextMsg samplePrimitives (sampleKey 7) [104, 105]).1.sessions[0]? =
        some (c₀.sendText samplePrimitives [104, 105]) := by
  let test (e : Endpoint (List UInt8) ChachaContext) : Bool :=
    decide (e.signals = [(0, .sigHandshakeFinished (sampleKey 7)),
      (1, .sigHandshakeFinished (sampleKey 7))]) &&
    decide (e.sessMap.lookup (sampleKey 7) = some 0) &&
    (e.sessions[0]?).any (fun c => decide (c.errors = [.asyncRead])) &&
    (e.sessions[1]?).any (fun c => c.isOpen && decide (c.errors = []))
  obtain ⟨e, hrun, hp⟩ := exists_run_of_exec (Endpoint.step samplePrimitives)
    [.updatePeerList [⟨[], sampleKey 7, [], 0⟩],
      .accept (sampleKey 3) sampleContext sampleContext,
      .socket 0 (.readSome 0 (sampleHello 1 7 5).pack), .socket 0 (.readDone 0),
      .socket 0 (.readFail 0), .accept (sampleKey 4) sampleContext sampleContext,
      .socket 1 (.readSome 0 (sampleHello 1 7 6).pack), .socket 1 (.readDone 0)]
    test (s := Endpoint.init .chatServer []) (by decide +kernel)
  simp only [test, Bool.and_eq_true, decide_eq_true_eq] at hp
  obtain ⟨⟨⟨hsignals, hl⟩, h₀⟩, h₁⟩ := hp
  obtain ⟨c₀, hc₀, herr₀⟩ := (Option.any_eq_true _ _).mp h₀
  obtain ⟨c₁, hc₁, h₁⟩ := (Option.any_eq_true _ _).mp h₁
  simp only [Bool.and_eq_true, decide_eq_true_eq] at h₁
  have hsend : e.sendTextMsg samplePrimitives (sampleKey 7) [104, 105] =
      ({ e with sessions := e.sessions.set 0 (c₀.sendText samplePrimitives [104, 105]) }, true) := by
    simp only [sendTextMsg, hl, modify_eq_set_of_some hc₀]
  refine ⟨_, e, c₀, c₁, hrun, ⟨[(0, .sigHandshakeFinished (sampleKey 7))], [], hsignals, by simp,
    by simp⟩, hc₀, of_decide_eq_true herr₀, hc₁, h₁.1, h₁.2, ?_, ?_⟩
  · rw [hsend]
    exact (List.getElem?_set_ne (by omega)).trans hc₁
  · rw [hsend]
    exact getElem?_set_of_some hc₀

end Endpoint

end Enchat
